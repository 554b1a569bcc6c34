import WispersConnect.MembershipLog
import WispersConnect.RosterVerification

/-!
# Honestly built rosters

A roster is honestly built when the builders produced it: two nodes founded it,
then nodes joined or were revoked one addendum at a time, each addendum signed
by the nodes it names over the state it leads to. The changes of an honestly
built roster form a legal membership log, and its node list is that log's
record of who joined and who was revoked.
-/

namespace WispersConnect.RosterChain

open Messages OutcomeMonad Cryptography FirstMatch MachineIntegers
open RosterBuilders RosterVerification MembershipLog

/-- A signature verifies under a key over the computed signing hash of a roster. -/
def SignedOver (C : Crypto) (key : C.VerifyingKey) (roster : Roster) (signature : Bytes) : Prop :=
  ∃ hash, (computeSigningHash C roster : Outcome Empty Bytes)=.ok hash ∧
    verifySignature C key hash signature=.ok ()

/-- An entry is listed under the number, is not revoked and carries the key. -/
def ActiveWithKey (C : Crypto) (roster : Roster) (nodeNumber : Int32) (key : C.VerifyingKey) :
    Prop :=
  ∃ node∈roster.nodes,node.nodeNumber=nodeNumber ∧ node.revoked=false ∧
    C.fromPublicKeyDer node.publicKeySpki=.ok key

/-- The founding roster of two distinct nodes, signed by both. -/
inductive HonestBootstrap (C : Crypto) : Roster→Prop where
  /-- `create_bootstrap_roster` followed by the two signatures. -/
  | intro {payload : ActivationPayload} {newSpki endorserSpki newSignature endorserSignature : Bytes}
      {newKey endorserKey : C.VerifyingKey} {unsigned halfSigned signed : Roster}
      (firstVersion : payload.version=1)
      (distinct : payload.endorserNodeNumber≠payload.newNodeNumber)
      (built : (createBootstrapRoster payload newSpki endorserSpki : Outcome Empty Roster)=.ok unsigned)
      (newDecodes : C.fromPublicKeyDer newSpki=.ok newKey)
      (endorserDecodes : C.fromPublicKeyDer endorserSpki=.ok endorserKey)
      (newSet : (setNewNodeSignature unsigned newSignature : Outcome Empty Roster)=.ok halfSigned)
      (endorserSet : (setEndorserSignature halfSigned endorserSignature : Outcome Empty Roster)=.ok signed)
      (newVerifies : SignedOver C newKey unsigned newSignature)
      (endorserVerifies : SignedOver C endorserKey unsigned endorserSignature) :
      HonestBootstrap C signed

/-- One addendum appended by the builders and signed by the nodes it names. -/
inductive HonestStep (C : Crypto) (base : Roster) : Roster→Prop where
  /-- `add_activation_to_roster` for a number not listed yet, endorsed by an active node. -/
  | activation {payload : ActivationPayload} {newSpki newSignature endorserSignature : Bytes}
      {newKey endorserKey : C.VerifyingKey} {unsigned halfSigned signed : Roster}
      (built : (addActivationToRoster base payload newSpki : Outcome Empty Roster)=.ok unsigned)
      (fresh : ∀ node∈base.nodes,node.nodeNumber≠payload.newNodeNumber)
      (endorserActive : ActiveWithKey C base payload.endorserNodeNumber endorserKey)
      (newDecodes : C.fromPublicKeyDer newSpki=.ok newKey)
      (newSet : (setNewNodeSignature unsigned newSignature : Outcome Empty Roster)=.ok halfSigned)
      (endorserSet : (setEndorserSignature halfSigned endorserSignature : Outcome Empty Roster)=.ok signed)
      (newVerifies : SignedOver C newKey unsigned newSignature)
      (endorserVerifies : SignedOver C endorserKey unsigned endorserSignature) :
      HonestStep C base signed
  /-- `add_revocation_to_roster` of an active node by an active node. -/
  | revocation {payload : RevocationPayload} {revokerSignature : Bytes}
      {revokerKey revokedKey : C.VerifyingKey} {unsigned signed : Roster}
      (built : (addRevocationToRoster base payload : Outcome Empty Roster)=.ok unsigned)
      (revokerActive : ActiveWithKey C base payload.revokerNodeNumber revokerKey)
      (revokedActive : ActiveWithKey C base payload.revokedNodeNumber revokedKey)
      (revokerSet : (setRevokerSignature unsigned revokerSignature : Outcome Empty Roster)=.ok signed)
      (revokerVerifies : SignedOver C revokerKey unsigned revokerSignature) :
      HonestStep C base signed

/-- A founding roster followed by any finite number of honest steps. -/
inductive HonestlyBuilt (C : Crypto) : Roster→Prop where
  /-- The first version. -/
  | bootstrap {roster : Roster} (founded : HonestBootstrap C roster) : HonestlyBuilt C roster
  /-- One version more. -/
  | step {base roster : Roster} (earlier : HonestlyBuilt C base) (next : HonestStep C base roster) :
      HonestlyBuilt C roster

/-- A filled-in activation addendum. -/
def signedActivation (payload : ActivationPayload) (newSignature endorserSignature : Bytes) :
    Addendum := ⟨some (.activation ⟨some payload,newSignature,endorserSignature⟩)⟩

/-- A filled-in revocation addendum. -/
def signedRevocation (payload : RevocationPayload) (revokerSignature : Bytes) : Addendum :=
  ⟨some (.revocation ⟨some payload,revokerSignature⟩)⟩

/-- The founding state with the given addendum. -/
def bootstrapState (payload : ActivationPayload) (newSpki endorserSpki : Bytes)
    (addendum : Addendum) : Roster :=
  ⟨1,[⟨payload.endorserNodeNumber,endorserSpki,false⟩,⟨payload.newNodeNumber,newSpki,false⟩],
    [addendum]⟩

/-- The state after an activation, with the given addendum. -/
def activationState (base : Roster) (payload : ActivationPayload) (newSpki : Bytes)
    (addendum : Addendum) : Roster :=
  ⟨payload.version,base.nodes++[⟨payload.newNodeNumber,newSpki,false⟩],base.addenda++[addendum]⟩

/-- The state after a revocation, with the given addendum. -/
def revocationState (base : Roster) (payload : RevocationPayload) (addendum : Addendum) : Roster :=
  ⟨payload.version,markRevoked base.nodes payload.revokedNodeNumber,base.addenda++[addendum]⟩

section Builders

variable {ε : Type}

/-- A version-1 payload founds a group without panic. -/
theorem createBootstrapRoster_eq {payload : ActivationPayload} (h : payload.version=1)
    (newSpki endorserSpki : Bytes) :
    (createBootstrapRoster payload newSpki endorserSpki : Outcome ε Roster)=
      .ok (bootstrapState payload newSpki endorserSpki (unsignedActivation payload)) := by
  simp [createBootstrapRoster,Outcome.debugAssert,h,bootstrapState]

/-- A payload of the next version extends a roster without panic. -/
theorem addActivationToRoster_eq {base : Roster} {payload : ActivationPayload}
    (h : (addOne base.version : Outcome ε Int64)=.ok payload.version) (newSpki : Bytes) :
    (addActivationToRoster base payload newSpki : Outcome ε Roster)=
      .ok (activationState base payload newSpki (unsignedActivation payload)) := by
  simp [addActivationToRoster,Outcome.debugAssert,h,activationState]

/-- A payload of the next version revokes without panic. -/
theorem addRevocationToRoster_eq {base : Roster} {payload : RevocationPayload}
    (h : (addOne base.version : Outcome ε Int64)=.ok payload.version) :
    (addRevocationToRoster base payload : Outcome ε Roster)=
      .ok (revocationState base payload (unsignedRevocation payload)) := by
  simp [addRevocationToRoster,Outcome.debugAssert,h,revocationState]

end Builders

section Setters

variable {ε : Type} (version : Int64) (nodes : List RosterNode) (addenda : List Addendum)

/-- Filling in the new node's signature of a latest activation never panics. -/
theorem setNewNodeSignature_activation (act : Activation) (signature : Bytes) :
    (setNewNodeSignature ⟨version,nodes,addenda++[⟨some (.activation act)⟩]⟩ signature :
      Outcome ε Roster)=
      .ok ⟨version,nodes,addenda++[⟨some (.activation {act with newNodeSignature := signature})⟩]⟩ := by
  simp [setNewNodeSignature,modifyLatestKind]

/-- Filling in the endorser's signature of a latest activation never panics. -/
theorem setEndorserSignature_activation (act : Activation) (signature : Bytes) :
    (setEndorserSignature ⟨version,nodes,addenda++[⟨some (.activation act)⟩]⟩ signature :
      Outcome ε Roster)=
      .ok ⟨version,nodes,addenda++[⟨some (.activation {act with endorserSignature := signature})⟩]⟩ := by
  simp [setEndorserSignature,modifyLatestKind]

/-- Filling in the signature of a latest revocation never panics. -/
theorem setRevokerSignature_revocation (rev : Revocation) (signature : Bytes) :
    (setRevokerSignature ⟨version,nodes,addenda++[⟨some (.revocation rev)⟩]⟩ signature :
      Outcome ε Roster)=
      .ok ⟨version,nodes,addenda++[⟨some (.revocation {rev with revokerSignature := signature})⟩]⟩ := by
  simp [setRevokerSignature,modifyLatestKind]

/-- A freshly appended activation meets the precondition of the signing hash. -/
theorem computeSigningHash_unsignedActivation (C : Crypto) (payload : ActivationPayload) :
    (computeSigningHash C ⟨version,nodes,addenda++[unsignedActivation payload]⟩ : Outcome ε Bytes)=
      .ok (signingHash C ⟨version,nodes,addenda++[unsignedActivation payload]⟩) := by
  simp [computeSigningHash,latestAddendumSignaturesAreEmpty,unsignedActivation,Outcome.debugAssert]

/-- A freshly appended revocation meets the precondition of the signing hash. -/
theorem computeSigningHash_unsignedRevocation (C : Crypto) (payload : RevocationPayload) :
    (computeSigningHash C ⟨version,nodes,addenda++[unsignedRevocation payload]⟩ : Outcome ε Bytes)=
      .ok (signingHash C ⟨version,nodes,addenda++[unsignedRevocation payload]⟩) := by
  simp [computeSigningHash,latestAddendumSignaturesAreEmpty,unsignedRevocation,Outcome.debugAssert]

end Setters

/-- What a founding consists of, with the builders evaluated. -/
structure BootstrapFacts (C : Crypto) (payload : ActivationPayload)
    (newSpki endorserSpki newSignature endorserSignature : Bytes)
    (newKey endorserKey : C.VerifyingKey) : Prop where
  /-- The payload names version 1. -/
  firstVersion : payload.version=1
  /-- No node endorses itself. -/
  distinct : payload.endorserNodeNumber≠payload.newNodeNumber
  /-- The new node's listed key. -/
  newDecodes : C.fromPublicKeyDer newSpki=.ok newKey
  /-- The endorser's listed key. -/
  endorserDecodes : C.fromPublicKeyDer endorserSpki=.ok endorserKey
  /-- The new node signed the unsigned state. -/
  newVerifies : verifySignature C newKey
    (signingHash C (bootstrapState payload newSpki endorserSpki (unsignedActivation payload)))
    newSignature=.ok ()
  /-- The endorser signed the unsigned state. -/
  endorserVerifies : verifySignature C endorserKey
    (signingHash C (bootstrapState payload newSpki endorserSpki (unsignedActivation payload)))
    endorserSignature=.ok ()

/-- What an activation consists of, with the builders evaluated. -/
structure ActivationFacts (C : Crypto) (base : Roster) (payload : ActivationPayload)
    (newSpki newSignature endorserSignature : Bytes) (newKey endorserKey : C.VerifyingKey) :
    Prop where
  /-- The payload names the next version, without overflow. -/
  nextVersion : (addOne base.version : Outcome Empty Int64)=.ok payload.version
  /-- The number was never used. -/
  fresh : ∀ node∈base.nodes,node.nodeNumber≠payload.newNodeNumber
  /-- The endorser is active under its key. -/
  endorserActive : ActiveWithKey C base payload.endorserNodeNumber endorserKey
  /-- The new node's listed key. -/
  newDecodes : C.fromPublicKeyDer newSpki=.ok newKey
  /-- The new node signed the unsigned state. -/
  newVerifies : verifySignature C newKey
    (signingHash C (activationState base payload newSpki (unsignedActivation payload)))
    newSignature=.ok ()
  /-- The endorser signed the unsigned state. -/
  endorserVerifies : verifySignature C endorserKey
    (signingHash C (activationState base payload newSpki (unsignedActivation payload)))
    endorserSignature=.ok ()

/-- What a revocation consists of, with the builders evaluated. -/
structure RevocationFacts (C : Crypto) (base : Roster) (payload : RevocationPayload)
    (revokerSignature : Bytes) (revokerKey revokedKey : C.VerifyingKey) : Prop where
  /-- The payload names the next version, without overflow. -/
  nextVersion : (addOne base.version : Outcome Empty Int64)=.ok payload.version
  /-- The revoker is active under its key. -/
  revokerActive : ActiveWithKey C base payload.revokerNodeNumber revokerKey
  /-- The revoked node is active. -/
  revokedActive : ActiveWithKey C base payload.revokedNodeNumber revokedKey
  /-- The revoker signed the unsigned state. -/
  revokerVerifies : verifySignature C revokerKey
    (signingHash C (revocationState base payload (unsignedRevocation payload)))
    revokerSignature=.ok ()

/-- Hashing an unsigned activation over any base reads the plain signing hash. -/
theorem signedOver_activation {C : Crypto} {key : C.VerifyingKey} {version : Int64}
    {nodes : List RosterNode} {addenda : List Addendum} {payload : ActivationPayload}
    {signature : Bytes} :
    SignedOver C key ⟨version,nodes,addenda++[unsignedActivation payload]⟩ signature ↔
      verifySignature C key
        (signingHash C ⟨version,nodes,addenda++[unsignedActivation payload]⟩) signature=.ok () := by
  simp only [SignedOver,computeSigningHash_unsignedActivation,Outcome.ok.injEq,exists_eq_left']

/-- Hashing an unsigned founding state reads the plain signing hash. -/
theorem signedOver_bootstrap {C : Crypto} {key : C.VerifyingKey} {payload : ActivationPayload}
    {newSpki endorserSpki signature : Bytes} :
    SignedOver C key (bootstrapState payload newSpki endorserSpki (unsignedActivation payload))
      signature ↔
      verifySignature C key
        (signingHash C (bootstrapState payload newSpki endorserSpki (unsignedActivation payload)))
        signature=.ok () :=
  @signedOver_activation C key 1 _ [] payload signature

/-- Hashing an unsigned revocation over any base reads the plain signing hash. -/
theorem signedOver_revocation {C : Crypto} {key : C.VerifyingKey} {version : Int64}
    {nodes : List RosterNode} {addenda : List Addendum} {payload : RevocationPayload}
    {signature : Bytes} :
    SignedOver C key ⟨version,nodes,addenda++[unsignedRevocation payload]⟩ signature ↔
      verifySignature C key
        (signingHash C ⟨version,nodes,addenda++[unsignedRevocation payload]⟩) signature=.ok () := by
  simp only [SignedOver,computeSigningHash_unsignedRevocation,Outcome.ok.injEq,exists_eq_left']

/-- A founding roster is the founding state of its facts, with both signatures filled in. -/
theorem honestBootstrap_iff (C : Crypto) (roster : Roster) :
    HonestBootstrap C roster ↔ ∃ payload newSpki endorserSpki newSignature endorserSignature
      newKey endorserKey,
      BootstrapFacts C payload newSpki endorserSpki newSignature endorserSignature newKey
        endorserKey ∧
      roster=bootstrapState payload newSpki endorserSpki
        (signedActivation payload newSignature endorserSignature) := by
  constructor
  · rintro ⟨firstVersion,distinct,built,newDecodes,endorserDecodes,newSet,endorserSet,
      newVerifies,endorserVerifies⟩
    simp only [createBootstrapRoster,Outcome.bind_eq_ok,Outcome.debugAssert_eq_ok,
      Outcome.pure_eq_ok,Outcome.ok.injEq] at built
    obtain ⟨_,_,rfl⟩ := built
    have hn := (setNewNodeSignature_activation _ _ [] _ _).symm.trans newSet
    cases hn
    have he := (setEndorserSignature_activation _ _ [] _ _).symm.trans endorserSet
    cases he
    exact ⟨_,_,_,_,_,_,_,⟨firstVersion,distinct,newDecodes,endorserDecodes,
      signedOver_bootstrap.mp newVerifies,
      signedOver_bootstrap.mp endorserVerifies⟩,rfl⟩
  · rintro ⟨payload,newSpki,endorserSpki,newSignature,endorserSignature,newKey,endorserKey,facts,rfl⟩
    exact ⟨facts.firstVersion,facts.distinct,createBootstrapRoster_eq facts.firstVersion _ _,
      facts.newDecodes,facts.endorserDecodes,
      setNewNodeSignature_activation _ _ [] _ _,setEndorserSignature_activation _ _ [] _ _,
      signedOver_bootstrap.mpr facts.newVerifies,
      signedOver_bootstrap.mpr facts.endorserVerifies⟩

/-- An honest step leads to the state of its facts, with its signatures filled in. -/
theorem honestStep_iff (C : Crypto) (base roster : Roster) :
    HonestStep C base roster ↔
      (∃ payload newSpki newSignature endorserSignature newKey endorserKey,
        ActivationFacts C base payload newSpki newSignature endorserSignature newKey endorserKey ∧
        roster=activationState base payload newSpki
          (signedActivation payload newSignature endorserSignature)) ∨
      (∃ payload revokerSignature revokerKey revokedKey,
        RevocationFacts C base payload revokerSignature revokerKey revokedKey ∧
        roster=revocationState base payload (signedRevocation payload revokerSignature)) := by
  constructor
  · intro h
    cases h with
    | activation built fresh endorserActive newDecodes newSet endorserSet newVerifies
        endorserVerifies =>
      simp only [addActivationToRoster,Outcome.bind_eq_ok,Outcome.debugAssert_eq_ok,
        Outcome.pure_eq_ok,Outcome.ok.injEq] at built
      obtain ⟨_,hnext,_,rfl,rfl⟩ := built
      have hn := (setNewNodeSignature_activation _ _ _ _ _).symm.trans newSet
      cases hn
      have he := (setEndorserSignature_activation _ _ _ _ _).symm.trans endorserSet
      cases he
      exact Or.inl ⟨_,_,_,_,_,_,⟨hnext,fresh,endorserActive,newDecodes,
        signedOver_activation.mp newVerifies,signedOver_activation.mp endorserVerifies⟩,rfl⟩
    | revocation built revokerActive revokedActive revokerSet revokerVerifies =>
      simp only [addRevocationToRoster,Outcome.bind_eq_ok,Outcome.debugAssert_eq_ok,
        Outcome.pure_eq_ok,Outcome.ok.injEq] at built
      obtain ⟨_,hnext,_,rfl,rfl⟩ := built
      have hr := (setRevokerSignature_revocation _ _ _ _ _).symm.trans revokerSet
      cases hr
      exact Or.inr ⟨_,_,_,_,⟨hnext,revokerActive,revokedActive,
        signedOver_revocation.mp revokerVerifies⟩,rfl⟩
  · rintro (⟨payload,newSpki,newSignature,endorserSignature,newKey,endorserKey,facts,rfl⟩|
      ⟨payload,revokerSignature,revokerKey,revokedKey,facts,rfl⟩)
    · exact .activation (addActivationToRoster_eq facts.nextVersion _) facts.fresh facts.endorserActive facts.newDecodes
        (setNewNodeSignature_activation _ _ _ _ _) (setEndorserSignature_activation _ _ _ _ _)
        (signedOver_activation.mpr facts.newVerifies)
        (signedOver_activation.mpr facts.endorserVerifies)
    · exact .revocation (addRevocationToRoster_eq facts.nextVersion) facts.revokerActive facts.revokedActive
        (setRevokerSignature_revocation _ _ _ _ _) (signedOver_revocation.mpr facts.revokerVerifies)

/-- The membership change an addendum records. -/
def addendumEvent (addendum : Addendum) : Option (Event Int32) :=
  match addendum.kind with
  | some (.activation ⟨some payload,_,_⟩) =>
    if payload.version=1 then some (.found payload.endorserNodeNumber payload.newNodeNumber)
    else some (.enroll payload.endorserNodeNumber payload.newNodeNumber)
  | some (.revocation ⟨some payload,_⟩) =>
    some (.expel payload.revokerNodeNumber payload.revokedNodeNumber)
  | _ => none

/-- The membership log that a list of addenda records. -/
def events (addenda : List Addendum) : List (Event Int32) := addenda.filterMap addendumEvent

@[simp] theorem events_append (xs ys : List Addendum) : events (xs++ys)=events xs++events ys :=
  List.filterMap_append

/-- What holds of every honestly built roster. -/
structure ChainInvariant (C : Crypto) (roster : Roster) : Prop where
  /-- At least the founding addendum is there. -/
  nonempty : 0<roster.addenda.length
  /-- The addenda can be counted in an `i64`. -/
  short : roster.addenda.length<2^63
  /-- The version counts the addenda. -/
  version : roster.version=asI64 roster.addenda.length
  /-- Every change was permitted when it happened. -/
  legal : Legal (events roster.addenda)
  /-- The node list is the list of joined numbers. -/
  numbers : roster.nodes.map RosterNode.nodeNumber=joined (events roster.addenda)
  /-- The revoked flags are those of the expelled numbers. -/
  flags : ∀ node∈roster.nodes,
    node.revoked=true ↔ node.nodeNumber∈expelled (events roster.addenda)
  /-- Every listed key decodes. -/
  keys : ∀ node∈roster.nodes,∃ key,C.fromPublicKeyDer node.publicKeySpki=.ok key

/-- Node numbers of an honestly built roster are pairwise distinct. -/
theorem ChainInvariant.distinct {C : Crypto} {roster : Roster} (h : ChainInvariant C roster) :
    (roster.nodes.map RosterNode.nodeNumber).Nodup := h.numbers ▸ h.legal.joined_nodup

/-- Entries of an honestly built roster with the same number are the same. -/
theorem ChainInvariant.entry_unique {C : Crypto} {roster : Roster} (h : ChainInvariant C roster)
    {node other : RosterNode} (hm : node∈roster.nodes) (ho : other∈roster.nodes)
    (hn : node.nodeNumber=other.nodeNumber) : node=other :=
  List.inj_on_of_nodup_map h.distinct hm ho hn

/-- An active entry belongs to an active member of the log. -/
theorem ChainInvariant.active {C : Crypto} {roster : Roster} (h : ChainInvariant C roster)
    {nodeNumber : Int32} {key : C.VerifyingKey} (ha : ActiveWithKey C roster nodeNumber key) :
    Active (events roster.addenda) nodeNumber := by
  obtain ⟨node,hm,rfl,hr,_⟩ := ha
  refine ⟨h.numbers ▸ List.mem_map_of_mem hm,fun he => ?_⟩
  rw [(h.flags node hm).mpr he] at hr
  cases hr

/-- The version after an honest one counts one addendum more and is not the first. -/
theorem ChainInvariant.next {C : Crypto} {roster : Roster} (h : ChainInvariant C roster)
    {version : Int64} (hv : (addOne roster.version : Outcome Empty Int64)=.ok version) :
    roster.addenda.length+1<2^63 ∧ version=asI64 (roster.addenda.length+1) ∧ version≠1 := by
  rw [h.version,addOne_asI64 h.short] at hv
  refine ⟨hv.1,hv.2,fun h1 => ?_⟩
  have hp := h.nonempty
  have he := (asI64_inj hv.1 (by omega : 1<2^63)).mp (hv.2.symm.trans h1)
  omega

theorem events_signedActivation_first {payload : ActivationPayload} (h : payload.version=1)
    (newSignature endorserSignature : Bytes) :
    events [signedActivation payload newSignature endorserSignature]=
      [.found payload.endorserNodeNumber payload.newNodeNumber] := by
  simp [events,addendumEvent,signedActivation,h]

theorem events_signedActivation {payload : ActivationPayload} (h : payload.version≠1)
    (newSignature endorserSignature : Bytes) :
    events [signedActivation payload newSignature endorserSignature]=
      [.enroll payload.endorserNodeNumber payload.newNodeNumber] := by
  simp [events,addendumEvent,signedActivation,h]

theorem events_signedRevocation (payload : RevocationPayload) (revokerSignature : Bytes) :
    events [signedRevocation payload revokerSignature]=
      [.expel payload.revokerNodeNumber payload.revokedNodeNumber] := rfl

/-- Turning on one flag keeps every number. -/
theorem markRevoked_numbers (nodes : List RosterNode) (nodeNumber : Int32) :
    (markRevoked nodes nodeNumber).map RosterNode.nodeNumber=nodes.map RosterNode.nodeNumber :=
  map_key_updateFirst RosterNode.nodeNumber (f:=fun n => {n with revoked := true}) (fun _ => rfl)
    nodeNumber nodes

/-- Where numbers are distinct, marking one node revoked maps over the list. -/
theorem markRevoked_eq_map {nodes : List RosterNode}
    (hd : (nodes.map RosterNode.nodeNumber).Nodup) (nodeNumber : Int32) :
    markRevoked nodes nodeNumber=
      nodes.map fun n => if n.nodeNumber=nodeNumber then {n with revoked := true} else n :=
  updateFirst_eq_map RosterNode.nodeNumber hd _ nodeNumber

/-- An entry after a revocation is the old entry with the flag on for the revoked number. -/
theorem mem_markRevoked {nodes : List RosterNode} (hd : (nodes.map RosterNode.nodeNumber).Nodup)
    {nodeNumber : Int32} {node : RosterNode} :
    node∈markRevoked nodes nodeNumber ↔
      ∃ old∈nodes,node=⟨old.nodeNumber,old.publicKeySpki,
        old.revoked || decide (old.nodeNumber=nodeNumber)⟩ := by
  rw [markRevoked_eq_map hd,List.mem_map]
  refine exists_congr fun old => and_congr_right fun _ => ?_
  by_cases he : old.nodeNumber=nodeNumber
  · simp [he,eq_comm]
  · simp [he,eq_comm]

/-- Two distinct founding nodes satisfy the invariant. -/
theorem BootstrapFacts.invariant {C : Crypto} {payload : ActivationPayload}
    {newSpki endorserSpki newSignature endorserSignature : Bytes}
    {newKey endorserKey : C.VerifyingKey}
    (facts : BootstrapFacts C payload newSpki endorserSpki newSignature endorserSignature newKey
      endorserKey) :
    ChainInvariant C (bootstrapState payload newSpki endorserSpki
      (signedActivation payload newSignature endorserSignature)) := by
  have he := events_signedActivation_first facts.firstVersion newSignature endorserSignature
  constructor
  case nonempty => simp [bootstrapState]
  case short => simp [bootstrapState]
  case version => rfl
  case legal => exact he ▸ Legal.found facts.distinct
  case numbers => simp [bootstrapState,he,joined,Event.joined]
  case flags => simp [bootstrapState,he,expelled,Event.expelled]
  case keys =>
    intro node hn
    simp only [bootstrapState,List.mem_cons,List.not_mem_nil,or_false] at hn
    rcases hn with rfl|rfl
    · exact ⟨endorserKey,facts.endorserDecodes⟩
    · exact ⟨newKey,facts.newDecodes⟩

/-- An activation preserves the invariant. -/
theorem ActivationFacts.invariant {C : Crypto} {base : Roster} {payload : ActivationPayload}
    {newSpki newSignature endorserSignature : Bytes} {newKey endorserKey : C.VerifyingKey}
    (facts : ActivationFacts C base payload newSpki newSignature endorserSignature newKey
      endorserKey) (h : ChainInvariant C base) :
    ChainInvariant C (activationState base payload newSpki
      (signedActivation payload newSignature endorserSignature)) := by
  obtain ⟨hshort,hversion,hne⟩ := h.next facts.nextVersion
  have he := events_signedActivation hne newSignature endorserSignature
  have hfresh : payload.newNodeNumber∉joined (events base.addenda) := by
    rw [←h.numbers]
    intro hm
    obtain ⟨node,hn,hnum⟩ := List.mem_map.mp hm
    exact facts.fresh node hn hnum
  constructor
  case nonempty => simp [activationState]
  case short => simpa [activationState] using hshort
  case version => simpa [activationState] using hversion
  case legal =>
    simp only [activationState,events_append,he]
    exact h.legal.enroll (h.active facts.endorserActive) hfresh
  case numbers =>
    simp only [activationState,events_append,he,joined_append,joined_singleton,List.map_append,
      h.numbers]
    rfl
  case flags =>
    intro node hn
    simp only [activationState,events_append,he,expelled_append,expelled_singleton,Event.expelled,
      List.append_nil]
    rcases List.mem_append.mp hn with hn|hn
    · exact h.flags node hn
    · rw [List.mem_singleton.mp hn]
      simp only [Bool.false_eq_true,false_iff]
      exact fun hx => hfresh (h.legal.expelled_subset hx)
  case keys =>
    intro node hn
    rcases List.mem_append.mp hn with hn|hn
    · exact h.keys node hn
    · rw [List.mem_singleton.mp hn]
      exact ⟨newKey,facts.newDecodes⟩

/-- A revocation preserves the invariant. -/
theorem RevocationFacts.invariant {C : Crypto} {base : Roster} {payload : RevocationPayload}
    {revokerSignature : Bytes} {revokerKey revokedKey : C.VerifyingKey}
    (facts : RevocationFacts C base payload revokerSignature revokerKey revokedKey)
    (h : ChainInvariant C base) :
    ChainInvariant C (revocationState base payload (signedRevocation payload revokerSignature)) := by
  obtain ⟨hshort,hversion,_⟩ := h.next facts.nextVersion
  have he := events_signedRevocation payload revokerSignature
  constructor
  case nonempty => simp [revocationState]
  case short => simpa [revocationState] using hshort
  case version => simpa [revocationState] using hversion
  case legal =>
    simp only [revocationState,events_append,he]
    exact h.legal.expel (h.active facts.revokerActive) (h.active facts.revokedActive)
  case numbers =>
    simp only [revocationState,events_append,he,joined_append,joined_singleton,Event.joined,
      List.append_nil,markRevoked_numbers,h.numbers]
  case flags =>
    intro node hn
    obtain ⟨old,ho,rfl⟩ := (mem_markRevoked h.distinct).mp hn
    simp only [revocationState,events_append,he,expelled_append,expelled_singleton,Event.expelled,
      List.mem_append,List.mem_singleton,Bool.or_eq_true,decide_eq_true_eq,h.flags old ho]
  case keys =>
    intro node hn
    obtain ⟨old,ho,rfl⟩ := (mem_markRevoked h.distinct).mp hn
    exact h.keys old ho

/-- Every honestly built roster satisfies the invariant. -/
theorem HonestlyBuilt.invariant {C : Crypto} {roster : Roster} (h : HonestlyBuilt C roster) :
    ChainInvariant C roster := by
  induction h with
  | bootstrap founded =>
    obtain ⟨_,_,_,_,_,_,_,facts,rfl⟩ := (honestBootstrap_iff C _).mp founded
    exact facts.invariant
  | step _ next ih =>
    rcases (honestStep_iff C _ _).mp next with ⟨_,_,_,_,_,_,facts,rfl⟩|⟨_,_,_,_,facts,rfl⟩
    · exact facts.invariant ih
    · exact facts.invariant ih

end WispersConnect.RosterChain
