import WispersConnect.RosterChain

/-!
# Earlier states of a roster

A roster carries its whole history: the state after its first addenda is
rebuilt from the current node list by keeping the entries those addenda
introduced and setting the revoked flags they set. On honestly built rosters
this gives back each state that was really passed through, and every node's
own signature over the state that introduced it is still stored.
-/

namespace WispersConnect.RosterHistory

open Messages OutcomeMonad Cryptography FirstMatch MachineIntegers
open RosterBuilders RosterVerification RosterChain MembershipLog

/-- The entries a log introduced, flagged as the log revoked them. -/
def nodesAt (log : List (Event Int32)) (nodes : List RosterNode) : List RosterNode :=
  (nodes.filter fun n => n.nodeNumber∈joined log).map fun n =>
    {n with revoked := decide (n.nodeNumber∈expelled log)}

/-- The roster as of its first `k` addenda. -/
def historyAt (roster : Roster) (k : ℕ) : Roster :=
  ⟨asI64 k,nodesAt (events (roster.addenda.take k)) roster.nodes,roster.addenda.take k⟩

/-- What an entry keeps through its life: its number and its key. -/
def identity (node : RosterNode) : Int32×Bytes := (node.nodeNumber,node.publicKeySpki)

/-- The entries at a point of the history depend on identities only. -/
theorem nodesAt_congr {nodes nodes' : List RosterNode}
    (h : nodes.map identity=nodes'.map identity) (log : List (Event Int32)) :
    nodesAt log nodes=nodesAt log nodes' := by
  have hfactor : ∀ xs : List RosterNode,nodesAt log xs=
      ((xs.map identity).filter fun p => p.1∈joined log).map fun p =>
        ⟨p.1,p.2,decide (p.1∈expelled log)⟩ := by
    intro xs
    rw [List.filter_map,List.map_map]
    rfl
  rw [hfactor,hfactor,h]

/-- Marking a node revoked keeps every identity. -/
theorem markRevoked_identity (nodes : List RosterNode) (nodeNumber : Int32) :
    (markRevoked nodes nodeNumber).map identity=nodes.map identity := by
  induction nodes with
  | nil => rfl
  | cons node nodes ih =>
    by_cases hn : node.nodeNumber=nodeNumber
    · simp only [markRevoked,updateFirst,if_pos hn,List.map_cons]
      rfl
    · simp only [markRevoked,updateFirst,if_neg hn,List.map_cons] at ih ⊢
      rw [ih]

/-- Every entry is still listed after marking, up to its flag. -/
theorem mem_markRevoked_identity {nodes : List RosterNode} {node : RosterNode}
    (nodeNumber : Int32) (hm : node∈nodes) :
    ∃ node'∈markRevoked nodes nodeNumber,identity node'=identity node := by
  have hmap : identity node∈(markRevoked nodes nodeNumber).map identity := by
    rw [markRevoked_identity]
    exact List.mem_map_of_mem hm
  exact List.mem_map.mp hmap

/-- The latest state of the history is the roster itself. -/
theorem historyAt_length {C : Crypto} {roster : Roster} (h : ChainInvariant C roster) :
    historyAt roster roster.addenda.length=roster := by
  have hall : (roster.nodes.filter fun n => n.nodeNumber∈joined (events roster.addenda))=
      roster.nodes := by
    refine List.filter_eq_self.mpr fun node hm => ?_
    rw [decide_eq_true_eq,←h.numbers]
    exact List.mem_map_of_mem hm
  have hnodes : nodesAt (events roster.addenda) roster.nodes=roster.nodes := by
    rw [nodesAt,hall]
    refine (List.map_congr_left fun node hm => ?_).trans (List.map_id roster.nodes)
    have hflag : decide (node.nodeNumber∈expelled (events roster.addenda))=node.revoked := by
      rw [Bool.eq_iff_iff,decide_eq_true_eq]
      exact (h.flags node hm).symm
    rw [hflag]
    rfl
  rw [historyAt,List.take_length,hnodes,←h.version]

/-- Numbers introduced by the first addenda were introduced by all of them. -/
theorem joined_take_subset (addenda : List Addendum) (k : ℕ) :
    joined (events (addenda.take k))⊆joined (events addenda) := by
  intro x hx
  have hsplit : joined (events addenda)=
      joined (events (addenda.take k))++joined (events (addenda.drop k)) := by
    rw [←joined_append,←events_append,List.take_append_drop]
  rw [hsplit]
  exact List.mem_append_left _ hx

/-- An entry of an earlier state is an entry now, up to its flag. -/
theorem mem_nodesAt {log : List (Event Int32)} {nodes : List RosterNode} {node : RosterNode}
    (h : node∈nodesAt log nodes) : ∃ entry∈nodes,identity entry=identity node := by
  obtain ⟨entry,hm,rfl⟩ := List.mem_map.mp h
  exact ⟨entry,List.mem_of_mem_filter hm,rfl⟩

/-- A step leaves every earlier state as it was. -/
theorem historyAt_step {C : Crypto} {base roster : Roster} (h : ChainInvariant C base)
    (next : HonestStep C base roster) {k : ℕ} (hk : k≤base.addenda.length) :
    historyAt roster k=historyAt base k := by
  rcases (honestStep_iff C _ _).mp next with
    ⟨payload,newSpki,newSignature,endorserSignature,newKey,endorserKey,facts,rfl⟩|
    ⟨payload,revokerSignature,revokerKey,revokedKey,facts,rfl⟩
  · have hnew : payload.newNodeNumber∉joined (events (base.addenda.take k)) := by
      intro hj
      have hall := joined_take_subset base.addenda k hj
      rw [←h.numbers] at hall
      obtain ⟨node,hm,hn⟩ := List.mem_map.mp hall
      exact facts.fresh node hm hn
    have hnodes : nodesAt (events (base.addenda.take k))
        (base.nodes++[⟨payload.newNodeNumber,newSpki,false⟩])=
        nodesAt (events (base.addenda.take k)) base.nodes := by
      simp only [nodesAt,List.filter_append,List.filter_singleton,hnew,decide_false,cond_false,
        List.append_nil]
    simp only [historyAt,activationState,List.take_append_of_le_length hk,hnodes]
  · have hnodes := nodesAt_congr (markRevoked_identity base.nodes payload.revokedNodeNumber)
      (events (base.addenda.take k))
    simp only [historyAt,revocationState,List.take_append_of_le_length hk,hnodes]

/-- A step appends exactly one addendum. -/
theorem HonestStep.addenda_length {C : Crypto} {base roster : Roster}
    (next : HonestStep C base roster) : roster.addenda.length=base.addenda.length+1 := by
  rcases (honestStep_iff C _ _).mp next with ⟨_,_,_,_,_,_,_,rfl⟩|⟨_,_,_,_,_,rfl⟩
  · simp only [activationState,List.length_append,List.length_singleton]
  · simp only [revocationState,List.length_append,List.length_singleton]

/-- A founding has exactly one addendum. -/
theorem HonestBootstrap.addenda_length {C : Crypto} {roster : Roster}
    (founded : HonestBootstrap C roster) : roster.addenda.length=1 := by
  obtain ⟨_,_,_,_,_,_,_,_,rfl⟩ := (honestBootstrap_iff C _).mp founded
  rfl

/-- The only state of a founded roster is the roster. -/
theorem HonestBootstrap.historyAt_latest {C : Crypto} {roster : Roster}
    (founded : HonestBootstrap C roster) : historyAt roster (0+1)=roster := by
  have hlast := historyAt_length (HonestlyBuilt.bootstrap founded).invariant
  rwa [HonestBootstrap.addenda_length founded] at hlast

/-- The state after a step is the roster it leads to. -/
theorem HonestStep.historyAt_latest {C : Crypto} {base roster : Roster}
    (earlier : HonestlyBuilt C base) (next : HonestStep C base roster) :
    historyAt roster (base.addenda.length+1)=roster := by
  have hlast := historyAt_length (HonestlyBuilt.step earlier next).invariant
  rwa [HonestStep.addenda_length next] at hlast

/-- Every nonempty initial part of an honest history is honest. -/
theorem historyAt_honestlyBuilt {C : Crypto} {roster : Roster} (h : HonestlyBuilt C roster)
    {k : ℕ} (hpos : 1≤k) (hk : k≤roster.addenda.length) :
    HonestlyBuilt C (historyAt roster k) := by
  induction h with
  | @bootstrap roster founded =>
    have hlen := HonestBootstrap.addenda_length founded
    have he : k=roster.addenda.length := by omega
    have hbuilt := HonestlyBuilt.bootstrap founded
    rw [he,historyAt_length hbuilt.invariant]
    exact hbuilt
  | @step base roster earlier next ih =>
    have hlen := HonestStep.addenda_length next
    by_cases hlast : k=roster.addenda.length
    · have hbuilt := HonestlyBuilt.step earlier next
      rw [hlast,historyAt_length hbuilt.invariant]
      exact hbuilt
    · have hle : k≤base.addenda.length := by omega
      rw [historyAt_step earlier.invariant next hle]
      exact ih hle

/-- The history of an earlier state is the earlier history. -/
theorem historyAt_historyAt {C : Crypto} {roster : Roster} (h : HonestlyBuilt C roster)
    {j k : ℕ} (hpos : 1≤k) (hj : j≤k) (hk : k≤roster.addenda.length) :
    historyAt (historyAt roster k) j=historyAt roster j := by
  induction h with
  | @bootstrap roster founded =>
    have hlen := HonestBootstrap.addenda_length founded
    have he : k=roster.addenda.length := by omega
    rw [he,historyAt_length (HonestlyBuilt.bootstrap founded).invariant]
  | @step base roster earlier next ih =>
    have hlen := HonestStep.addenda_length next
    by_cases hlast : k=roster.addenda.length
    · rw [hlast,historyAt_length (HonestlyBuilt.step earlier next).invariant]
    · have hle : k≤base.addenda.length := by omega
      have hle' : j≤base.addenda.length := by omega
      rw [historyAt_step earlier.invariant next hle,historyAt_step earlier.invariant next hle']
      exact ih hle

/-- Clearing touches the last addendum only. -/
theorem clearLatest_concat (version : Int64) (nodes : List RosterNode) (addenda : List Addendum)
    (last : Addendum) :
    clearLatestAddendumSignatures ⟨version,nodes,addenda++[last]⟩=
      ⟨version,nodes,addenda++[Addendum.clearSignatures last]⟩ := by
  simp [clearLatestAddendumSignatures]

/-- Clearing signatures keeps the node list. -/
theorem clearLatest_nodes (roster : Roster) :
    (clearLatestAddendumSignatures roster).nodes=roster.nodes := by
  unfold clearLatestAddendumSignatures
  split <;> rfl

/-- Clearing signatures keeps the version. -/
theorem clearLatest_version (roster : Roster) :
    (clearLatestAddendumSignatures roster).version=roster.version := by
  unfold clearLatestAddendumSignatures
  split <;> rfl

/-- Clearing signatures keeps the number of addenda. -/
theorem clearLatest_addenda_length (roster : Roster) :
    (clearLatestAddendumSignatures roster).addenda.length=roster.addenda.length := by
  obtain ⟨version,nodes,addenda⟩ := roster
  rcases List.eq_nil_or_concat' addenda with rfl|⟨earlier,last,rfl⟩
  · rfl
  · rw [clearLatest_concat,List.length_append,List.length_append]
    rfl

/-- Clearing signatures turns a signed activation into the unsigned one. -/
theorem clearLatest_signedActivation (version : Int64) (nodes : List RosterNode)
    (addenda : List Addendum) (payload : ActivationPayload)
    (newSignature endorserSignature : Bytes) :
    clearLatestAddendumSignatures
        ⟨version,nodes,addenda++[signedActivation payload newSignature endorserSignature]⟩=
      ⟨version,nodes,addenda++[unsignedActivation payload]⟩ := clearLatest_concat _ _ _ _

/-- A signature made over a roster once its latest signatures are cleared. -/
def SignedState (C : Crypto) (key : C.VerifyingKey) (roster : Roster) (signature : Bytes) : Prop :=
  SignedOver C key (clearLatestAddendumSignatures roster) signature

/-- Verifying over the cleared state reads the plain signing hash. -/
theorem signedState_iff {C : Crypto} {key : C.VerifyingKey} {roster : Roster} {signature : Bytes} :
    SignedState C key roster signature ↔
      verifySignature C key (signingHash C (clearLatestAddendumSignatures roster)) signature=
        .ok () := by
  simp only [SignedState,SignedOver,computeSigningHash_clearLatest,Outcome.ok.injEq,
    exists_eq_left']

/-- A signature over the signed founding state is one over the unsigned state. -/
theorem signedState_bootstrap {C : Crypto} {key : C.VerifyingKey} {payload : ActivationPayload}
    {newSpki endorserSpki newSignature endorserSignature signature : Bytes} :
    SignedState C key (bootstrapState payload newSpki endorserSpki
        (signedActivation payload newSignature endorserSignature)) signature ↔
      verifySignature C key (signingHash C (bootstrapState payload newSpki endorserSpki
        (unsignedActivation payload))) signature=.ok () := by
  have hclear := clearLatest_signedActivation 1 [⟨payload.endorserNodeNumber,endorserSpki,false⟩,
    ⟨payload.newNodeNumber,newSpki,false⟩] [] payload newSignature endorserSignature
  rw [signedState_iff]
  exact Iff.of_eq (congrArg (fun state => verifySignature C key (signingHash C state) signature=
    .ok ()) hclear)

/-- A signature over a signed activation state is one over the unsigned state. -/
theorem signedState_activation {C : Crypto} {key : C.VerifyingKey} {base : Roster}
    {payload : ActivationPayload} {newSpki newSignature endorserSignature signature : Bytes} :
    SignedState C key (activationState base payload newSpki
        (signedActivation payload newSignature endorserSignature)) signature ↔
      verifySignature C key (signingHash C (activationState base payload newSpki
        (unsignedActivation payload))) signature=.ok () := by
  have hclear := clearLatest_signedActivation payload.version
    (base.nodes++[⟨payload.newNodeNumber,newSpki,false⟩]) base.addenda payload newSignature
    endorserSignature
  rw [signedState_iff]
  exact Iff.of_eq (congrArg (fun state => verifySignature C key (signingHash C state) signature=
    .ok ()) hclear)

/-- A signature over a signed revocation state is one over the unsigned state. -/
theorem signedState_revocation {C : Crypto} {key : C.VerifyingKey} {base : Roster}
    {payload : RevocationPayload} {revokerSignature signature : Bytes} :
    SignedState C key (revocationState base payload (signedRevocation payload revokerSignature))
        signature ↔
      verifySignature C key (signingHash C (revocationState base payload
        (unsignedRevocation payload))) signature=.ok () := by
  have hclear := clearLatest_concat payload.version
    (markRevoked base.nodes payload.revokedNodeNumber) base.addenda
    (signedRevocation payload revokerSignature)
  rw [signedState_iff]
  exact Iff.of_eq (congrArg (fun state => verifySignature C key (signingHash C state) signature=
    .ok ()) hclear)

/-- The signatures an addendum stores, each with the number of its signer. -/
def signerSlots (addendum : Addendum) : List (Int32×Bytes) :=
  match addendum.kind with
  | some (.activation ⟨some payload,newNodeSignature,endorserSignature⟩) =>
    [(payload.newNodeNumber,newNodeSignature),(payload.endorserNodeNumber,endorserSignature)]
  | some (.revocation ⟨some payload,revokerSignature⟩) =>
    [(payload.revokerNodeNumber,revokerSignature)]
  | _ => []

/-- The addendum introduces the number: as its new node, or as the endorser of
the founding one. The signature is the one it stores for that role. -/
inductive Introduces (nodeNumber : Int32) : Addendum→Bytes→Prop where
  /-- The new node of an activation. -/
  | newNode {payload : ActivationPayload} {newSignature endorserSignature : Bytes}
      (number : payload.newNodeNumber=nodeNumber) :
      Introduces nodeNumber ⟨some (.activation ⟨some payload,newSignature,endorserSignature⟩)⟩
        newSignature
  /-- The endorser of the version-1 activation. -/
  | founder {payload : ActivationPayload} {newSignature endorserSignature : Bytes}
      (first : payload.version=1) (number : payload.endorserNodeNumber=nodeNumber) :
      Introduces nodeNumber ⟨some (.activation ⟨some payload,newSignature,endorserSignature⟩)⟩
        endorserSignature

/-- An introduced number joins by the event of its addendum. -/
theorem Introduces.mem_joined {nodeNumber : Int32} {addendum : Addendum} {signature : Bytes}
    (h : Introduces nodeNumber addendum signature) : nodeNumber∈joined (events [addendum]) := by
  cases h with
  | @newNode payload _ endorserSignature number =>
    by_cases hv : payload.version=1
    · have he := events_signedActivation_first hv signature endorserSignature
      rw [signedActivation] at he
      rw [he,joined_singleton,Event.joined,number]
      exact List.mem_cons_of_mem _ List.mem_cons_self
    · have he := events_signedActivation hv signature endorserSignature
      rw [signedActivation] at he
      rw [he,joined_singleton,Event.joined,number]
      exact List.mem_cons_self
  | @founder payload newSignature _ first number =>
    have he := events_signedActivation_first first newSignature signature
    rw [signedActivation] at he
    rw [he,joined_singleton,Event.joined,number]
    exact List.mem_cons_self

/-- What joins by one addendum of a list joins by the list. -/
theorem mem_joined_of_mem {addenda : List Addendum} {addendum : Addendum} {nodeNumber : Int32}
    (hm : addendum∈addenda) (h : nodeNumber∈joined (events [addendum])) :
    nodeNumber∈joined (events addenda) := by
  obtain ⟨earlier,later,rfl⟩ := List.append_of_mem hm
  have hsplit : events (earlier++addendum::later)=
      events earlier++(events [addendum]++events later) := by
    rw [←events_append,←events_append]
    rfl
  rw [hsplit,joined_append,joined_append]
  exact List.mem_append_right _ (List.mem_append_left _ h)

/-- A number introduced before a point of the history is not introduced after it. -/
theorem ChainInvariant.introduced_before {C : Crypto} {roster : Roster}
    (inv : ChainInvariant C roster) {i j : ℕ} (hij : i<j) {earlier later : Addendum}
    (hi : roster.addenda[i]?=some earlier) (hj : roster.addenda[j]?=some later)
    {nodeNumber : Int32} {signature : Bytes} (h : Introduces nodeNumber earlier signature)
    (signature' : Bytes) : ¬Introduces nodeNumber later signature' := by
  intro h'
  have hnodup := inv.legal.joined_nodup
  have hsplit : joined (events roster.addenda)=
      joined (events (roster.addenda.take j))++joined (events (roster.addenda.drop j)) := by
    rw [←joined_append,←events_append,List.take_append_drop]
  rw [hsplit] at hnodup
  have hearlier : earlier∈roster.addenda.take j := by
    refine List.mem_of_getElem? (i:=i) ?_
    rw [List.getElem?_take_of_lt hij]
    exact hi
  have hlater : later∈roster.addenda.drop j := by
    refine List.mem_of_getElem? (i:=0) ?_
    rw [List.getElem?_drop]
    exact hj
  have hfirst := mem_joined_of_mem hearlier h.mem_joined
  have hsecond := mem_joined_of_mem hlater h'.mem_joined
  exact (List.nodup_append.mp hnodup).2.2 _ hfirst _ hsecond rfl

/-- Every listed node's key verifies a stored signature over the state that introduced it. -/
theorem HonestlyBuilt.introduced {C : Crypto} {roster : Roster} (h : HonestlyBuilt C roster)
    {node : RosterNode} (hm : node∈roster.nodes) :
    ∃ key,C.fromPublicKeyDer node.publicKeySpki=.ok key ∧
      ∃ j addendum signature,roster.addenda[j]?=some addendum ∧
        Introduces node.nodeNumber addendum signature ∧
        SignedState C key (historyAt roster (j+1)) signature := by
  induction h generalizing node with
  | @bootstrap roster founded =>
    have hlatest := HonestBootstrap.historyAt_latest founded
    obtain ⟨payload,newSpki,endorserSpki,newSignature,endorserSignature,newKey,endorserKey,facts,
      rfl⟩ := (honestBootstrap_iff C _).mp founded
    simp only [bootstrapState,List.mem_cons,List.not_mem_nil,or_false] at hm
    rcases hm with rfl|rfl
    · refine ⟨endorserKey,facts.endorserDecodes,0,_,endorserSignature,rfl,
        .founder facts.firstVersion rfl,?_⟩
      rw [hlatest]
      exact signedState_bootstrap.mpr facts.endorserVerifies
    · refine ⟨newKey,facts.newDecodes,0,_,newSignature,rfl,.newNode rfl,?_⟩
      rw [hlatest]
      exact signedState_bootstrap.mpr facts.newVerifies
  | @step base roster earlier next ih =>
    have hlatest := HonestStep.historyAt_latest earlier next
    have hstep := fun k => @historyAt_step C base roster earlier.invariant next k
    rcases (honestStep_iff C _ _).mp next with
      ⟨payload,newSpki,newSignature,endorserSignature,newKey,endorserKey,facts,rfl⟩|
      ⟨payload,revokerSignature,revokerKey,revokedKey,facts,rfl⟩
    · rcases List.mem_append.mp hm with hm|hm
      · obtain ⟨key,hd,j,addendum,signature,ha,hi,hs⟩ := ih hm
        have hj := (List.getElem?_eq_some_iff.mp ha).1
        refine ⟨key,hd,j,addendum,signature,?_,hi,?_⟩
        · simp only [activationState]
          rw [List.getElem?_append_left hj,ha]
        · rw [hstep (j+1) hj]
          exact hs
      · rw [List.mem_singleton.mp hm]
        refine ⟨newKey,facts.newDecodes,base.addenda.length,_,newSignature,
          List.getElem?_concat_length,.newNode rfl,?_⟩
        rw [hlatest]
        exact signedState_activation.mpr facts.newVerifies
    · obtain ⟨old,ho,rfl⟩ := (mem_markRevoked earlier.invariant.distinct).mp hm
      obtain ⟨key,hd,j,addendum,signature,ha,hi,hs⟩ := ih ho
      have hj := (List.getElem?_eq_some_iff.mp ha).1
      refine ⟨key,hd,j,addendum,signature,?_,hi,?_⟩
      · simp only [revocationState]
        rw [List.getElem?_append_left hj,ha]
      · rw [hstep (j+1) hj]
        exact hs

/-- Every endorser of the history is another node than the one it lets in. -/
theorem HonestlyBuilt.endorser_distinct {C : Crypto} {roster : Roster} (h : HonestlyBuilt C roster)
    {j : ℕ} {payload : ActivationPayload} {newSignature endorserSignature : Bytes}
    (ha : roster.addenda[j]?=some (signedActivation payload newSignature endorserSignature)) :
    payload.endorserNodeNumber≠payload.newNodeNumber := by
  induction h with
  | @bootstrap roster founded =>
    obtain ⟨first,newSpki,endorserSpki,newSigned,endorserSigned,newKey,endorserKey,facts,rfl⟩ :=
      (honestBootstrap_iff C _).mp founded
    have hj := (List.getElem?_eq_some_iff.mp ha).1
    have h0 : j=0 := Nat.lt_one_iff.mp hj
    subst h0
    cases Option.some.inj ha
    exact facts.distinct
  | @step base roster earlier next ih =>
    have hlen := HonestStep.addenda_length next
    have hj := (List.getElem?_eq_some_iff.mp ha).1
    by_cases hold : j<base.addenda.length
    · refine ih ?_
      rcases (honestStep_iff C _ _).mp next with ⟨_,_,_,_,_,_,_,rfl⟩|⟨_,_,_,_,_,rfl⟩
      · simp only [activationState] at ha
        rwa [List.getElem?_append_left hold] at ha
      · simp only [revocationState] at ha
        rwa [List.getElem?_append_left hold] at ha
    · have he : j=base.addenda.length := by omega
      subst he
      rcases (honestStep_iff C _ _).mp next with
        ⟨added,newSpki,newSigned,endorserSigned,newKey,endorserKey,facts,rfl⟩|⟨_,_,_,_,_,rfl⟩
      · simp only [activationState] at ha
        rw [List.getElem?_concat_length] at ha
        cases Option.some.inj ha
        obtain ⟨node,hm,hn,_,_⟩ := facts.endorserActive
        exact fun heq => facts.fresh node hm (hn.trans heq)
      · simp only [revocationState] at ha
        rw [List.getElem?_concat_length] at ha
        cases Option.some.inj ha

/-- A signature that verifies over the state after an addendum, under the key of the
entry listed for its signer. -/
def SlotVerifies (C : Crypto) (roster : Roster) (j : ℕ) (slot : Int32×Bytes) : Prop :=
  ∃ node∈roster.nodes,node.nodeNumber=slot.1 ∧
    ∃ key,C.fromPublicKeyDer node.publicKeySpki=.ok key ∧
      SignedState C key (historyAt roster (j+1)) slot.2

/-- What verified before a step still does after it. -/
theorem SlotVerifies.step {C : Crypto} {base roster : Roster} (h : ChainInvariant C base)
    (next : HonestStep C base roster) {j : ℕ} (hj : j<base.addenda.length) {slot : Int32×Bytes}
    (hslot : SlotVerifies C base j slot) : SlotVerifies C roster j slot := by
  obtain ⟨node,hm,hn,key,hd,hs⟩ := hslot
  have hstate := @historyAt_step C base roster h next (j+1) hj
  have hlisted : ∃ node'∈roster.nodes,identity node'=identity node := by
    rcases (honestStep_iff C _ _).mp next with ⟨_,_,_,_,_,_,_,rfl⟩|⟨_,_,_,_,_,rfl⟩
    · exact ⟨node,List.mem_append_left _ hm,rfl⟩
    · exact mem_markRevoked_identity _ hm
  obtain ⟨node',hm',hsame⟩ := hlisted
  have hnumber : node'.nodeNumber=node.nodeNumber := congrArg Prod.fst hsame
  have hkey : node'.publicKeySpki=node.publicKeySpki := congrArg Prod.snd hsame
  exact ⟨node',hm',hnumber.trans hn,key,hkey ▸ hd,hstate ▸ hs⟩

/-- Every signature that an honestly built roster stores verifies. -/
theorem HonestlyBuilt.slots {C : Crypto} {roster : Roster} (h : HonestlyBuilt C roster) {j : ℕ}
    {addendum : Addendum} (ha : roster.addenda[j]?=some addendum) {slot : Int32×Bytes}
    (hslot : slot∈signerSlots addendum) : SlotVerifies C roster j slot := by
  induction h with
  | @bootstrap roster founded =>
    have hlatest := HonestBootstrap.historyAt_latest founded
    obtain ⟨payload,newSpki,endorserSpki,newSigned,endorserSigned,newKey,endorserKey,facts,rfl⟩ :=
      (honestBootstrap_iff C _).mp founded
    have hj := (List.getElem?_eq_some_iff.mp ha).1
    have h0 : j=0 := Nat.lt_one_iff.mp hj
    subst h0
    cases Option.some.inj ha
    rcases List.mem_pair.mp hslot with rfl|rfl
    · refine ⟨_,List.mem_cons_of_mem _ List.mem_cons_self,rfl,newKey,facts.newDecodes,?_⟩
      rw [hlatest]
      exact signedState_bootstrap.mpr facts.newVerifies
    · refine ⟨_,List.mem_cons_self,rfl,endorserKey,facts.endorserDecodes,?_⟩
      rw [hlatest]
      exact signedState_bootstrap.mpr facts.endorserVerifies
  | @step base roster earlier next ih =>
    have hlatest := HonestStep.historyAt_latest earlier next
    have hj := (List.getElem?_eq_some_iff.mp ha).1
    rw [HonestStep.addenda_length next] at hj
    by_cases hold : j<base.addenda.length
    · have hbase : base.addenda[j]?=some addendum := by
        rcases (honestStep_iff C _ _).mp next with ⟨_,_,_,_,_,_,_,rfl⟩|⟨_,_,_,_,_,rfl⟩
        · simp only [activationState] at ha
          rwa [List.getElem?_append_left hold] at ha
        · simp only [revocationState] at ha
          rwa [List.getElem?_append_left hold] at ha
      exact (ih hbase).step earlier.invariant next hold
    · have he : j=base.addenda.length := by omega
      subst he
      rcases (honestStep_iff C _ _).mp next with
        ⟨payload,newSpki,newSigned,endorserSigned,newKey,endorserKey,facts,rfl⟩|
        ⟨payload,revokerSigned,revokerKey,revokedKey,facts,rfl⟩
      · simp only [activationState] at ha
        rw [List.getElem?_concat_length] at ha
        cases Option.some.inj ha
        rcases List.mem_pair.mp hslot with rfl|rfl
        · refine ⟨_,List.mem_append_right _ (List.mem_singleton_self _),rfl,newKey,
            facts.newDecodes,?_⟩
          rw [hlatest]
          exact signedState_activation.mpr facts.newVerifies
        · obtain ⟨node,hm,hn,_,hd⟩ := facts.endorserActive
          refine ⟨node,List.mem_append_left _ hm,hn,endorserKey,hd,?_⟩
          rw [hlatest]
          exact signedState_activation.mpr facts.endorserVerifies
      · simp only [revocationState] at ha
        rw [List.getElem?_concat_length] at ha
        cases Option.some.inj ha
        obtain rfl := List.mem_singleton.mp hslot
        obtain ⟨node,hm,hn,_,hd⟩ := facts.revokerActive
        obtain ⟨node',hm',hsame⟩ := mem_markRevoked_identity payload.revokedNodeNumber hm
        have hnumber : node'.nodeNumber=node.nodeNumber := congrArg Prod.fst hsame
        have hkey : node'.publicKeySpki=node.publicKeySpki := congrArg Prod.snd hsame
        refine ⟨node',hm',hnumber.trans hn,revokerKey,hkey ▸ hd,?_⟩
        rw [hlatest]
        exact signedState_revocation.mpr facts.revokerVerifies

/-- Every endorser of the history is a listed node other than the new one, and its
key verifies the stored signature over the state after its endorsement. -/
theorem HonestlyBuilt.endorsed {C : Crypto} {roster : Roster} (h : HonestlyBuilt C roster)
    {j : ℕ} {payload : ActivationPayload} {newSignature endorserSignature : Bytes}
    (ha : roster.addenda[j]?=some (signedActivation payload newSignature endorserSignature)) :
    payload.endorserNodeNumber≠payload.newNodeNumber ∧
      ∃ node∈roster.nodes,node.nodeNumber=payload.endorserNodeNumber ∧
        ∃ key,C.fromPublicKeyDer node.publicKeySpki=.ok key ∧
          SignedState C key (historyAt roster (j+1)) endorserSignature := by
  have hslot : (payload.endorserNodeNumber,endorserSignature)∈
      signerSlots (signedActivation payload newSignature endorserSignature) :=
    List.mem_cons_of_mem _ (List.mem_singleton_self _)
  exact ⟨HonestlyBuilt.endorser_distinct h ha,HonestlyBuilt.slots h ha hslot⟩

end WispersConnect.RosterHistory
