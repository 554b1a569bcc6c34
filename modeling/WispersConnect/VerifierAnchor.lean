import WispersConnect.AnchoredHistory
import WispersConnect.NodeLifecycle

/-!
# When a node believes it is revoked

The verifier is reported as revoked exactly when the roster is honestly built
and lists it as revoked, under whatever key. The report is evidence only if
that entry carries the verifier's own key: then the roster stores a signature
made with it.
-/

namespace WispersConnect.VerifierAnchor

open Messages OutcomeMonad Cryptography FirstMatch MachineIntegers
open RosterBuilders RosterVerification RosterChain RosterReplay RosterHistory MembershipLog
open NodeLifecycle SymbolicCrypto

section Errors

variable {C : Crypto} {ε : Type}

@[simp] theorem addOne_ne_err {version : Int64} {e : ε} :
    (addOne version : Outcome ε Int64)≠.err e := by
  unfold addOne
  split <;> simp

@[simp] theorem computeSigningHash_ne_err {roster : Roster} {e : ε} :
    (computeSigningHash C roster : Outcome ε Bytes)≠.err e := by
  simp [computeSigningHash,Outcome.bind_eq_err]

/-- Changing the latest kind never returns an error when the change does not. -/
theorem modifyLatestKind_ne_err {roster : Roster} {change : AddendumKind→Outcome ε AddendumKind}
    {e : ε} (h : ∀ kind,change kind≠.err e) : modifyLatestKind roster change≠.err e := by
  simp [modifyLatestKind,Outcome.bind_eq_err,h]

@[simp] theorem setNewNodeSignature_ne_err {roster : Roster} {signature : Bytes} {e : ε} :
    setNewNodeSignature roster signature≠.err e :=
  modifyLatestKind_ne_err fun kind => by cases kind <;> simp

@[simp] theorem setEndorserSignature_ne_err {roster : Roster} {signature : Bytes} {e : ε} :
    setEndorserSignature roster signature≠.err e :=
  modifyLatestKind_ne_err fun kind => by cases kind <;> simp

@[simp] theorem setRevokerSignature_ne_err {roster : Roster} {signature : Bytes} {e : ε} :
    setRevokerSignature roster signature≠.err e :=
  modifyLatestKind_ne_err fun kind => by cases kind <;> simp

/-- No turn of the walk reports the verifier as revoked. -/
theorem applyAndVerifyAddendum_ne_verifierRevoked {inputRoster workingRoster : Roster} {index : ℕ}
    {addendum : Addendum} {keys : Keys C} {nodeNumber : Int32} :
    applyAndVerifyAddendum C inputRoster index addendum workingRoster keys≠
      .err (.verifierRevoked nodeNumber) := by
  intro h
  rcases addendum with ⟨_|⟨activation|revocation⟩⟩
  · simp [applyAndVerifyAddendum,Outcome.bind_eq_err] at h
  · by_cases hv : asI64 (index+1)=1 <;>
      simp [applyAndVerifyAddendum,applyAndVerifyActivation,decodeNodeKey,hv,
        Outcome.bind_eq_err] at h
  · simp [applyAndVerifyAddendum,applyAndVerifyRevocation,Outcome.bind_eq_err] at h

/-- The walk never reports the verifier as revoked. -/
theorem walkAddenda_ne_verifierRevoked {inputRoster workingRoster : Roster} {index : ℕ}
    {addenda : List Addendum} {keys : Keys C} {nodeNumber : Int32} :
    walkAddenda C inputRoster index addenda workingRoster keys≠
      .err (.verifierRevoked nodeNumber) := by
  induction addenda generalizing index workingRoster keys with
  | nil => simp [walkAddenda]
  | cons addendum addenda ih =>
    simp [walkAddenda,Outcome.bind_eq_err,applyAndVerifyAddendum_ne_verifierRevoked,ih]

end Errors

/-- The roster lists the number as revoked. -/
def ListsRevoked (roster : Roster) (nodeNumber : Int32) : Prop :=
  ∃ node∈roster.nodes,node.nodeNumber=nodeNumber ∧ node.revoked=true

/-- The anchor reports a revocation exactly when the key map has lost a listed number. -/
theorem checkVerifierAnchor_eq_verifierRevoked {C : Crypto} {roster : Roster} {keys : Keys C}
    {verifierNodeNumber nodeNumber : Int32} {expected : C.VerifyingKey} :
    checkVerifierAnchor C roster keys verifierNodeNumber expected=
        .err (.verifierRevoked nodeNumber) ↔
      nodeNumber=verifierNodeNumber ∧ keys.lookup verifierNodeNumber=none ∧
        ∃ node∈roster.nodes,node.nodeNumber=verifierNodeNumber := by
  unfold checkVerifierAnchor
  cases hk : keys.lookup verifierNodeNumber with
  | none =>
    dsimp only
    by_cases hany : roster.nodes.any (fun n => n.nodeNumber==verifierNodeNumber)=true
    · have hlisted : ∃ node∈roster.nodes,node.nodeNumber=verifierNodeNumber := by
        simpa using hany
      rw [if_pos hany,Outcome.err.injEq,RosterVerificationError.verifierRevoked.injEq,
        and_iff_right rfl,and_iff_left hlisted,eq_comm]
    · have hlisted : ¬∃ node∈roster.nodes,node.nodeNumber=verifierNodeNumber := by
        simpa using hany
      simp only [if_neg hany,hlisted,Outcome.err.injEq,reduceCtorEq,and_false]
  | some key =>
    dsimp only
    split <;> simp

/-- The verifier is reported as revoked exactly by the honestly built rosters
that list its number as revoked, whatever key they list. -/
theorem verifyRoster_eq_verifierRevoked {C : Crypto} {roster : Roster}
    {verifierNodeNumber nodeNumber : Int32} {spki : Bytes} {key : C.VerifyingKey}
    (hspki : C.fromPublicKeyDer spki=.ok key) :
    verifyRoster C roster verifierNodeNumber spki=.err (.verifierRevoked nodeNumber) ↔
      nodeNumber=verifierNodeNumber ∧ HonestlyBuilt C roster ∧
        ListsRevoked roster verifierNodeNumber := by
  have hstart : verifyRoster C roster verifierNodeNumber spki=
        .err (.verifierRevoked nodeNumber) ↔
      verifyRosterStructure roster=.ok () ∧ ∃ keys,
        walkAddenda C roster 0 roster.addenda Roster.default ∅=.ok (roster,keys) ∧
        checkVerifierAnchor C roster keys verifierNodeNumber key=
          .err (.verifierRevoked nodeNumber) := by
    have hstructure : verifyRosterStructure roster≠.err (.verifierRevoked nodeNumber) := by
      simp [verifyRosterStructure,Outcome.bind_eq_err]
    simp only [verifyRoster,hspki,Except.toOption,Outcome.expect,Outcome.ok_bind,
      Outcome.bind_eq_err,hstructure,walkAddenda_ne_verifierRevoked,Outcome.reject_eq_err,
      Outcome.reject_eq_ok,reduceCtorEq,and_false,false_or,Prod.exists,not_not]
    constructor
    · rintro ⟨_,hs,working,keys,hwalk,_,rfl,hanchor⟩
      exact ⟨hs,keys,hwalk,hanchor⟩
    · rintro ⟨hs,keys,hwalk,hanchor⟩
      exact ⟨(),hs,roster,keys,hwalk,(),rfl,hanchor⟩
  rw [hstart]
  constructor
  · rintro ⟨hs,keys,hwalk,hanchor⟩
    obtain ⟨hbuilt,hkeys⟩ := replay_iff.mp ⟨hs,hwalk⟩
    obtain ⟨hn,hnone,node,hm,hnumber⟩ := checkVerifierAnchor_eq_verifierRevoked.mp hanchor
    refine ⟨hn,hbuilt,node,hm,hnumber,?_⟩
    by_contra hactive
    obtain ⟨listed,hlisted⟩ := hbuilt.invariant.keys node hm
    have hsome := (hkeys _ _).mpr ⟨node,hm,hnumber,Bool.eq_false_of_not_eq_true hactive,hlisted⟩
    rw [hnone] at hsome
    cases hsome
  · rintro ⟨hn,hbuilt,node,hm,hnumber,hrevoked⟩
    obtain ⟨keys,hkeys⟩ := HonestlyBuilt.exists_activeKeys hbuilt
    obtain ⟨hs,hwalk⟩ := replay_iff.mpr ⟨hbuilt,hkeys⟩
    refine ⟨hs,keys,hwalk,checkVerifierAnchor_eq_verifierRevoked.mpr ⟨hn,?_,node,hm,hnumber⟩⟩
    cases hk : keys.lookup verifierNodeNumber with
    | none => rfl
    | some active =>
      obtain ⟨other,ho,hon,hor,_⟩ := (hkeys _ _).mp hk
      have hsame := hbuilt.invariant.entry_unique hm ho (hnumber.trans hon.symm)
      rw [hsame,hor] at hrevoked
      cases hrevoked

/-- The roster holds evidence that the key's owner was a member and was revoked:
its revoked entry carries the key, and the key verifies a stored signature over
the state that introduced it. -/
def CommittedRevocation (C : Crypto) (roster : Roster) (nodeNumber : Int32)
    (key : C.VerifyingKey) : Prop :=
  ∃ node∈roster.nodes,node.nodeNumber=nodeNumber ∧ node.revoked=true ∧
    C.fromPublicKeyDer node.publicKeySpki=.ok key ∧
    ∃ j addendum signature,roster.addenda[j]?=some addendum ∧
      Introduces nodeNumber addendum signature ∧ SignedState C key (historyAt roster (j+1)) signature

/-- A roster that is consistent in itself and lists the number as revoked, under
a key that is not the given one. -/
def ForeignRevocation (C : Crypto) (roster : Roster) (nodeNumber : Int32)
    (key : C.VerifyingKey) : Prop :=
  HonestlyBuilt C roster ∧ ∃ node∈roster.nodes,node.nodeNumber=nodeNumber ∧ node.revoked=true ∧
    C.fromPublicKeyDer node.publicKeySpki≠.ok key

/-- On honestly built rosters a listed revocation is committed to the key unless
it is foreign to it. -/
theorem committedRevocation_iff {C : Crypto} {roster : Roster} {nodeNumber : Int32}
    {key : C.VerifyingKey} (hbuilt : HonestlyBuilt C roster)
    (hlists : ListsRevoked roster nodeNumber) :
    CommittedRevocation C roster nodeNumber key ↔ ¬ForeignRevocation C roster nodeNumber key := by
  constructor
  · rintro ⟨node,hm,hn,_,hkey,_⟩ ⟨_,other,ho,hon,_,hforeign⟩
    have hsame := hbuilt.invariant.entry_unique hm ho (hn.trans hon.symm)
    rw [hsame] at hkey
    exact hforeign hkey
  · intro hown
    obtain ⟨node,hm,hn,hr⟩ := hlists
    obtain ⟨listed,hlisted,j,addendum,signature,ha,hi,hs⟩ := HonestlyBuilt.introduced hbuilt hm
    have hkey : C.fromPublicKeyDer node.publicKeySpki=.ok key := by
      by_contra hforeign
      exact hown ⟨hbuilt,node,hm,hn,hr,hforeign⟩
    obtain rfl := Except.ok.inj (hlisted.symm.trans hkey)
    exact ⟨node,hm,hn,hr,hkey,j,addendum,signature,ha,hn ▸ hi,hs⟩

/-- A report of revocation is evidence exactly where no foreign revocation is listed. -/
theorem verifierRevoked_committed_iff {C : Crypto} {roster : Roster} {nodeNumber : Int32}
    {spki : Bytes} {key : C.VerifyingKey} (hspki : C.fromPublicKeyDer spki=.ok key) :
    (verifyRoster C roster nodeNumber spki=.err (.verifierRevoked nodeNumber) →
      CommittedRevocation C roster nodeNumber key) ↔
      ¬ForeignRevocation C roster nodeNumber key := by
  constructor
  · rintro h ⟨hbuilt,node,hm,hn,hr,hforeign⟩
    have hlists : ListsRevoked roster nodeNumber := ⟨node,hm,hn,hr⟩
    have hcommitted := h ((verifyRoster_eq_verifierRevoked hspki).mpr ⟨rfl,hbuilt,hlists⟩)
    exact (committedRevocation_iff hbuilt hlists).mp hcommitted ⟨hbuilt,node,hm,hn,hr,hforeign⟩
  · intro hown h
    obtain ⟨_,hbuilt,hlists⟩ := (verifyRoster_eq_verifierRevoked hspki).mp h
    exact (committedRevocation_iff hbuilt hlists).mpr hown

/-- A listed number is found by the membership test of the callers. -/
theorem ListsRevoked.any {roster : Roster} {nodeNumber : Int32}
    (h : ListsRevoked roster nodeNumber) :
    roster.nodes.any (fun n => n.nodeNumber==nodeNumber)=true := by
  obtain ⟨node,hm,hn,_⟩ := h
  exact List.any_eq_true.mpr ⟨node,hm,beq_iff_eq.mpr hn⟩

/-- `refresh_membership` moves a node to the revoked state exactly when the
fetched roster reports it as revoked. -/
theorem refreshMembership_revoked_iff {C : Crypto} (hround : C.SpkiRoundTrip) {node : Node C}
    {registration : NodeRegistration} (hreg : node.inner.registration=some registration)
    {hub : Hub} (hconnect : hub.connect=.ok ()) {roster : Roster}
    (hroster : hub.getUnverifiedRoster registration=.ok roster) :
    (∃ node',node.refreshMembership hub=.ok (node',.revoked)) ↔
      verifyRoster C roster registration.nodeNumber (C.publicKeySpki node.signingKey)=
        .err (.verifierRevoked registration.nodeNumber) := by
  have hspki := hround node.signingKey
  simp only [Node.refreshMembership,hreg,hubReply,hconnect,hroster,Outcome.ofExcept,
    Outcome.mapErr,Outcome.ok_bind]
  constructor
  · rintro ⟨node',h⟩
    split at h
    · split at h
      · cases h
      · next n hv =>
        rw [hv,((verifyRoster_eq_verifierRevoked hspki).mp hv).1]
      · cases h
      · cases h
    · cases h
  · intro hv
    have hany := ((verifyRoster_eq_verifierRevoked hspki).mp hv).2.2.any
    rw [if_pos hany,hv]
    exact ⟨_,rfl⟩

/-- `restore_or_init_node` restores a registered node as revoked exactly when the
fetched roster reports it as revoked. -/
theorem restoreOrInitNode_revoked_iff {C : Crypto} (hround : C.SpkiRoundTrip)
    {state : PersistedNodeState} {registration : NodeRegistration}
    (hreg : state.registration=some registration)
    (save : PersistedNodeState→Except StorageError Unit) (freshRootKey : Bytes) {hub : Hub}
    (hconnect : hub.connect=.ok ()) {roster : Roster}
    (hroster : hub.getUnverifiedRoster registration=.ok roster) :
    (∃ node : Node C,restoreOrInitNode C (.ok (some state)) save freshRootKey hub=.ok node ∧
        node.state=.revoked) ↔
      verifyRoster C roster registration.nodeNumber
          (C.publicKeySpki (deriveFromRootKey C state.rootKey))=
        .err (.verifierRevoked registration.nodeNumber) := by
  have hspki := hround (deriveFromRootKey C state.rootKey)
  simp only [restoreOrInitNode,hreg,hubReply,hconnect,hroster,Outcome.ofExcept,
    Outcome.mapErr,Outcome.ok_bind]
  constructor
  · rintro ⟨node,h,hstate⟩
    split at h
    · split at h
      · simp only [Node.newActivated,hreg,Outcome.expect,Outcome.ok_bind,Outcome.pure_eq_ok,
          Outcome.ok.injEq] at h
        subst h
        cases hstate
      · next n hv =>
        rw [hv,((verifyRoster_eq_verifierRevoked hspki).mp hv).1]
      · cases h
      · cases h
    · simp only [Node.newRegistered,hreg,Outcome.okOr,Outcome.ok_bind,Outcome.pure_eq_ok,
        Outcome.ok.injEq] at h
      subst h
      cases hstate
  · intro hv
    have hany := ((verifyRoster_eq_verifierRevoked hspki).mp hv).2.2.any
    rw [if_pos hany,hv]
    simp only [Node.newRevoked,hreg,Outcome.expect,Outcome.ok_bind,Outcome.pure_eq_ok]
    exact ⟨_,rfl,rfl⟩

/-- A report of revocation, a refresh and a restore commit to the node's own key
exactly where the roster lists no foreign revocation for it. -/
theorem revocation_committed_iff (C : Crypto) (hround : C.SpkiRoundTrip) :
    (∀ (roster : Roster) (nodeNumber : Int32) (spki : Bytes) (key : C.VerifyingKey),
      C.fromPublicKeyDer spki=.ok key →
      ((verifyRoster C roster nodeNumber spki=.err (.verifierRevoked nodeNumber) →
        CommittedRevocation C roster nodeNumber key) ↔
        ¬ForeignRevocation C roster nodeNumber key)) ∧
    (∀ (node : Node C) (registration : NodeRegistration) (hub : Hub) (roster : Roster),
      node.inner.registration=some registration → hub.connect=.ok () →
      hub.getUnverifiedRoster registration=.ok roster →
      (((∃ node',node.refreshMembership hub=.ok (node',.revoked)) →
        CommittedRevocation C roster registration.nodeNumber (C.verifyingKey node.signingKey)) ↔
        ¬ForeignRevocation C roster registration.nodeNumber (C.verifyingKey node.signingKey))) ∧
    (∀ (state : PersistedNodeState) (registration : NodeRegistration)
      (save : PersistedNodeState→Except StorageError Unit) (freshRootKey : Bytes) (hub : Hub)
      (roster : Roster),state.registration=some registration → hub.connect=.ok () →
      hub.getUnverifiedRoster registration=.ok roster →
      (((∃ node : Node C,restoreOrInitNode C (.ok (some state)) save freshRootKey hub=.ok node ∧
          node.state=.revoked) →
        CommittedRevocation C roster registration.nodeNumber
          (C.verifyingKey (deriveFromRootKey C state.rootKey))) ↔
        ¬ForeignRevocation C roster registration.nodeNumber
          (C.verifyingKey (deriveFromRootKey C state.rootKey)))) := by
  refine ⟨fun roster nodeNumber spki key hspki => verifierRevoked_committed_iff hspki,?_,?_⟩
  · intro node registration hub roster hreg hconnect hroster
    rw [refreshMembership_revoked_iff hround hreg hconnect hroster]
    exact verifierRevoked_committed_iff (hround node.signingKey)
  · intro state registration save freshRootKey hub roster hreg hconnect hroster
    rw [restoreOrInitNode_revoked_iff hround hreg save freshRootKey hconnect hroster]
    exact verifierRevoked_committed_iff (hround (deriveFromRootKey C state.rootKey))

/-- Node 2 of the trio was revoked under its own key. -/
theorem revocation_committed_reduced :
    CommittedRevocation symbolicCrypto reducedRoster 2 (2 : UInt8) := by
  have hiff := (revocation_committed_iff symbolicCrypto symbolicCrypto_spkiRoundTrip).1
    reducedRoster 2 (symbolicSpki 2) (2 : UInt8) rfl
  refine hiff.mpr ?_ (by decide +kernel)
  rintro ⟨_,node,hm,hn,hr,hforeign⟩
  have hall : ∀ node∈reducedRoster.nodes,node.nodeNumber=2 →
      node.publicKeySpki=symbolicSpki 2 := by decide +kernel
  rw [hall node hm hn] at hforeign
  exact hforeign rfl

/-- A group of the hub's own keys 7 and 8 in which number 2 joins and is revoked. -/
def fabricatedRoster : Roster :=
  symbolicRevocation (symbolicFounding ⟨1,2,1,[],[]⟩ 8 7) ⟨2,2,1⟩ 7

/-- A hub that delivers the fabricated roster. -/
def fabricatingHub : Hub := relayingHub fabricatedRoster none

/-- The fabricated roster convinces node 2 that it is revoked, though none of
its signatures are node 2's. -/
theorem fabricated_revocation_believed :
    verifyRoster symbolicCrypto fabricatedRoster 2 (symbolicSpki 2)=.err (.verifierRevoked 2) ∧
    (∃ node',secondNode.refreshMembership fabricatingHub=.ok (node',.revoked)) ∧
    ¬CommittedRevocation symbolicCrypto fabricatedRoster 2 (2 : UInt8) := by
  have hreport : verifyRoster symbolicCrypto fabricatedRoster 2 (symbolicSpki 2)=
      .err (.verifierRevoked 2) := by decide +kernel
  refine ⟨hreport,?_,?_⟩
  · have hrefresh := @refreshMembership_revoked_iff symbolicCrypto symbolicCrypto_spkiRoundTrip
      secondNode secondRegistration rfl fabricatingHub rfl fabricatedRoster rfl
    exact hrefresh.mpr hreport
  · rintro ⟨node,hm,_,_,hkey,_⟩
    have hall : ∀ node∈fabricatedRoster.nodes,decodeSymbolicSpki node.publicKeySpki≠
        .ok (2 : UInt8) := by decide +kernel
    exact hall node hm hkey

end WispersConnect.VerifierAnchor
