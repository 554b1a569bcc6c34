import WispersConnect.KeyHistories
import WispersConnect.PanicFreedom
import WispersConnect.PeerConnections
import WispersConnect.Runs

/-!
# A node and its store over a whole run

A device is a node with the contents of its store. It starts from a restore and
goes through calls that the hub and the store may answer in any way. What the
node holds in memory and what the store holds stay in step, and the cached roster
of an activated node verifies, also after a revocation that the node wrote itself.
-/

namespace WispersConnect.DeviceRuns

open Messages OutcomeMonad Cryptography FirstMatch MachineIntegers RosterBuilders
open RosterVerification RosterChain RosterReplay NodeLifecycle ActivationSteps KeyHistories
open PanicFreedom PeerSigning PeerEncoding PeerConnections SymbolicCrypto Runs

/-- Signing and verifying work for a key: its SPKI bytes decode to its verifying
key, and what it signs verifies under that key. -/
structure KeyWorks (C : Crypto) (key : C.SigningKey) : Prop where
  /-- The SPKI bytes decode. -/
  decodes : C.fromPublicKeyDer (C.publicKeySpki key)=.ok (C.verifyingKey key)
  /-- The signatures verify. -/
  verifies : ∀ message,verifySignature C (C.verifyingKey key) message (C.sign key message)=.ok ()

/-- A node and the contents of its store. -/
structure Device (C : Crypto) where
  /-- The node in memory. -/
  node : Node C
  /-- What the store would load. -/
  stored : Option PersistedNodeState

section Moves

variable {C : Crypto}

/-- The store after a call: the only save is that of a registration, the only
deletion that of a logout, and either call succeeds only after it. -/
def storedAfter (device : Device C) : NodeCall→Option PersistedNodeState
  | .register token hub store =>
    match device.node.register token hub store with
    | (node,.ok ()) => some node.persisted
    | _ => device.stored
  | .logout hub store =>
    match device.node.logout hub store with
    | .ok _ => none
    | _ => device.stored
  | _ => device.stored

/-- The device after a call. -/
def deviceAfter (device : Device C) (call : NodeCall) : Device C :=
  ⟨nodeAfter device.node call,storedAfter device call⟩

/-- The roster a revocation of a node by another leads to. -/
def revokedRoster (C : Crypto) (signingKey : C.SigningKey) (base : Roster)
    (payload : RevocationPayload) : Roster :=
  revocationState base payload (signedRevocation payload
    (C.sign signingKey (signingHash C (revocationState base payload (unsignedRevocation payload)))))

/-- What one call can do to a device. -/
inductive DeviceMove (before : Device C) : Device C→Prop where
  /-- Nothing. -/
  | stays : DeviceMove before before
  /-- A registration is kept in memory only, because it could not be saved. -/
  | unsaved (registration : NodeRegistration) (pending : before.node.inner=.pending) :
      DeviceMove before ⟨{before.node with persisted :=
        {before.node.persisted with registration := some registration}},before.stored⟩
  /-- A registration is saved. -/
  | registered (registration : NodeRegistration) :
      DeviceMove before ⟨⟨.registered registration,
        {before.node.persisted with registration := some registration},before.node.signingKey⟩,
        some {before.node.persisted with registration := some registration}⟩
  /-- A roster of the hub is verified and cached. -/
  | accepted (registration : NodeRegistration) (roster : Roster) (keys : Keys C)
      (own : before.node.inner.registration=some registration)
      (verified : verifyRoster C roster registration.nodeNumber
        (C.publicKeySpki before.node.signingKey)=.ok keys) :
      DeviceMove before ⟨{before.node with inner := .activated registration roster},before.stored⟩
  /-- A revocation of another node is written to the cached roster. -/
  | revoked (registration : NodeRegistration) (base : Roster) (payload : RevocationPayload)
      (own : before.node.inner=.activated registration base)
      (next : (addOne base.version : Outcome Empty Int64)=.ok payload.version)
      (revoker : payload.revokerNodeNumber=registration.nodeNumber)
      (other : payload.revokedNodeNumber≠registration.nodeNumber)
      (active : ∃ entry∈activeNodes base,entry.nodeNumber=payload.revokedNodeNumber) :
      DeviceMove before ⟨⟨.activated registration
        (revokedRoster C before.node.signingKey base payload),before.node.persisted,
        before.node.signingKey⟩,before.stored⟩
  /-- A refresh finds the node outside the roster or revoked in it. -/
  | demoted (registration : NodeRegistration) (inner : InnerState)
      (own : before.node.inner.registration=some registration)
      (demotes : inner=.registered registration ∨ inner=.revoked registration) :
      DeviceMove before ⟨{before.node with inner := inner},before.stored⟩
  /-- A logout. -/
  | cleared :
      DeviceMove before ⟨⟨.pending,{before.node.persisted with registration := none},
        before.node.signingKey⟩,none⟩

/-- The roster that a revocation signs, with the builders evaluated. -/
theorem draftRevocation_signed (signingKey : C.SigningKey) (registration : NodeRegistration)
    (base : Roster) (revokedNodeNumber : Int32) :
    (do
      let newRoster ← draftRevocation registration base revokedNodeNumber
      let signingHash ← computeSigningHash C newRoster
      setRevokerSignature newRoster (C.sign signingKey signingHash))=(do
        let version ← (addOne base.version : Outcome NodeStateError Int64)
        pure (revokedRoster C signingKey base
          ⟨version,revokedNodeNumber,registration.nodeNumber⟩)) := by
  unfold draftRevocation buildRevocationPayload
  cases hnext : (addOne base.version : Outcome NodeStateError Int64) with
  | ok version =>
    have hadd := @addRevocationToRoster_eq NodeStateError base
      ⟨version,revokedNodeNumber,registration.nodeNumber⟩ hnext
    simp only [Outcome.ok_bind,Outcome.pure_eq_ok,hadd,revocationState,
      computeSigningHash_unsignedRevocation]
    rw [unsignedRevocation,setRevokerSignature_revocation]
    rfl
  | err e => rfl
  | panic m => rfl

/-- A revocation by this node, with the builders evaluated. -/
theorem submitRevocation_eq (node : Node C) (registration : NodeRegistration) (base : Roster)
    (revokedNodeNumber : Int32) (hub : Hub) :
    node.submitRevocation registration base revokedNodeNumber hub=(do
      let version ← (addOne base.version : Outcome NodeStateError Int64)
      let newRoster := revokedRoster C node.signingKey base
        ⟨version,revokedNodeNumber,registration.nodeNumber⟩
      let _cosignedRoster ← hubReply (hub.submitRoster registration newRoster)
      pure newRoster) := by
  have hsigned := draftRevocation_signed node.signingKey registration base revokedNodeNumber
  have hsubmit : node.submitRevocation registration base revokedNodeNumber hub=
      ((do
        let newRoster ← draftRevocation registration base revokedNodeNumber
        let signingHash ← computeSigningHash C newRoster
        setRevokerSignature newRoster (C.sign node.signingKey signingHash)) >>= fun signedRoster => do
      let _cosignedRoster ← hubReply (hub.submitRoster registration signedRoster)
      pure signedRoster) := by
    simp only [Node.submitRevocation,Outcome.bind_assoc]
  rw [hsubmit,hsigned,Outcome.bind_assoc]
  rfl

/-- A revocation panics only when the version overflows. -/
theorem submitRevocation_panic {node : Node C} {registration : NodeRegistration} {base : Roster}
    {revokedNodeNumber : Int32} {hub : Hub} {m : String}
    (h : node.submitRevocation registration base revokedNodeNumber hub=.panic m) :
    m="attempt to add with overflow" := by
  rw [submitRevocation_eq,Outcome.bind_eq_panic] at h
  rcases h with hadd|⟨version,_,h⟩
  · unfold addOne at hadd
    split at hadd
    · exact (Outcome.panic.inj hadd).symm
    · cases hadd
  · have hreply := hubReply_noPanic (hub.submitRoster registration
      (revokedRoster C node.signingKey base ⟨version,revokedNodeNumber,registration.nodeNumber⟩))
    exact absurd h (hreply.bind (fun _ _ => Outcome.noPanic_ok _) m)

/-- A revocation that returns went to the next version. -/
theorem submitRevocation_eq_ok {node : Node C} {registration : NodeRegistration} {base : Roster}
    {revokedNodeNumber : Int32} {hub : Hub} {newRoster : Roster}
    (h : node.submitRevocation registration base revokedNodeNumber hub=.ok newRoster) :
    ∃ version,(addOne base.version : Outcome Empty Int64)=.ok version ∧
      newRoster=revokedRoster C node.signingKey base
        ⟨version,revokedNodeNumber,registration.nodeNumber⟩ ∧
      ∃ cosigned,hub.submitRoster registration newRoster=.ok cosigned := by
  simp only [submitRevocation_eq,Outcome.bind_eq_ok,Outcome.pure_eq_ok,Outcome.ok.injEq,
    hubReply_eq_ok] at h
  obtain ⟨version,hnext,cosigned,hsubmit,rfl⟩ := h
  exact ⟨version,addOne_eq_ok.mpr (addOne_eq_ok.mp hnext),rfl,cosigned,hsubmit⟩

/-- Revoking another active node goes to its revoked roster once the hub takes that. -/
theorem revokeNode_revokes {node : Node C} {registration : NodeRegistration} {base cosigned : Roster}
    {targetNodeNumber : Int32} {hub : Hub} {version : Int64}
    (hinner : node.inner=.activated registration base)
    (hother : targetNodeNumber≠registration.nodeNumber)
    (hactive : (activeNodes base).any (fun n => n.nodeNumber==targetNodeNumber)=true)
    (hconnect : hub.connect=.ok ()) (hnext : (addOne base.version : Outcome Empty Int64)=.ok version)
    (hsubmit : hub.submitRoster registration (revokedRoster C node.signingKey base
      ⟨version,targetNodeNumber,registration.nodeNumber⟩)=.ok cosigned) :
    node.revokeNode targetNodeNumber hub=.ok ⟨.activated registration
      (revokedRoster C node.signingKey base ⟨version,targetNodeNumber,registration.nodeNumber⟩),
      node.persisted,node.signingKey⟩ := by
  have hadd : (addOne base.version : Outcome NodeStateError Int64)=.ok version :=
    addOne_eq_ok.mpr (addOne_eq_ok.mp hnext)
  simp only [Node.revokeNode,hinner,submitRevocation_eq,Outcome.bind_eq_ok,Outcome.reject_eq_ok,
    Outcome.pure_eq_ok,Outcome.ok.injEq,hubReply_eq_ok]
  exact ⟨(),hother,(),by simp [hactive],(),hconnect,_,⟨version,hadd,cosigned,hsubmit,rfl⟩,rfl⟩

/-- A node is in the pending state when it holds nothing. -/
theorem state_eq_pending {node : Node C} : node.state=.pending ↔ node.inner=.pending := by
  unfold Node.state
  cases node.inner <;> simp

/-- A node is in the activated state when it holds a roster. -/
theorem state_eq_activated {node : Node C} :
    node.state=.activated ↔ ∃ registration roster,node.inner=.activated registration roster := by
  unfold Node.state
  cases node.inner <;> simp

/-- Only a pending node has no registration. -/
theorem registration_eq_none {inner : InnerState} : inner.registration=none ↔ inner=.pending := by
  cases inner <;> simp [InnerState.registration]

/-- Registering saves the registration, keeps it unsaved, or does nothing. -/
theorem register_move (device : Device C) (token : String) (hub : Hub) (store : Store) :
    DeviceMove device (deviceAfter device (.register token hub store)) := by
  simp only [deviceAfter,nodeAfter,storedAfter]
  cases hregister : device.node.register token hub store with
  | mk node result =>
    unfold Node.register at hregister
    dsimp only at hregister
    split at hregister
    · next registration hreply =>
      have hpending : device.node.inner=.pending := by
        simp only [Node.requirePending,Outcome.bind_eq_ok,Outcome.reject_eq_ok,ne_eq,
          not_not] at hreply
        exact state_eq_pending.mp hreply.choose_spec.1
      split at hregister
      · obtain ⟨rfl,rfl⟩ := Prod.mk.inj hregister
        exact .registered registration
      · obtain ⟨rfl,rfl⟩ := Prod.mk.inj hregister
        exact .unsaved registration hpending
    · obtain ⟨rfl,rfl⟩ := Prod.mk.inj hregister
      exact .stays
    · obtain ⟨rfl,rfl⟩ := Prod.mk.inj hregister
      exact .stays

/-- An activation caches a verified roster. -/
theorem activate_move {device : Device C} {activationCode nonce : Bytes} {hub : Hub} {node : Node C}
    (h : device.node.activate activationCode nonce hub=.ok node) :
    DeviceMove device ⟨node,device.stored⟩ := by
  obtain ⟨draft,cosigned,_,keys,haccepts,_,hkeys,rfl⟩ := activate_eq_ok h
  have hinner := (activateDraft_eq_ok.mp haccepts.drafted).registered
  have hown : device.node.inner.registration=some draft.registration := by
    rw [hinner]
    rfl
  exact .accepted draft.registration cosigned keys hown hkeys

/-- A revocation is written to the cached roster. -/
theorem revokeNode_move {device : Device C} {targetNodeNumber : Int32} {hub : Hub} {node : Node C}
    (h : device.node.revokeNode targetNodeNumber hub=.ok node) :
    DeviceMove device ⟨node,device.stored⟩ := by
  unfold Node.revokeNode at h
  split at h
  · next registration base hinner =>
    simp only [Outcome.bind_eq_ok,Outcome.reject_eq_ok,Outcome.pure_eq_ok,Outcome.ok.injEq] at h
    obtain ⟨_,hother,_,hactive,_,_,newRoster,hsubmit,rfl⟩ := h
    obtain ⟨version,hnext,rfl,_⟩ := submitRevocation_eq_ok hsubmit
    have hlisted : ∃ entry∈activeNodes base,entry.nodeNumber=targetNodeNumber := by
      simpa using hactive
    exact .revoked registration base ⟨version,targetNodeNumber,registration.nodeNumber⟩ hinner
      hnext rfl hother hlisted
  · cases h
  · cases h

/-- Looking up a peer caches a verified roster or does nothing. -/
theorem findPeerInRoster_move {device : Device C} {peerNodeNumber : Int32} {hub : Hub}
    {node : Node C} {peer : RosterNode}
    (h : device.node.findPeerInRoster peerNodeNumber hub=.ok (node,peer)) :
    DeviceMove device ⟨node,device.stored⟩ := by
  unfold Node.findPeerInRoster at h
  split at h
  · next registration roster hinner =>
    split at h
    · obtain ⟨rfl,_⟩ := Prod.mk.inj (Outcome.ok.inj h)
      exact .stays
    · split at h
      · next fresh hfresh =>
        simp only [Outcome.bind_eq_ok,Outcome.pure_eq_ok,Outcome.ok.injEq,Prod.mk.injEq] at h
        obtain ⟨_,_,rfl,_⟩ := h
        simp only [Hub.getAndVerifyRoster,Outcome.bind_eq_ok,Outcome.mapErr_eq_ok,
          Outcome.pure_eq_ok,Outcome.ok.injEq] at hfresh
        obtain ⟨_,_,keys,hkeys,rfl⟩ := hfresh
        have hown : device.node.inner.registration=some registration := by
          rw [hinner]
          rfl
        exact .accepted registration _ keys hown hkeys
      · cases h
      · cases h
      · cases h
  · cases h

/-- Refreshing caches a verified roster, demotes the node or does nothing. -/
theorem refreshMembership_move {device : Device C} {hub : Hub} {node : Node C} {state : NodeState}
    (h : device.node.refreshMembership hub=.ok (node,state)) :
    DeviceMove device ⟨node,device.stored⟩ := by
  unfold Node.refreshMembership at h
  split at h
  · obtain ⟨rfl,_⟩ := Prod.mk.inj (Outcome.ok.inj h)
    exact .stays
  · next registration hown =>
    simp only [Outcome.bind_eq_ok] at h
    obtain ⟨_,_,roster,_,h⟩ := h
    split at h
    · split at h
      · next keys hkeys =>
        obtain ⟨rfl,_⟩ := Prod.mk.inj (Outcome.ok.inj h)
        exact .accepted registration roster keys hown hkeys
      · obtain ⟨rfl,_⟩ := Prod.mk.inj (Outcome.ok.inj h)
        exact .demoted registration _ hown (.inr rfl)
      · cases h
      · cases h
    · obtain ⟨rfl,_⟩ := Prod.mk.inj (Outcome.ok.inj h)
      exact .demoted registration _ hown (.inl rfl)

/-- A logout clears the device. -/
theorem logout_move {device : Device C} {hub : Hub} {store : Store} {node : Node C}
    (h : device.node.logout hub store=.ok node) : DeviceMove device ⟨node,none⟩ := by
  simp only [Node.logout,Outcome.bind_eq_ok,Outcome.pure_eq_ok,Outcome.ok.injEq] at h
  obtain ⟨_,_,_,_,rfl⟩ := h
  exact .cleared

/-- Every call makes one of the moves. -/
theorem deviceAfter_move (device : Device C) (call : NodeCall) :
    DeviceMove device (deviceAfter device call) := by
  simp only [deviceAfter]
  cases call with
  | register token hub store => exact register_move device token hub store
  | activate activationCode nonce hub =>
    simp only [nodeAfter,storedAfter]
    cases hactivate : device.node.activate activationCode nonce hub with
    | ok node => exact activate_move hactivate
    | err e => exact .stays
    | panic m => exact .stays
  | revokeNode targetNodeNumber hub =>
    simp only [nodeAfter,storedAfter]
    cases hrevoke : device.node.revokeNode targetNodeNumber hub with
    | ok node => exact revokeNode_move hrevoke
    | err e => exact .stays
    | panic m => exact .stays
  | findPeerInRoster peerNodeNumber hub =>
    simp only [nodeAfter,storedAfter]
    split
    · next found peer hfound => exact findPeerInRoster_move hfound
    · exact .stays
  | refreshMembership hub =>
    simp only [nodeAfter,storedAfter]
    split
    · next refreshed state hrefresh => exact refreshMembership_move hrefresh
    · exact .stays
  | logout hub store =>
    simp only [nodeAfter,storedAfter]
    cases hlogout : device.node.logout hub store with
    | ok node => exact logout_move hlogout
    | err e => exact .stays
    | panic m => exact .stays
  | rosterCosign roster => exact .stays

/-- What the node holds in memory agrees with what the store holds. -/
structure DeviceInvariant (device : Device C) : Prop where
  /-- The key is that of the root key. -/
  derived : device.node.signingKey=deriveFromRootKey C device.node.persisted.rootKey
  /-- The registration acted under is the persisted one, and the saved one. -/
  registered : ∀ registration,device.node.inner.registration=some registration →
    device.node.persisted.registration=some registration ∧
      device.stored=some ⟨device.node.persisted.rootKey,some registration⟩
  /-- Without one, no registration is saved. -/
  pending : device.node.inner.registration=none →
    device.stored=none ∨ device.stored=some ⟨device.node.persisted.rootKey,none⟩

/-- The cached roster verifies for the node's own number and key. -/
def CacheVerified (node : Node C) : Prop :=
  ∀ registration roster,node.inner=.activated registration roster →
    ∃ keys,verifyRoster C roster registration.nodeNumber (C.publicKeySpki node.signingKey)=.ok keys

/-- Every move keeps memory and store in step. -/
theorem DeviceMove.invariant {before after : Device C} (h : DeviceMove before after)
    (inv : DeviceInvariant before) : DeviceInvariant after := by
  cases h with
  | stays => exact inv
  | unsaved registration pending =>
    have hnone : before.node.inner.registration=none := by
      rw [pending]
      rfl
    refine ⟨inv.derived,?_,inv.pending⟩
    intro found hfound
    cases hnone.symm.trans hfound
  | registered registration =>
    refine ⟨inv.derived,?_,?_⟩
    · intro found hfound
      obtain rfl := Option.some.inj hfound
      exact ⟨rfl,rfl⟩
    · intro hnone
      cases hnone
  | accepted registration roster keys own verified =>
    refine ⟨inv.derived,?_,?_⟩
    · intro found hfound
      obtain rfl := Option.some.inj hfound
      exact inv.registered registration own
    · intro hnone
      cases hnone
  | revoked registration base payload own next revoker other active =>
    refine ⟨inv.derived,?_,?_⟩
    · intro found hfound
      obtain rfl := Option.some.inj hfound
      refine inv.registered registration ?_
      rw [own]
      rfl
    · intro hnone
      cases hnone
  | demoted registration inner own demotes =>
    have hkept : inner.registration=some registration := by
      rcases demotes with rfl|rfl
      · rfl
      · rfl
    refine ⟨inv.derived,?_,?_⟩
    · intro found hfound
      obtain rfl := Option.some.inj (hkept.symm.trans hfound)
      exact inv.registered registration own
    · intro hnone
      cases hkept.symm.trans hnone
  | cleared =>
    refine ⟨inv.derived,?_,fun _ => .inl rfl⟩
    intro found hfound
    cases hfound

/-- A revocation written by an active node verifies for that node. -/
theorem revokedRoster_verified {key : C.SigningKey} (hkey : KeyWorks C key) {base : Roster}
    {nodeNumber : Int32} {keys : Keys C} {payload : RevocationPayload}
    (hbase : verifyRoster C base nodeNumber (C.publicKeySpki key)=.ok keys)
    (hnext : (addOne base.version : Outcome Empty Int64)=.ok payload.version)
    (hrevoker : payload.revokerNodeNumber=nodeNumber)
    (hother : payload.revokedNodeNumber≠nodeNumber)
    (hactive : ∃ entry∈activeNodes base,entry.nodeNumber=payload.revokedNodeNumber) :
    ∃ keys',verifyRoster C (revokedRoster C key base payload) nodeNumber (C.publicKeySpki key)=
      .ok keys' := by
  obtain ⟨found,hfound,hbuilt,hkeys,hself⟩ := verifyRoster_eq_ok.mp hbase
  obtain rfl := Except.ok.inj (hkey.decodes.symm.trans hfound)
  obtain ⟨entry,hentry,hnumber⟩ := hactive
  obtain ⟨hm,hr⟩ := List.mem_filter.mp hentry
  obtain ⟨revokedKey,hrevokedKey⟩ := hbuilt.invariant.keys entry hm
  have hrevoked : ActiveWithKey C base payload.revokedNodeNumber revokedKey :=
    ⟨entry,hm,hnumber,by simpa using hr,hrevokedKey⟩
  have facts : RevocationFacts C base payload
      (C.sign key (signingHash C (revocationState base payload (unsignedRevocation payload))))
      (C.verifyingKey key) revokedKey :=
    ⟨hnext,hrevoker ▸ hself,hrevoked,hkey.verifies _⟩
  have hstep : HonestStep C base (revokedRoster C key base payload) :=
    (honestStep_iff C _ _).mpr (.inr ⟨payload,_,_,_,facts,rfl⟩)
  have hkeys' := @revocationState_activeKeys C base payload keys hbuilt.invariant.distinct hkeys
    (signedRevocation payload
      (C.sign key (signingHash C (revocationState base payload (unsignedRevocation payload)))))
  refine ⟨_,verifyRoster_eq_ok.mpr ⟨_,hkey.decodes,.step hbuilt hstep,hkeys',?_⟩⟩
  refine (hkeys' nodeNumber _).mp ?_
  rw [Finmap.lookup_erase_ne hother.symm]
  exact (hkeys nodeNumber _).mpr hself

/-- Every move keeps the cache verified. -/
theorem DeviceMove.cacheVerified {before after : Device C} (h : DeviceMove before after)
    (hkey : KeyWorks C before.node.signingKey) (hcache : CacheVerified before.node) :
    CacheVerified after.node := by
  cases h with
  | stays => exact hcache
  | unsaved registration pending =>
    intro found roster hinner
    exact hcache found roster hinner
  | registered registration =>
    intro found roster hinner
    cases hinner
  | accepted registration roster keys own verified =>
    intro found cached hinner
    obtain ⟨rfl,rfl⟩ := InnerState.activated.inj hinner
    exact ⟨keys,verified⟩
  | revoked registration base payload own next revoker other active =>
    intro found cached hinner
    obtain ⟨rfl,rfl⟩ := InnerState.activated.inj hinner
    obtain ⟨keys,hbase⟩ := hcache registration base own
    exact revokedRoster_verified hkey hbase next revoker other active
  | demoted registration inner own demotes =>
    intro found cached hinner
    rcases demotes with rfl|rfl
    · cases hinner
    · cases hinner
  | cleared =>
    intro found cached hinner
    cases hinner

/-- The device after a restore: what was loaded, or the fresh identity that was saved. -/
def restoredDevice (contents : Option PersistedNodeState) (freshRootKey : Bytes) (node : Node C) :
    Device C :=
  ⟨node,some (contents.getD ⟨freshRootKey,none⟩)⟩

/-- A restored device is in step and its cache verifies. -/
theorem restoreOrInitNode_device {contents : Option PersistedNodeState}
    {save : PersistedNodeState→Except StorageError Unit} {freshRootKey : Bytes} {hub : Hub}
    {node : Node C} (h : restoreOrInitNode C (.ok contents) save freshRootKey hub=.ok node) :
    DeviceInvariant (restoredDevice contents freshRootKey node) ∧ CacheVerified node := by
  have hpending : ∀ state : PersistedNodeState,state.registration=none →
      DeviceInvariant ⟨Node.newPending C state,some state⟩ ∧
        CacheVerified (Node.newPending C state) := by
    rintro ⟨rootKey,registration⟩ hnone
    dsimp only at hnone
    subst hnone
    refine ⟨⟨rfl,?_,fun _ => .inr rfl⟩,?_⟩
    · intro registration hfound
      cases hfound
    · intro registration roster hinner
      cases hinner
  have hheld : ∀ (state : PersistedNodeState) (registration : NodeRegistration) (inner : InnerState),
      state.registration=some registration → inner.registration=some registration →
      DeviceInvariant ⟨⟨inner,state,deriveFromRootKey C state.rootKey⟩,some state⟩ := by
    rintro ⟨rootKey,stored⟩ registration inner hsome hown
    dsimp only at hsome
    subst hsome
    refine ⟨rfl,?_,?_⟩
    · intro found hfound
      obtain rfl := Option.some.inj (hown.symm.trans hfound)
      exact ⟨rfl,rfl⟩
    · intro hnone
      cases hown.symm.trans hnone
  cases contents with
  | none =>
    simp only [restoreOrInitNode,Outcome.ofExcept,Outcome.mapErr,Outcome.ok_bind,
      Outcome.bind_eq_ok,Outcome.pure_eq_ok,Outcome.ok.injEq] at h
    obtain ⟨_,_,rfl⟩ := h
    exact hpending _ rfl
  | some state =>
    simp only [restoreOrInitNode,Outcome.ofExcept,Outcome.mapErr,Outcome.ok_bind] at h
    cases hstored : state.registration with
    | none =>
      rw [hstored] at h
      obtain rfl := Outcome.ok.inj h
      exact hpending state hstored
    | some registration =>
      simp only [hstored,Outcome.bind_eq_ok] at h
      obtain ⟨_,_,roster,_,h⟩ := h
      split at h
      · split at h
        · next keys hkeys =>
          simp only [Node.newActivated,hstored,Outcome.expect,Outcome.ok_bind,Outcome.pure_eq_ok,
            Outcome.ok.injEq] at h
          subst h
          refine ⟨hheld state registration _ hstored rfl,?_⟩
          intro found cached hinner
          obtain ⟨rfl,rfl⟩ := InnerState.activated.inj hinner
          exact ⟨keys,hkeys⟩
        · simp only [Node.newRevoked,hstored,Outcome.expect,Outcome.ok_bind,Outcome.pure_eq_ok,
            Outcome.ok.injEq] at h
          subst h
          refine ⟨hheld state registration _ hstored rfl,?_⟩
          intro found cached hinner
          cases hinner
        · cases h
        · cases h
      · simp only [Node.newRegistered,hstored,Outcome.okOr,Outcome.ok_bind,Outcome.pure_eq_ok,
          Outcome.ok.injEq] at h
        subst h
        refine ⟨hheld state registration _ hstored rfl,?_⟩
        intro found cached hinner
        cases hinner

/-- The runs of a device from a restore. -/
abbrev DeviceRun (start : Device C) : List NodeCall→Device C→Prop :=
  Run (fun _ before call after => after=deviceAfter before call) start

/-- Every run keeps memory and store in step. -/
theorem DeviceRun.invariant {start device : Device C} {log : List NodeCall}
    (run : DeviceRun start log device) (hstart : DeviceInvariant start) :
    DeviceInvariant device := by
  refine Run.invariant (motive := fun _ device => DeviceInvariant device) hstart ?_ run
  rintro _ before call after _ ih rfl
  exact (deviceAfter_move before call).invariant ih

/-- A device keeps its key. -/
theorem DeviceRun.signingKey {start device : Device C} {log : List NodeCall}
    (run : DeviceRun start log device) : device.node.signingKey=start.node.signingKey := by
  refine Run.invariant (motive := fun _ device => device.node.signingKey=start.node.signingKey)
    rfl ?_ run
  rintro _ before call after _ ih rfl
  exact (nodeAfter_signingKey before.node call).trans ih

/-- Every run keeps the cache verified. -/
theorem DeviceRun.cacheVerified {start device : Device C} {log : List NodeCall}
    (run : DeviceRun start log device) (hkey : KeyWorks C start.node.signingKey)
    (hstart : CacheVerified start.node) : CacheVerified device.node := by
  refine Run.invariant (motive := fun _ device => CacheVerified device.node) hstart ?_ run
  rintro _ before call after earlier ih rfl
  have hsame := DeviceRun.signingKey earlier
  exact (deviceAfter_move before call).cacheVerified (hsame ▸ hkey) ih

/-- A device in step logs out without panic, versions that overflow apart. -/
theorem logout_panic {device : Device C} (inv : DeviceInvariant device) {hub : Hub} {store : Store}
    {m : String} (h : device.node.logout hub store=.panic m) : m="attempt to add with overflow" := by
  have hderegister : ∀ registration,(deregister hub registration).NoPanic := by
    intro registration
    unfold deregister
    split
    · exact Outcome.noPanic_ok _
    · split
      · exact Outcome.noPanic_ok _
      · exact Outcome.noPanic_err _
  have hleave : ∀ registration,device.node.inner.registration=some registration →
      (do
        let registration ← Outcome.expect device.node.persisted.registration "registered"
        hubReply hub.connect
        deregister hub registration : Outcome NodeStateError Unit).NoPanic := by
    intro registration hown
    rw [(inv.registered registration hown).1]
    exact (hubReply_noPanic _).bind fun _ _ => hderegister registration
  rw [Node.logout,Outcome.bind_eq_panic] at h
  rcases h with h|⟨_,_,h⟩
  · unfold Node.leaveHub at h
    split at h
    · cases h
    · next registration base hinner =>
      rw [Outcome.bind_eq_panic] at h
      rcases h with h|⟨_,_,h⟩
      · exact absurd h Outcome.reject_ne_panic
      · rw [Outcome.bind_eq_panic] at h
        rcases h with h|⟨_,_,h⟩
        · exact absurd h (hubReply_noPanic _ m)
        · split at h
          · exact absurd h (hderegister registration m)
          · split at h
            · cases h
            · cases h
          · next hsubmit =>
            obtain rfl := Outcome.panic.inj h
            exact submitRevocation_panic hsubmit
    · next hpending hactivated =>
      cases hinner : device.node.inner with
      | pending => exact absurd hinner hpending
      | activated registration base => exact absurd hinner (hactivated registration base)
      | registered registration =>
        have hown : device.node.inner.registration=some registration := by
          rw [hinner]
          rfl
        exact absurd h (hleave registration hown m)
      | revoked registration =>
        have hown : device.node.inner.registration=some registration := by
          rw [hinner]
          rfl
        exact absurd h (hleave registration hown m)
  · have hdelete : (do
        (Outcome.ofExcept store.delete).mapErr .store
        pure ⟨.pending,{device.node.persisted with registration := none},
          device.node.signingKey⟩ : Outcome NodeStateError (Node C)).NoPanic :=
      (Outcome.noPanic_mapErr.mpr (Outcome.noPanic_ofExcept _)).bind fun _ _ => Outcome.noPanic_ok _
    exact absurd h (hdelete m)

end Moves

/-- A device in step whose key decodes connects without panic. -/
theorem connect_noPanic {C : PeerCrypto} {device : Device C.toCrypto}
    (inv : DeviceInvariant device) (hkey : KeyWorks C.toCrypto device.node.signingKey)
    (peerNodeNumber : Int32) (transport : Transport) (env : CallEnvironment) :
    (Node.connect device.node peerNodeNumber transport env).2.NoPanic := by
  have hstart : (Node.startCall device.node peerNodeNumber transport env).2.NoPanic := by
    unfold Node.startCall
    dsimp only
    split
    · refine (Outcome.noPanic_mapErr.mpr (Outcome.noPanic_ofExcept _)).bind fun _ _ => ?_
      refine (Outcome.noPanic_mapErr.mpr (Outcome.noPanic_ofExcept _)).bind fun _ _ => ?_
      exact Outcome.noPanic_ok _
    · exact Outcome.noPanic_err _
    · next m hpanic =>
      have hfound : (do
          Outcome.reject (device.node.state≠.activated) (.p2p .notActivated)
          let registration ← Outcome.expect device.node.persisted.registration "activated"
          (Outcome.ofExcept env.hub.connect).mapErr fun e => .p2p (.hub e)
          let found ← (device.node.findPeerInRoster peerNodeNumber env.hub).mapErr .p2p
          pure (registration,found.1,found.2) :
          Outcome ConnectError (NodeRegistration×Node C.toCrypto×RosterNode)).NoPanic := by
        refine (Outcome.noPanic_reject _ _).bind fun _ hstate => ?_
        have hactivated : device.node.state=.activated := by simpa using hstate
        obtain ⟨registration,roster,hinner⟩ := state_eq_activated.mp hactivated
        have hown : device.node.inner.registration=some registration := by
          rw [hinner]
          rfl
        rw [(inv.registered registration hown).1]
        refine (Outcome.noPanic_mapErr.mpr (Outcome.noPanic_ofExcept _)).bind fun _ _ => ?_
        refine (Outcome.noPanic_mapErr.mpr
          (findPeerInRoster_noPanic ⟨_,hkey.decodes⟩ _ _)).bind fun _ _ => ?_
        exact Outcome.noPanic_ok _
      exact absurd hpanic (hfound m)
  unfold Node.connect
  dsimp only
  refine hstart.bind fun call _ => ?_
  refine (Outcome.noPanic_mapErr.mpr (Outcome.noPanic_ofExcept _)).bind fun response _ => ?_
  refine Outcome.NoPanic.bind ?_ fun key _ => ?_
  · unfold PeerCall.complete
    refine Outcome.NoPanic.bind ?_ fun payload _ => ?_
    · exact Outcome.noPanic_mapErr.mpr verifySigned_noPanic
    · exact (Outcome.noPanic_reject _ _).bind fun _ _ => Outcome.noPanic_ok _
  · exact (Outcome.noPanic_mapErr.mpr (Outcome.noPanic_ofExcept _)).bind
      fun _ _ => Outcome.noPanic_ok _

/-- Over every run from a restore, the cached roster of an activated node verifies for
its number and key, a node that is not pending holds the persisted registration, and
neither logging out nor connecting fails for want of a registration. -/
theorem node_invariant (C : PeerCrypto) (contents : Option PersistedNodeState)
    (save : PersistedNodeState→Except StorageError Unit) (freshRootKey : Bytes) (hub : Hub)
    (start : Node C.toCrypto) (hstart : restoreOrInitNode C.toCrypto (.ok contents) save
      freshRootKey hub=.ok start) (hkey : KeyWorks C.toCrypto start.signingKey)
    (log : List NodeCall) (device : Device C.toCrypto)
    (run : DeviceRun (restoredDevice contents freshRootKey start) log device) :
    (device.node.state=.activated → ∃ registration roster keys,
      device.node.inner=.activated registration roster ∧
      verifyRoster C.toCrypto roster registration.nodeNumber
        (C.publicKeySpki device.node.signingKey)=.ok keys) ∧
    (device.node.state≠.pending → ∃ registration,
      device.node.persisted.registration=some registration ∧
      device.node.inner.registration=some registration) ∧
    (∀ hub store,device.node.logout hub store≠.panic "registered") ∧
    ∀ peerNodeNumber env,
      (Node.connectUdp device.node peerNodeNumber env).2≠.panic "activated" ∧
      (Node.connectQuic device.node peerNodeNumber env).2≠.panic "activated" := by
  obtain ⟨hinvariant,hcache⟩ := restoreOrInitNode_device hstart
  have inv := DeviceRun.invariant run hinvariant
  have hverified := DeviceRun.cacheVerified run hkey hcache
  have hworks : KeyWorks C.toCrypto device.node.signingKey := DeviceRun.signingKey run ▸ hkey
  refine ⟨?_,?_,?_,?_⟩
  · intro hstate
    obtain ⟨registration,roster,hinner⟩ := state_eq_activated.mp hstate
    obtain ⟨keys,hkeys⟩ := hverified registration roster hinner
    exact ⟨registration,roster,keys,hinner,hkeys⟩
  · intro hstate
    cases hown : device.node.inner.registration with
    | none => exact absurd (state_eq_pending.mpr (registration_eq_none.mp hown)) hstate
    | some registration => exact ⟨registration,(inv.registered registration hown).1,rfl⟩
  · intro hub store hpanic
    exact absurd (logout_panic inv hpanic) (by decide)
  · intro peerNodeNumber env
    exact ⟨connect_noPanic inv hworks peerNodeNumber .datagram env "activated",
      connect_noPanic inv hworks peerNodeNumber .stream env "activated"⟩

/-- Sealed signatures verify under their keys. -/
theorem sealedCrypto_keyWorks (key : UInt8) : KeyWorks sealedCrypto.toCrypto key :=
  ⟨rfl,sealSignature_verifies key⟩

/-- What node 2 of the trio has saved. -/
def secondContents : PersistedNodeState := ⟨[2],some secondRegistration⟩

/-- Node 2 as a restore finds it. -/
def restoredSecond : Node sealedCrypto.toCrypto :=
  ⟨.activated secondRegistration sealedTrio,secondContents,(2 : UInt8)⟩

/-- A restore whose roster from the hub lists the node and verifies activates it. -/
theorem restoreOrInitNode_verified {C : Crypto} {save : PersistedNodeState→Except StorageError Unit}
    {freshRootKey : Bytes} {hub : Hub} {state : PersistedNodeState}
    {registration : NodeRegistration} {roster : Roster} {keys : Keys C}
    (hregistered : state.registration=some registration) (hconnect : hub.connect=.ok ())
    (hroster : hub.getUnverifiedRoster registration=.ok roster)
    (hlisted : roster.nodes.any (fun n => n.nodeNumber==registration.nodeNumber)=true)
    (hverified : verifyRoster C roster registration.nodeNumber
      (C.publicKeySpki (deriveFromRootKey C state.rootKey))=.ok keys) :
    restoreOrInitNode C (.ok (some state)) save freshRootKey hub=
      Node.newActivated C state roster := by
  unfold restoreOrInitNode
  simp only [Outcome.ofExcept,Outcome.mapErr,Outcome.ok_bind,hregistered,hubReply,hconnect,hroster,
    if_pos hlisted,hverified]

/-- A restore with the trio's roster finds it so. -/
theorem restoreOrInitNode_second :
    restoreOrInitNode sealedCrypto.toCrypto (.ok (some secondContents)) (fun _ => .ok ()) []
      (relayingHub sealedTrio none)=.ok restoredSecond := by
  obtain ⟨keys,hkeys⟩ := sealedTrio_accepted
  have hlisted : sealedTrio.nodes.any
      (fun n => n.nodeNumber==secondRegistration.nodeNumber)=true := by decide +kernel
  have hown : verifyRoster sealedCrypto.toCrypto sealedTrio secondRegistration.nodeNumber
      (sealedCrypto.publicKeySpki (deriveFromRootKey sealedCrypto.toCrypto secondContents.rootKey))=
        .ok keys := hkeys
  exact restoreOrInitNode_verified rfl rfl rfl hlisted hown

/-- Node 2 revokes node 3 and goes on with the roster it wrote. -/
theorem node_invariant_revoking :
    ∃ (device : Device sealedCrypto.toCrypto) (registration : NodeRegistration) (roster : Roster)
      (keys : Keys sealedCrypto.toCrypto),
      DeviceRun (restoredDevice (some secondContents) [] restoredSecond)
        [.revokeNode 3 (relayingHub sealedTrio (some sealedTrio))] device ∧
      device.node.inner=.activated registration roster ∧ roster.version=3 ∧
      verifyRoster sealedCrypto.toCrypto roster registration.nodeNumber
        (sealedCrypto.publicKeySpki device.node.signingKey)=.ok keys := by
  let start := restoredDevice (some secondContents) [] restoredSecond
  let call : NodeCall := .revokeNode 3 (relayingHub sealedTrio (some sealedTrio))
  have run : DeviceRun start ([]++[call]) (deviceAfter start call) := .next .start rfl
  have hinvariant := node_invariant sealedCrypto (some secondContents) (fun _ => .ok ()) []
    (relayingHub sealedTrio none) restoredSecond restoreOrInitNode_second
    (sealedCrypto_keyWorks 2) ([]++[call]) (deviceAfter start call) run
  have hactive : (activeNodes sealedTrio).any (fun n => n.nodeNumber==3)=true := by decide +kernel
  have hnode : (deviceAfter start call).node.inner=.activated secondRegistration
      (revokedRoster sealedCrypto.toCrypto (2 : UInt8) sealedTrio ⟨3,3,2⟩) := by
    have hcall := @revokeNode_revokes sealedCrypto.toCrypto restoredSecond secondRegistration
      sealedTrio sealedTrio 3 (relayingHub sealedTrio (some sealedTrio)) 3 rfl (by decide) hactive
      rfl rfl rfl
    exact congrArg (fun result => (result.valueOr restoredSecond).inner) hcall
  obtain ⟨registration,roster,keys,hinner,hkeys⟩ :=
    hinvariant.1 (state_eq_activated.mpr ⟨_,_,hnode⟩)
  obtain ⟨_,rfl⟩ := InnerState.activated.inj (hnode.symm.trans hinner)
  exact ⟨deviceAfter start call,registration,_,keys,run,hinner,rfl,hkeys⟩

end WispersConnect.DeviceRuns
