import WispersConnect.DeviceRuns

/-!
# What a failed registration leaves behind

`register` puts the registration into the persisted data, saves it, and only then
changes the state. When saving fails, the data keeps the registration while the
node stays pending, and the two observers of a registration, one of the data and
one of the state, disagree from then on.
-/

namespace WispersConnect.RegistrationRuns

open Messages OutcomeMonad Cryptography RosterVerification NodeLifecycle ActivationSteps
open KeyHistories DeviceRuns Runs SymbolicCrypto PeerEncoding

/-- `PersistedNodeState::is_registered`. -/
def PersistedNodeState.isRegistered (persisted : PersistedNodeState) : Bool :=
  persisted.registration.isSome

section Observers

variable {C : Crypto}

/-- `is_registered`. -/
def Node.isRegistered (node : Node C) : Bool := PersistedNodeState.isRegistered node.persisted

/-- `registration`. -/
def Node.registration (node : Node C) : Option NodeRegistration := node.inner.registration

/-- The registration of the data is that of the state. -/
def Agrees (node : Node C) : Prop := node.persisted.registration=node.inner.registration

/-- The two observers of a node say what its state says. -/
structure ObserversAgree (node : Node C) : Prop where
  /-- `is_registered` holds unless the node is pending. -/
  state : Node.isRegistered node=true ↔ node.state≠.pending
  /-- `is_registered` holds when there is a registration. -/
  registration : Node.isRegistered node=(Node.registration node).isSome

/-- The observers of a node whose data agrees with its state agree. -/
theorem Agrees.observers {node : Node C} (h : Agrees node) : ObserversAgree node := by
  refine ⟨?_,congrArg Option.isSome h⟩
  rw [Node.isRegistered,PersistedNodeState.isRegistered,h,ne_eq,state_eq_pending,
    ←registration_eq_none,Option.isSome_iff_ne_none]

/-- A registration that the hub completes and the store does not save. -/
structure SaveFails (node : Node C) (token : String) (hub : Hub) (store : Store) : Prop where
  /-- The node is pending. -/
  pending : node.state=.pending
  /-- The hub is there. -/
  connects : hub.connect=.ok ()
  /-- It completes the registration, and the save of it fails. -/
  unsaved : ∃ registration,hub.completeRegistration token=.ok registration ∧
    ∃ e,store.save {node.persisted with registration := some registration}=.error e

/-- A registration that cannot be saved is returned as an error, and kept in the data. -/
theorem SaveFails.register {node : Node C} {token : String} {hub : Hub} {store : Store}
    (h : SaveFails node token hub store) :
    ∃ registration e,node.register token hub store=
      ({node with persisted := {node.persisted with registration := some registration}},
        .err (.store e)) := by
  obtain ⟨hpending,hconnect,registration,hcomplete,e,hsave⟩ := h
  refine ⟨registration,e,?_⟩
  have hreply : (do
      node.requirePending
      hubReply hub.connect
      hubReply (hub.completeRegistration token) : Outcome NodeStateError NodeRegistration)=
        .ok registration := by
    simp only [Node.requirePending,hpending,hconnect,hcomplete,Outcome.bind_eq_ok,hubReply_eq_ok,
      Outcome.reject_eq_ok]
    exact ⟨(),by simp,(),trivial,trivial⟩
  unfold Node.register
  simp only [hreply,hsave]

/-- Otherwise it succeeds and moves the node to the registered state, or changes nothing. -/
theorem register_cases {node : Node C} {token : String} {hub : Hub} {store : Store}
    (h : ¬SaveFails node token hub store) :
    (∃ registration,node.register token hub store=
      (⟨.registered registration,{node.persisted with registration := some registration},
        node.signingKey⟩,.ok ())) ∨
    (node.register token hub store).1=node := by
  unfold Node.register
  dsimp only
  split
  · next registration hreply =>
    split
    · exact .inl ⟨registration,rfl⟩
    · next e hsave =>
      simp only [Node.requirePending,Outcome.bind_eq_ok,Outcome.reject_eq_ok,hubReply_eq_ok,ne_eq,
        not_not] at hreply
      obtain ⟨_,hpending,_,hconnect,hcomplete⟩ := hreply
      exact absurd ⟨hpending,hconnect,registration,hcomplete,e,hsave⟩ h
  · exact .inr rfl
  · exact .inr rfl

/-- A registration whose save does not fail keeps the data in agreement. -/
theorem register_agrees {node : Node C} {token : String} {hub : Hub} {store : Store}
    (h : ¬SaveFails node token hub store) (hagrees : Agrees node) :
    Agrees (node.register token hub store).1 := by
  rcases register_cases h with ⟨registration,hregister⟩|hsame
  · rw [hregister]
    rfl
  · rw [hsame]
    exact hagrees

/-- Every other call changes the state only, or resets the node. -/
theorem nodeAfter_persisted (node : Node C) {call : NodeCall}
    (hcall : ∀ token hub store,call≠.register token hub store) :
    (nodeAfter node call).persisted=node.persisted ∨
      (nodeAfter node call).inner=.pending ∧ (nodeAfter node call).persisted.registration=none := by
  have hkeep := @Outcome.valueOr_of_ok NodeStateError (Node C)
    fun node' => node'.persisted=node.persisted
  cases call with
  | register token hub store => exact absurd rfl (hcall token hub store)
  | activate activationCode nonce hub =>
    refine .inl (hkeep (fun node' h => ?_) rfl)
    obtain ⟨_,_,_,_,_,_,_,rfl⟩ := activate_eq_ok h
    rfl
  | revokeNode targetNodeNumber hub =>
    exact .inl (hkeep (fun node' h => (revokeNode_frame h).1) rfl)
  | findPeerInRoster peerNodeNumber hub =>
    simp only [nodeAfter]
    split
    · next found peer h => exact .inl (findPeerInRoster_frame h).1
    · exact .inl rfl
  | refreshMembership hub =>
    simp only [nodeAfter]
    split
    · next refreshed state h => exact .inl (refreshMembership_frame h).1
    · exact .inl rfl
  | logout hub store =>
    simp only [nodeAfter]
    cases hlogout : node.logout hub store with
    | ok node' =>
      simp only [Node.logout,Outcome.bind_eq_ok,Outcome.pure_eq_ok,Outcome.ok.injEq] at hlogout
      obtain ⟨_,_,_,_,rfl⟩ := hlogout
      exact .inr ⟨rfl,rfl⟩
    | err e => exact .inl rfl
    | panic m => exact .inl rfl
  | rosterCosign roster => exact .inl rfl

/-- A move that leaves the data alone keeps it in agreement. -/
theorem DeviceMove.agrees {before after : Device C} (h : DeviceMove before after)
    (hkept : after.node.persisted=before.node.persisted) (hagrees : Agrees before.node) :
    Agrees after.node := by
  rw [Agrees] at hagrees
  cases h with
  | stays => exact hagrees
  | unsaved registration pending =>
    rw [Agrees,hkept]
    exact hagrees
  | registered registration => rfl
  | accepted registration roster keys own verified => exact hagrees.trans own
  | revoked registration base payload own next revoker other active =>
    rw [own] at hagrees
    exact hagrees
  | demoted registration inner own demotes =>
    rcases demotes with rfl|rfl
    · exact hagrees.trans own
    · exact hagrees.trans own
  | cleared => rfl

/-- Every call keeps the data in agreement, a registration that cannot be saved apart. -/
theorem deviceAfter_agrees {device : Device C} {call : NodeCall}
    (hsaved : ∀ token hub store,call=.register token hub store →
      ¬SaveFails device.node token hub store)
    (hagrees : Agrees device.node) : Agrees (deviceAfter device call).node := by
  by_cases hcall : ∃ token hub store,call=.register token hub store
  · obtain ⟨token,hub,store,rfl⟩ := hcall
    exact register_agrees (hsaved token hub store rfl) hagrees
  · have hother : ∀ token hub store,call≠.register token hub store :=
      fun token hub store h => hcall ⟨token,hub,store,h⟩
    have hafter : (deviceAfter device call).node=nodeAfter device.node call := rfl
    rcases nodeAfter_persisted device.node hother with hkept|⟨hpending,hnone⟩
    · exact DeviceMove.agrees (deviceAfter_move device call) hkept hagrees
    · rw [Agrees,hafter,hpending,hnone]
      rfl

/-- A restored node holds what was loaded, or the fresh identity. -/
theorem restoreOrInitNode_agrees {contents : Option PersistedNodeState}
    {save : PersistedNodeState→Except StorageError Unit} {freshRootKey : Bytes} {hub : Hub}
    {node : Node C} (h : restoreOrInitNode C (.ok contents) save freshRootKey hub=.ok node) :
    Agrees node := by
  cases contents with
  | none =>
    simp only [restoreOrInitNode,Outcome.ofExcept,Outcome.mapErr,Outcome.ok_bind,
      Outcome.bind_eq_ok,Outcome.pure_eq_ok,Outcome.ok.injEq] at h
    obtain ⟨_,_,rfl⟩ := h
    rfl
  | some state =>
    simp only [restoreOrInitNode,Outcome.ofExcept,Outcome.mapErr,Outcome.ok_bind] at h
    cases hstored : state.registration with
    | none =>
      rw [hstored] at h
      obtain rfl := Outcome.ok.inj h
      exact hstored
    | some registration =>
      simp only [hstored,Outcome.bind_eq_ok] at h
      obtain ⟨_,_,roster,_,h⟩ := h
      split at h
      · split at h
        · simp only [Node.newActivated,hstored,Outcome.expect,Outcome.ok_bind,Outcome.pure_eq_ok,
            Outcome.ok.injEq] at h
          subst h
          exact hstored
        · simp only [Node.newRevoked,hstored,Outcome.expect,Outcome.ok_bind,Outcome.pure_eq_ok,
            Outcome.ok.injEq] at h
          subst h
          exact hstored
        · cases h
        · cases h
      · simp only [Node.newRegistered,hstored,Outcome.okOr,Outcome.ok_bind,Outcome.pure_eq_ok,
          Outcome.ok.injEq] at h
        subst h
        exact hstored

/-- Every registration of a run finds the store working once the hub has completed it. -/
def Saves (start : Device C) (log : List NodeCall) : Prop :=
  EveryStep (fun _ before call after => after=deviceAfter before call) start
    (fun before call => ∀ token hub store,call=.register token hub store →
      ¬SaveFails before.node token hub store) log

/-- While registrations are saved, the data agrees with the state. -/
theorem DeviceRun.agrees {start device : Device C} {log : List NodeCall}
    (run : DeviceRun start log device) (hsaves : Saves start log) (hstart : Agrees start.node) :
    Agrees device.node := by
  induction run with
  | start => exact hstart
  | @next log before after call earlier now ih =>
    subst now
    obtain ⟨hbefore,hlast⟩ := everyStep_concat.mp hsaves
    exact deviceAfter_agrees (hlast before earlier) (ih hbefore)

/-- In a run, a registration that returns an error leaves the node as it was, and the two
observers say what the state says in every state reached. -/
structure AllOrNothing (start : Device C) (log : List NodeCall) : Prop where
  /-- A failed registration changes nothing. -/
  unchanged : ∀ earlier before token hub store later e,
    log=earlier++NodeCall.register token hub store::later → DeviceRun start earlier before →
    (before.node.register token hub store).2=.err e →
      (before.node.register token hub store).1=before.node
  /-- The observers agree. -/
  observers : ∀ earlier reached later,log=earlier++later → DeviceRun start earlier reached →
    ObserversAgree reached.node

end Observers

/-- In every run from a restore, a failed registration leaves the node as it was and the
observers agree with the state, if and only if no registration that the hub completed for a
pending node failed to be saved. -/
theorem register_all_or_nothing (C : Crypto) (contents : Option PersistedNodeState)
    (save : PersistedNodeState→Except StorageError Unit) (freshRootKey : Bytes) (hub : Hub)
    (start : Node C) (hstart : restoreOrInitNode C (.ok contents) save freshRootKey hub=.ok start)
    (log : List NodeCall) :
    AllOrNothing (restoredDevice contents freshRootKey start) log ↔
      Saves (restoredDevice contents freshRootKey start) log := by
  constructor
  · rintro h earlier before call later hlog run token hub store rfl hfails
    obtain ⟨registration,e,hregister⟩ := hfails.register
    have hagrees := h.observers earlier before _ hlog run
    have hsame := h.unchanged earlier before token hub store later _ hlog run (by rw [hregister])
    rw [hregister] at hsame
    have hsome : before.node.persisted.registration=some registration :=
      (congrArg (fun node => node.persisted.registration) hsame).symm
    refine hagrees.state.mp ?_ hfails.pending
    rw [Node.isRegistered,PersistedNodeState.isRegistered,hsome]
    rfl
  · intro h
    refine ⟨?_,?_⟩
    · intro earlier before token hub store later e hlog run herr
      rcases register_cases (h earlier before _ later hlog run token hub store rfl) with
        ⟨registration,hregister⟩|hsame
      · rw [hregister] at herr
        cases herr
      · exact hsame
    · intro earlier reached later hlog run
      have hbefore : Saves (restoredDevice contents freshRootKey start) earlier := by
        rw [hlog] at h
        exact h.of_append
      exact (DeviceRun.agrees run hbefore (restoreOrInitNode_agrees hstart)).observers

/-- A fresh node. -/
def freshNode : Node sealedCrypto.toCrypto := Node.newPending _ ⟨[2],none⟩

/-- A hub that completes the registration of node 2. -/
def registeringHub : Hub :=
  {relayingHub sealedTrio none with completeRegistration := fun _ => .ok secondRegistration}

/-- A restore without a saved node makes the fresh one. -/
theorem restoreOrInitNode_fresh :
    restoreOrInitNode sealedCrypto.toCrypto (.ok none) (fun _ => .ok ()) [2] registeringHub=
      .ok freshNode := rfl

/-- A fresh node that registers with a working store. -/
theorem register_all_or_nothing_saved :
    AllOrNothing (restoredDevice none [2] freshNode)
      [.register "token" registeringHub ⟨fun _ => .ok (),.ok ()⟩] := by
  refine (register_all_or_nothing sealedCrypto.toCrypto none (fun _ => .ok ()) [2] registeringHub
    freshNode restoreOrInitNode_fresh _).mpr ?_
  rintro earlier before call later hlog _ token hub store rfl hfails
  have hmem : NodeCall.register token hub store∈
      [NodeCall.register "token" registeringHub ⟨fun _ => .ok (),.ok ()⟩] := by
    rw [hlog]
    simp
  obtain ⟨rfl,rfl,rfl⟩ := NodeCall.register.inj (List.mem_singleton.mp hmem)
  obtain ⟨_,_,_,hsave⟩ := hfails.unsaved
  cases hsave

/-- A store that saves nothing. -/
def failingStore : Store := ⟨fun _ => .error (.io "disk full"),.ok ()⟩

/-- A fresh node that registers while the store fails returns an error, is changed by it, and
is registered by one observer and pending without a registration by the others. -/
theorem register_keeps_unsaved :
    restoreOrInitNode sealedCrypto.toCrypto (.ok none) (fun _ => .ok ()) [2] registeringHub=
      .ok freshNode ∧
    ¬AllOrNothing (restoredDevice none [2] freshNode)
      [.register "token" registeringHub failingStore] ∧
    ∃ node e,freshNode.register "token" registeringHub failingStore=(node,.err e) ∧
      node≠freshNode ∧ Node.isRegistered node=true ∧ node.state=.pending ∧
      Node.registration node=none := by
  have hchanged : (freshNode.register "token" registeringHub failingStore).1≠freshNode := by
    intro hsame
    have hsome : some secondRegistration=none :=
      congrArg (fun node : Node sealedCrypto.toCrypto => node.persisted.registration) hsame
    cases hsome
  refine ⟨restoreOrInitNode_fresh,fun h => ?_,_,_,rfl,hchanged,rfl,rfl,rfl⟩
  exact hchanged (h.unchanged [] _ "token" registeringHub failingStore [] _ rfl .start rfl)

end WispersConnect.RegistrationRuns
