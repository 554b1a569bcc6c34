import WispersConnect.DeviceRuns

/-!
# A restart and a refresh agree

A restart starts from the contents of the store, a refresh from the node in
memory. After any run the two come to the same state or error on the same answers
of the hub. Only where the store is empty does a restart save something first, and
then a failing save is its result.
-/

namespace WispersConnect.RestartAgreement

open Messages OutcomeMonad Cryptography RosterVerification NodeLifecycle KeyHistories DeviceRuns
open PeerEncoding SymbolicCrypto Runs

section Refresh

variable {C : Crypto}

/-- `refresh_membership` on the node it borrows: what it leaves there, and its result. -/
def Node.refreshInPlace (node : Node C) (hub : Hub) : Node C×Outcome NodeStateError NodeState :=
  match node.inner.registration with
  | none => (node,.ok .pending)
  | some registration =>
    let fetched : Outcome NodeStateError Roster := do
      hubReply hub.connect
      hubReply (hub.getUnverifiedRoster registration)
    match fetched with
    | .ok roster =>
      if roster.nodes.any (fun n => n.nodeNumber==registration.nodeNumber)=true then
        match verifyRoster C roster registration.nodeNumber (C.publicKeySpki node.signingKey) with
        | .ok _ => ({node with inner := .activated registration roster},.ok .activated)
        | .err (.verifierRevoked _) => ({node with inner := .revoked registration},.ok .revoked)
        | .err e => (node,.err (.rosterVerificationFailed e))
        | .panic m => (node,.panic m)
      else ({node with inner := .registered registration},.ok .registered)
    | .err e => (node,.err e)
    | .panic m => (node,.panic m)

/-- It is the refresh that the calls of a run make. -/
theorem refreshInPlace_eq (node : Node C) (hub : Hub) :
    Node.refreshInPlace node hub=match node.refreshMembership hub with
      | .ok (refreshed,state) => (refreshed,.ok state)
      | .err e => (node,.err e)
      | .panic m => (node,.panic m) := by
  unfold Node.refreshInPlace Node.refreshMembership
  cases node.inner.registration with
  | none => rfl
  | some registration =>
    dsimp only
    cases hubReply hub.connect with
    | ok _ =>
      cases hubReply (hub.getUnverifiedRoster registration) with
      | ok roster =>
        simp only [Outcome.ok_bind]
        split
        · cases verifyRoster C roster registration.nodeNumber
              (C.publicKeySpki node.signingKey) with
          | ok keys => rfl
          | err e => cases e <;> rfl
          | panic m => rfl
        · rfl
      | err e => rfl
      | panic m => rfl
    | err e => rfl
    | panic m => rfl

/-- A refresh that returns an error leaves the node as it was. -/
theorem refreshInPlace_err {node : Node C} {hub : Hub} {e : NodeStateError}
    (h : (Node.refreshInPlace node hub).2=.err e) : (Node.refreshInPlace node hub).1=node := by
  rw [refreshInPlace_eq] at h ⊢
  cases hrefresh : node.refreshMembership hub with
  | ok refreshed =>
    rw [hrefresh] at h
    cases h
  | err e => rfl
  | panic m => rfl

/-- A restart comes to the same state, with the same registration and cached roster, or
to the same error, as a refresh. -/
def Agree (restarted : Outcome NodeStateError (Node C))
    (refreshed : Node C×Outcome NodeStateError NodeState) : Prop :=
  (do
    let node ← restarted
    pure (node.state,node.inner) : Outcome NodeStateError (NodeState×InnerState))=(do
    let state ← refreshed.2
    pure (state,refreshed.1.inner))

/-- A device in step restarts and refreshes to the same end. -/
theorem restart_agrees_of_invariant {device : Device C} (inv : DeviceInvariant device)
    (save : PersistedNodeState→Except StorageError Unit) (freshRootKey : Bytes)
    (hsave : device.stored=none → save ⟨freshRootKey,none⟩=.ok ()) (hub : Hub) :
    Agree (restoreOrInitNode C (.ok device.stored) save freshRootKey hub)
      (Node.refreshInPlace device.node hub) := by
  unfold Agree Node.refreshInPlace
  cases hown : device.node.inner.registration with
  | none =>
    rw [registration_eq_none.mp hown]
    rcases inv.pending hown with hstored|hstored
    · rw [hstored]
      simp only [restoreOrInitNode,Outcome.ofExcept,Outcome.mapErr,Outcome.ok_bind,hsave hstored]
      rfl
    · rw [hstored]
      rfl
  | some registration =>
    rw [(inv.registered registration hown).2]
    simp only [restoreOrInitNode,Outcome.ofExcept,Outcome.mapErr,Outcome.ok_bind]
    rw [←inv.derived]
    cases hubReply hub.connect with
    | ok _ =>
      cases hubReply (hub.getUnverifiedRoster registration) with
      | ok roster =>
        simp only [Outcome.ok_bind]
        split
        · cases verifyRoster C roster registration.nodeNumber
              (C.publicKeySpki device.node.signingKey) with
          | ok keys => rfl
          | err e => cases e <;> rfl
          | panic m => rfl
        · rfl
      | err e => rfl
      | panic m => rfl
    | err e => rfl
    | panic m => rfl

end Refresh

/-- After every run from a restore, a restart from the store, whose own save succeeds if
it needs one, agrees with a refresh, and a refresh that errs leaves the node as it was. -/
theorem restart_agrees (C : Crypto) (contents : Option PersistedNodeState)
    (save : PersistedNodeState→Except StorageError Unit) (freshRootKey : Bytes) (hub : Hub)
    (start : Node C) (hstart : restoreOrInitNode C (.ok contents) save freshRootKey hub=.ok start)
    (log : List NodeCall) (device : Device C)
    (run : DeviceRun (restoredDevice contents freshRootKey start) log device)
    (save' : PersistedNodeState→Except StorageError Unit) (freshRootKey' : Bytes)
    (hsave : device.stored=none → save' ⟨freshRootKey',none⟩=.ok ()) (hub' : Hub) :
    Agree (restoreOrInitNode C (.ok device.stored) save' freshRootKey' hub')
      (Node.refreshInPlace device.node hub') ∧
    ∀ e,(Node.refreshInPlace device.node hub').2=.err e →
      (Node.refreshInPlace device.node hub').1=device.node := by
  have inv := DeviceRun.invariant run (restoreOrInitNode_device hstart).1
  exact ⟨restart_agrees_of_invariant inv save' freshRootKey' hsave hub',
    fun e h => refreshInPlace_err h⟩

/-- Node 2 of the trio restarts after it revoked node 3. -/
theorem restart_agrees_revoking :
    ∃ device : Device sealedCrypto.toCrypto,
      DeviceRun (restoredDevice (some secondContents) [] restoredSecond)
        [.revokeNode 3 (relayingHub sealedTrio (some sealedTrio))] device ∧
      Agree (restoreOrInitNode sealedCrypto.toCrypto (.ok device.stored)
        (fun _ => .error .poisoned) [] (relayingHub sealedTrio none))
        (Node.refreshInPlace device.node (relayingHub sealedTrio none)) := by
  let start := restoredDevice (some secondContents) [] restoredSecond
  let call : NodeCall := .revokeNode 3 (relayingHub sealedTrio (some sealedTrio))
  have run : DeviceRun start ([]++[call]) (deviceAfter start call) := .next .start rfl
  have hstored : (deviceAfter start call).stored=some secondContents := rfl
  have hsave : (deviceAfter start call).stored=none →
      (.error .poisoned : Except StorageError Unit)=.ok () := by
    intro hnone
    cases hstored.symm.trans hnone
  exact ⟨deviceAfter start call,run,(restart_agrees sealedCrypto.toCrypto (some secondContents)
    (fun _ => .ok ()) [] (relayingHub sealedTrio none) restoredSecond restoreOrInitNode_second
    ([]++[call]) (deviceAfter start call) run (fun _ => .error .poisoned) [] hsave
    (relayingHub sealedTrio none)).1⟩

/-- A fresh node logs out, which empties the store. On a restart the save of a new
identity fails, while a refresh finds the node pending. -/
theorem emptied_store_disagrees :
    ∃ device : Device symbolicCrypto,
      DeviceRun (restoredDevice none [1] (Node.newPending symbolicCrypto ⟨[1],none⟩))
        [.logout (relayingHub Roster.default none) reliableStore] device ∧
      ¬Agree (restoreOrInitNode symbolicCrypto (.ok device.stored) (fun _ => .error .poisoned) [2]
        (relayingHub Roster.default none))
        (Node.refreshInPlace device.node (relayingHub Roster.default none)) := by
  let start := restoredDevice none [1] (Node.newPending symbolicCrypto ⟨[1],none⟩)
  let call : NodeCall := .logout (relayingHub Roster.default none) reliableStore
  have run : DeviceRun start ([]++[call]) (deviceAfter start call) := .next .start rfl
  refine ⟨deviceAfter start call,run,?_⟩
  intro hagree
  cases hagree

end WispersConnect.RestartAgreement
