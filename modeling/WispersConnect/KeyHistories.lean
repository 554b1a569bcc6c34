import WispersConnect.ActivationSteps
import WispersConnect.AnchoredHistory
import WispersConnect.Runs

/-!
# What an activation accepts over the life of a key

A node keeps its key through registration, activation, revocation and logout, so
the key may have introduced the node more than once. The hub may answer an
activation with any roster whose signatures were really made by then. The node
accepts an extension of what it just signed, or one of an earlier introduction
of its number.
-/

namespace WispersConnect.KeyHistories

open Messages OutcomeMonad Cryptography FirstMatch MachineIntegers PairingCodes
open RosterBuilders RosterVerification RosterChain RosterReplay RosterHistory MembershipLog
open AnchoredHistory NodeLifecycle Endorsing ActivationSteps SymbolicCrypto Runs

/-- One call to a node, with what the hub and the store answer during it. -/
inductive NodeCall where
  /-- `register`. -/
  | register (token : String) (hub : Hub) (store : Store)
  /-- `activate`, with the nonce it draws. -/
  | activate (activationCode nonce : Bytes) (hub : Hub)
  /-- `revoke_node`. -/
  | revokeNode (targetNodeNumber : Int32) (hub : Hub)
  /-- `find_peer_in_roster`. -/
  | findPeerInRoster (peerNodeNumber : Int32) (hub : Hub)
  /-- `refresh_membership`. -/
  | refreshMembership (hub : Hub)
  /-- `logout`. -/
  | logout (hub : Hub) (store : Store)
  /-- The node's serving session co-signs a roster. -/
  | rosterCosign (roster : Roster)

section Calls

variable {C : Crypto}

/-- The node after a call, whether the call succeeded or not. -/
def nodeAfter (node : Node C) : NodeCall→Node C
  | .register token hub store => (node.register token hub store).1
  | .activate activationCode nonce hub => (node.activate activationCode nonce hub).valueOr node
  | .revokeNode targetNodeNumber hub => (node.revokeNode targetNodeNumber hub).valueOr node
  | .findPeerInRoster peerNodeNumber hub =>
    match node.findPeerInRoster peerNodeNumber hub with
    | .ok (found,_) => found
    | _ => node
  | .refreshMembership hub =>
    match node.refreshMembership hub with
    | .ok (refreshed,_) => refreshed
    | _ => node
  | .logout hub store => (node.logout hub store).valueOr node
  | .rosterCosign _ => node

/-- The state that a revocation by this node signs, if it comes to that. -/
def revocationDrafts (node : Node C) (revokedNodeNumber : Int32) : List Roster :=
  match node.inner with
  | .activated registration baseRoster =>
    match draftRevocation registration baseRoster revokedNodeNumber with
    | .ok newRoster => [newRoster]
    | _ => []
  | _ => []

/-- The states that a call may sign: all that it signs are among them. -/
def maySign (node : Node C) : NodeCall→List Roster
  | .activate activationCode nonce hub =>
    match node.activateDraft activationCode nonce hub with
    | .ok draft => [draft.newRoster]
    | _ => []
  | .revokeNode targetNodeNumber _ => revocationDrafts node targetNodeNumber
  | .logout _ _ =>
    match node.inner.registration with
    | some registration => revocationDrafts node registration.nodeNumber
    | none => []
  | .rosterCosign roster => [clearLatestAddendumSignatures roster]
  | _ => []

/-- Registration keeps the key. -/
theorem register_signingKey (node : Node C) (token : String) (hub : Hub) (store : Store) :
    (node.register token hub store).1.signingKey=node.signingKey := by
  unfold Node.register
  dsimp only
  split
  · split <;> rfl
  · rfl
  · rfl

/-- Revoking a node changes the caller's state only. -/
theorem revokeNode_frame {node node' : Node C} {targetNodeNumber : Int32} {hub : Hub}
    (h : node.revokeNode targetNodeNumber hub=.ok node') :
    node'.persisted=node.persisted ∧ node'.signingKey=node.signingKey := by
  unfold Node.revokeNode at h
  split at h
  · simp only [Outcome.bind_eq_ok,Outcome.pure_eq_ok,Outcome.ok.injEq] at h
    obtain ⟨_,_,_,_,_,_,_,_,rfl⟩ := h
    exact ⟨rfl,rfl⟩
  · cases h
  · cases h

/-- Looking up a peer changes the state only. -/
theorem findPeerInRoster_frame {node node' : Node C} {peerNodeNumber : Int32} {hub : Hub}
    {peer : RosterNode} (h : node.findPeerInRoster peerNodeNumber hub=.ok (node',peer)) :
    node'.persisted=node.persisted ∧ node'.signingKey=node.signingKey := by
  unfold Node.findPeerInRoster at h
  split at h
  · split at h
    · cases h
      exact ⟨rfl,rfl⟩
    · split at h
      · simp only [Outcome.bind_eq_ok,Outcome.pure_eq_ok,Outcome.ok.injEq,Prod.mk.injEq] at h
        obtain ⟨_,_,rfl,_⟩ := h
        exact ⟨rfl,rfl⟩
      · cases h
      · cases h
      · cases h
  · cases h

/-- Looking up a peer keeps the key. -/
theorem findPeerInRoster_signingKey {node node' : Node C} {peerNodeNumber : Int32} {hub : Hub}
    {peer : RosterNode} (h : node.findPeerInRoster peerNodeNumber hub=.ok (node',peer)) :
    node'.signingKey=node.signingKey :=
  (findPeerInRoster_frame h).2

/-- A refresh changes the state only. -/
theorem refreshMembership_frame {node node' : Node C} {hub : Hub} {state : NodeState}
    (h : node.refreshMembership hub=.ok (node',state)) :
    node'.persisted=node.persisted ∧ node'.signingKey=node.signingKey := by
  unfold Node.refreshMembership at h
  split at h
  · cases h
    exact ⟨rfl,rfl⟩
  · simp only [Outcome.bind_eq_ok] at h
    obtain ⟨_,_,roster,_,h⟩ := h
    split at h
    · split at h
      · cases h
        exact ⟨rfl,rfl⟩
      · cases h
        exact ⟨rfl,rfl⟩
      · cases h
      · cases h
    · cases h
      exact ⟨rfl,rfl⟩

/-- Logging out keeps the key. -/
theorem logout_signingKey {node node' : Node C} {hub : Hub} {store : Store}
    (h : node.logout hub store=.ok node') : node'.signingKey=node.signingKey := by
  simp only [Node.logout,Outcome.bind_eq_ok,Outcome.pure_eq_ok,Outcome.ok.injEq] at h
  obtain ⟨_,_,_,_,rfl⟩ := h
  rfl

/-- No call changes the node's key. -/
theorem nodeAfter_signingKey (node : Node C) (call : NodeCall) :
    (nodeAfter node call).signingKey=node.signingKey := by
  have hkeep := @Outcome.valueOr_of_ok NodeStateError (Node C)
    fun node' => node'.signingKey=node.signingKey
  cases call with
  | register token hub store => exact register_signingKey node token hub store
  | activate activationCode nonce hub =>
    refine hkeep (fun node' h => ?_) rfl
    obtain ⟨_,_,_,_,_,_,_,rfl⟩ := activate_eq_ok h
    rfl
  | revokeNode targetNodeNumber hub =>
    exact hkeep (fun node' h => (revokeNode_frame h).2) rfl
  | findPeerInRoster peerNodeNumber hub =>
    simp only [nodeAfter]
    split
    · next found peer h => exact findPeerInRoster_signingKey h
    · rfl
  | refreshMembership hub =>
    simp only [nodeAfter]
    split
    · next refreshed state h => exact (refreshMembership_frame h).2
    · rfl
  | logout hub store => exact hkeep (fun node' h => logout_signingKey h) rfl
  | rosterCosign roster => rfl

end Calls

/-- A node and the states its key signed so far, or may have. -/
structure KeyState (C : Crypto) where
  /-- The node as it is. -/
  node : Node C
  /-- The states signed. -/
  signed : List Roster

/-- One call to the node. The roster that an activation accepts holds signatures
of the key only over states signed by then. -/
structure KeyStep {C : Crypto} (key : C.VerifyingKey) (before : KeyState C) (call : NodeCall)
    (after : KeyState C) : Prop where
  /-- The node moves as the call moves it. -/
  moved : after.node=nodeAfter before.node call
  /-- What the call may sign counts as signed. -/
  signs : after.signed=before.signed++maySign before.node call
  /-- Nothing is forged. -/
  unforgeable : ∀ (activationCode nonce : Bytes) (hub : Hub) (draft : ActivationDraft)
    (cosigned : Roster),call=.activate activationCode nonce hub →
    Accepts before.node activationCode nonce hub draft cosigned →
    Unforgeable C key (fun state => state∈before.signed++[draft.newRoster]) cosigned

/-- The node and what is signed after a call. -/
def keyAfter {C : Crypto} (before : KeyState C) (call : NodeCall) : KeyState C :=
  ⟨nodeAfter before.node call,before.signed++maySign before.node call⟩

/-- A call is a step unless it accepts a forgery. -/
theorem keyStep_keyAfter {C : Crypto} {key : C.VerifyingKey} {before : KeyState C} {call : NodeCall}
    (h : ∀ (activationCode nonce : Bytes) (hub : Hub) (draft : ActivationDraft)
      (cosigned : Roster),call=.activate activationCode nonce hub →
      Accepts before.node activationCode nonce hub draft cosigned →
      Unforgeable C key (fun state => state∈before.signed++[draft.newRoster]) cosigned) :
    KeyStep key before call (keyAfter before call) := ⟨rfl,rfl,h⟩

/-- The histories of a node's key, from a state in which it may have signed anything. -/
abbrev KeyRun {C : Crypto} (start : KeyState C) : List NodeCall→KeyState C→Prop :=
  Run (fun _ before call after => KeyStep (C.verifyingKey start.node.signingKey) before call after)
    start

/-- Through its whole history the node has the key it started with. -/
theorem keyRun_signingKey {C : Crypto} {start : KeyState C} {log : List NodeCall}
    {state : KeyState C} (run : KeyRun start log state) :
    state.node.signingKey=start.node.signingKey := by
  refine @Run.invariant NodeCall (KeyState C) _ _
    (fun _ state => state.node.signingKey=start.node.signingKey) rfl ?_ log state run
  intro _ before call after _ ih hstep
  have hkept := nodeAfter_signingKey before.node call
  rw [hstep.moved,hkept]
  exact ih

/-- The calls determine the node and what is signed. -/
theorem keyRun_functional {C : Crypto} {start : KeyState C} {log : List NodeCall}
    {state state' : KeyState C} (run : KeyRun start log state) (run' : KeyRun start log state') :
    state=state' := by
  refine run.functional ?_ run'
  intro _ before call after after' h h'
  obtain ⟨node,signed⟩ := after
  obtain ⟨node',signed'⟩ := after'
  have hnode : node=node' := h.moved.trans h'.moved.symm
  have hsigned : signed=signed' := h.signs.trans h'.signs.symm
  rw [hnode,hsigned]

/-- The roster introduces the number by a state that was signed earlier. -/
def ReplaysEarlier (signed : List Roster) (nodeNumber : Int32) (roster : Roster) : Prop :=
  ∃ j,j<roster.addenda.length ∧
    clearLatestAddendumSignatures (historyAt roster (j+1))∈signed ∧
    IntroducesLatest nodeNumber (clearLatestAddendumSignatures (historyAt roster (j+1)))

/-- The roster extends the signed one: up to the version signed it is the signed
roster but for signatures, and it lists the endorser with the key of its reply. -/
structure ExtendsSigned (C : Crypto) (draft : ActivationDraft) (roster : Roster) : Prop where
  /-- The roster is at least as long. -/
  longer : draft.newRoster.addenda.length≤roster.addenda.length
  /-- Its state at the signed version is the signed roster. -/
  signedState : clearLatestAddendumSignatures (historyAt roster draft.newRoster.addenda.length)=
    draft.newRoster
  /-- It went through the signed roster. -/
  through : GoesThrough draft.newRoster roster
  /-- It lists the endorser under the key its reply authenticated. -/
  endorser : ∃ entry∈roster.nodes,entry.nodeNumber=draft.code.nodeNumber ∧
    ∃ key,C.fromPublicKeyDer entry.publicKeySpki=.ok key ∧
      C.fromPublicKeyDer draft.response.publicKeySpki=.ok key

section Acceptance

variable {C : Crypto} {node : Node C} {activationCode nonce : Bytes} {hub : Hub}
  {draft : ActivationDraft} {cosigned : Roster}

/-- The latest addendum of the roster to sign introduces this node. -/
theorem DraftFacts.introduces (facts : DraftFacts node activationCode nonce hub draft) :
    IntroducesLatest draft.registration.nodeNumber draft.newRoster := by
  obtain ⟨_,_,hnew⟩ := draftRoster_eq_ok.mp facts.drafted
  rw [hnew,draftState]
  split
  · exact ⟨_,[],rfl,.newNode rfl⟩
  · exact ⟨_,[],List.getLast?_concat,.newNode rfl⟩

/-- A roster that goes through the drafted state extends what was signed. -/
theorem extends_of_state (facts : DraftFacts node activationCode nonce hub draft)
    (hbuilt : HonestlyBuilt C cosigned) {j : ℕ} (hj : j<cosigned.addenda.length)
    (hstate : clearLatestAddendumSignatures (historyAt cosigned (j+1))=draft.newRoster) :
    ExtendsSigned C draft cosigned := by
  have inv := hbuilt.invariant
  have hshort := inv.short
  have hlength : draft.newRoster.addenda.length=j+1 := by
    rw [←hstate,clearLatest_addenda_length,historyAt,List.length_take]
    omega
  have hversion : draft.newRoster.version.toInt=(j+1 : ℕ) := by
    rw [←hstate,clearLatest_version]
    exact asI64_toInt (by omega)
  obtain ⟨entry,hm,hn,hkey⟩ := facts.lists_endorser (by omega)
  rw [←hstate,clearLatest_nodes] at hm
  obtain ⟨listed,hlisted,hid⟩ := mem_nodesAt hm
  have hnumber : listed.nodeNumber=entry.nodeNumber := congrArg Prod.fst hid
  have hspki : listed.publicKeySpki=entry.publicKeySpki := congrArg Prod.snd hid
  obtain ⟨key,hdecode⟩ := inv.keys listed hlisted
  constructor
  case longer => omega
  case signedState =>
    rw [hlength]
    exact hstate
  case through =>
    rw [←hstate]
    exact goesThrough_historyAt hbuilt hj
  case endorser =>
    refine ⟨listed,hlisted,hnumber.trans hn,key,hdecode,?_⟩
    rw [←hkey,←hspki]
    exact hdecode

/-- Without forgeries, an accepted roster that does not replay extends what was signed. -/
theorem extends_of_not_replay (hround : C.SpkiRoundTrip)
    (hinj : Function.Injective (signingHash C)) {signed : List Roster}
    (h : Accepts node activationCode nonce hub draft cosigned)
    (hunforgeable : Unforgeable C (C.verifyingKey node.signingKey)
      (fun state => state∈signed++[draft.newRoster]) cosigned)
    (hreplay : ¬ReplaysEarlier signed draft.registration.nodeNumber cosigned) :
    ExtendsSigned C draft cosigned := by
  obtain ⟨_,keys,hkeys⟩ := h.verified
  obtain ⟨key,hkey,hbuilt,_,hactive⟩ := verifyRoster_eq_ok.mp hkeys
  obtain rfl := Except.ok.inj ((hround node.signingKey).symm.trans hkey)
  obtain ⟨j,hj,hsigned,hintro⟩ := introduced_signed hinj hbuilt hactive hunforgeable
  rcases List.mem_append.mp hsigned with hearlier|hnow
  · exact absurd ⟨j,hj,hearlier,hintro⟩ hreplay
  · exact extends_of_state (activateDraft_eq_ok.mp h.drafted) hbuilt hj (List.mem_singleton.mp hnow)

/-- A roster that extends a freshly signed one replays no earlier introduction. -/
theorem not_replay_of_extends {signed : List Roster}
    (h : Accepts node activationCode nonce hub draft cosigned) (hfresh : draft.newRoster∉signed)
    (hextends : ExtendsSigned C draft cosigned) :
    ¬ReplaysEarlier signed draft.registration.nodeNumber cosigned := by
  rintro ⟨j,hj,hsigned,hintro⟩
  obtain ⟨_,keys,hkeys⟩ := h.verified
  obtain ⟨_,_,hbuilt,_,_⟩ := verifyRoster_eq_ok.mp hkeys
  have hown := DraftFacts.introduces (activateDraft_eq_ok.mp h.drafted)
  have hpos : 0<draft.newRoster.addenda.length := by
    obtain ⟨last,_,hlast,_⟩ := hown
    exact List.length_pos_of_mem (List.mem_of_getLast? hlast)
  obtain ⟨k,hk⟩ : ∃ k,draft.newRoster.addenda.length=k+1 :=
    ⟨draft.newRoster.addenda.length-1,by omega⟩
  have hlonger := hextends.longer
  have hstate := hextends.signedState
  rw [hk] at hlonger hstate
  have hkl : k<cosigned.addenda.length := by omega
  rw [←hstate,introducesLatest_historyAt hkl] at hown
  rw [introducesLatest_historyAt hj] at hintro
  obtain ⟨signature,hown⟩ := hown
  obtain ⟨signature',hintro⟩ := hintro
  have hgetk := List.getElem?_eq_getElem hkl
  have hgetj := List.getElem?_eq_getElem hj
  have hjk : j=k := by
    by_contra hne
    rcases Nat.lt_or_gt_of_ne hne with hlt|hgt
    · exact ChainInvariant.introduced_before hbuilt.invariant hlt hgetj hgetk hintro signature hown
    · exact ChainInvariant.introduced_before hbuilt.invariant hgt hgetk hgetj hown signature' hintro
  subst hjk
  rw [hstate] at hsigned
  exact hfresh hsigned

end Acceptance

/-- In every history of a key, an accepted roster extends what the call signed
unless it replays an earlier introduction; with a fresh nonce, exactly then. -/
theorem activations_extend_iff (C : Crypto) (hround : C.SpkiRoundTrip)
    (hinj : Function.Injective (signingHash C)) (start : KeyState C) (log : List NodeCall)
    (state : KeyState C) (run : KeyRun start log state) :
    ∀ (i : ℕ) (activationCode nonce : Bytes) (hub : Hub) (before : KeyState C)
      (draft : ActivationDraft) (cosigned : Roster),
      log[i]?=some (.activate activationCode nonce hub) → KeyRun start (log.take i) before →
      Accepts before.node activationCode nonce hub draft cosigned →
      (¬ReplaysEarlier before.signed draft.registration.nodeNumber cosigned →
        ExtendsSigned C draft cosigned) ∧
      (draft.newRoster∉before.signed → ExtendsSigned C draft cosigned →
        ¬ReplaysEarlier before.signed draft.registration.nodeNumber cosigned) := by
  intro i activationCode nonce hub before draft cosigned hcall hbefore haccepts
  obtain ⟨before',after,hrun,hstep,_⟩ := run.at hcall
  obtain rfl := keyRun_functional hbefore hrun
  have hunforgeable := hstep.unforgeable activationCode nonce hub draft cosigned rfl haccepts
  rw [←keyRun_signingKey hbefore] at hunforgeable
  constructor
  · intro hreplay
    exact extends_of_not_replay hround hinj haccepts hunforgeable hreplay
  · intro hfresh hextends
    exact not_replay_of_extends haccepts hfresh hextends

/-- A secret of a code issued by node 3. -/
def thirdSecret : PairingSecret := ⟨[0,0,0,0,0,0,2]⟩

/-- That code as the user types it. -/
def thirdCode : Bytes := literalBytes "3-00000000002"

/-- A hub that relays the pairing to node 3 and answers with the founding of nodes 1 and 2. -/
def replayingHub : Hub :=
  {relayingHub Roster.default (some pairRoster) with
    pairNodes := fun _ message =>
      match message.payload with
      | some payload =>
        .ok (pairingReply symbolicCrypto (3 : UInt8) 3 thirdSecret payload [33])
      | none => .error .connection}

/-- A store that never fails. -/
def reliableStore : Store := ⟨fun _ => .ok (),.ok ()⟩

/-- The first activation, with node 1's code. -/
def firstActivation : NodeCall :=
  .activate firstCode [21] (relayingHub Roster.default (some pairRoster))

/-- Node 2 with nothing signed yet. -/
def secondStart : KeyState symbolicCrypto := ⟨secondNode,[]⟩

/-- The founding of nodes 1 and 2 holds no forgery once node 2 signed it. -/
theorem pairRoster_unforged {signed : List Roster}
    (h : clearLatestAddendumSignatures pairRoster∈signed) :
    Unforgeable symbolicCrypto (2 : UInt8) (fun state => state∈signed) pairRoster := by
  have hfounding : Unforgeable symbolicCrypto (2 : UInt8)
      (fun state => state∈[clearLatestAddendumSignatures pairRoster]) pairRoster :=
    symbolic_unforgeable (by decide +kernel)
  refine hfounding.mono fun state hstate => ?_
  rw [List.mem_singleton.mp hstate]
  exact h

/-- What a hub that answers with the founding has accepted is the founding. -/
theorem accepted_founding {node : Node symbolicCrypto} {activationCode nonce : Bytes} {hub : Hub}
    (hhub : hub.updateRoster=fun _ _ => .ok (some pairRoster)) {draft : ActivationDraft}
    {cosigned : Roster} (h : Accepts node activationCode nonce hub draft cosigned) :
    cosigned=pairRoster := by
  obtain ⟨⟨submitted,hanswer⟩,_⟩ := h.verified
  rw [Hub.submitRoster,hhub] at hanswer
  exact (Except.ok.inj hanswer).symm

/-- A call in which the hub answers with the founding that node 2 signs or has
signed is a step of node 2's history. -/
theorem founding_step {before : KeyState symbolicCrypto} {activationCode nonce : Bytes} {hub : Hub}
    (hhub : hub.updateRoster=fun _ _ => .ok (some pairRoster))
    (hsigned : clearLatestAddendumSignatures pairRoster∈
      (keyAfter before (.activate activationCode nonce hub)).signed) :
    KeyStep (2 : UInt8) before (.activate activationCode nonce hub)
      (keyAfter before (.activate activationCode nonce hub)) := by
  refine keyStep_keyAfter fun code drawn answering draft cosigned hcall haccepts => ?_
  cases hcall
  have hdraft : (keyAfter before (.activate activationCode nonce hub)).signed=
      before.signed++[draft.newRoster] := by
    simp only [keyAfter,maySign,haccepts.drafted]
  rw [hdraft] at hsigned
  rw [accepted_founding hhub haccepts]
  exact pairRoster_unforged hsigned

/-- The first activation accepts the founding, which extends what node 2 signed. -/
theorem activations_extend_first :
    ∃ draft,Accepts secondNode firstCode [21] (relayingHub Roster.default (some pairRoster)) draft
      pairRoster ∧ ExtendsSigned symbolicCrypto draft pairRoster := by
  obtain ⟨node',hnode'⟩ : ∃ node',secondNode.activate firstCode [21]
      (relayingHub Roster.default (some pairRoster))=.ok node' :=
    Outcome.isOk_iff.mp (by decide +kernel)
  obtain ⟨draft,cosigned,_,_,haccepts,_⟩ := activate_eq_ok hnode'
  obtain rfl := accepted_founding rfl haccepts
  have hstep := @founding_step secondStart firstCode [21]
    (relayingHub Roster.default (some pairRoster)) rfl (by decide +kernel)
  have hall := activations_extend_iff symbolicCrypto symbolicCrypto_spkiRoundTrip
    symbolicCrypto_signingHash_injective secondStart [firstActivation] _ (.next .start hstep) 0
    firstCode [21] (relayingHub Roster.default (some pairRoster)) secondStart draft pairRoster rfl
    .start haccepts
  refine ⟨draft,haccepts,hall.1 ?_⟩
  rintro ⟨_,_,hsigned,_⟩
  cases hsigned

/-- Node 2 activates, logs out, registers again and activates with node 3's code. -/
def replayLog : List NodeCall :=
  [firstActivation,.logout (relayingHub Roster.default (some pairRoster)) reliableStore,
    .register "token" (relayingHub Roster.default (some pairRoster)) reliableStore,
    .activate thirdCode [22] replayingHub]

/-- Node 2 before it activates with node 3's code. -/
def registeredAgain : KeyState symbolicCrypto := (replayLog.take 3).foldl keyAfter secondStart

/-- The second activation accepts the founding again, which node 3 is not part of. -/
theorem replayed_founding_accepted :
    ∃ (state : KeyState symbolicCrypto) (draft : ActivationDraft),
      KeyRun secondStart replayLog state ∧ KeyRun secondStart (replayLog.take 3) registeredAgain ∧
      Accepts registeredAgain.node thirdCode [22] replayingHub draft pairRoster ∧
      draft.code.nodeNumber=3 ∧ (∀ entry∈pairRoster.nodes,entry.nodeNumber≠3) ∧
      ¬ExtendsSigned symbolicCrypto draft pairRoster := by
  have hother : ∀ (before : KeyState symbolicCrypto) (call : NodeCall),
      (∀ activationCode nonce hub,call≠.activate activationCode nonce hub) →
      KeyStep (2 : UInt8) before call (keyAfter before call) := by
    intro before call hcall
    exact keyStep_keyAfter fun code nonce hub _ _ heq _ => absurd heq (hcall code nonce hub)
  have hfirst := @founding_step secondStart firstCode [21]
    (relayingHub Roster.default (some pairRoster)) rfl (by decide +kernel)
  have hbefore : KeyRun secondStart (replayLog.take 3) registeredAgain :=
    .next (.next (.next .start hfirst) (hother _ _ fun _ _ _ h => by cases h))
      (hother _ _ fun _ _ _ h => by cases h)
  have hlast := @founding_step registeredAgain thirdCode [22] replayingHub rfl (by decide +kernel)
  obtain ⟨node',hnode'⟩ : ∃ node',registeredAgain.node.activate thirdCode [22] replayingHub=
      .ok node' := Outcome.isOk_iff.mp (by decide +kernel)
  obtain ⟨draft,cosigned,_,_,haccepts,_⟩ := activate_eq_ok hnode'
  obtain rfl := accepted_founding rfl haccepts
  have hnumber : draft.code.nodeNumber=3 := by
    have hparsed := (activateDraft_eq_ok.mp haccepts.drafted).parsed
    have hcode : PairingCode.parse thirdCode=.ok ⟨3,thirdSecret⟩ := by decide +kernel
    rw [←Except.ok.inj (hcode.symm.trans hparsed)]
  have hmissing : ∀ entry∈pairRoster.nodes,entry.nodeNumber≠3 := by decide +kernel
  refine ⟨_,draft,.next hbefore hlast,hbefore,haccepts,hnumber,hmissing,fun hextends => ?_⟩
  obtain ⟨entry,hm,hn,_⟩ := hextends.endorser
  exact hmissing entry hm (hn.trans hnumber)

end WispersConnect.KeyHistories
