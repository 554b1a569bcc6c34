import WispersConnect.DeviceRuns

/-!
# Logging out until it works

`logout` revokes the node, deregisters it and deletes its store. An attempt may
fail at any of these steps, and the next one starts over from the cached roster.
The hub takes only the next version of its roster, so an attempt that failed
after its revocation was taken leaves a roster behind that the node does not
build on: from then on every revocation it sends is in conflict.
-/

namespace WispersConnect.LogoutRetries

open Messages OutcomeMonad Cryptography MachineIntegers RosterBuilders RosterVerification
open RosterChain RosterReplay NodeLifecycle KeyHistories DeviceRuns SymbolicCrypto PeerEncoding

/-- The steps of a logout that may fail for a while. -/
inductive LogoutStep where
  /-- `HubClient::connect`. -/
  | connect
  /-- The `update_roster` of `submit_revocation`. -/
  | selfRevocation
  /-- `deregister_node`. -/
  | deregistration
  /-- `store.delete`. -/
  | storeDeletion
  deriving DecidableEq

/-- One call of `logout`: the step that fails in it, and the errors it meets. -/
structure LogoutAttempt where
  /-- The step that fails, if it is reached. -/
  failing : Option LogoutStep
  /-- How a call to the hub fails for a while. -/
  transient : HubError
  /-- Such a failure does not say that the node is gone. -/
  temporary : (transient.isUnauthenticated || transient.isNotFound)=false
  /-- How the hub turns down a roster that is not the next one. -/
  conflict : HubError
  /-- Neither does this. -/
  conflicting : (conflict.isUnauthenticated || conflict.isNotFound)=false
  /-- How the hub answers a node it does not know. -/
  unknown : HubError
  /-- This does. -/
  removed : (unknown.isUnauthenticated || unknown.isNotFound)=true
  /-- How the store fails. -/
  storeError : StorageError

/-- What the hub keeps about a group and the node that leaves it. -/
structure HubState where
  /-- The current roster. -/
  roster : Roster
  /-- The node's registration is still there. -/
  registered : Bool

/-- `HubClient::connect` in an attempt. -/
def LogoutAttempt.connect (attempt : LogoutAttempt) : Except HubError Unit :=
  if attempt.failing=some .connect then .error attempt.transient else .ok ()

/-- The store in an attempt. -/
def LogoutAttempt.store (attempt : LogoutAttempt) : Store where
  save _ := .ok ()
  delete := if attempt.failing=some .storeDeletion then .error attempt.storeError else .ok ()

/-- `update_roster` at the hub: only the next version is taken. -/
def HubState.updateRoster (hub : HubState) (attempt : LogoutAttempt) (newRoster : Roster) :
    Except HubError (Option Roster)×HubState :=
  if attempt.failing=some .selfRevocation then (.error attempt.transient,hub)
  else if hub.registered=false then (.error attempt.unknown,hub)
  else if newRoster.version.toInt=hub.roster.version.toInt+1 then
    (.ok (some newRoster),{hub with roster := newRoster})
  else (.error attempt.conflict,hub)

/-- `deregister_node` at the hub. -/
def HubState.deregisterNode (hub : HubState) (attempt : LogoutAttempt) :
    Except HubError Unit×HubState :=
  if attempt.failing=some .deregistration then (.error attempt.transient,hub)
  else if hub.registered=false then (.error attempt.unknown,hub)
  else (.ok (),{hub with registered := false})

/-- What the hub answers during one attempt. The calls that a logout does not make fail. -/
def HubState.answers (hub : HubState) (attempt : LogoutAttempt) : Hub where
  connect := attempt.connect
  completeRegistration _ := .error attempt.transient
  deregisterNode _ := (hub.deregisterNode attempt).1
  pairNodes _ _ := .error attempt.transient
  getUnverifiedRoster _ := .error attempt.transient
  updateRoster _ newRoster := (hub.updateRoster attempt newRoster).1

section Attempts

variable {C : Crypto}

/-- `deregister` at a hub that keeps state. -/
def deregisterAt (hub : HubState) (attempt : LogoutAttempt) :
    Outcome NodeStateError Unit×HubState :=
  match hub.deregisterNode attempt with
  | (.ok (),after) => (.ok (),after)
  | (.error e,after) => (if e.isUnauthenticated || e.isNotFound then .ok () else .err (.hub e),after)

/-- The signed roster of `submit_revocation`. -/
def signRevocation (node : Node C) (registration : NodeRegistration) (baseRoster : Roster)
    (revokedNodeNumber : Int32) : Outcome NodeStateError Roster := do
  let newRoster ← draftRevocation registration baseRoster revokedNodeNumber
  let signingHash ← computeSigningHash C newRoster
  setRevokerSignature newRoster (C.sign node.signingKey signingHash)

/-- `submit_revocation` at a hub that keeps state. -/
def submitRevocationAt (node : Node C) (registration : NodeRegistration) (baseRoster : Roster)
    (revokedNodeNumber : Int32) (hub : HubState) (attempt : LogoutAttempt) :
    Outcome NodeStateError Roster×HubState :=
  match signRevocation node registration baseRoster revokedNodeNumber with
  | .ok signedRoster =>
    match hub.updateRoster attempt signedRoster with
    | (.ok (some _),after) => (.ok signedRoster,after)
    | (.ok none,after) =>
      (.err (.hub (.rpc .internal "missing cosigned_roster in response")),after)
    | (.error e,after) => (.err (.hub e),after)
  | .err e => (.err e,hub)
  | .panic m => (.panic m,hub)

/-- What `logout` does at a hub that keeps state. -/
def leaveHubAt (node : Node C) (hub : HubState) (attempt : LogoutAttempt) :
    Outcome NodeStateError Unit×HubState :=
  match node.inner with
  | .pending => (.ok (),hub)
  | .activated registration baseRoster =>
    if (activeNodes baseRoster).length≤1 then (.err .lastActiveNode,hub)
    else match attempt.connect with
    | .error e => (.err (.hub e),hub)
    | .ok () =>
      match submitRevocationAt node registration baseRoster registration.nodeNumber hub attempt with
      | (.ok _,after) => deregisterAt after attempt
      | (.err e,after) => (if e.isUnauthenticated || e.isNotFound then .ok () else .err e,after)
      | (.panic m,after) => (.panic m,after)
  | _ =>
    match node.persisted.registration with
    | none => (.panic "registered",hub)
    | some _ =>
      match attempt.connect with
      | .error e => (.err (.hub e),hub)
      | .ok () => deregisterAt hub attempt

/-- A node with its store, and the hub. -/
structure LogoutSession (C : Crypto) where
  /-- The node and its store. -/
  device : Device C
  /-- The hub. -/
  hub : HubState

/-- What one call of `logout` returns. -/
def LogoutSession.logout (session : LogoutSession C) (attempt : LogoutAttempt) :
    Outcome NodeStateError (Node C) :=
  session.device.node.logout (session.hub.answers attempt) attempt.store

/-- Node, store and hub after one call of `logout`. -/
def LogoutSession.after (session : LogoutSession C) (attempt : LogoutAttempt) : LogoutSession C :=
  ⟨deviceAfter session.device (.logout (session.hub.answers attempt) attempt.store),
    (leaveHubAt session.device.node session.hub attempt).2⟩

/-- Node, store and hub after a series of calls. -/
def LogoutSession.afterAll (session : LogoutSession C) (attempts : List LogoutAttempt) :
    LogoutSession C :=
  attempts.foldl LogoutSession.after session

/-- The call returns, and leaves the node pending, its store empty and the hub without it. -/
structure LogsOut (session : LogoutSession C) (attempt : LogoutAttempt) : Prop where
  /-- It returns without an error. -/
  returns : ∃ node,session.logout attempt=.ok node
  /-- The node is pending. -/
  pending : (session.after attempt).device.node.state=.pending
  /-- The store is empty. -/
  emptied : (session.after attempt).device.stored=none
  /-- The hub no longer knows the node. -/
  deregistered : (session.after attempt).hub.registered=false

/-- The deregistration answers as in the record of answers, whatever the roster. -/
theorem deregisterAt_fst (hub : HubState) (attempt : LogoutAttempt) (registration : NodeRegistration)
    (roster : Roster) : (deregisterAt {hub with roster := roster} attempt).1=
      deregister (hub.answers attempt) registration := by
  unfold deregisterAt deregister HubState.answers HubState.deregisterNode
  split_ifs <;> rfl

/-- Submitting a roster changes at most the roster. -/
theorem updateRoster_snd (hub : HubState) (attempt : LogoutAttempt) (newRoster : Roster) :
    ∃ roster,(hub.updateRoster attempt newRoster).2={hub with roster := roster} := by
  unfold HubState.updateRoster
  split_ifs
  · exact ⟨_,rfl⟩
  · exact ⟨_,rfl⟩
  · exact ⟨_,rfl⟩
  · exact ⟨_,rfl⟩

/-- Submitting a revocation changes nothing of the hub but its roster. -/
theorem submitRevocationAt_snd (node : Node C) (registration : NodeRegistration)
    (baseRoster : Roster) (revokedNodeNumber : Int32) (hub : HubState) (attempt : LogoutAttempt) :
    ∃ roster,(submitRevocationAt node registration baseRoster revokedNodeNumber hub attempt).2=
      {hub with roster := roster} := by
  unfold submitRevocationAt
  cases signRevocation node registration baseRoster revokedNodeNumber with
  | ok signedRoster =>
    have hsnd := updateRoster_snd hub attempt signedRoster
    dsimp only
    split
    · next hreply => rwa [hreply] at hsnd
    · next hreply => rwa [hreply] at hsnd
    · next hreply => rwa [hreply] at hsnd
  | err e => exact ⟨hub.roster,rfl⟩
  | panic m => exact ⟨hub.roster,rfl⟩

/-- A revocation returns what it returns with the record of answers. -/
theorem submitRevocationAt_fst (node : Node C) (registration : NodeRegistration)
    (baseRoster : Roster) (revokedNodeNumber : Int32) (hub : HubState) (attempt : LogoutAttempt) :
    (submitRevocationAt node registration baseRoster revokedNodeNumber hub attempt).1=
      node.submitRevocation registration baseRoster revokedNodeNumber (hub.answers attempt) := by
  have hsubmit : node.submitRevocation registration baseRoster revokedNodeNumber
      (hub.answers attempt)=(do
        let signedRoster ← signRevocation node registration baseRoster revokedNodeNumber
        let _cosignedRoster ← hubReply ((hub.answers attempt).submitRoster registration signedRoster)
        pure signedRoster) := by
    unfold Node.submitRevocation signRevocation
    cases draftRevocation registration baseRoster revokedNodeNumber with
    | ok newRoster =>
      simp only [Outcome.ok_bind]
      cases computeSigningHash C newRoster with
      | ok signingHash => simp only [Outcome.ok_bind]
      | err e => rfl
      | panic m => rfl
    | err e => rfl
    | panic m => rfl
  rw [hsubmit,submitRevocationAt]
  cases signRevocation node registration baseRoster revokedNodeNumber with
  | ok signedRoster =>
    simp only [Outcome.ok_bind,Hub.submitRoster,HubState.answers]
    cases hreply : hub.updateRoster attempt signedRoster with
    | mk reply after =>
      cases reply with
      | ok cosigned => cases cosigned <;> rfl
      | error e => rfl
  | err e => rfl
  | panic m => rfl

/-- At a hub that keeps state, `logout` returns what it returns with the record of answers. -/
theorem leaveHubAt_fst (node : Node C) (hub : HubState) (attempt : LogoutAttempt) :
    (leaveHubAt node hub attempt).1=node.leaveHub (hub.answers attempt) := by
  have hconnect : hubReply (hub.answers attempt).connect=hubReply attempt.connect := rfl
  have hheld : (match node.persisted.registration with
      | none => (Outcome.panic "registered",hub)
      | some _ =>
        match attempt.connect with
        | .error e => (.err (.hub e),hub)
        | .ok () => deregisterAt hub attempt : Outcome NodeStateError Unit×HubState).1=(do
      let registration ← Outcome.expect node.persisted.registration "registered"
      hubReply (hub.answers attempt).connect
      deregister (hub.answers attempt) registration) := by
    cases node.persisted.registration with
    | none => rfl
    | some registration =>
      rw [hconnect]
      cases attempt.connect with
      | error e => rfl
      | ok u => exact deregisterAt_fst hub attempt registration hub.roster
  unfold leaveHubAt Node.leaveHub
  cases node.inner with
  | pending => rfl
  | registered registration => exact hheld
  | revoked registration => exact hheld
  | activated registration baseRoster =>
    dsimp only
    rw [hconnect,←submitRevocationAt_fst]
    by_cases hlast : (activeNodes baseRoster).length≤1
    · rw [if_pos hlast,Outcome.reject,if_pos hlast]
      rfl
    · rw [if_neg hlast,Outcome.reject,if_neg hlast]
      cases attempt.connect with
      | error e => rfl
      | ok u =>
        obtain ⟨roster,hsnd⟩ := submitRevocationAt_snd node registration baseRoster
          registration.nodeNumber hub attempt
        cases hreply : submitRevocationAt node registration baseRoster registration.nodeNumber hub
          attempt with
        | mk reply after =>
          rw [hreply] at hsnd
          obtain rfl := hsnd
          cases reply with
          | ok newRoster => exact deregisterAt_fst hub attempt registration roster
          | err e => rfl
          | panic m => rfl

/-- A deregistration fails only when it is the step that fails. -/
theorem deregisterAt_eq (hub : HubState) (attempt : LogoutAttempt) :
    deregisterAt hub attempt=
      if attempt.failing=some .deregistration then (.err (.hub attempt.transient),hub)
      else (.ok (),{hub with registered := false}) := by
  unfold deregisterAt HubState.deregisterNode
  by_cases hfailing : attempt.failing=some .deregistration
  · simp only [if_pos hfailing,attempt.temporary,Bool.false_eq_true,if_false]
  · rw [if_neg hfailing,if_neg hfailing]
    obtain ⟨roster,registered⟩ := hub
    cases registered with
    | false => simp only [if_true,attempt.removed]
    | true => simp only [Bool.true_eq_false,if_false]

/-- The roster that a revocation signs, with the builders evaluated. -/
theorem signRevocation_eq (node : Node C) (registration : NodeRegistration) (base : Roster)
    (revokedNodeNumber : Int32) :
    signRevocation node registration base revokedNodeNumber=(do
      let version ← (addOne base.version : Outcome NodeStateError Int64)
      pure (revokedRoster C node.signingKey base
        ⟨version,revokedNodeNumber,registration.nodeNumber⟩)) :=
  draftRevocation_signed node.signingKey registration base revokedNodeNumber

/-- A revocation on the cached roster is taken only at a hub that is at its version. -/
theorem submitRevocationAt_eq (node : Node C) (registration : NodeRegistration) (base : Roster)
    (revokedNodeNumber : Int32) (hub : HubState) (attempt : LogoutAttempt)
    (hversion : base.version≠Int64.maxValue) :
    ∃ newRoster,newRoster.version.toInt=base.version.toInt+1 ∧
      submitRevocationAt node registration base revokedNodeNumber hub attempt=
        if attempt.failing=some .selfRevocation then (.err (.hub attempt.transient),hub)
        else if hub.registered=false then (.err (.hub attempt.unknown),hub)
        else if base.version.toInt=hub.roster.version.toInt then
          (.ok newRoster,{hub with roster := newRoster})
        else (.err (.hub attempt.conflict),hub) := by
  have hnext : (addOne base.version : Outcome NodeStateError Int64)=.ok (base.version+1) :=
    addOne_eq_ok.mpr ⟨hversion,rfl⟩
  let newRoster := revokedRoster C node.signingKey base
    ⟨base.version+1,revokedNodeNumber,registration.nodeNumber⟩
  have hnew : newRoster.version.toInt=base.version.toInt+1 := addOne_toInt hversion
  have hsigned : signRevocation node registration base revokedNodeNumber=.ok newRoster := by
    rw [signRevocation_eq,hnext]
    rfl
  refine ⟨newRoster,hnew,?_⟩
  rw [submitRevocationAt,hsigned]
  simp only [HubState.updateRoster,hnew,add_left_inj]
  split_ifs <;> rfl

/-- A revocation past the last version panics before the hub is asked. -/
theorem submitRevocationAt_overflow (node : Node C) (registration : NodeRegistration)
    (base : Roster) (revokedNodeNumber : Int32) (hub : HubState) (attempt : LogoutAttempt)
    (hversion : base.version=Int64.maxValue) :
    submitRevocationAt node registration base revokedNodeNumber hub attempt=
      (.panic "attempt to add with overflow",hub) := by
  rw [submitRevocationAt,signRevocation_eq,addOne,if_pos hversion]
  rfl

/-- A node that is registered but not activated has only to be deregistered. -/
theorem leaveHubAt_unactivated {node : Node C} {registration : NodeRegistration}
    (hactivated : ∀ registration base,node.inner≠.activated registration base)
    (hpending : node.inner≠.pending) (hheld : node.persisted.registration=some registration)
    (hub : HubState) (attempt : LogoutAttempt) :
    leaveHubAt node hub attempt=
      if attempt.failing=some .connect then (.err (.hub attempt.transient),hub)
      else if attempt.failing=some .deregistration then (.err (.hub attempt.transient),hub)
      else (.ok (),{hub with registered := false}) := by
  have hleave : leaveHubAt node hub attempt=
      match attempt.connect with
      | .error e => (.err (.hub e),hub)
      | .ok () => deregisterAt hub attempt := by
    unfold leaveHubAt
    rw [hheld]
    cases hinner : node.inner with
    | pending => exact absurd hinner hpending
    | activated registration base => exact absurd hinner (hactivated registration base)
    | registered registration => rfl
    | revoked registration => rfl
  rw [hleave,LogoutAttempt.connect,←deregisterAt_eq]
  split_ifs <;> rfl

/-- An activated node is revoked at a hub that is at its version, and then deregistered. -/
theorem leaveHubAt_activated {node : Node C} {registration : NodeRegistration} {base : Roster}
    (hinner : node.inner=.activated registration base) (hmany : 1<(activeNodes base).length)
    (hversion : base.version≠Int64.maxValue) (hub : HubState) (attempt : LogoutAttempt) :
    ∃ newRoster,newRoster.version.toInt=base.version.toInt+1 ∧
      leaveHubAt node hub attempt=
        if attempt.failing=some .connect then (.err (.hub attempt.transient),hub)
        else if attempt.failing=some .selfRevocation then (.err (.hub attempt.transient),hub)
        else if hub.registered=false then (.ok (),hub)
        else if base.version.toInt=hub.roster.version.toInt then
          if attempt.failing=some .deregistration then
            (.err (.hub attempt.transient),{hub with roster := newRoster})
          else (.ok (),⟨newRoster,false⟩)
        else (.err (.hub attempt.conflict),hub) := by
  obtain ⟨newRoster,hnew,hsubmit⟩ := submitRevocationAt_eq node registration base
    registration.nodeNumber hub attempt hversion
  refine ⟨newRoster,hnew,?_⟩
  have htransient : (NodeStateError.hub attempt.transient).isUnauthenticated=false ∧
      (NodeStateError.hub attempt.transient).isNotFound=false :=
    Bool.or_eq_false_iff.mp attempt.temporary
  have hconflict : (NodeStateError.hub attempt.conflict).isUnauthenticated=false ∧
      (NodeStateError.hub attempt.conflict).isNotFound=false :=
    Bool.or_eq_false_iff.mp attempt.conflicting
  have hunknown : ((NodeStateError.hub attempt.unknown).isUnauthenticated ||
      (NodeStateError.hub attempt.unknown).isNotFound)=true := attempt.removed
  rw [leaveHubAt,hinner]
  dsimp only
  rw [if_neg (by omega),hsubmit,LogoutAttempt.connect]
  by_cases hconnect : attempt.failing=some .connect
  · simp only [if_pos hconnect]
  · rw [if_neg hconnect,if_neg hconnect]
    dsimp only
    by_cases hrevoke : attempt.failing=some .selfRevocation
    · simp only [if_pos hrevoke,htransient,Bool.or_self,Bool.false_eq_true,if_false]
    · rw [if_neg hrevoke,if_neg hrevoke]
      by_cases hgone : hub.registered=false
      · simp only [if_pos hgone,hunknown,if_true]
      · rw [if_neg hgone,if_neg hgone]
        by_cases hcurrent : base.version.toInt=hub.roster.version.toInt
        · rw [if_pos hcurrent,if_pos hcurrent]
          exact deregisterAt_eq _ attempt
        · simp only [if_neg hcurrent,hconflict,Bool.or_self,Bool.false_eq_true,if_false]

/-- A node after a successful logout. -/
def loggedOut (node : Node C) : Node C :=
  ⟨.pending,{node.persisted with registration := none},node.signingKey⟩

/-- After a call that returned a node, the device has that node and nothing stored. -/
theorem LogoutSession.after_ok {session : LogoutSession C} {attempt : LogoutAttempt} {node : Node C}
    (h : session.logout attempt=.ok node) : session.after attempt=
      ⟨⟨node,none⟩,(leaveHubAt session.device.node session.hub attempt).2⟩ := by
  unfold LogoutSession.logout at h
  unfold LogoutSession.after deviceAfter nodeAfter storedAfter
  dsimp only
  rw [h]
  rfl

/-- After any other call the device is as it was. -/
theorem LogoutSession.after_failed {session : LogoutSession C} {attempt : LogoutAttempt}
    (h : ∀ node,session.logout attempt≠.ok node) : session.after attempt=
      ⟨session.device,(leaveHubAt session.device.node session.hub attempt).2⟩ := by
  unfold LogoutSession.logout at h
  unfold LogoutSession.after deviceAfter nodeAfter storedAfter
  dsimp only
  cases hlogout : session.device.node.logout (session.hub.answers attempt) attempt.store with
  | ok node => exact absurd hlogout (h node)
  | err e => rfl
  | panic m => rfl

/-- A call of `logout` resets the node exactly when it got through at the hub and at the store. -/
theorem after_eq {session : LogoutSession C} {attempt : LogoutAttempt}
    {reply : Outcome NodeStateError Unit} {hub : HubState}
    (hleave : leaveHubAt session.device.node session.hub attempt=(reply,hub)) :
    (reply=.ok () ∧ attempt.failing≠some .storeDeletion ∧
      session.logout attempt=.ok (loggedOut session.device.node) ∧
      session.after attempt=⟨⟨loggedOut session.device.node,none⟩,hub⟩) ∨
    ((reply=.ok () → attempt.failing=some .storeDeletion) ∧
      (∀ node,session.logout attempt≠.ok node) ∧ session.after attempt=⟨session.device,hub⟩) := by
  have hfst := leaveHubAt_fst session.device.node session.hub attempt
  rw [hleave] at hfst
  have hlogout : session.logout attempt=(do
      reply
      (Outcome.ofExcept attempt.store.delete).mapErr .store
      pure (loggedOut session.device.node)) := by
    rw [LogoutSession.logout,Node.logout,←hfst]
    rfl
  have hfailed : (∀ node,session.logout attempt≠.ok node) →
      session.after attempt=⟨session.device,hub⟩ := by
    intro hnone
    rw [LogoutSession.after_failed hnone,hleave]
  cases reply with
  | ok u =>
    by_cases hfailing : attempt.failing=some .storeDeletion
    · have herr : session.logout attempt=.err (.store attempt.storeError) := by
        rw [hlogout,Outcome.ok_bind,LogoutAttempt.store,if_pos hfailing]
        rfl
      have hnone : ∀ node,session.logout attempt≠.ok node := by
        intro node hok
        cases herr.symm.trans hok
      exact .inr ⟨fun _ => hfailing,hnone,hfailed hnone⟩
    · have hok : session.logout attempt=.ok (loggedOut session.device.node) := by
        rw [hlogout,Outcome.ok_bind,LogoutAttempt.store,if_neg hfailing]
        rfl
      refine .inl ⟨rfl,hfailing,hok,?_⟩
      rw [LogoutSession.after_ok hok,hleave]
  | err e =>
    have hnone : ∀ node,session.logout attempt≠.ok node := by
      intro node hok
      cases hlogout.symm.trans hok
    refine .inr ⟨fun hok => ?_,hnone,hfailed hnone⟩
    cases hok
  | panic m =>
    have hnone : ∀ node,session.logout attempt≠.ok node := by
      intro node hok
      cases hlogout.symm.trans hok
    refine .inr ⟨fun hok => ?_,hnone,hfailed hnone⟩
    cases hok

/-- Where a series of attempts has got to. -/
inductive LogoutPhase where
  /-- Nothing has changed. -/
  | fresh
  /-- The hub has the revocation, and the registration. -/
  | stuck
  /-- The hub no longer knows the node, which still has its registration. -/
  | gone
  /-- The node is logged out. -/
  | done
  deriving DecidableEq

/-- The phase after one more attempt, by the step that fails in it. -/
def LogoutPhase.next (activated : Bool) : LogoutPhase→Option LogoutStep→LogoutPhase
  | .fresh,some .connect => .fresh
  | .fresh,some .selfRevocation => if activated then .fresh else .done
  | .fresh,some .deregistration => if activated then .stuck else .fresh
  | .gone,some .connect => .gone
  | .gone,some .selfRevocation => if activated then .gone else .done
  | .gone,some .deregistration => if activated then .done else .gone
  | .fresh,some .storeDeletion => .gone
  | .gone,some .storeDeletion => .gone
  | .fresh,none => .done
  | .gone,none => .done
  | .stuck,_ => .stuck
  | .done,_ => .done

/-- What a phase says about the session, and about the one it started from. -/
def LogoutPhase.Describes (start now : LogoutSession C) : LogoutPhase→Prop
  | .fresh => now.device=start.device ∧ now.hub=start.hub ∧ start.hub.registered=true
  | .stuck => now.device=start.device ∧ start.device.node.state=.activated ∧
      now.hub.registered=true ∧ now.hub.roster.version.toInt=start.hub.roster.version.toInt+1
  | .gone => now.device=start.device ∧ now.hub.registered=false
  | .done => now.device=⟨loggedOut start.device.node,none⟩ ∧ now.hub.registered=false

/-- The phase a series of attempts starts in. -/
def startPhase (hub : HubState) : LogoutPhase := if hub.registered then .fresh else .gone

/-- A session whose node holds its registration, and whose hub is at the version of an
activated node's roster, which has another active node. -/
structure Leavable (start : LogoutSession C) : Prop where
  /-- The node holds a registration. -/
  held : ∃ registration,start.device.node.inner.registration=some registration ∧
    start.device.node.persisted.registration=some registration
  /-- The cached roster is the current one, and not only the node is active in it. -/
  current : ∀ registration base,start.device.node.inner=.activated registration base →
    base.version=start.hub.roster.version ∧ 1<(activeNodes base).length

/-- What an attempt leads to, and that it returns once nothing fails and the node is not stuck. -/
def Advances (start now : LogoutSession C) (phase : LogoutPhase) (attempt : LogoutAttempt) : Prop :=
  (phase.next (decide (start.device.node.state=.activated)) attempt.failing).Describes start
      (now.after attempt) ∧
    ((∃ node,now.logout attempt=.ok node) → phase≠.stuck) ∧
    (attempt.failing=none → phase≠.stuck → ∃ node,now.logout attempt=.ok node)

/-- An attempt that a call to the hub ended changes what that call changed. -/
theorem after_of_err {now : LogoutSession C} {attempt : LogoutAttempt} {e : NodeStateError}
    {hub : HubState} (hleave : leaveHubAt now.device.node now.hub attempt=(.err e,hub)) :
    (∀ node,now.logout attempt≠.ok node) ∧ now.after attempt=⟨now.device,hub⟩ := by
  rcases after_eq hleave with ⟨hok,_⟩|⟨_,hnot,hafter⟩
  · cases hok
  · exact ⟨hnot,hafter⟩

/-- An attempt that got through at the hub is done, unless the store fails. -/
theorem after_of_ok {start now : LogoutSession C} {attempt : LogoutAttempt} {hub : HubState}
    (hleave : leaveHubAt now.device.node now.hub attempt=(.ok (),hub))
    (hgone : hub.registered=false) (hsame : now.device=start.device) :
    (if attempt.failing=some .storeDeletion then LogoutPhase.gone else .done).Describes start
        (now.after attempt) ∧
      (attempt.failing≠some .storeDeletion → ∃ node,now.logout attempt=.ok node) := by
  rcases after_eq hleave with ⟨_,hfailing,hok,hafter⟩|⟨hfailing,_,hafter⟩
  · rw [if_neg hfailing,hafter,hsame]
    exact ⟨⟨rfl,hgone⟩,fun _ => ⟨_,hok⟩⟩
  · rw [if_pos (hfailing rfl),hafter]
    exact ⟨⟨hsame,hgone⟩,fun h => absurd (hfailing rfl) h⟩

/-- A node that is logged out stays so. -/
theorem advances_done {start now : LogoutSession C} (h : LogoutPhase.done.Describes start now)
    (attempt : LogoutAttempt) : Advances start now .done attempt := by
  obtain ⟨hdevice,hgone⟩ := h
  have hleave : leaveHubAt now.device.node now.hub attempt=(.ok (),now.hub) := by
    rw [hdevice]
    rfl
  rcases after_eq hleave with ⟨_,_,hok,hafter⟩|⟨hfailing,_,hafter⟩
  · refine ⟨?_,fun _ => by simp,fun _ _ => ⟨_,hok⟩⟩
    rw [hafter,hdevice]
    exact ⟨rfl,hgone⟩
  · refine ⟨?_,fun _ => by simp,fun hworks => ?_⟩
    · rw [hafter]
      exact ⟨hdevice,hgone⟩
    · rw [hworks] at hfailing
      cases hfailing rfl

/-- The phases that a node which is not activated goes through. -/
theorem next_unactivated {phase : LogoutPhase} (hphase : phase=.fresh ∨ phase=.gone)
    (failing : Option LogoutStep) :
    phase.next false failing=
      if failing=some .connect ∨ failing=some .deregistration then phase
      else if failing=some .storeDeletion then .gone else .done := by
  rcases hphase with rfl|rfl <;> rcases failing with _|_|_|_|_ <;> rfl

/-- A node that is not activated gets further with each attempt, or stays. -/
theorem advances_unactivated {start now : LogoutSession C} {phase : LogoutPhase}
    (hstart : Leavable start) (hactivated : start.device.node.state≠.activated)
    (hphase : phase=.fresh ∨ phase=.gone) (h : phase.Describes start now)
    (attempt : LogoutAttempt) : Advances start now phase attempt := by
  have hsame : now.device=start.device := by
    rcases hphase with rfl|rfl
    · exact h.1
    · exact h.1
  have hfree : phase≠.stuck := by
    rcases hphase with rfl|rfl
    · decide
    · decide
  obtain ⟨registration,hown,hheld⟩ := hstart.held
  have hleave := @leaveHubAt_unactivated C start.device.node registration
    (fun found base hinner => hactivated (state_eq_activated.mpr ⟨found,base,hinner⟩))
    (fun hinner => by simp [hinner,InnerState.registration] at hown) hheld now.hub attempt
  rw [←hsame,←ite_or] at hleave
  unfold Advances
  rw [decide_eq_false hactivated,next_unactivated hphase]
  by_cases hfails : attempt.failing=some .connect ∨ attempt.failing=some .deregistration
  · have herr : leaveHubAt now.device.node now.hub attempt=(.err (.hub attempt.transient),now.hub) := by
      rw [hleave,if_pos hfails]
    obtain ⟨hnot,hafter⟩ := after_of_err herr
    refine ⟨?_,fun _ => hfree,fun hworks => ?_⟩
    · rw [if_pos hfails,hafter]
      exact h
    · simp [hworks] at hfails
  · rw [if_neg hfails] at hleave
    obtain ⟨hnext,hreturns⟩ := after_of_ok hleave rfl hsame
    refine ⟨?_,fun _ => hfree,fun hworks _ => hreturns (by simp [hworks])⟩
    rw [if_neg hfails]
    exact hnext

/-- An attempt of an activated node, by its phase. -/
theorem advances_activated {start now : LogoutSession C} {registration : NodeRegistration}
    {base : Roster} {phase : LogoutPhase} (hstart : Leavable start)
    (hinner : start.device.node.inner=.activated registration base)
    (hversion : base.version≠Int64.maxValue) (hphase : phase≠.done)
    (h : phase.Describes start now) (attempt : LogoutAttempt) :
    Advances start now phase attempt := by
  have hactivated : start.device.node.state=.activated :=
    state_eq_activated.mpr ⟨registration,base,hinner⟩
  obtain ⟨hcurrent,hmany⟩ := hstart.current registration base hinner
  have hsame : now.device=start.device := by
    cases phase with
    | fresh => exact h.1
    | stuck => exact h.1
    | gone => exact h.1
    | done => exact absurd rfl hphase
  obtain ⟨newRoster,hnew,hleave⟩ := leaveHubAt_activated hinner hmany hversion now.hub attempt
  rw [←hsame,←ite_or] at hleave
  unfold Advances
  rw [decide_eq_true hactivated]
  by_cases hfails : attempt.failing=some .connect ∨ attempt.failing=some .selfRevocation
  · have herr : leaveHubAt now.device.node now.hub attempt=(.err (.hub attempt.transient),now.hub) := by
      rw [hleave,if_pos hfails]
    obtain ⟨hnot,hafter⟩ := after_of_err herr
    have hstays : phase.next true attempt.failing=phase := by
      rcases hfails with hfails|hfails <;> rw [hfails] <;> cases phase <;> rfl
    refine ⟨?_,fun ⟨node,hok⟩ => absurd hok (hnot node),fun hworks => ?_⟩
    · rw [hstays,hafter]
      exact h
    · simp [hworks] at hfails
  · obtain ⟨hconnect,hrevoke⟩ := not_or.mp hfails
    rw [if_neg hfails] at hleave
    cases phase with
    | done => exact absurd rfl hphase
    | gone =>
      rw [if_pos h.2] at hleave
      obtain ⟨hnext,hreturns⟩ := after_of_ok hleave h.2 hsame
      refine ⟨?_,fun _ => by decide,fun hworks _ => hreturns (by simp [hworks])⟩
      have hgone : LogoutPhase.gone.next true attempt.failing=
          if attempt.failing=some .storeDeletion then .gone else .done := by
        rcases hfailing : attempt.failing with _|_|_|_|_
        · rfl
        · exact absurd hfailing hconnect
        · exact absurd hfailing hrevoke
        · rfl
        · rfl
      rw [hgone]
      exact hnext
    | stuck =>
      have hregistered : now.hub.registered=true := h.2.2.1
      have hahead : now.hub.roster.version.toInt=start.hub.roster.version.toInt+1 := h.2.2.2
      rw [if_neg (by simp [hregistered]),if_neg (by rw [hcurrent,hahead]; omega)] at hleave
      obtain ⟨hnot,hafter⟩ := after_of_err hleave
      refine ⟨?_,fun ⟨node,hok⟩ => absurd hok (hnot node),fun _ hfree => absurd rfl hfree⟩
      rw [hafter]
      exact h
    | fresh =>
      obtain ⟨_,hhub,hregistered⟩ := h
      have hknown : now.hub.registered=true := hhub ▸ hregistered
      rw [if_neg (by simp [hknown]),if_pos (by rw [hhub,hcurrent])] at hleave
      by_cases hderegister : attempt.failing=some .deregistration
      · rw [if_pos hderegister] at hleave
        obtain ⟨hnot,hafter⟩ := after_of_err hleave
        refine ⟨?_,fun _ => by decide,fun hworks => ?_⟩
        · rw [hderegister,hafter]
          exact ⟨hsame,hactivated,hknown,by rw [hnew,hcurrent]⟩
        · rw [hworks] at hderegister
          cases hderegister
      · rw [if_neg hderegister] at hleave
        obtain ⟨hnext,hreturns⟩ := after_of_ok hleave rfl hsame
        refine ⟨?_,fun _ => by decide,fun hworks _ => hreturns (by simp [hworks])⟩
        have hfresh : LogoutPhase.fresh.next true attempt.failing=
            if attempt.failing=some .storeDeletion then .gone else .done := by
          rcases hfailing : attempt.failing with _|_|_|_|_
          · rfl
          · exact absurd hfailing hconnect
          · exact absurd hfailing hrevoke
          · exact absurd hfailing hderegister
          · rfl
        rw [hfresh]
        exact hnext

/-- Every attempt advances the session by its phase, versions that overflow apart. -/
theorem advances {start now : LogoutSession C} {phase : LogoutPhase} (hstart : Leavable start)
    (hversion : ∀ registration base,start.device.node.inner=.activated registration base →
      base.version≠Int64.maxValue)
    (h : phase.Describes start now) (attempt : LogoutAttempt) :
    Advances start now phase attempt := by
  by_cases hdone : phase=.done
  · subst hdone
    exact advances_done h attempt
  by_cases hactivated : start.device.node.state=.activated
  · obtain ⟨registration,base,hinner⟩ := state_eq_activated.mp hactivated
    exact advances_activated hstart hinner (hversion registration base hinner) hdone h attempt
  · refine advances_unactivated hstart hactivated ?_ h attempt
    cases phase with
    | fresh => exact .inl rfl
    | gone => exact .inr rfl
    | stuck => exact absurd h.2.1 hactivated
    | done => exact absurd rfl hdone

/-- The phase after a series of attempts. -/
def LogoutPhase.afterAll (activated : Bool) (phase : LogoutPhase) (attempts : List LogoutAttempt) :
    LogoutPhase :=
  attempts.foldl (fun phase attempt => phase.next activated attempt.failing) phase

/-- A series of attempts ends in the phase that their failures lead to. -/
theorem afterAll_describes {start : LogoutSession C} (hstart : Leavable start)
    (hversion : ∀ registration base,start.device.node.inner=.activated registration base →
      base.version≠Int64.maxValue) (attempts : List LogoutAttempt) {now : LogoutSession C}
    {phase : LogoutPhase} (h : phase.Describes start now) :
    (phase.afterAll (decide (start.device.node.state=.activated)) attempts).Describes start
      (now.afterAll attempts) := by
  induction attempts generalizing now phase with
  | nil => exact h
  | cons attempt attempts ih => exact ih (advances hstart hversion h attempt).1

/-- The first of the attempts that gets past the revocation. -/
def firstPastRevocation (attempts : List LogoutAttempt) : Option LogoutAttempt :=
  attempts.find? fun attempt =>
    decide (attempt.failing≠some .connect ∧ attempt.failing≠some .selfRevocation)

/-- A node that is not activated never gets stuck. -/
theorem afterAll_unactivated (phase : LogoutPhase) (attempts : List LogoutAttempt) :
    phase.afterAll false attempts=.stuck ↔ phase=.stuck := by
  induction attempts generalizing phase with
  | nil => exact Iff.rfl
  | cons attempt attempts ih =>
    have hnext : phase.next false attempt.failing=.stuck ↔ phase=.stuck := by
      rcases attempt.failing with _|_|_|_|_ <;> cases phase <;> decide
    exact (ih _).trans hnext

/-- Once past its first revocation, a series stays stuck or stays free. -/
theorem afterAll_past {phase : LogoutPhase} (hphase : phase≠.fresh)
    (attempts : List LogoutAttempt) : phase.afterAll true attempts=.stuck ↔ phase=.stuck := by
  induction attempts generalizing phase with
  | nil => exact Iff.rfl
  | cons attempt attempts ih =>
    have hnext : phase.next true attempt.failing≠.fresh ∧
        (phase.next true attempt.failing=.stuck ↔ phase=.stuck) := by
      rcases attempt.failing with _|_|_|_|_ <;> cases phase <;>
        first
        | exact absurd rfl hphase
        | decide
    exact (ih hnext.1).trans hnext.2

/-- A series gets an activated node stuck exactly when its first attempt past the revocation
fails to deregister. -/
theorem afterAll_fresh (attempts : List LogoutAttempt) :
    LogoutPhase.fresh.afterAll true attempts=.stuck ↔
      ∃ attempt,firstPastRevocation attempts=some attempt ∧
        attempt.failing=some .deregistration := by
  induction attempts with
  | nil => simp [LogoutPhase.afterAll,firstPastRevocation]
  | cons attempt attempts ih =>
    by_cases hpast : attempt.failing≠some .connect ∧ attempt.failing≠some .selfRevocation
    · have hfirst : firstPastRevocation (attempt::attempts)=some attempt :=
        List.find?_cons_of_pos (decide_eq_true hpast)
      have hnext : LogoutPhase.fresh.next true attempt.failing≠.fresh ∧
          (LogoutPhase.fresh.next true attempt.failing=.stuck ↔
            attempt.failing=some .deregistration) := by
        obtain ⟨hconnect,hrevoke⟩ := hpast
        rcases hfailing : attempt.failing with _|_|_|_|_
        · decide
        · exact absurd hfailing hconnect
        · exact absurd hfailing hrevoke
        · decide
        · decide
      have htail := (afterAll_past hnext.1 attempts).trans hnext.2
      simp only [hfirst,Option.some.injEq,exists_eq_left']
      exact htail
    · have hfirst : firstPastRevocation (attempt::attempts)=firstPastRevocation attempts :=
        List.find?_cons_of_neg (by simpa using hpast)
      have hnext : LogoutPhase.fresh.next true attempt.failing=.fresh := by
        rcases hfailing : attempt.failing with _|_|_|_|_
        · simp [hfailing] at hpast
        · rfl
        · rfl
        · simp [hfailing] at hpast
        · simp [hfailing] at hpast
      rw [hfirst,←ih,LogoutPhase.afterAll,List.foldl_cons,hnext,LogoutPhase.afterAll]

/-- Past the last version, an activated node never gets through at the hub. -/
theorem after_overflow {session : LogoutSession C} {registration : NodeRegistration} {base : Roster}
    (hinner : session.device.node.inner=.activated registration base)
    (hversion : base.version=Int64.maxValue) (attempt : LogoutAttempt) :
    (∀ node,session.logout attempt≠.ok node) ∧ session.after attempt=session := by
  have hleave : ∃ reply,leaveHubAt session.device.node session.hub attempt=(reply,session.hub) ∧
      reply≠.ok () := by
    rw [leaveHubAt,hinner]
    dsimp only
    by_cases hlast : (activeNodes base).length≤1
    · exact ⟨_,if_pos hlast,by simp⟩
    rw [if_neg hlast]
    cases attempt.connect with
    | error e => exact ⟨_,rfl,by simp⟩
    | ok u =>
      dsimp only
      rw [submitRevocationAt_overflow _ _ _ _ _ _ hversion]
      exact ⟨_,rfl,by simp⟩
  obtain ⟨reply,hleave,hreply⟩ := hleave
  rcases after_eq hleave with ⟨hok,_⟩|⟨_,hnot,hafter⟩
  · exact absurd hok hreply
  · exact ⟨hnot,hafter⟩

/-- Where the version cannot go up, no attempts take the session further. -/
theorem afterAll_overflow {session : LogoutSession C} {registration : NodeRegistration}
    {base : Roster} (hinner : session.device.node.inner=.activated registration base)
    (hversion : base.version=Int64.maxValue) (attempts : List LogoutAttempt) :
    session.afterAll attempts=session := by
  induction attempts with
  | nil => rfl
  | cons attempt attempts ih =>
    rw [LogoutSession.afterAll,List.foldl_cons,(after_overflow hinner hversion attempt).2]
    exact ih

/-- A later attempt in which nothing fails logs out, unless the series got stuck. -/
theorem logsOut_iff {start : LogoutSession C} (hstart : Leavable start)
    (hversion : ∀ registration base,start.device.node.inner=.activated registration base →
      base.version≠Int64.maxValue)
    (attempts : List LogoutAttempt) {last : LogoutAttempt} (hworks : last.failing=none) :
    LogsOut (start.afterAll attempts) last ↔
      (startPhase start.hub).afterAll (decide (start.device.node.state=.activated)) attempts≠
        .stuck := by
  have hinitial : (startPhase start.hub).Describes start start := by
    unfold startPhase
    cases hregistered : start.hub.registered with
    | true => exact ⟨rfl,rfl,hregistered⟩
    | false => exact ⟨rfl,hregistered⟩
  have hreached := afterAll_describes hstart hversion attempts hinitial
  obtain ⟨hnext,hfree,hreturns⟩ := advances hstart hversion hreached last
  refine ⟨fun h => hfree h.returns,fun h => ?_⟩
  have hdone : ((startPhase start.hub).afterAll (decide (start.device.node.state=.activated))
      attempts).next (decide (start.device.node.state=.activated)) last.failing=.done := by
    rw [hworks]
    generalize (startPhase start.hub).afterAll (decide (start.device.node.state=.activated))
      attempts=phase at h
    cases phase with
    | stuck => exact absurd rfl h
    | fresh => rfl
    | gone => rfl
    | done => rfl
  rw [hdone] at hnext
  obtain ⟨hdevice,hgone⟩ := hnext
  exact ⟨hreturns hworks h,by rw [hdevice]; rfl,by rw [hdevice],hgone⟩

end Attempts

/-- From every node that a run reaches and that is not pending, and a hub at the version of
its cached roster, a later logout in which nothing fails logs out, if and only if the node is
not activated, or its version has a next one and the first attempt that got past the
revocation did not fail to deregister a node that the hub still knew. -/
theorem logout_finishes (C : Crypto) (contents : Option PersistedNodeState)
    (save : PersistedNodeState→Except StorageError Unit) (freshRootKey : Bytes) (hub : Hub)
    (start : Node C) (hstart : restoreOrInitNode C (.ok contents) save freshRootKey hub=.ok start)
    (log : List NodeCall) (device : Device C)
    (run : DeviceRun (restoredDevice contents freshRootKey start) log device)
    (hstate : device.node.state≠.pending) (state : HubState)
    (hcurrent : ∀ registration base,device.node.inner=.activated registration base →
      base.version=state.roster.version ∧ 1<(activeNodes base).length)
    (attempts : List LogoutAttempt) (last : LogoutAttempt) (hworks : last.failing=none) :
    LogsOut (LogoutSession.afterAll ⟨device,state⟩ attempts) last ↔
      ∀ registration base,device.node.inner=.activated registration base →
        base.version≠Int64.maxValue ∧ (state.registered=true →
          ∀ attempt,firstPastRevocation attempts=some attempt →
            attempt.failing≠some .deregistration) := by
  have inv := DeviceRun.invariant run (restoreOrInitNode_device hstart).1
  have hheld : ∃ registration,device.node.inner.registration=some registration ∧
      device.node.persisted.registration=some registration := by
    cases hown : device.node.inner.registration with
    | none => exact absurd (state_eq_pending.mpr (registration_eq_none.mp hown)) hstate
    | some registration => exact ⟨registration,rfl,(inv.registered registration hown).1⟩
  have hleavable : Leavable (⟨device,state⟩ : LogoutSession C) := ⟨hheld,hcurrent⟩
  by_cases hactivated : device.node.state=.activated
  · obtain ⟨registration,base,hinner⟩ := state_eq_activated.mp hactivated
    by_cases hversion : base.version=Int64.maxValue
    · rw [afterAll_overflow hinner hversion]
      refine ⟨fun h => ?_,fun h => absurd hversion (h registration base hinner).1⟩
      obtain ⟨node,hok⟩ := h.returns
      exact absurd hok ((after_overflow hinner hversion last).1 node)
    · have honly : ∀ found cached,device.node.inner=.activated found cached →
          cached.version≠Int64.maxValue := by
        intro found cached hfound
        obtain ⟨rfl,rfl⟩ := InnerState.activated.inj (hinner.symm.trans hfound)
        exact hversion
      rw [logsOut_iff hleavable honly attempts hworks]
      dsimp only
      rw [decide_eq_true hactivated,startPhase]
      cases hregistered : state.registered with
      | false =>
        rw [if_neg Bool.false_ne_true,ne_eq,afterAll_past (by decide)]
        simp only [reduceCtorEq,not_false_eq_true,Bool.false_eq_true,false_implies,and_true,
          true_iff]
        exact honly
      | true =>
        rw [if_pos rfl,ne_eq,afterAll_fresh]
        refine ⟨fun h found cached hfound => ⟨honly found cached hfound,fun _ attempt hfirst hfails =>
          h ⟨attempt,hfirst,hfails⟩⟩,?_⟩
        rintro h ⟨attempt,hfirst,hfails⟩
        exact (h registration base hinner).2 rfl attempt hfirst hfails
  · have hnone : ∀ registration base,device.node.inner≠.activated registration base :=
      fun registration base hinner => hactivated (state_eq_activated.mpr ⟨registration,base,hinner⟩)
    rw [logsOut_iff hleavable (fun registration base h => absurd h (hnone registration base))
      attempts hworks]
    dsimp only
    rw [decide_eq_false hactivated,ne_eq,afterAll_unactivated]
    refine ⟨fun _ registration base h => absurd h (hnone registration base),fun _ => ?_⟩
    unfold startPhase
    split <;> decide

/-- An attempt of node 2 that fails at the given step, or at none. -/
def failingAt (failing : Option LogoutStep) : LogoutAttempt where
  failing := failing
  transient := .rpc .unavailable "try again"
  temporary := rfl
  conflict := .rpc .failedPrecondition "version conflict"
  conflicting := rfl
  unknown := .rpc .notFound "unknown node"
  removed := rfl
  storeError := .io "disk full"

/-- Node 2 of the trio, restored, and a hub that is at the roster it restored. -/
def secondLogout : LogoutSession sealedCrypto.toCrypto :=
  ⟨restoredDevice (some secondContents) [] restoredSecond,⟨sealedTrio,true⟩⟩

/-- All three nodes are active. -/
theorem activeNodes_sealedTrio : (activeNodes sealedTrio).length=3 := by decide +kernel

/-- Node 2 may leave. -/
theorem secondLogout_current (registration : NodeRegistration) (base : Roster)
    (hinner : secondLogout.device.node.inner=.activated registration base) :
    base.version=secondLogout.hub.roster.version ∧ 1<(activeNodes base).length := by
  obtain ⟨rfl,rfl⟩ := InnerState.activated.inj hinner
  exact ⟨rfl,by rw [activeNodes_sealedTrio]; decide⟩

/-- Its roster has a next version. -/
theorem secondLogout_version (registration : NodeRegistration) (base : Roster)
    (hinner : secondLogout.device.node.inner=.activated registration base) :
    base.version≠Int64.maxValue := by
  obtain ⟨rfl,rfl⟩ := InnerState.activated.inj hinner
  decide +kernel

/-- Node 2 logs out in the second attempt when its store failed in the first. -/
theorem logout_finishes_after_storeDeletion :
    LogsOut (secondLogout.afterAll [failingAt (some .storeDeletion)]) (failingAt none) := by
  have hactivated : restoredSecond.state≠.pending := by decide
  refine (logout_finishes sealedCrypto.toCrypto (some secondContents) (fun _ => .ok ()) []
    (relayingHub sealedTrio none) restoredSecond restoreOrInitNode_second [] _ .start hactivated
    ⟨sealedTrio,true⟩ secondLogout_current [failingAt (some .storeDeletion)] (failingAt none)
    rfl).mpr ?_
  intro registration base hinner
  refine ⟨secondLogout_version registration base hinner,fun _ attempt hfirst => ?_⟩
  obtain rfl := Option.some.inj hfirst
  decide

/-- Node 2 never logs out after the hub took its revocation and failed to deregister it. -/
theorem logout_stuck_after_deregistration :
    restoreOrInitNode sealedCrypto.toCrypto (.ok (some secondContents)) (fun _ => .ok ()) []
      (relayingHub sealedTrio none)=.ok restoredSecond ∧
    restoredSecond.state=.activated ∧ (activeNodes sealedTrio).length=3 ∧
    ∀ later last,last.failing=none →
      ¬LogsOut (secondLogout.afterAll (failingAt (some .deregistration)::later)) last := by
  have hleavable : Leavable secondLogout := ⟨⟨_,rfl,rfl⟩,secondLogout_current⟩
  refine ⟨restoreOrInitNode_second,rfl,activeNodes_sealedTrio,fun later last hworks h => ?_⟩
  refine (logsOut_iff hleavable secondLogout_version _ hworks).mp h ?_
  exact (afterAll_fresh (failingAt (some .deregistration)::later)).mpr ⟨_,rfl,rfl⟩

end WispersConnect.LogoutRetries
