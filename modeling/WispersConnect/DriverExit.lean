import WispersConnect.ConnectionSteps
import WispersConnect.Runs

/-!
# Calls that outlive the driver

The driver sets the exit flag and then notifies a last time. A call that arms its
notification before it looks at that flag is reached by the notification or sees
the flag, so it returns. `write_all` does not look: it returns unless it finds its
stream blocked after the last notification, and then it waits for good.
-/

namespace WispersConnect.DriverExit

open Messages QuicConnection ConnectionSteps Runs

variable {σ ρ ω ι : Type} {Q : Quiche σ ρ} {role : QuicRole} {waker : ι→ω}

/-- The last notification has reached the waiters. -/
def signalled : DriverPc ρ ω→Bool
  | .notify .take .finish => true
  | .notify (.wake _) .finish => true
  | .finished => true
  | _ => false

/-- The caller waits for a notification that has not fired, or is about to. -/
def waits : Caller ω→Bool
  | .call _ .await fired => !fired
  | .call _ (.flush .await) fired => !fired
  | _ => false

/-- A `write_all` at its send has data left. -/
def SendsData : Caller ω→Prop
  | .call call .check _ => Within call
  | _ => True

/-- A `write_all` finds its stream blocked after the last notification. -/
def blockedWrite (Q : Quiche σ ρ) (state : State σ ρ ω ι) : Label ρ ι→Bool
  | .caller i _ =>
    match state.callers i with
    | .call (.writeAll stream data offset) .check _ =>
      signalled state.driver &&
        decide ((writeAllSend Q stream data offset state.shared.conn).1=.ok 0)
    | _ => false
  | _ => false

/-- The caller is not in a call that waits for the notification. -/
def outOfCall : Caller ω→Bool
  | .call _ _ _ => false
  | _ => true

section Rules

variable {P : Caller ω→Prop}

/-- Firing changes calls only. -/
theorem fire_rule (hcall : ∀ call pc fired,P (.call call pc fired) → P (.call call pc true))
    {caller : Caller ω} (h : P caller) : P caller.fire := by
  cases caller with
  | call call pc fired => exact hcall call pc fired h
  | idle | closing | poll | returned | ready => exact h

/-- Waking changes poll functions only. -/
theorem wake_rule (hother : ∀ caller,outOfCall caller=true → P caller) {caller : Caller ω}
    (h : P caller) : P caller.wake := by
  cases caller with
  | poll call pc woken => exact hother _ rfl
  | idle | call | closing | returned | ready => exact h

variable [DecidableEq ι]

/-- What holds of every caller and of where one goes holds of every caller after. -/
theorem setCaller_rule {state : State σ ρ ω ι} (h : ∀ j,P (state.callers j)) {i : ι}
    {caller : Caller ω} (hi : P caller) (j : ι) : P ((state.setCaller i caller).callers j) := by
  change P (Function.update state.callers i caller j)
  by_cases hj : j=i
  · subst hj
    rw [Function.update_self]
    exact hi
  · rw [Function.update_of_ne hj]
    exact h j

variable [DecidableEq ω]

omit [DecidableEq ι] in
/-- A step of notifying keeps what firing keeps. -/
theorem notify_rule (hother : ∀ caller,outOfCall caller=true → P caller)
    (hfire : ∀ call pc fired,P (.call call pc fired) → P (.call call pc true))
    {before state : State σ ρ ω ι} {pc : NotifyPc ω} {next : Option (NotifyPc ω)}
    (h : notifyStep waker before pc=(next,state)) (hall : ∀ j,P (before.callers j)) (j : ι) :
    P (state.callers j) := by
  cases pc with
  | waiters =>
    cases h
    exact fire_rule hfire (hall j)
  | take =>
    cases h
    exact hall j
  | wake taken =>
    cases taken with
    | nil =>
      cases h
      exact hall j
    | cons w rest =>
      cases h
      change P (if waker j=w then (before.callers j).wake else before.callers j)
      split_ifs
      · exact wake_rule hother (hall j)
      · exact hall j

/-- A property of calls is kept by a move when firing, starting and each step of a call keep it. -/
theorem callers_rule {before after : State σ ρ ω ι} {label : Label ρ ι}
    (h : Move Q waker before label after) (hother : ∀ caller,outOfCall caller=true → P caller)
    (hfire : ∀ call pc fired,P (.call call pc fired) → P (.call call pc true))
    (hop : ∀ op : Op,P op.caller)
    (hcall : ∀ i turn call pc fired caller,label=.caller i turn →
      before.callers i=.call call pc fired → CallMove Q before.shared call pc fired caller →
      P caller)
    (hall : ∀ i,P (before.callers i)) (j : ι) : P (after.callers j) := by
  cases h with
  | driver turn move =>
    cases move with
    | moved => exact hall j
    | notified pc next under now => exact notify_rule hother hfire now hall j
    | resumed => exact hall j
    | exits => exact hall j
  | call i turn under frame move =>
    exact setCaller_rule hall (hcall i turn _ _ _ _ rfl under move) j
  | close i turn under move =>
    cases move with
    | moved conn caller none goes =>
      refine setCaller_rule hall (hother _ ?_) j
      rcases goes with rfl|rfl|⟨reply,rfl⟩
      · rfl
      · rfl
      · rfl
    | stored => exact setCaller_rule hall (hother _ rfl) j
    | notified pc now =>
      exact setCaller_rule (notify_rule hother hfire now hall)
        (hother _ rfl) j
    | returned => exact setCaller_rule hall (hother _ rfl) j
  | polled i turn under entered =>
    refine setCaller_rule hall (hother _ ?_) j
    cases entered with
    | ready | registered | unregistered => rfl
  | @contended i turn call woken under =>
    have hset : ∀ k,P ((before.setCaller i (.poll call .pending woken)).callers k) :=
      setCaller_rule hall (hother _ rfl)
    exact notify_rule hother hfire
      (rfl : notifyStep waker _ (.wake [waker i])=(some (.wake []),_)) hset j
  | ready i turn reply under frame =>
    exact setCaller_rule hall (hother _ rfl) j
  | pending i turn uncontended registers under frame waits =>
    exact setCaller_rule hall (hother _ rfl) j
  | again i turn under => exact setCaller_rule hall (hother _ rfl) j
  | started i op settled held => exact setCaller_rule hall (hop op) j
  | abandoned i abandonable => exact setCaller_rule hall (hother _ rfl) j
  | touched | dropped | aborted | cancelled => exact hall j

end Rules

variable [DecidableEq ω] [DecidableEq ι]

/-- A step that does not find a `write_all` blocked after the last notification. -/
structure UnblockedStep (Q : Quiche σ ρ) (role : QuicRole) (waker : ι→ω) (before : State σ ρ ω ι)
    (label : Label ρ ι) (after : State σ ρ ω ι) : Prop where
  /-- It is a step. -/
  now : Step Q role waker before label after
  /-- No stream is blocked. -/
  unblocked : blockedWrite Q before label=false

/-- The runs of a connection without a blocked `write_all` after the last notification. -/
abbrev UnblockedRun (Q : Quiche σ ρ) (role : QuicRole) (waker : ι→ω) (start : State σ ρ ω ι) :
    List (Label ρ ι)→State σ ρ ω ι→Prop :=
  Run (fun _ before label after => UnblockedStep Q role waker before label after) start

/-- The flags around the driver's end. -/
structure Flagged (state : State σ ρ ω ι) : Prop where
  /-- Past the exit flag it is set. -/
  exited : exiting state.driver=true → state.shared.driverExited=true
  /-- Every `write_all` at its send has data left. -/
  sends : ∀ i,SendsData (state.callers i)

omit [DecidableEq ω] [DecidableEq ι] in
/-- Once the last notification is out, the driver is past the exit flag. -/
theorem exiting_of_signalled {driver : DriverPc ρ ω} (h : signalled driver=true) :
    exiting driver=true := by
  unfold signalled at h
  split at h
  · rfl
  · rfl
  · rfl
  · cases h

omit [DecidableEq ι] in
/-- Notifying leaves the flags, the owner and the driver's place as they were. -/
theorem notifyStep_frame {before state : State σ ρ ω ι} {pc : NotifyPc ω}
    {next : Option (NotifyPc ω)} (h : notifyStep waker before pc=(next,state)) :
    state.shared.driverExited=before.shared.driverExited ∧
      state.shared.shutdown=before.shared.shutdown ∧ state.handle=before.handle ∧
      state.driver=before.driver := by
  cases pc with
  | waiters | take =>
    cases h
    exact ⟨rfl,rfl,rfl,rfl⟩
  | wake taken =>
    cases taken with
    | nil | cons =>
      cases h
      exact ⟨rfl,rfl,rfl,rfl⟩

omit [DecidableEq ω] in
/-- The exit flag is never reset. -/
theorem driverExited_stays [DecidableEq ω] {before after : State σ ρ ω ι} {label : Label ρ ι}
    (h : Move Q waker before label after) (hexited : before.shared.driverExited=true) :
    after.shared.driverExited=true := by
  cases h with
  | driver turn move =>
    cases move with
    | moved => exact hexited
    | notified pc next under now => exact (notifyStep_frame now).1.trans hexited
    | resumed => exact hexited
    | exits => rfl
  | call i turn under frame move => exact frame.driverExited.trans hexited
  | close i turn under move =>
    cases move with
    | moved => exact hexited
    | stored => exact hexited
    | notified pc now => exact (notifyStep_frame now).1.trans hexited
    | returned => exact hexited
  | polled i turn under entered =>
    cases entered with
    | ready | registered | unregistered => exact hexited
  | ready i turn reply under frame => exact frame.driverExited.trans hexited
  | pending i turn uncontended registers under frame waits =>
    exact frame.driverExited.trans hexited
  | touched touch frame => exact frame.driverExited.trans hexited
  | contended | again | started | abandoned | dropped | aborted | cancelled => exact hexited

/-- Where a step takes the driver: nowhere, or by a step of its own, or away from it. -/
theorem driver_stays {before after : State σ ρ ω ι} {label : Label ρ ι}
    (h : Move Q waker before label after) :
    (∃ turn,label=.driver turn ∧ DriverMove waker before after) ∨ after.driver=before.driver ∨
      (label=.cancel ∧ before.driver.awaits=true ∧ after.driver=.cancelled) := by
  cases h with
  | driver turn move => exact .inl ⟨turn,rfl,move⟩
  | close i turn under move =>
    cases move with
    | notified pc now => exact .inr (.inl (notifyStep_frame now).2.2.2)
    | moved | stored | returned => exact .inr (.inl rfl)
  | cancelled gone awaits => exact .inr (.inr ⟨rfl,awaits,rfl⟩)
  | call | polled | contended | ready | pending | again | started | abandoned | touched | dropped
    | aborted => exact .inr (.inl rfl)

/-- Every move keeps the flags right. -/
theorem Flagged.move {before after : State σ ρ ω ι} {label : Label ρ ι}
    (inv : Flagged before) (h : Move Q waker before label after) : Flagged after := by
  constructor
  · intro hexiting
    rcases driver_stays h with ⟨turn,rfl,move⟩|hsame|⟨_,_,hcancelled⟩
    · cases move with
      | moved conn driver running running' => cases running'.symm.trans hexiting
      | notified pc next under now =>
        refine (notifyStep_frame now).1.trans (inv.exited ?_)
        rw [under]
        cases next with
        | loop | exit => cases hexiting
        | finish => rfl
      | resumed next under =>
        refine inv.exited ?_
        rw [under]
        cases next with
        | loop | exit => cases hexiting
        | finish => rfl
      | exits under => rfl
    · exact driverExited_stays h (inv.exited (hsame ▸ hexiting))
    · rw [hcancelled] at hexiting
      cases hexiting
  · refine callers_rule h ?_ ?_ ?_ ?_ inv.sends
    · intro caller hout
      cases caller with
      | call => cases hout
      | idle | closing | poll | returned | ready => trivial
    · intro call pc fired hsends
      cases pc with
      | check => exact hsends
      | enter | arm | exitCheck | flush | await => trivial
    · intro op
      cases op with
      | handshake | ping | openStream | acceptStream | closeWithError | read | writeAll | pollRead
        | pollWrite | pollShutdown => trivial
    · intro i turn call pc fired caller _ _ hmove
      cases hmove with
      | armed within => exact within
      | returned | entered | pinged | looked | opened | uncredited | wrote | blocked | passed
        | flushing | more | looped | waits | woken => trivial

omit [DecidableEq ω] in
/-- Notifying the waiters leaves nobody waiting. -/
theorem waits_fire (caller : Caller ω) : waits caller.fire=false := by
  cases caller with
  | call call pc fired =>
    cases pc with
    | flush next =>
      cases next with
      | loop | await | «return» => rfl
    | enter | arm | check | exitCheck | await => rfl
  | idle | closing | poll | returned | ready => rfl

/-- The driver's end is kept by every move: nobody waits once the last
notification is out, unless a `write_all` was blocked. -/
theorem noWait_move {before after : State σ ρ ω ι} {label : Label ρ ι}
    (hmove : Move Q waker before label after) (inv : Flagged before)
    (hblocked : blockedWrite Q before label=false)
    (hwait : signalled before.driver=true → ∀ i,waits (before.callers i)=false)
    (hsignalled : signalled after.driver=true) (i : ι) : waits (after.callers i)=false := by
  by_cases hbefore : signalled before.driver=true
  · have hexited := inv.exited (exiting_of_signalled hbefore)
    refine callers_rule (P := fun caller => waits caller=false) hmove ?_ ?_ ?_ ?_ (hwait hbefore) i
    · intro caller hout
      cases caller with
      | call => cases hout
      | idle | closing | poll | returned | ready => rfl
    · intro call pc fired _
      exact waits_fire (.call call pc fired)
    · intro op
      cases op with
      | handshake | ping | openStream | acceptStream | closeWithError | read | writeAll | pollRead
        | pollWrite | pollShutdown => rfl
    · intro j turn call pc fired caller hlabel hunder hcall
      have hold := hwait hbefore j
      rw [hunder] at hold
      cases hcall with
      | returned | entered | pinged | armed | looked | opened | wrote | looped | woken => rfl
      | uncredited alive | passed alive | flushing alive => cases alive.symm.trans hexited
      | blocked full =>
        rw [hlabel] at hblocked
        simp only [blockedWrite,hunder,hbefore,full,decide_true,Bool.and_self] at hblocked
        cases hblocked
      | more next => exact hold
      | waits => exact hold
  · rcases driver_stays hmove with ⟨turn,_,move⟩|hsame|⟨_,_,hcancelled⟩
    · cases move with
      | moved conn driver running running' =>
        cases running'.symm.trans (exiting_of_signalled hsignalled)
      | notified pc next under now =>
        cases next with
        | loop | exit =>
          have hexiting := exiting_of_signalled hsignalled
          cases hexiting
        | finish =>
          cases pc with
          | waiters =>
            cases now
            exact waits_fire (before.callers i)
          | take | wake => exact absurd (under ▸ rfl) hbefore
      | resumed next under =>
        cases next with
        | loop | exit => cases hsignalled
        | finish => exact absurd (under ▸ rfl) hbefore
      | exits under => cases hsignalled
    · exact absurd (hsame ▸ hsignalled) hbefore
    · rw [hcancelled] at hsignalled
      cases hsignalled

omit [DecidableEq ω] [DecidableEq ι] in
/-- A new connection has its flags right. -/
theorem Flagged.start {start : State σ ρ ω ι} (h : Fresh start) : Flagged start := by
  constructor
  · intro hexiting
    rw [h.driver] at hexiting
    cases hexiting
  · intro i
    rw [h.callers i]
    trivial

/-- In every state of an unblocked run the flags are right, and nobody waits once
the last notification is out. -/
theorem unblockedRun_invariant {start state : State σ ρ ω ι} {log : List (Label ρ ι)}
    (hfresh : Fresh start) (run : UnblockedRun Q role waker start log state) :
    Flagged state ∧ (signalled state.driver=true → ∀ i,waits (state.callers i)=false) := by
  refine Run.invariant (motive := fun _ state => Flagged state ∧
    (signalled state.driver=true → ∀ i,waits (state.callers i)=false)) ?_ ?_ run
  · refine ⟨Flagged.start hfresh,fun hsignalled => ?_⟩
    rw [hfresh.driver] at hsignalled
    cases hsignalled
  · intro log before label after _ inv hstep
    have hmove := step_move hstep.now
    exact ⟨inv.1.move hmove,noWait_move hmove inv.1 hstep.unblocked inv.2⟩

section Returning

/-- How far a place is from the next look at the exit flag. -/
def rank : Pc→ℕ
  | .exitCheck => 1
  | .flush (.return _) => 1
  | .check => 2
  | .arm => 3
  | .flush .loop => 4
  | .await => 4
  | .flush .await => 5
  | .enter => 5

/-- How many turns of its loop a call may still make. -/
def turns : Call→ℕ
  | .writeAll _ data offset => data.length-offset
  | _ => 0

/-- A bound on the steps that a call takes once the driver is gone, apart from flushing. -/
def toGo : Caller ω→ℕ
  | .call call pc _ => 4*turns call+rank pc
  | _ => 0

omit [DecidableEq ω] [DecidableEq ι] in
/-- Each step of a call that finds the exit flag set brings it closer to its return. -/
theorem CallMove.toGo {shared : Shared σ ω} {call : Call} {pc : Pc} {fired : Bool}
    {caller : Caller ω} (h : CallMove Q shared call pc fired caller)
    (hexited : shared.driverExited=true) (hsends : SendsData (.call call pc fired : Caller ω))
    (hblocked : ∀ stream data offset,call=.writeAll stream data offset → pc=.check →
      (writeAllSend Q stream data offset shared.conn).1≠.ok 0)
    (hother : caller≠.call call pc fired) : toGo caller<toGo (.call call pc fired : Caller ω) := by
  cases h with
  | uncredited alive | passed alive | flushing alive => cases alive.symm.trans hexited
  | blocked full => exact absurd full (hblocked _ _ _ rfl rfl)
  | more next => exact absurd rfl hother
  | wrote some =>
    have hwithin := hsends
    simp only [SendsData,Within] at hwithin
    simp only [DriverExit.toGo,turns,rank]
    omega
  | returned reply =>
    cases pc with
    | flush next =>
      cases next with
      | loop | await | «return» => simp only [DriverExit.toGo,rank]; omega
    | enter | arm | check | exitCheck | await => simp only [DriverExit.toGo,rank]; omega
  | entered | pinged | armed | looked | opened | looped | waits | woken =>
    simp only [DriverExit.toGo,turns,rank]
    omega

/-- What may follow a state while a caller stays in its call, with the number of its own
steps, apart from those that go on flushing. -/
inductive Continues (Q : Quiche σ ρ) (role : QuicRole) (waker : ι→ω) (i : ι)
    (start : State σ ρ ω ι) : ℕ→State σ ρ ω ι→Prop where
  /-- Nothing happens. -/
  | refl : Continues Q role waker i start 0 start
  /-- Somebody else takes a step. -/
  | other {n : ℕ} {before after : State σ ρ ω ι} {label : Label ρ ι}
      (earlier : Continues Q role waker i start n before)
      (now : UnblockedStep Q role waker before label after)
      (foreign : ∀ turn,label≠.caller i turn) (same : ∀ op,label≠.start i op) :
      Continues Q role waker i start n after
  /-- The call goes on flushing. -/
  | flushing {n : ℕ} {before after : State σ ρ ω ι} {turn : Turn ρ}
      (earlier : Continues Q role waker i start n before)
      (now : UnblockedStep Q role waker before (.caller i turn) after)
      (same : after.callers i=before.callers i) : Continues Q role waker i start n after
  /-- The call takes a step. -/
  | own {n : ℕ} {before after : State σ ρ ω ι} {turn : Turn ρ}
      (earlier : Continues Q role waker i start n before)
      (now : UnblockedStep Q role waker before (.caller i turn) after)
      (moves : after.callers i≠before.callers i) : Continues Q role waker i start (n+1) after

/-- A driver that has ended stays so. -/
theorem finished_stays {before after : State σ ρ ω ι} {label : Label ρ ι}
    (h : Move Q waker before label after) (hfinished : before.driver=.finished) :
    after.driver=.finished := by
  rcases driver_stays h with ⟨turn,_,move⟩|hsame|⟨_,hawaits,_⟩
  · cases move with
    | moved conn driver running running' =>
      rw [hfinished] at running
      cases running
    | notified pc next under now => cases under.symm.trans hfinished
    | resumed next under => cases under.symm.trans hfinished
    | exits under => cases under.symm.trans hfinished
  · exact hsame.trans hfinished
  · rw [hfinished] at hawaits
    cases hawaits

/-- What others do to a caller: its notification fires, its waker is woken, or it gives up. -/
inductive Nudged (before : Caller ω) : Caller ω→Prop where
  /-- Nothing. -/
  | same : Nudged before before
  /-- Its notification fires. -/
  | fired : Nudged before before.fire
  /-- Its waker is woken. -/
  | woken : Nudged before before.wake
  /-- It gives up. -/
  | idle : Nudged before .idle

omit [DecidableEq ι] in
/-- Notifying nudges callers. -/
theorem notify_nudges {before state : State σ ρ ω ι} {pc : NotifyPc ω}
    {next : Option (NotifyPc ω)} (h : notifyStep waker before pc=(next,state)) (i : ι) :
    Nudged (before.callers i) (state.callers i) := by
  cases pc with
  | waiters =>
    cases h
    exact .fired
  | take =>
    cases h
    exact .same
  | wake taken =>
    cases taken with
    | nil =>
      cases h
      exact .same
    | cons w rest =>
      cases h
      change Nudged (before.callers i)
        (if waker i=w then (before.callers i).wake else before.callers i)
      split_ifs
      · exact .woken
      · exact .same

omit [DecidableEq ω] in
/-- A caller is where it was when another one moves. -/
theorem setCaller_other {state : State σ ρ ω ι} {i j : ι} (h : i≠j) (caller : Caller ω) :
    (state.setCaller j caller).callers i=state.callers i := Function.update_of_ne h _ _

/-- What a caller does not do itself nudges it at most. -/
theorem foreign_nudges {before after : State σ ρ ω ι} {label : Label ρ ι} {i : ι}
    (h : Move Q waker before label after) (hforeign : ∀ turn,label≠.caller i turn)
    (hstart : ∀ op,label≠.start i op) : Nudged (before.callers i) (after.callers i) := by
  have hset : ∀ (state : State σ ρ ω ι) {j turn} (caller : Caller ω),label=.caller j turn →
      Nudged (before.callers i) (state.callers i) →
      Nudged (before.callers i) ((state.setCaller j caller).callers i) := by
    intro state j turn caller hlabel hstate
    have hne : i≠j := fun he => hforeign turn (he ▸ hlabel)
    rw [setCaller_other hne]
    exact hstate
  cases h with
  | driver turn move =>
    cases move with
    | notified pc next under now => exact notify_nudges now i
    | moved | resumed | exits => exact .same
  | call j turn => exact hset {before with shared := _} _ rfl .same
  | close j turn under move =>
    cases move with
    | moved conn => exact hset (before.setConn conn) _ rfl .same
    | stored => exact hset {before with shared := _} _ rfl .same
    | notified pc now => exact hset _ _ rfl (notify_nudges now i)
    | returned => exact hset before _ rfl .same
  | polled j turn => exact hset {before with shared := _} _ rfl .same
  | @contended j turn call woken under =>
    have hne : i≠j := fun he => hforeign turn (he ▸ rfl)
    change Nudged (before.callers i) (if waker i=waker j
      then (((before.setCaller j (.poll call .pending woken)).callers i).wake)
      else (before.setCaller j (.poll call .pending woken)).callers i)
    rw [setCaller_other hne]
    split_ifs
    · exact .woken
    · exact .same
  | ready j turn => exact hset {before with shared := _} _ rfl .same
  | pending j turn => exact hset {before with shared := _} _ rfl .same
  | again j turn => exact hset before _ rfl .same
  | started j op =>
    have hne : i≠j := fun he => hstart op (he ▸ rfl)
    rw [setCaller_other hne]
    exact .same
  | abandoned j abandonable =>
    by_cases hj : i=j
    · subst hj
      change Nudged (before.callers i) (Function.update before.callers i Caller.idle i)
      rw [Function.update_self]
      exact .idle
    · rw [setCaller_other hj]
      exact .same
  | touched | dropped | aborted | cancelled => exact .same

/-- In a call, or through with it. -/
def calls : Caller ω→Bool
  | .call _ _ _ => true
  | caller => caller.settled

omit [DecidableEq ω] [DecidableEq ι] in
/-- A nudge leaves a call as far from its return as it was, or ends it. -/
theorem Nudged.toGo {before after : Caller ω} (h : Nudged before after) (hcalls : calls before=true) :
    DriverExit.toGo after≤DriverExit.toGo before ∧ calls after=true := by
  cases h with
  | same => exact ⟨le_refl _,hcalls⟩
  | idle => exact ⟨Nat.zero_le _,rfl⟩
  | fired | woken =>
    cases before with
    | call | idle | returned | ready => exact ⟨le_refl _,rfl⟩
    | closing | poll => cases hcalls

/-- A caller that is in a call takes a step of its call. -/
theorem own_move {before after : State σ ρ ω ι} {i : ι} {turn : Turn ρ}
    (h : Move Q waker before (.caller i turn) after) (hcalls : calls (before.callers i)=true) :
    ∃ call pc fired,before.callers i=.call call pc fired ∧
      CallMove Q before.shared call pc fired (after.callers i) := by
  cases h with
  | @call _ _ call pc fired shared caller under frame move =>
    refine ⟨call,pc,fired,under,?_⟩
    change CallMove Q before.shared call pc fired (Function.update before.callers i caller i)
    rw [Function.update_self]
    exact move
  | close _ _ under move => cases (congrArg calls under).symm.trans hcalls
  | polled _ _ under entered => cases (congrArg calls under).symm.trans hcalls
  | contended _ _ under => cases (congrArg calls under).symm.trans hcalls
  | ready _ _ reply under frame => cases (congrArg calls under).symm.trans hcalls
  | pending _ _ uncontended registers under frame waits =>
    cases (congrArg calls under).symm.trans hcalls
  | again _ _ under => cases (congrArg calls under).symm.trans hcalls

/-- Once the driver is gone, a call takes a bounded number of steps. -/
theorem Continues.bounded {i : ι} {start state : State σ ρ ω ι} {n : ℕ}
    (h : Continues Q role waker i start n state) (hflags : Flagged start)
    (hfinished : start.driver=.finished) (hcalls : calls (start.callers i)=true) :
    n+DriverExit.toGo (state.callers i)≤DriverExit.toGo (start.callers i) := by
  suffices hall : Flagged state ∧ state.driver=.finished ∧ calls (state.callers i)=true ∧
      n+DriverExit.toGo (state.callers i)≤DriverExit.toGo (start.callers i) from hall.2.2.2
  induction h with
  | refl => exact ⟨hflags,hfinished,hcalls,by omega⟩
  | other earlier now foreign same ih =>
    obtain ⟨hflags,hfinished,hcalls,hbound⟩ := ih
    have hmove := step_move now.now
    obtain ⟨hle,hcalls'⟩ := (foreign_nudges hmove foreign same).toGo hcalls
    exact ⟨hflags.move hmove,finished_stays hmove hfinished,hcalls',by omega⟩
  | flushing earlier now same ih =>
    obtain ⟨hflags,hfinished,hcalls,hbound⟩ := ih
    have hmove := step_move now.now
    rw [same]
    exact ⟨hflags.move hmove,finished_stays hmove hfinished,hcalls,hbound⟩
  | @own n before after turn earlier now moves ih =>
    obtain ⟨hflags,hfinished,hcalls,hbound⟩ := ih
    have hmove := step_move now.now
    obtain ⟨call,pc,fired,hunder,hcall⟩ := own_move hmove hcalls
    have hexited := hflags.exited (hfinished ▸ rfl)
    have hsends := hflags.sends i
    rw [hunder] at hsends moves hbound
    have hless := CallMove.toGo hcall hexited hsends (by
      rintro stream data offset rfl rfl hfull
      have hblocked := now.unblocked
      simp only [blockedWrite,hunder,hfinished,signalled,hfull,decide_true,Bool.and_self]
        at hblocked
      cases hblocked) moves
    refine ⟨hflags.move hmove,finished_stays hmove hfinished,?_,by omega⟩
    cases hafter : after.callers i with
    | call | idle | returned | ready => rfl
    | closing | poll =>
      rw [hafter] at hcall
      cases hcall

end Returning

omit [DecidableEq ω] in
/-- A call whose notification has fired, if it waits for one, can take a step. -/
theorem call_enabled [DecidableEq ω] (hscan : ∀ accepted conn,∃ scanned,
      (scanReadable Q accepted scanned conn).isSome=true) {state : State σ ρ ω ι} {i : ι}
    {call : Call} {pc : Pc} {fired : Bool} (hcall : state.callers i=.call call pc fired)
    (hfired : pc=.await → fired=true) :
    ∃ turn after,Step Q role waker state (.caller i turn) after := by
  obtain ⟨scanned,hsome⟩ := @callStep_enabled σ ρ ω Q role hscan state.shared call fired pc
    ⟨.sent,0,false,[],.slept⟩ hfired
  obtain ⟨result,hresult⟩ := Option.isSome_iff_exists.mp hsome
  refine ⟨⟨.sent,scanned,false,[],.slept⟩,state.after i result,?_,nofun⟩
  simp only [step,callerStep,hcall,hresult,Option.map_some]

/-- Once the driver has ended, a call that does not wait for another notification can take
its next step, and takes a bounded number of them. -/
theorem call_returns (hscan : ∀ accepted conn,∃ scanned,
      (scanReadable Q accepted scanned conn).isSome=true) {state : State σ ρ ω ι}
    (hflags : Flagged state) (hfinished : state.driver=.finished) {i : ι} {call : Call} {pc : Pc}
    {fired : Bool} (hcall : state.callers i=.call call pc fired)
    (hwait : waits (state.callers i)=false) :
    (pc=.await → fired=true) ∧
    (∃ turn after,Step Q role waker state (.caller i turn) after) ∧
    ∀ n after,Continues Q role waker i state n after → n≤toGo (state.callers i) := by
  have hfired : pc=.await → fired=true := by
    intro hawait
    rw [hcall,hawait] at hwait
    simpa [waits] using hwait
  refine ⟨hfired,call_enabled hscan hcall hfired,fun n after hcontinues => ?_⟩
  have hcalls : calls (state.callers i)=true := by
    rw [hcall]
    rfl
  have hbound := hcontinues.bounded hflags hfinished hcalls
  omega

/-- When the driver has ended, nobody waits for a notification that does not
come: each call can take its next step and takes a bounded number of them. -/
theorem calls_return_after_exit (Q : Quiche σ ρ) (role : QuicRole) (waker : ι→ω)
    (start state : State σ ρ ω ι) (log : List (Label ρ ι)) (hfresh : Fresh start)
    (hscan : ∀ accepted conn,∃ scanned,(scanReadable Q accepted scanned conn).isSome=true)
    (run : UnblockedRun Q role waker start log state) (hfinished : state.driver=.finished)
    (i : ι) (call : Call) (pc : Pc) (fired : Bool) (hcall : state.callers i=.call call pc fired) :
    (pc=.await → fired=true) ∧
    (∃ turn after,Step Q role waker state (.caller i turn) after) ∧
    ∀ n after,Continues Q role waker i state n after → n≤toGo (state.callers i) := by
  obtain ⟨hflags,hwaits⟩ := unblockedRun_invariant hfresh run
  have hwait : waits (state.callers i)=false := hwaits (hfinished ▸ rfl) i
  exact call_returns hscan hflags hfinished hcall hwait

/-- An established connection whose peer sends nothing and takes no data. -/
def quietQuiche : Quiche Unit Unit where
  isEstablished := fun _ => true
  isClosed := fun _ => false
  isDraining := fun _ => false
  ackedBytes := fun _ => 0
  peerStreamsLeftBidi := fun _ => 1
  streamFinished := fun _ _ => false
  send := fun conn => (.error .done,conn)
  recv := fun conn _ => (.ok (),conn)
  onTimeout := id
  sendAckEliciting := fun conn => (.ok (),conn)
  close := fun conn _ _ => conn
  streamSend := fun conn _ data _ => (if data=[] then .ok 0 else .error .done,conn)
  streamRecv := fun conn _ _ => (.error .done,conn)
  streamReadableNext := fun conn => (none,conn)
  streamShutdown := fun conn _ _ => conn

/-- A new connection with one caller. -/
def quietStart : State Unit Unit Unit Unit :=
  ⟨⟨(),false,∅,0,[],[],false,fun _ => false,fun _ => false⟩,.spawned,.held,fun _ => .idle⟩

/-- The connection is new. -/
theorem quietStart_fresh : Fresh quietStart := ⟨rfl,rfl,rfl,rfl,rfl,fun _ => rfl⟩

/-- A turn in which the driver finds the transport broken. -/
def brokenTurn : Turn Unit := ⟨.sent,0,false,[],.iceError⟩

/-- The caller takes some steps. -/
def going (n : ℕ) : List (Label Unit Unit) := List.replicate n (.caller () brokenTurn)

/-- The caller starts an operation and takes some steps. -/
def calling (op : Op) (n : ℕ) : List (Label Unit Unit) := .start () op::going n

/-- The driver takes some steps; after ten of them it has ended. -/
def driving (n : ℕ) : List (Label Unit Unit) := List.replicate n (.driver brokenTurn)

/-- A step of the quiet connection. -/
def quietStep (state : State Unit Unit Unit Unit) : Label Unit Unit→Option (State Unit Unit Unit Unit)
  | .dropConnection =>
    if (state.callers ()).borrows then none
    else step quietQuiche .client id state .dropConnection
  | label => step quietQuiche .client id state label

/-- A step of the quiet connection without a blocked `write_all`. -/
def unblockedStep (state : State Unit Unit Unit Unit) (label : Label Unit Unit) :
    Option (State Unit Unit Unit Unit) :=
  if blockedWrite quietQuiche state label then none else quietStep state label

/-- The steps of the quiet connection are steps. -/
theorem quietStep_step {before after : State Unit Unit Unit Unit} {label : Label Unit Unit}
    (h : quietStep before label=some after) : Step quietQuiche .client id before label after := by
  cases label with
  | dropConnection =>
    unfold quietStep at h
    dsimp only at h
    split_ifs at h with hborrows
    exact ⟨h,fun _ _ => eq_false_of_ne_true hborrows⟩
  | driver | caller | start | abandon | touch | abort | cancel => exact ⟨h,nofun⟩

/-- The unblocked steps are unblocked. -/
theorem unblockedStep_step {before after : State Unit Unit Unit Unit} {label : Label Unit Unit}
    (h : unblockedStep before label=some after) :
    UnblockedStep quietQuiche .client id before label after := by
  unfold unblockedStep at h
  split_ifs at h with hblocked
  exact ⟨quietStep_step h,eq_false_of_ne_true hblocked⟩

/-- A read is waiting when the driver ends, and returns. -/
theorem calls_return_after_exit_read :
    ∃ state : State Unit Unit Unit Unit,state.driver=.finished ∧
      state.callers ()=.call (.read 0 1) .await true ∧
      (∃ turn after,Step quietQuiche .client id state (.caller () turn) after) ∧
      ∀ n after,Continues quietQuiche .client id () state n after → n≤4 := by
  have hstate : ∃ state,(calling .openStream 4++calling (.read 0 1) 4++driving 10).foldlM
      unblockedStep quietStart=some state ∧ state.driver=.finished ∧
      state.callers ()=.call (.read 0 1) .await true := ⟨_,rfl,rfl,rfl⟩
  obtain ⟨state,hrun,hdriver,hcaller⟩ := hstate
  have hunblocked := Run.start.extend (fun _ _ _ _ => unblockedStep_step) hrun
  obtain ⟨_,henabled,hbounded⟩ := calls_return_after_exit quietQuiche .client id quietStart state _
    quietStart_fresh (fun _ _ => ⟨0,rfl⟩) hunblocked hdriver () _ _ _ hcaller
  rw [hcaller] at hbounded
  exact ⟨state,hdriver,hcaller,henabled,hbounded⟩

/-- A `write_all` on an opened stream is blocked, the driver ends, the write is notified
and finds its stream blocked again: it waits for good, since the driver takes no step. -/
theorem write_all_waits_after_exit :
    ∃ log state,Run (fun _ before label after => Step quietQuiche .client id before label after)
        quietStart log state ∧ state.driver=.finished ∧ state.shared.driverExited=true ∧
      state.callers ()=.call (.writeAll 0 [1] 0) .await false ∧
      ∀ turn,step quietQuiche .client id state (.caller () turn)=none ∧
        step quietQuiche .client id state (.driver turn)=none := by
  have hstate : ∃ state,(calling .openStream 4++calling (.writeAll 0 [1]) 3++driving 10++
      going 3).foldlM quietStep quietStart=some state ∧ state.driver=.finished ∧
      state.shared.driverExited=true ∧
      state.callers ()=.call (.writeAll 0 [1] 0) .await false := ⟨_,rfl,rfl,rfl,rfl⟩
  obtain ⟨state,hrun,hdriver,hexited,hcaller⟩ := hstate
  refine ⟨_,state,Run.start.extend (fun _ _ _ _ => quietStep_step) hrun,hdriver,hexited,hcaller,?_⟩
  intro turn
  constructor
  · simp only [step,callerStep,hcaller,callStep,Bool.false_eq_true,if_false,Option.map_none]
  · simp only [step,driverStep,hdriver]

end WispersConnect.DriverExit
