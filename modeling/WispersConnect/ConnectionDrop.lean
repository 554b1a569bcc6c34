import WispersConnect.DriverExit

/-!
# Streams that outlive their connection

The drop of a connection aborts its driver. A driver that is past its last await
then sets the exit flag, notifies the waiting calls and wakes every waker it
takes, so no stream operation is left waiting. A driver that is cancelled at an
await does none of this.
-/

namespace WispersConnect.ConnectionDrop

open Messages QuicConnection ConnectionSteps DriverExit Runs

variable {σ ρ ω ι : Type} {Q : Quiche σ ρ} {role : QuicRole} {waker : ι→ω}

/-- A stream operation waits for a notification or for its waker. -/
def parked : Caller ω→Bool
  | .call _ .await fired => !fired
  | .poll _ .pending woken => !woken
  | _ => false

/-- A poll function returned `Pending` and was not woken since. -/
def pends : Caller ω→Bool
  | .poll _ .pending woken => !woken
  | _ => false

/-- A poll function that registered its waker was not woken since. -/
def unwoken : Caller ω→Bool
  | .poll (.shutdown _) .tryLock _ => false
  | .poll _ .tryLock woken => !woken
  | .poll _ .pending woken => !woken
  | _ => false

/-- The driver has taken the wakers for the last time. -/
def collected : DriverPc ρ ω→Bool
  | .notify (.wake _) .finish => true
  | .finished => true
  | _ => false

/-- The wakers still to be woken by a notification. -/
def notifyTaken : NotifyPc ω→List ω
  | .wake taken => taken
  | _ => []

/-- Somebody took the waker and is about to wake it. -/
def Carried (state : State σ ρ ω ι) (w : ω) : Prop :=
  w∈driverTaken state.driver ∨ ∃ i,w∈callerTaken (state.callers i)

/-- Whoever waits for the waker is woken. -/
def Woken (waker : ι→ω) (state : State σ ρ ω ι) (w : ω) : Prop :=
  ∀ i,waker i=w → unwoken (state.callers i)=false

section Wakers

/-- What the driver has taken while it notifies. -/
theorem driverTaken_notify (pc : NotifyPc ω) (next : AfterNotify) :
    driverTaken (.notify pc next : DriverPc ρ ω)=notifyTaken pc := by
  cases pc with
  | waiters | take | wake => rfl

/-- What a close has taken while it notifies. -/
theorem callerTaken_notify (pc : NotifyPc ω) :
    callerTaken (.closing (.notify pc))=notifyTaken pc := by
  cases pc with
  | waiters | take | wake => rfl

/-- What returned `Pending` registered its waker. -/
theorem unwoken_of_pends {caller : Caller ω} (h : pends caller=true) : unwoken caller=true := by
  cases caller with
  | poll call pc woken =>
    cases pc with
    | pending =>
      cases call with
      | read | write | shutdown => exact h
    | enter | tryLock => cases h
  | idle | call | closing | returned | ready => cases h

/-- Firing does not concern poll functions. -/
theorem unwoken_fire (caller : Caller ω) : unwoken caller.fire=unwoken caller := by
  cases caller with
  | idle | call | closing | poll | returned | ready => rfl

/-- A poll function that is woken is not unwoken. -/
theorem unwoken_wake (caller : Caller ω) : unwoken caller.wake=false := by
  cases caller with
  | poll call pc woken =>
    cases call with
    | read | write | shutdown =>
      cases pc with
      | enter | tryLock | pending => rfl
  | idle | call | closing | returned | ready => rfl

/-- Firing leaves what a close has taken. -/
theorem callerTaken_fire (caller : Caller ω) : callerTaken caller.fire=callerTaken caller := by
  cases caller with
  | idle | call | closing | poll | returned | ready => rfl

/-- Waking leaves what a close has taken. -/
theorem callerTaken_wake (caller : Caller ω) : callerTaken caller.wake=callerTaken caller := by
  cases caller with
  | idle | call | closing | poll | returned | ready => rfl

/-- A caller that is through has taken nothing. -/
theorem callerTaken_settled {caller : Caller ω} (h : caller.settled=true) :
    callerTaken caller=[] := by
  cases caller with
  | closing => cases h
  | idle | call | poll | returned | ready => rfl

/-- A caller that can give up has taken nothing. -/
theorem callerTaken_abandonable {caller : Caller ω} (h : caller.abandonable=true) :
    callerTaken caller=[] := by
  cases caller with
  | closing pc =>
    cases pc with
    | enter | flush | store => rfl
    | notify => cases h
  | idle | call | poll | returned | ready => rfl

/-- A driver that awaits has taken nothing. -/
theorem driverTaken_awaits {driver : DriverPc ρ ω} (h : driver.awaits=true) :
    driverTaken driver=[] := by
  cases driver with
  | notify => cases h
  | spawned | head | flush | closedCheck | timeout | select | packet | expired | keepalive | exit
    | finished | cancelled => rfl

/-- A waker is registered after what leaves the wakers as they were. -/
theorem Frame.mem {before after : Shared σ ω} (h : Frame before after) {w : ω}
    (hw : w∈before.pollWakers) : w∈after.pollWakers := by
  rw [h.pollWakers]
  exact hw

/-- A caller that moves is where it goes. -/
theorem setCaller_self [DecidableEq ι] (state : State σ ρ ω ι) (i : ι) (caller : Caller ω) :
    (state.setCaller i caller).callers i=caller := by
  unfold State.setCaller
  exact Function.update_self i caller state.callers

/-- A caller that took a step is where it goes. -/
theorem after_self [DecidableEq ι] (state : State σ ρ ω ι) (i : ι) (result : Shared σ ω×Caller ω) :
    (state.after i result).callers i=result.2 := setCaller_self _ i result.2

variable [DecidableEq ω]

/-- Notifying leaves what other closes have taken. -/
theorem notify_callerTaken {before state : State σ ρ ω ι} {pc : NotifyPc ω}
    {next : Option (NotifyPc ω)} (h : notifyStep waker before pc=(next,state)) (i : ι) :
    callerTaken (state.callers i)=callerTaken (before.callers i) := by
  cases pc with
  | waiters =>
    cases h
    exact callerTaken_fire _
  | take =>
    cases h
    rfl
  | wake taken =>
    cases taken with
    | nil =>
      cases h
      rfl
    | cons w rest =>
      cases h
      change callerTaken (if waker i=w then (before.callers i).wake else before.callers i)=_
      split_ifs
      · exact callerTaken_wake _
      · rfl

/-- Notifying wakes the first waker it has taken, and keeps the others. -/
theorem notify_carries {before state : State σ ρ ω ι} {pc : NotifyPc ω}
    {next : Option (NotifyPc ω)} (h : notifyStep waker before pc=(next,state)) {w : ω}
    (hw : w∈notifyTaken pc) :
    (∃ pc',next=some pc' ∧ w∈notifyTaken pc') ∨ Woken waker state w := by
  cases pc with
  | waiters | take => cases hw
  | wake taken =>
    cases taken with
    | nil => cases hw
    | cons v rest =>
      cases h
      rcases List.mem_cons.mp hw with hv|hrest
      · refine .inr fun i hi => ?_
        change unwoken (if waker i=v then (before.callers i).wake else before.callers i)=false
        rw [if_pos (hi.trans hv)]
        exact unwoken_wake _
      · exact .inl ⟨.wake rest,rfl,hrest⟩

/-- Notifying takes every registered waker, or leaves it. -/
theorem notify_registered {before state : State σ ρ ω ι} {pc : NotifyPc ω}
    {next : Option (NotifyPc ω)} (h : notifyStep waker before pc=(next,state)) {w : ω}
    (hw : w∈before.shared.pollWakers) :
    w∈state.shared.pollWakers ∨ ∃ pc',next=some pc' ∧ w∈notifyTaken pc' := by
  cases pc with
  | waiters =>
    cases h
    exact .inl hw
  | take =>
    cases h
    exact .inr ⟨_,rfl,hw⟩
  | wake taken =>
    cases taken with
    | nil | cons =>
      cases h
      exact .inl hw

variable [DecidableEq ι]

omit [DecidableEq ι] in
/-- Notifying leaves what others have taken. -/
theorem Carried.notify {before state : State σ ρ ω ι} {pc : NotifyPc ω}
    {next : Option (NotifyPc ω)} {w : ω} (h : Carried before w)
    (hnotify : notifyStep waker before pc=(next,state)) : Carried state w := by
  rcases h with hdriver|⟨i,hi⟩
  · refine .inl ?_
    rw [(notifyStep_frame hnotify).2.2.2]
    exact hdriver
  · refine .inr ⟨i,?_⟩
    rw [notify_callerTaken hnotify i]
    exact hi

omit [DecidableEq ω] in
/-- A waker that somebody took is still taken when a caller that keeps it moves. -/
theorem Carried.setCaller {state : State σ ρ ω ι} {i : ι} {caller : Caller ω} {w : ω}
    (h : Carried state w) (hkeep : w∈callerTaken (state.callers i) → w∈callerTaken caller) :
    Carried (state.setCaller i caller) w := by
  rcases h with hdriver|⟨j,hj⟩
  · exact .inl hdriver
  · refine .inr ⟨j,?_⟩
    change w∈callerTaken (Function.update state.callers i caller j)
    by_cases he : j=i
    · subst he
      rw [Function.update_self]
      exact hkeep hj
    · rw [Function.update_of_ne he]
      exact hj

omit [DecidableEq ω] in
/-- A caller that has taken nothing may move. -/
theorem Carried.moves {state : State σ ρ ω ι} {i : ι} {w : ω} (h : Carried state w)
    (hnone : callerTaken (state.callers i)=[]) (caller : Caller ω) :
    Carried (state.setCaller i caller) w := by
  refine h.setCaller fun hi => ?_
  rw [hnone] at hi
  cases hi

omit [DecidableEq ω] in
/-- Whoever was woken stays so when a caller moves on. -/
theorem Woken.setCaller {state : State σ ρ ω ι} {i : ι} {caller : Caller ω} {w : ω}
    (h : Woken waker state w) (hcaller : unwoken caller=false) :
    Woken waker (state.setCaller i caller) w := by
  intro j hj
  change unwoken (Function.update state.callers i caller j)=false
  by_cases he : j=i
  · subst he
    rw [Function.update_self]
    exact hcaller
  · rw [Function.update_of_ne he]
    exact h j hj

/-- What was taken stays taken until it is woken. -/
theorem carried_move {before after : State σ ρ ω ι} {label : Label ρ ι}
    (h : Move Q waker before label after) {w : ω} (hw : Carried before w) :
    Carried after w ∨ Woken waker after w := by
  have hnone : ∀ {i : ι} {caller : Caller ω},before.callers i=caller → callerTaken caller=[] →
      callerTaken (before.callers i)=[] := by
    intro i caller hunder hcaller
    rw [hunder]
    exact hcaller
  have hafter : ∀ {i : ι} {caller : Caller ω} (result : Shared σ ω×Caller ω),
      before.callers i=caller → callerTaken caller=[] → Carried (before.after i result) w := by
    intro i caller result hunder hcaller
    exact @Carried.moves σ ρ ω ι _ {before with shared := result.1} i w hw
      (hnone hunder hcaller) result.2
  cases h with
  | driver turn move =>
    cases move with
    | moved conn driver running running' none none' =>
      rcases hw with hdriver|hcaller
      · rw [none] at hdriver
        cases hdriver
      · exact .inl (.inr hcaller)
    | notified pc next under now =>
      rcases hw with hdriver|hcaller
      · rw [under,driverTaken_notify] at hdriver
        rcases notify_carries now hdriver with ⟨pc',hpc',hw⟩|hwoken
        · obtain rfl := Option.some.inj hpc'
          refine .inl (.inl ?_)
          change w∈driverTaken (.notify _ next)
          rw [driverTaken_notify]
          exact hw
        · exact .inr hwoken
      · obtain ⟨i,hi⟩ := hcaller
        refine .inl (.inr ⟨i,?_⟩)
        rw [←notify_callerTaken now i] at hi
        exact hi
    | resumed next under | exits under =>
      rcases hw with hdriver|hcaller
      · rw [under] at hdriver
        cases hdriver
      · exact .inl (.inr hcaller)
  | call i turn under frame move => exact .inl (hafter _ under rfl)
  | close i turn under move =>
    cases move with
    | moved conn caller none goes =>
      exact .inl (@Carried.moves σ ρ ω ι _ (before.setConn conn) i w hw (hnone under none) caller)
    | stored =>
      exact .inl (@Carried.moves σ ρ ω ι _ {before with shared := _} i w hw (hnone under rfl) _)
    | @notified pc pc' state now =>
      by_cases htaken : w∈notifyTaken pc
      · rcases notify_carries now htaken with ⟨pc'',hpc'',hw'⟩|hwoken
        · obtain rfl := Option.some.inj hpc''
          refine .inl ((hw.notify now).setCaller fun _ => ?_)
          rw [callerTaken_notify]
          exact hw'
        · exact .inr (hwoken.setCaller rfl)
      · refine .inl ((hw.notify now).setCaller fun hi => absurd ?_ htaken)
        rw [notify_callerTaken now,under,callerTaken_notify] at hi
        exact hi
    | returned => exact .inl (hw.moves (hnone under rfl) _)
  | polled i turn under entered => exact .inl (hafter _ under rfl)
  | contended i turn under =>
    exact .inl ((hw.moves (hnone under rfl) _).notify
      (rfl : notifyStep waker _ (.wake [waker i])=(some (.wake []),_)))
  | ready i turn reply under frame => exact .inl (hafter _ under rfl)
  | pending i turn uncontended registers under frame waits => exact .inl (hafter _ under rfl)
  | again i turn under => exact .inl (hw.moves (hnone under rfl) _)
  | started i op settled held => exact .inl (hw.moves (callerTaken_settled settled) _)
  | abandoned i abandonable => exact .inl (hw.moves (callerTaken_abandonable abandonable) _)
  | touched | dropped | aborted => exact .inl hw
  | cancelled gone awaits =>
    rcases hw with hdriver|hcaller
    · rw [driverTaken_awaits awaits] at hdriver
      cases hdriver
    · exact .inl (.inr hcaller)

/-- A registered waker stays so until somebody takes it. -/
theorem registered_move {before after : State σ ρ ω ι} {label : Label ρ ι}
    (h : Move Q waker before label after) {w : ω} (hw : w∈before.shared.pollWakers) :
    w∈after.shared.pollWakers ∨ Carried after w := by
  cases h with
  | driver turn move =>
    cases move with
    | notified pc next under now =>
      rcases notify_registered now hw with hstays|⟨pc',hpc',htaken⟩
      · exact .inl hstays
      · obtain rfl := Option.some.inj hpc'
        refine .inr (.inl ?_)
        change w∈driverTaken (.notify _ next)
        rw [driverTaken_notify]
        exact htaken
    | moved | resumed | exits => exact .inl hw
  | call i turn under frame move => exact .inl (Frame.mem frame hw)
  | close i turn under move =>
    cases move with
    | notified pc now =>
      rcases notify_registered now hw with hstays|⟨pc',hpc',htaken⟩
      · exact .inl hstays
      · obtain rfl := Option.some.inj hpc'
        refine .inr (.inr ⟨i,?_⟩)
        rw [setCaller_self,callerTaken_notify]
        exact htaken
    | moved | stored | returned => exact .inl hw
  | polled i turn under entered =>
    cases entered with
    | registered wakers mem => exact .inl ((mem w).mpr (.inl hw))
    | ready | unregistered => exact .inl hw
  | ready i turn reply under frame => exact .inl (Frame.mem frame hw)
  | pending i turn uncontended registers under frame waits => exact .inl (Frame.mem frame hw)
  | touched touch frame => exact .inl (Frame.mem frame hw)
  | contended | again | started | abandoned | dropped | aborted | cancelled => exact .inl hw

/-- What a move makes of a caller, as far as its waker and the connection it
borrows are concerned. -/
structure Turned (Q : Quiche σ ρ) (waker : ι→ω) (before : State σ ρ ω ι) (label : Label ρ ι)
    (after : State σ ρ ω ι) (i : ι) : Prop where
  /-- What was woken or not registered is so, or registers. -/
  waits : unwoken (after.callers i)=true →
    unwoken (before.callers i)=true ∨ waker i∈after.shared.pollWakers
  /-- What returns `Pending` does so while the driver is there, or on an empty read. -/
  pending : pends (after.callers i)=true → pends (before.callers i)=true ∨
    ∃ turn call,label=.caller i turn ∧ before.callers i=.poll call .tryLock false ∧
      (before.shared.driverExited=false ∨ EmptyRead Q before.shared call)
  /-- What borrows the connection did so, or the connection is held. -/
  borrows : (after.callers i).borrows=true →
    (before.callers i).borrows=true ∨ before.handle=.held

omit [DecidableEq ω] [DecidableEq ι] in
/-- A caller that only others deal with. -/
theorem Turned.nudged {before after : State σ ρ ω ι} {label : Label ρ ι} {i : ι}
    (h : Nudged (before.callers i) (after.callers i)) : Turned Q waker before label after i := by
  generalize hcaller : after.callers i=caller at h
  constructor
  · intro hunwoken
    rw [hcaller] at hunwoken
    cases h with
    | same => exact .inl hunwoken
    | fired => exact .inl ((unwoken_fire _).symm.trans hunwoken)
    | woken => cases (unwoken_wake _).symm.trans hunwoken
    | idle => cases hunwoken
  · intro hpends
    rw [hcaller] at hpends
    refine .inl ?_
    cases h with
    | same => exact hpends
    | fired =>
      cases hbefore : before.callers i with
      | idle | call | closing | poll | returned | ready =>
        rw [hbefore] at hpends
        exact hpends
    | woken => cases (unwoken_wake _).symm.trans (unwoken_of_pends hpends)
    | idle => cases hpends
  · intro hborrows
    rw [hcaller] at hborrows
    refine .inl ?_
    cases h with
    | same => exact hborrows
    | fired | woken =>
      cases hbefore : before.callers i with
      | call call =>
        rw [hbefore] at hborrows
        cases call with
        | handshake | ping | openStream | acceptStream | read | writeAll => exact hborrows
      | idle | closing | poll | returned | ready =>
        rw [hbefore] at hborrows
        exact hborrows
    | idle => cases hborrows

omit [DecidableEq ω] [DecidableEq ι] in
/-- A caller that is not in a poll function afterwards. -/
theorem Turned.apart {before after : State σ ρ ω ι} {label : Label ρ ι} {i : ι}
    (hunwoken : unwoken (after.callers i)=false) (hborrows : (after.callers i).borrows=true →
      (before.callers i).borrows=true ∨ before.handle=.held) :
    Turned Q waker before label after i := by
  refine ⟨fun h => ?_,fun h => ?_,hborrows⟩
  · cases hunwoken.symm.trans h
  · cases hunwoken.symm.trans (unwoken_of_pends h)

omit [DecidableEq ω] [DecidableEq ι] in
/-- A caller that is not in a poll function afterwards, and borrows nothing. -/
theorem Turned.free {before after : State σ ρ ω ι} {label : Label ρ ι} {i : ι} {caller : Caller ω}
    (hcaller : after.callers i=caller) (hunwoken : unwoken caller=false)
    (hborrows : caller.borrows=false) : Turned Q waker before label after i := by
  refine .apart ?_ fun h => ?_
  · rw [hcaller]
    exact hunwoken
  · rw [hcaller,hborrows] at h
    cases h

omit [DecidableEq ω] [DecidableEq ι] in
/-- A step of a call stays in the call. -/
theorem CallMove.borrows {shared : Shared σ ω} {call : Call} {pc : Pc} {fired : Bool}
    {caller : Caller ω} (h : CallMove Q shared call pc fired caller) :
    unwoken caller=false ∧ (caller.borrows=true → (.call call pc fired : Caller ω).borrows=true) := by
  cases h with
  | returned => exact ⟨rfl,fun h => by cases h⟩
  | pinged | opened | uncredited | wrote | blocked => exact ⟨rfl,id⟩
  | entered | armed | looked | passed | flushing | more | looped | waits | woken =>
    cases call with
    | handshake | ping | openStream | acceptStream | read | writeAll => exact ⟨rfl,id⟩

/-- What a move makes of each caller. -/
theorem turned_move {before after : State σ ρ ω ι} {label : Label ρ ι}
    (h : Move Q waker before label after) (i : ι) : Turned Q waker before label after i := by
  have hforeign : (∀ turn,label≠.caller i turn) → (∀ op,label≠.start i op) →
      Turned Q waker before label after i := fun hf hs => .nudged (foreign_nudges h hf hs)
  have hown : ∀ {j turn},label=.caller j turn → (i=j → Turned Q waker before label after i) →
      Turned Q waker before label after i := by
    intro j turn hlabel hi
    by_cases he : i=j
    · exact hi he
    · refine hforeign (fun turn' hlabel' => ?_) (fun op hlabel' => ?_)
      · rw [hlabel] at hlabel'
        cases hlabel'
        exact he rfl
      · rw [hlabel] at hlabel'
        cases hlabel'
  cases h with
  | call j turn under frame move =>
    refine hown rfl fun he => ?_
    subst he
    obtain ⟨hunwoken,hborrows⟩ := CallMove.borrows move
    refine .apart ?_ ?_
    · rw [after_self]
      exact hunwoken
    · rw [after_self,under]
      exact fun h => .inl (hborrows h)
  | close j turn under move =>
    refine hown rfl fun he => ?_
    subst he
    refine .apart ?_ (fun _ => .inl (by rw [under]; rfl))
    cases move with
    | moved conn caller none goes =>
      rw [setCaller_self]
      rcases goes with rfl|rfl|⟨reply,rfl⟩
      · rfl
      · rfl
      · rfl
    | stored | notified | returned =>
      rw [setCaller_self]
      rfl
  | @polled j turn call woken result under entered =>
    refine hown rfl fun he => ?_
    subst he
    cases entered with
    | ready reply => exact .free (after_self _ _ _) rfl rfl
    | registered wakers mem =>
      refine ⟨fun _ => .inr ((mem (waker i)).mpr (.inr rfl)),?_,?_⟩
      · rw [after_self]
        exact fun h => by cases h
      · rw [after_self]
        exact fun h => by cases h
    | unregistered none =>
      refine .free (after_self _ _ _) ?_ rfl
      cases call with
      | read | write => exact absurd trivial none
      | shutdown => rfl
  | @contended j turn call woken under =>
    refine hown rfl fun he => ?_
    subst he
    have hcaller : ((before.setCaller i (.poll call .pending woken)).wakeWaker waker
        (waker i)).callers i=.poll call .pending true := by
      change (if waker i=waker i then
        ((before.setCaller i (.poll call .pending woken)).callers i).wake else _)=_
      rw [if_pos rfl,setCaller_self]
      rfl
    exact .free hcaller (unwoken_wake (.poll call .pending woken)) rfl
  | ready j turn reply under frame =>
    refine hown rfl fun he => ?_
    subst he
    exact .free (after_self _ _ _) rfl rfl
  | @pending j turn call woken shared uncontended registers under frame waits =>
    refine hown rfl fun he => ?_
    subst he
    constructor
    · rw [after_self,under]
      refine fun h => .inl ?_
      cases call with
      | read | write => exact h
      | shutdown => cases registers
    · rw [after_self]
      intro h
      have hwoken : woken=false := by simpa [pends] using h
      rw [hwoken] at under
      exact .inr ⟨turn,call,rfl,under,waits⟩
    · rw [after_self]
      exact fun h => by cases h
  | @again j turn call woken under =>
    refine hown rfl fun he => ?_
    subst he
    refine .free (setCaller_self _ _ _) ?_ rfl
    cases call with
    | read | write | shutdown => rfl
  | started j op settled held =>
    by_cases he : i=j
    · subst he
      refine .apart ?_ ?_
      · rw [setCaller_self]
        cases op with
        | handshake | ping | openStream | acceptStream | closeWithError | read | writeAll
          | pollRead | pollWrite | pollShutdown => rfl
      · rw [setCaller_self]
        exact fun h => .inr (held h)
    · exact hforeign nofun fun op' hlabel => by cases hlabel; exact he rfl
  | driver | abandoned | touched | dropped | aborted | cancelled => exact hforeign nofun nofun

end Wakers

section Drops

variable [DecidableEq ω] [DecidableEq ι]

/-- A `poll_read` finds no data, no end and no error, although the driver has taken the
wakers for the last time. -/
def StarvedPoll (Q : Quiche σ ρ) (state : State σ ρ ω ι) : Label ρ ι→Prop
  | .caller i _ => collected state.driver=true ∧ ∃ call woken,
      state.callers i=.poll call .tryLock woken ∧ EmptyRead Q state.shared call
  | _ => False

/-- A step in which the driver is not cut off before it tells everybody of its end,
and no operation that misses the exit flag finds its stream blocked after that. -/
structure UncutStep (Q : Quiche σ ρ) (role : QuicRole) (waker : ι→ω) (before : State σ ρ ω ι)
    (label : Label ρ ι) (after : State σ ρ ω ι) : Prop where
  /-- No `write_all` is blocked after the last notification. -/
  unblocked : UnblockedStep Q role waker before label after
  /-- The driver is not cancelled at an await. -/
  uncut : label≠.cancel
  /-- No `poll_read` is left without data. -/
  served : ¬StarvedPoll Q before label

/-- The runs in which the driver is not cut off. -/
abbrev UncutRun (Q : Quiche σ ρ) (role : QuicRole) (waker : ι→ω) (start : State σ ρ ω ι) :
    List (Label ρ ι)→State σ ρ ω ι→Prop :=
  Run (fun _ before label after => UncutStep Q role waker before label after) start

/-- Whoever waits for a waker will be woken. -/
structure Waking (waker : ι→ω) (state : State σ ρ ω ι) : Prop where
  /-- The driver is not cancelled. -/
  uncut : state.driver≠.cancelled
  /-- A connection that is dropped is not borrowed. -/
  unborrowed : state.handle≠.held → ∀ i,(state.callers i).borrows=false
  /-- Who waits is registered, or somebody has the waker. -/
  registered : ∀ i,unwoken (state.callers i)=true →
    waker i∈state.shared.pollWakers ∨ Carried state (waker i)
  /-- After the driver took the wakers for the last time, somebody has the waker. -/
  carried : collected state.driver=true → ∀ i,pends (state.callers i)=true → Carried state (waker i)

omit [DecidableEq ω] [DecidableEq ι] in
/-- In a new connection nobody waits. -/
theorem Waking.start {start : State σ ρ ω ι} (h : Fresh start) : Waking waker start := by
  constructor
  · rw [h.driver]
    exact nofun
  · intro hhandle
    exact absurd h.handle hhandle
  · intro i hunwoken
    rw [h.callers i] at hunwoken
    cases hunwoken
  · intro hcollected
    rw [h.driver] at hcollected
    cases hcollected

omit [DecidableEq ω] [DecidableEq ι] in
/-- The last wakers are taken past the exit flag. -/
theorem exiting_of_collected {driver : DriverPc ρ ω} (h : collected driver=true) :
    exiting driver=true := by
  unfold collected at h
  split at h
  · rfl
  · rfl
  · cases h

/-- The connection stays held or dropped, or is dropped while nobody borrows it. -/
theorem handle_move {before after : State σ ρ ω ι} {label : Label ρ ι}
    (h : Move Q waker before label after) :
    after.handle=before.handle ∨
      (before.handle=.held ∧ ∀ i,(after.callers i).borrows=false) ∨ before.handle=.dropping := by
  cases h with
  | driver turn move =>
    cases move with
    | notified pc next under now => exact .inl (notifyStep_frame now).2.2.1
    | moved | resumed | exits => exact .inl rfl
  | close i turn under move =>
    cases move with
    | notified pc now => exact .inl (notifyStep_frame now).2.2.1
    | moved | stored | returned => exact .inl rfl
  | dropped held unborrowed => exact .inr (.inl ⟨held,unborrowed⟩)
  | aborted dropping => exact .inr (.inr dropping)
  | call | polled | contended | ready | pending | again | started | abandoned | touched
    | cancelled => exact .inl rfl

/-- Once the connection is dropped, nobody borrows it again. -/
theorem Waking.unborrowed_move {before after : State σ ρ ω ι} {label : Label ρ ι}
    (inv : Waking waker before) (h : Move Q waker before label after)
    (hhandle : after.handle≠.held) (i : ι) : (after.callers i).borrows=false := by
  have hdropped : before.handle≠.held → (after.callers i).borrows=false := by
    intro hbefore
    refine eq_false_of_ne_true fun hborrows => ?_
    rcases (turned_move h i).borrows hborrows with hborrowed|hheld
    · cases (inv.unborrowed hbefore i).symm.trans hborrowed
    · exact hbefore hheld
  rcases handle_move h with hsame|⟨_,hunborrowed⟩|hdropping
  · exact hdropped (hsame ▸ hhandle)
  · exact hunborrowed i
  · refine hdropped ?_
    rw [hdropping]
    exact nofun

/-- What a move makes of the callers is made up for by what it makes of the wakers. -/
theorem waiting_move {before after : State σ ρ ω ι} {label : Label ρ ι} {i : ι}
    (hregistered : unwoken (before.callers i)=true →
      waker i∈before.shared.pollWakers ∨ Carried before (waker i))
    (h : Move Q waker before label after) (hunwoken : unwoken (after.callers i)=true) :
    waker i∈after.shared.pollWakers ∨ Carried after (waker i) := by
  rcases (turned_move h i).waits hunwoken with hbefore|hafter
  · rcases hregistered hbefore with hmem|hcarried
    · exact registered_move h hmem
    · rcases carried_move h hcarried with hcarried|hwoken
      · exact .inr hcarried
      · cases (hwoken i rfl).symm.trans hunwoken
  · exact .inl hafter

/-- Once the driver has taken the wakers for the last time, or takes them, somebody has
the waker of everybody who waits. -/
theorem collected_move {before after : State σ ρ ω ι} {label : Label ρ ι} {i : ι}
    (hregistered : unwoken (before.callers i)=true →
      waker i∈before.shared.pollWakers ∨ Carried before (waker i))
    (hearlier : collected before.driver=true → pends (before.callers i)=true →
      Carried before (waker i))
    (hflags : Flagged before) (h : Move Q waker before label after)
    (hserved : ¬StarvedPoll Q before label) (hcollected : collected after.driver=true)
    (hpends : pends (after.callers i)=true) : Carried after (waker i) := by
  have hstays : Carried before (waker i) → Carried after (waker i) := by
    intro hcarried
    rcases carried_move h hcarried with hafter|hwoken
    · exact hafter
    · cases (hwoken i rfl).symm.trans (unwoken_of_pends hpends)
  have hbefore : collected before.driver=true → Carried after (waker i) := by
    intro hcollected
    rcases (turned_move h i).pending hpends with hwaiting|⟨turn,call,hlabel,hunder,hwaits⟩
    · exact hstays (hearlier hcollected hwaiting)
    · have hexited := hflags.exited (exiting_of_collected hcollected)
      rcases hwaits with halive|hempty
      · cases halive.symm.trans hexited
      · refine absurd ?_ hserved
        rw [hlabel]
        exact ⟨hcollected,call,false,hunder,hempty⟩
  rcases driver_stays h with ⟨turn,hlabel,move⟩|hsame|⟨_,_,hcancelled⟩
  · cases move with
    | moved conn driver running running' =>
      cases running'.symm.trans (exiting_of_collected hcollected)
    | notified pc next under now =>
      cases next with
      | loop | exit => cases exiting_of_collected hcollected
      | finish =>
        cases pc with
        | waiters =>
          cases now
          cases hcollected
        | take =>
          cases now
          rcases (turned_move h i).pending hpends with hwaiting|⟨_,_,hlabel',_⟩
          · rcases hregistered (unwoken_of_pends hwaiting) with hmem|hcarried
            · exact .inl hmem
            · exact hstays hcarried
          · cases hlabel.symm.trans hlabel'
        | wake taken => exact hbefore (under ▸ rfl)
    | resumed next under =>
      cases next with
      | loop | exit => cases hcollected
      | finish => exact hbefore (under ▸ rfl)
    | exits under => cases hcollected
  · exact hbefore (hsame ▸ hcollected)
  · rw [hcancelled] at hcollected
    cases hcollected

/-- Every step that does not cut the driver off keeps its promises. -/
theorem Waking.move {before after : State σ ρ ω ι} {label : Label ρ ι}
    (inv : Waking waker before) (hflags : Flagged before)
    (hstep : UncutStep Q role waker before label after) : Waking waker after := by
  have hmove := step_move hstep.unblocked.now
  refine ⟨?_,inv.unborrowed_move hmove,fun i => waiting_move (inv.registered i) hmove,
    fun hcollected i => collected_move (inv.registered i)
      (fun hearlier => inv.carried hearlier i) hflags hmove hstep.served hcollected⟩
  intro hcancelled
  rcases driver_stays hmove with ⟨turn,hlabel,move⟩|hsame|⟨hlabel,_⟩
  · cases move with
    | moved conn driver running running' none none' uncut => exact uncut hcancelled
    | notified pc next under now => cases hcancelled
    | resumed next under =>
      cases next with
      | loop | exit | finish => cases hcancelled
    | exits under => cases hcancelled
  · exact inv.uncut (hsame ▸ hcancelled)
  · exact hstep.uncut hlabel

/-- In every run in which the driver is not cut off, who waits will be woken. -/
theorem uncutRun_invariant {start state : State σ ρ ω ι} {log : List (Label ρ ι)}
    (hfresh : Fresh start) (run : UncutRun Q role waker start log state) :
    Waking waker state := by
  refine Run.invariant (motive := fun _ state => Waking waker state) (Waking.start hfresh) ?_ run
  intro log before label after earlier inv hstep
  have hunblocked := earlier.mono fun _ _ _ _ h => h.unblocked
  exact inv.move (unblockedRun_invariant hfresh hunblocked).1 hstep

omit [DecidableEq ω] [DecidableEq ι] in
/-- A dropped connection is not being closed, so no caller has a waker; a driver that has
ended has none either. -/
theorem Waking.pends_dropped {state : State σ ρ ω ι} (inv : Waking waker state)
    (hdropped : state.handle≠.held) (hfinished : state.driver=.finished) (i : ι) :
    pends (state.callers i)=false := by
  refine eq_false_of_ne_true fun hpends => ?_
  rcases inv.carried (hfinished ▸ rfl) i hpends with hdriver|⟨j,hj⟩
  · rw [hfinished] at hdriver
    cases hdriver
  · have hborrows := inv.unborrowed hdropped j
    cases hcaller : state.callers j with
    | closing pc =>
      rw [hcaller] at hborrows
      cases hborrows
    | idle | call | poll | returned | ready =>
      rw [hcaller] at hj
      cases hj

/-- A poll function can always go on. -/
theorem poll_enabled {state : State σ ρ ω ι} {i : ι} {call : PollCall} {pc : PollPc} {woken : Bool}
    (hpoll : state.callers i=.poll call pc woken) :
    ∃ turn after,turn.contended=false ∧ Step Q role waker state (.caller i turn) after := by
  obtain ⟨ready,hready⟩ := @pollCheck_enabled σ ρ ω Q state.shared woken call
  obtain ⟨result,hresult⟩ := Option.isSome_iff_exists.mp hready
  have hsome : (pollStep Q waker state i call woken ⟨.sent,0,false,ready,.slept⟩ pc).isSome=true := by
    cases pc with
    | enter | pending => rfl
    | tryLock =>
      unfold pollStep
      dsimp only
      rw [if_neg Bool.false_ne_true,hresult]
      rfl
  obtain ⟨after,hafter⟩ := Option.isSome_iff_exists.mp hsome
  refine ⟨⟨.sent,0,false,ready,.slept⟩,after,rfl,?_,nofun⟩
  simp only [step,callerStep,hpoll]
  exact hafter

/-- Once the driver has ended, a poll function that gets the lock is ready. -/
theorem poll_ready {before after : State σ ρ ω ι} {i : ι} {turn : Turn ρ} {call : PollCall}
    {woken : Bool} (hstep : UncutStep Q role waker before (.caller i turn) after)
    (hflags : Flagged before) (hfinished : before.driver=.finished)
    (hpoll : before.callers i=.poll call .tryLock woken) (hturn : turn.contended=false) :
    ∃ reply,after.callers i=.ready reply := by
  have hserved := hstep.served
  have hexited := hflags.exited (hfinished ▸ rfl)
  cases step_move hstep.unblocked.now with
  | ready _ _ reply under frame =>
    refine ⟨reply,?_⟩
    rw [after_self]
  | contended _ _ under taken => cases hturn.symm.trans taken
  | @pending _ _ call' woken' _ uncontended registers under frame waits =>
    rcases waits with halive|hempty
    · cases halive.symm.trans hexited
    · exact absurd ⟨hfinished ▸ rfl,call',woken',under,hempty⟩ hserved
  | call _ _ under => cases hpoll.symm.trans under
  | close _ _ under => cases hpoll.symm.trans under
  | polled _ _ under => cases hpoll.symm.trans under
  | again _ _ under => cases hpoll.symm.trans under

/-- When the connection is dropped and its driver gone, no stream operation waits: each
call can take its next step and takes a bounded number of them, and each poll function
can go on and is ready when it gets the lock. -/
theorem streams_return_after_drop (Q : Quiche σ ρ) (role : QuicRole) (waker : ι→ω)
    (start state : State σ ρ ω ι) (log : List (Label ρ ι)) (hfresh : Fresh start)
    (hscan : ∀ accepted conn,∃ scanned,(scanReadable Q accepted scanned conn).isSome=true)
    (run : UncutRun Q role waker start log state) (hdropped : state.handle≠.held)
    (hfinished : state.driver=.finished) (i : ι) :
    parked (state.callers i)=false ∧
    (∀ call pc fired,state.callers i=.call call pc fired →
      (∃ turn after,Step Q role waker state (.caller i turn) after) ∧
      ∀ n after,Continues Q role waker i state n after → n≤toGo (state.callers i)) ∧
    ∀ call pc woken,state.callers i=.poll call pc woken →
      (∃ turn after,turn.contended=false ∧ Step Q role waker state (.caller i turn) after) ∧
      ∀ turn after,pc=.tryLock → turn.contended=false →
        UncutStep Q role waker state (.caller i turn) after → ∃ reply,after.callers i=.ready reply := by
  have inv := uncutRun_invariant hfresh run
  obtain ⟨hflags,hwaits⟩ := unblockedRun_invariant hfresh (run.mono fun _ _ _ _ h => h.unblocked)
  have hwait := hwaits (hfinished ▸ rfl) i
  have hpends := inv.pends_dropped hdropped hfinished i
  refine ⟨?_,?_,?_⟩
  · cases hcaller : state.callers i with
    | call call pc fired =>
      rw [hcaller] at hwait
      cases pc with
      | await => exact hwait
      | enter | arm | check | exitCheck | flush => rfl
    | poll call pc woken =>
      rw [hcaller] at hpends
      cases pc with
      | pending => exact hpends
      | enter | tryLock => rfl
    | idle | closing | returned | ready => rfl
  · intro call pc fired hcall
    exact (call_returns hscan hflags hfinished hcall hwait).2
  · intro call pc woken hpoll
    refine ⟨poll_enabled hpoll,fun turn after htry hturn hstep => ?_⟩
    rw [htry] at hpoll
    exact poll_ready hstep hflags hfinished hpoll hturn

/-- The connection is dropped and its driver aborted. -/
def dropping : List (Label Unit Unit) := [.dropConnection,.abort]

/-- A step of the quiet connection that does not cut the driver off. -/
def uncutStep (state : State Unit Unit Unit Unit) : Label Unit Unit→Option (State Unit Unit Unit Unit)
  | .cancel => none
  | label => unblockedStep state label

omit [DecidableEq ω] [DecidableEq ι] in
/-- These steps do not cut the driver off. -/
theorem uncutStep_step {before after : State Unit Unit Unit Unit} {label : Label Unit Unit}
    (h : uncutStep before label=some after) : UncutStep quietQuiche .client id before label after := by
  have hserved : ¬StarvedPoll quietQuiche before label := by
    intro hstarved
    cases label with
    | caller i turn =>
      obtain ⟨_,call,_,_,hempty⟩ := hstarved
      cases call with
      | read stream cap => cases hempty
      | write | shutdown => exact hempty
    | driver | start | abandon | touch | dropConnection | abort | cancel => exact hstarved
  cases label with
  | cancel => cases h
  | driver | caller | start | abandon | touch | dropConnection | abort =>
    exact ⟨unblockedStep_step h,nofun,hserved⟩

/-- A read is waiting when the connection is dropped while its driver ends, and returns. -/
theorem streams_return_after_drop_read :
    ∃ state : State Unit Unit Unit Unit,state.handle=.dropped ∧ state.driver=.finished ∧
      state.callers ()=.call (.read 0 1) .await true ∧
      (∃ turn after,Step quietQuiche .client id state (.caller () turn) after) ∧
      ∀ n after,Continues quietQuiche .client id () state n after → n≤4 := by
  have hstate : ∃ state,(calling .openStream 4++calling (.read 0 1) 4++driving 6++
      dropping++driving 4).foldlM uncutStep quietStart=some state ∧
      state.handle=.dropped ∧ state.driver=.finished ∧
      state.callers ()=.call (.read 0 1) .await true := ⟨_,rfl,rfl,rfl,rfl⟩
  obtain ⟨state,hrun,hdropped,hdriver,hcaller⟩ := hstate
  have hheld : state.handle≠.held := by
    rw [hdropped]
    exact nofun
  obtain ⟨_,hcalls,_⟩ := streams_return_after_drop quietQuiche .client id quietStart state _
    quietStart_fresh (fun _ _ => ⟨0,rfl⟩) (Run.start.extend (fun _ _ _ _ => uncutStep_step) hrun)
    hheld hdriver ()
  obtain ⟨henabled,hbounded⟩ := hcalls _ _ _ hcaller
  rw [hcaller] at hbounded
  exact ⟨state,hdropped,hdriver,hcaller,henabled,hbounded⟩

/-- When the driver is cancelled, only callers change what an operation waits for. -/
theorem cancelled_step {before after : State σ ρ ω ι} {label : Label ρ ι} {i : ι}
    (h : Step Q role waker before label after) (hdriver : before.driver=.cancelled)
    (hparked : parked (before.callers i)=true)
    (hcaller : ∀ j turn,label≠.caller j turn) (habandon : label≠.abandon i) :
    after.callers i=before.callers i := by
  cases step_move h with
  | driver turn move =>
    have hnone : driverStep Q waker before turn=some after := h.now
    unfold driverStep at hnone
    rw [hdriver] at hnone
    cases hnone
  | call j turn | close j turn | polled j turn | contended j turn | ready j turn | pending j turn
    | again j turn => exact absurd rfl (hcaller j turn)
  | started j op settled held =>
    refine setCaller_other (fun he => ?_) op.caller
    rw [he] at hparked
    cases hcallers : before.callers j with
    | idle | returned | ready =>
      rw [hcallers] at hparked
      cases hparked
    | call | closing | poll =>
      rw [hcallers] at settled
      cases settled
  | abandoned j abandonable =>
    exact setCaller_other (fun he => habandon (congrArg Label.abandon he.symm)) .idle
  | touched | dropped | aborted | cancelled => rfl

/-- What keeps a call waiting: the driver is cancelled, and nobody borrows the connection. -/
structure Abandoned (state : State σ ρ ω ι) (i : ι) (call : Call) : Prop where
  /-- The driver is cancelled. -/
  driver : state.driver=.cancelled
  /-- The connection is dropped. -/
  dropped : state.handle=.dropped
  /-- Nobody is closing it. -/
  unborrowed : ∀ j,(state.callers j).borrows=false
  /-- The call waits for a notification. -/
  waits : state.callers i=.call call .await false

/-- No step of anybody notifies the call. -/
theorem Abandoned.step {before after : State σ ρ ω ι} {label : Label ρ ι} {i : ι} {call : Call}
    (h : Abandoned before i call) (hstep : Step Q role waker before label after)
    (habandon : label≠.abandon i) : Abandoned after i call := by
  have hmove := step_move hstep
  have hne : ∀ {j : ι} {poll : PollCall} {pc : PollPc} {woken : Bool},
      before.callers j=.poll poll pc woken → i≠j := by
    intro j poll pc woken hunder he
    rw [←he,h.waits] at hunder
    cases hunder
  constructor
  · rcases driver_stays hmove with ⟨turn,hlabel,_⟩|hsame|⟨_,_,hcancelled⟩
    · have hnone := hstep.now
      rw [hlabel] at hnone
      simp only [QuicConnection.step,driverStep,h.driver] at hnone
      cases hnone
    · exact hsame.trans h.driver
    · exact hcancelled
  · rcases handle_move hmove with hsame|⟨hheld,_⟩|hdropping
    · exact hsame.trans h.dropped
    · cases h.dropped.symm.trans hheld
    · cases h.dropped.symm.trans hdropping
  · intro j
    refine eq_false_of_ne_true fun hborrows => ?_
    rcases (turned_move hmove j).borrows hborrows with hborrowed|hheld
    · cases (h.unborrowed j).symm.trans hborrowed
    · cases h.dropped.symm.trans hheld
  · refine Eq.trans ?_ h.waits
    by_cases hcaller : ∃ j turn,label=.caller j turn
    · obtain ⟨j,turn,hlabel⟩ := hcaller
      subst hlabel
      cases hmove with
      | call _ _ under frame move =>
        refine setCaller_other (fun he => ?_) _
        rw [←he,h.waits] at under
        cases under
        cases move with
        | returned reply running => exact running rfl
      | close _ _ under =>
        have hborrowed := h.unborrowed j
        rw [under] at hborrowed
        cases hborrowed
      | polled _ _ under => exact setCaller_other (hne under) _
      | @contended _ _ poll woken under =>
        change (if waker i=waker j
          then ((before.setCaller j (.poll poll .pending woken)).callers i).wake
          else (before.setCaller j (.poll poll .pending woken)).callers i)=before.callers i
        rw [setCaller_other (hne under),h.waits]
        split_ifs
        · rfl
        · rfl
      | ready _ _ _ under => exact setCaller_other (hne under) _
      | pending _ _ _ _ under => exact setCaller_other (hne under) _
      | again _ _ under => exact setCaller_other (hne under) _
    · refine cancelled_step hstep h.driver ?_ (fun j turn hlabel => ?_) habandon
      · rw [h.waits]
        rfl
      · exact hcaller ⟨j,turn,hlabel⟩

/-- A call that waits when the driver is cancelled waits for good. -/
theorem call_waits_after_cancel {state later : State σ ρ ω ι} {log : List (Label ρ ι)} {i : ι}
    {call : Call} (run : Run (fun _ before label after => Step Q role waker before label after)
      state log later) (h : Abandoned state i call) (hstays : .abandon i∉log) :
    later.callers i=.call call .await false := by
  have hlater : .abandon i∉log → Abandoned later i call := by
    refine Run.invariant (motive := fun log later => .abandon i∉log → Abandoned later i call)
      (fun _ => h) ?_ run
    intro log before label after _ ih hstep hnot
    rw [List.mem_append,List.mem_singleton,not_or] at hnot
    exact (ih hnot.1).step hstep (Ne.symm hnot.2)
  exact (hlater hstays).waits

/-- An operation on an opened stream waits, the connection is dropped and its driver
cancelled. -/
def parking (op : Op) (n : ℕ) : List (Label Unit Unit) :=
  calling .openStream 4++driving 5++calling op n++dropping++[.cancel]

/-- An operation waits, and nobody is left to notify it. -/
structure LeftWaiting (Q : Quiche σ ρ) (role : QuicRole) (waker : ι→ω) (state : State σ ρ ω ι)
    (i : ι) : Prop where
  /-- The connection is dropped. -/
  dropped : state.handle=.dropped
  /-- The driver is cancelled. -/
  driver : state.driver=.cancelled
  /-- It did not set the exit flag. -/
  unflagged : state.shared.driverExited=false
  /-- The operation waits. -/
  parked : parked (state.callers i)=true
  /-- Nobody else changes that. -/
  unnotified : ∀ label after,Step Q role waker state label after →
    (∀ j turn,label≠.caller j turn) → label≠.abandon i → after.callers i=state.callers i

/-- A run that ends with its operation waiting leaves it waiting. -/
theorem parking_leaves {op : Op} {n : ℕ} (h : ∃ state,
      (parking op n).foldlM quietStep quietStart=some state ∧ state.handle=.dropped ∧
      state.driver=.cancelled ∧ state.shared.driverExited=false ∧
      parked (state.callers ())=true) :
    ∃ state,Run (fun _ before label after => Step quietQuiche .client id before label after)
      quietStart (parking op n) state ∧ LeftWaiting quietQuiche .client id state () := by
  obtain ⟨state,hrun,hdropped,hdriver,hexited,hparked⟩ := h
  exact ⟨state,Run.start.extend (fun _ _ _ _ => quietStep_step) hrun,hdropped,hdriver,hexited,
    hparked,fun label after hstep => cancelled_step hstep hdriver hparked⟩

/-- A `read` and a `poll_read` can be left waiting: the driver is cancelled at its wait for
packets while the operation waits for the driver. -/
theorem reads_wait_after_drop :
    (∃ state,Run (fun _ before label after => Step quietQuiche .client id before label after)
      quietStart (parking (.read 0 1) 4) state ∧ LeftWaiting quietQuiche .client id state ()) ∧
    ∃ state,Run (fun _ before label after => Step quietQuiche .client id before label after)
      quietStart (parking (.pollRead 0 1) 2) state ∧
      LeftWaiting quietQuiche .client id state () :=
  ⟨parking_leaves ⟨_,rfl,rfl,rfl,rfl,rfl⟩,parking_leaves ⟨_,rfl,rfl,rfl,rfl,rfl⟩⟩

end Drops

end WispersConnect.ConnectionDrop
