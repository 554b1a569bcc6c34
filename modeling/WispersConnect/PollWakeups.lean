import WispersConnect.ConnectionDrop

/-!
# Wake-ups of the poll functions

A poll function registers its waker, tries the lock and looks at its stream; the
driver processes a packet, takes the registered wakers and wakes them one by one.
Between any two of these steps the other side may take steps of its own. Nobody
who returned `Pending` is forgotten: its waker is registered, or somebody has
taken it and is on the way to wake it.
-/

namespace WispersConnect.PollWakeups

open Messages QuicConnection ConnectionSteps DriverExit ConnectionDrop Runs

variable {σ ρ ω ι : Type} {Q : Quiche σ ρ} {role : QuicRole} {waker : ι→ω}

/-- How many steps of its own the driver is from taking the wakers, while it is notifying
or about to. -/
def toTake : DriverPc ρ ω→ℕ
  | .exit => 3
  | .notify .waiters _ => 2
  | .notify .take _ => 1
  | _ => 0

/-- The driver processes a packet or a timeout, or says that it is gone. -/
def changes (state : State σ ρ ω ι) : Label ρ ι→Bool
  | .driver _ =>
    match state.driver with
    | .packet _ | .expired | .exit => true
    | _ => false
  | _ => false

section Steps

variable [DecidableEq ω] [DecidableEq ι]

/-- A step in which no `poll_read` has an empty buffer. -/
structure PollStep (Q : Quiche σ ρ) (role : QuicRole) (waker : ι→ω) (before : State σ ρ ω ι)
    (label : Label ρ ι) (after : State σ ρ ω ι) : Prop where
  /-- It is a step. -/
  now : Step Q role waker before label after
  /-- The buffer has room. -/
  nonempty : ∀ i turn stream cap woken,label=.caller i turn →
    before.callers i=.poll (.read stream cap) .tryLock woken → 0<cap

/-- The runs in which no `poll_read` has an empty buffer. -/
abbrev PollRun (Q : Quiche σ ρ) (role : QuicRole) (waker : ι→ω) (start : State σ ρ ω ι) :
    List (Label ρ ι)→State σ ρ ω ι→Prop :=
  Run (fun _ before label after => PollStep Q role waker before label after) start

/-- What the others do while a caller takes no step, and whether the driver processed
something meanwhile. -/
inductive Meanwhile (Q : Quiche σ ρ) (role : QuicRole) (waker : ι→ω) (i : ι)
    (start : State σ ρ ω ι) : Bool→State σ ρ ω ι→Prop where
  /-- Nothing. -/
  | refl : Meanwhile Q role waker i start false start
  /-- One step more. -/
  | next {changed : Bool} {before after : State σ ρ ω ι} {label : Label ρ ι}
      (earlier : Meanwhile Q role waker i start changed before)
      (now : Step Q role waker before label after) (foreign : ∀ turn,label≠.caller i turn) :
      Meanwhile Q role waker i start (changed || changes before label) after

/-- A party that has taken wakers wakes them one by one, and nobody keeps it from that. -/
structure Delivers (Q : Quiche σ ρ) (role : QuicRole) (waker : ι→ω) (own : Turn ρ→Label ρ ι)
    (taken : State σ ρ ω ι→List ω) (state : State σ ρ ω ι) : Prop where
  /-- It can take its next step. -/
  enabled : taken state≠[] → ∃ turn after,Step Q role waker state (own turn) after
  /-- That wakes the first of them. -/
  wakes : ∀ turn after w rest,taken state=w::rest → Step Q role waker state (own turn) after →
    taken after=rest ∧ Woken waker after w
  /-- Nobody else takes them away. -/
  keeps : ∀ label after,(∀ turn,label≠own turn) → Step Q role waker state label after →
    taken after=taken state

/-- A driver that is about to notify takes the wakers after the number of its own steps
that is left, and nobody keeps it from that. -/
structure Notifies (Q : Quiche σ ρ) (role : QuicRole) (waker : ι→ω) (state : State σ ρ ω ι) :
    Prop where
  /-- It can take its next step. -/
  enabled : 0<toTake state.driver → ∃ turn after,Step Q role waker state (.driver turn) after
  /-- That brings it nearer. -/
  nearer : ∀ turn after,0<toTake state.driver → Step Q role waker state (.driver turn) after →
    toTake after.driver+1=toTake state.driver
  /-- With the last one it has every waker. -/
  takes : ∀ turn after,toTake state.driver=1 → Step Q role waker state (.driver turn) after →
    driverTaken after.driver=state.shared.pollWakers
  /-- Nobody else moves it. -/
  keeps : ∀ label after,0<toTake state.driver → (∀ turn,label≠.driver turn) →
    Step Q role waker state label after → after.driver=state.driver

/-- After processing a packet or a timeout, or setting the exit flag, the driver is about
to notify. -/
theorem toTake_changes {before after : State σ ρ ω ι} {label : Label ρ ι}
    (h : Step Q role waker before label after) (hchanges : changes before label=true) :
    0<toTake after.driver := by
  have hnow := h.now
  cases label with
  | driver turn =>
    simp only [step] at hnow
    unfold driverStep at hnow
    cases hdriver : before.driver with
    | packet packet =>
      rw [hdriver] at hnow
      dsimp only at hnow
      split at hnow
      · obtain rfl := Option.some.inj hnow
        exact Nat.succ_pos 1
      · obtain rfl := Option.some.inj hnow
        exact Nat.succ_pos 1
      · obtain rfl := Option.some.inj hnow
        exact Nat.succ_pos 2
    | expired | exit =>
      rw [hdriver] at hnow
      obtain rfl := Option.some.inj hnow
      exact Nat.succ_pos 1
    | spawned | head | flush | closedCheck | timeout | select | keepalive | notify | finished
      | cancelled =>
      simp only [changes,hdriver] at hchanges
      cases hchanges
  | caller | start | abandon | touch | dropConnection | abort | cancel => cases hchanges

omit [DecidableEq ω] [DecidableEq ι] in
/-- A driver that is about to notify does not await anything. -/
theorem awaits_of_toTake {driver : DriverPc ρ ω} (h : 0<toTake driver) : driver.awaits=false := by
  cases driver with
  | notify | exit => rfl
  | spawned | head | flush | closedCheck | timeout | select | packet | expired | keepalive
    | finished | cancelled => cases h

/-- What the driver's own step makes of its way to the wakers. -/
theorem toTake_driver {before after : State σ ρ ω ι} {turn : Turn ρ}
    (h : Step Q role waker before (.driver turn) after) (hpositive : 0<toTake before.driver) :
    toTake after.driver+1=toTake before.driver ∧ (toTake before.driver=1 →
      driverTaken after.driver=before.shared.pollWakers ∧ after.shared.pollWakers=[]) := by
  have hnow := h.now
  simp only [step] at hnow
  unfold driverStep at hnow
  cases hdriver : before.driver with
  | exit =>
    rw [hdriver] at hnow
    obtain rfl := Option.some.inj hnow
    exact ⟨rfl,fun hone => by cases (hone : 3=1)⟩
  | notify pc next =>
    rw [hdriver] at hnow
    cases pc with
    | waiters =>
      obtain rfl := Option.some.inj hnow
      exact ⟨rfl,fun hone => by cases (hone : 2=1)⟩
    | take =>
      obtain rfl := Option.some.inj hnow
      exact ⟨rfl,fun _ => ⟨rfl,rfl⟩⟩
    | wake taken =>
      rw [hdriver] at hpositive
      cases hpositive
  | spawned | head | flush | closedCheck | timeout | select | packet | expired | keepalive
    | finished | cancelled =>
    rw [hdriver] at hpositive
    cases hpositive

/-- A driver that is about to notify stays where it is when others take steps. -/
theorem toTake_keeps {before after : State σ ρ ω ι} {label : Label ρ ι}
    (h : Step Q role waker before label after) (hpositive : 0<toTake before.driver)
    (hforeign : ∀ turn,label≠.driver turn) : after.driver=before.driver := by
  rcases driver_stays (step_move h) with ⟨turn,hlabel,_⟩|hsame|⟨_,hawaits,_⟩
  · exact absurd hlabel (hforeign turn)
  · exact hsame
  · cases (awaits_of_toTake hpositive).symm.trans hawaits

/-- A driver that is about to notify, does. -/
theorem notifies (Q : Quiche σ ρ) (role : QuicRole) (waker : ι→ω) (state : State σ ρ ω ι) :
    Notifies Q role waker state := by
  constructor
  · intro hpositive
    have hsome : (driverStep Q waker state ⟨.sent,0,false,[],.slept⟩).isSome=true := by
      unfold driverStep
      cases hdriver : state.driver with
      | exit => rfl
      | notify pc next =>
        cases pc with
        | waiters | take => rfl
        | wake taken =>
          rw [hdriver] at hpositive
          cases hpositive
      | spawned | head | flush | closedCheck | timeout | select | packet | expired | keepalive
        | finished | cancelled =>
        rw [hdriver] at hpositive
        cases hpositive
    obtain ⟨after,hafter⟩ := Option.isSome_iff_exists.mp hsome
    exact ⟨_,after,hafter,nofun⟩
  · intro turn after hpositive h
    exact (toTake_driver h hpositive).1
  · intro turn after hone h
    have hpositive : 0<toTake state.driver := by omega
    exact ((toTake_driver h hpositive).2 hone).1
  · intro label after hpositive hforeign h
    exact toTake_keeps h hpositive hforeign

omit [DecidableEq ι] in
/-- Waking the first waker that was taken. -/
theorem wake_woken (state : State σ ρ ω ι) (w : ω) : Woken waker (state.wakeWaker waker w) w := by
  intro i hi
  change unwoken (if waker i=w then (state.callers i).wake else state.callers i)=false
  rw [if_pos hi]
  exact unwoken_wake _

/-- The driver wakes what it has taken. -/
theorem driver_delivers (Q : Quiche σ ρ) (role : QuicRole) (waker : ι→ω) (state : State σ ρ ω ι) :
    Delivers Q role waker .driver (fun state => driverTaken state.driver) state := by
  have hpc : ∀ {w rest},driverTaken state.driver=w::rest →
      ∃ next,state.driver=.notify (.wake (w::rest)) next := by
    intro w rest htaken
    cases hdriver : state.driver with
    | notify pc next =>
      rw [hdriver,driverTaken_notify] at htaken
      cases pc with
      | wake taken =>
        obtain rfl : taken=w::rest := htaken
        exact ⟨next,rfl⟩
      | waiters | take => cases htaken
    | spawned | head | flush | closedCheck | timeout | select | packet | expired | keepalive | exit
      | finished | cancelled =>
      rw [hdriver] at htaken
      cases htaken
  constructor
  · intro htaken
    obtain ⟨w,rest,hcons⟩ := List.exists_cons_of_ne_nil htaken
    obtain ⟨next,hdriver⟩ := hpc hcons
    have hstep : driverStep Q waker state ⟨.sent,0,false,[],.slept⟩=
        some ((state.wakeWaker waker w).goto (.notify (.wake rest) next)) := by
      unfold driverStep
      rw [hdriver]
      rfl
    exact ⟨_,_,hstep,nofun⟩
  · intro turn after w rest htaken h
    obtain ⟨next,hdriver⟩ := hpc htaken
    have hnow := h.now
    simp only [step] at hnow
    unfold driverStep at hnow
    rw [hdriver] at hnow
    obtain rfl := Option.some.inj hnow
    exact ⟨rfl,wake_woken state w⟩
  · intro label after hforeign h
    rcases driver_stays (step_move h) with ⟨turn,hlabel,_⟩|hsame|⟨_,hawaits,hcancelled⟩
    · exact absurd hlabel (hforeign turn)
    · exact congrArg driverTaken hsame
    · rw [hcancelled,driverTaken_awaits hawaits]
      rfl

/-- What a caller has taken stays with it while others take steps. -/
theorem foreign_callerTaken {before after : State σ ρ ω ι} {label : Label ρ ι} {i : ι}
    (h : Move Q waker before label after) (hforeign : ∀ turn,label≠.caller i turn) :
    callerTaken (after.callers i)=callerTaken (before.callers i) := by
  have hset : ∀ (state : State σ ρ ω ι) {j turn} (caller : Caller ω),label=.caller j turn →
      callerTaken (state.callers i)=callerTaken (before.callers i) →
      callerTaken ((state.setCaller j caller).callers i)=callerTaken (before.callers i) := by
    intro state j turn caller hlabel hstate
    have hne : i≠j := fun he => hforeign turn (he ▸ hlabel)
    rw [setCaller_other hne]
    exact hstate
  cases h with
  | driver turn move =>
    cases move with
    | notified pc next under now => exact notify_callerTaken now i
    | moved | resumed | exits => rfl
  | call j turn => exact hset {before with shared := _} _ rfl rfl
  | close j turn under move =>
    cases move with
    | moved conn => exact hset (before.setConn conn) _ rfl rfl
    | stored => exact hset {before with shared := _} _ rfl rfl
    | notified pc now => exact hset _ _ rfl (notify_callerTaken now i)
    | returned => exact hset before _ rfl rfl
  | polled j turn => exact hset {before with shared := _} _ rfl rfl
  | @contended j turn call woken under =>
    have hset' := hset before (.poll call .pending woken) rfl rfl
    exact (notify_callerTaken (rfl : notifyStep waker _ (.wake [waker j])=(some (.wake []),_))
      i).trans hset'
  | ready j turn => exact hset {before with shared := _} _ rfl rfl
  | pending j turn => exact hset {before with shared := _} _ rfl rfl
  | again j turn => exact hset before _ rfl rfl
  | started j op settled held =>
    by_cases hi : i=j
    · subst hi
      rw [setCaller_self,callerTaken_settled settled]
      cases op with
      | handshake | ping | openStream | acceptStream | closeWithError | read | writeAll
        | pollRead | pollWrite | pollShutdown => rfl
    · rw [setCaller_other hi]
  | abandoned j abandonable =>
    by_cases hi : i=j
    · subst hi
      rw [setCaller_self,callerTaken_abandonable abandonable]
      rfl
    · rw [setCaller_other hi]
  | touched | dropped | aborted | cancelled => rfl

/-- A close wakes what it has taken. -/
theorem caller_delivers (Q : Quiche σ ρ) (role : QuicRole) (waker : ι→ω) (state : State σ ρ ω ι)
    (i : ι) :
    Delivers Q role waker (.caller i) (fun state => callerTaken (state.callers i)) state := by
  have hpc : ∀ {w rest},callerTaken (state.callers i)=w::rest →
      state.callers i=.closing (.notify (.wake (w::rest))) := by
    intro w rest htaken
    cases hcaller : state.callers i with
    | closing pc =>
      rw [hcaller] at htaken
      cases pc with
      | notify pc =>
        rw [callerTaken_notify] at htaken
        cases pc with
        | wake taken =>
          obtain rfl : taken=w::rest := htaken
          rfl
        | waiters | take => cases htaken
      | enter | flush | store => cases htaken
    | idle | call | poll | returned | ready =>
      rw [hcaller] at htaken
      cases htaken
  constructor
  · intro htaken
    obtain ⟨w,rest,hcons⟩ := List.exists_cons_of_ne_nil htaken
    have hstep : callerStep Q role waker state i ⟨.sent,0,false,[],.slept⟩=
        some ((state.wakeWaker waker w).setCaller i (.closing (.notify (.wake rest)))) := by
      unfold callerStep
      rw [hpc hcons]
      rfl
    exact ⟨_,_,hstep,nofun⟩
  · intro turn after w rest htaken h
    have hcaller := hpc htaken
    have hnow := h.now
    simp only [step] at hnow
    unfold callerStep at hnow
    rw [hcaller] at hnow
    obtain rfl := Option.some.inj hnow
    refine ⟨?_,(wake_woken state w).setCaller rfl⟩
    change callerTaken ((State.setCaller _ i (.closing (.notify (.wake rest)))).callers i)=rest
    rw [setCaller_self]
    rfl
  · intro label after hforeign h
    exact foreign_callerTaken (step_move h) hforeign

/-- Nobody who waits for its waker is forgotten. -/
structure Remembered (waker : ι→ω) (state : State σ ρ ω ι) : Prop where
  /-- The flags are right. -/
  flagged : Flagged state
  /-- Who waits is registered, or somebody has the waker. -/
  registered : ∀ i,unwoken (state.callers i)=true →
    waker i∈state.shared.pollWakers ∨ Carried state (waker i)
  /-- After the driver took the wakers for the last time, somebody has the waker. -/
  carried : collected state.driver=true → ∀ i,pends (state.callers i)=true →
    Carried state (waker i)

omit [DecidableEq ω] [DecidableEq ι] in
/-- In a new connection nobody waits. -/
theorem Remembered.start {start : State σ ρ ω ι} (h : Fresh start) : Remembered waker start := by
  have hwaking : Waking waker start := Waking.start h
  exact ⟨Flagged.start h,hwaking.registered,hwaking.carried⟩

/-- A read into a buffer with room gets data, the end, or an error. -/
theorem PollStep.served {before after : State σ ρ ω ι} {label : Label ρ ι}
    (h : PollStep Q role waker before label after)
    (hread : ∀ conn stream cap,0<cap → (Q.streamRecv conn stream cap).1≠.ok (0,false)) :
    ¬StarvedPoll Q before label := by
  intro hstarved
  cases label with
  | caller i turn =>
    obtain ⟨_,call,woken,hunder,hempty⟩ := hstarved
    cases call with
    | read stream cap =>
      have hroom := h.nonempty i turn stream cap woken rfl hunder
      exact hread _ stream cap hroom hempty
    | write | shutdown => exact hempty
  | driver | start | abandon | touch | dropConnection | abort | cancel => exact hstarved

/-- In every run, nobody is forgotten. -/
theorem pollRun_invariant {start state : State σ ρ ω ι} {log : List (Label ρ ι)}
    (hfresh : Fresh start)
    (hread : ∀ conn stream cap,0<cap → (Q.streamRecv conn stream cap).1≠.ok (0,false))
    (run : PollRun Q role waker start log state) : Remembered waker state := by
  refine Run.invariant (motive := fun _ state => Remembered waker state)
    (Remembered.start hfresh) ?_ run
  intro log before label after _ inv hstep
  have hmove := step_move hstep.now
  exact ⟨inv.flagged.move hmove,fun i => waiting_move (inv.registered i) hmove,
    fun hcollected i => collected_move (inv.registered i)
      (fun hearlier => inv.carried hearlier i) inv.flagged hmove (hstep.served hread) hcollected⟩

/-- While a caller does nothing, its waker stays registered, or is taken; and as long as
it is registered, the driver has not yet taken the wakers for anything it processed. -/
theorem Meanwhile.waits {i : ι} {start later : State σ ρ ω ι} {changed : Bool}
    (h : Meanwhile Q role waker i start changed later)
    (hstart : unwoken (start.callers i)=true →
      waker i∈start.shared.pollWakers ∨ Carried start (waker i))
    (hpends : pends (later.callers i)=true) :
    Carried later (waker i) ∨
      (waker i∈later.shared.pollWakers ∧ (changed=true → 0<toTake later.driver)) := by
  induction h with
  | refl =>
    rcases hstart (unwoken_of_pends hpends) with hmem|hcarried
    · exact .inr ⟨hmem,fun h => by cases h⟩
    · exact .inl hcarried
  | @next changed before after label earlier now foreign ih =>
    have hmove := step_move now
    have hbefore : pends (before.callers i)=true := by
      rcases (turned_move hmove i).pending hpends with hwaiting|⟨turn,_,hlabel,_⟩
      · exact hwaiting
      · exact absurd hlabel (foreign turn)
    rcases ih hbefore with hcarried|⟨hmem,htake⟩
    · rcases carried_move hmove hcarried with hafter|hwoken
      · exact .inl hafter
      · cases (hwoken i rfl).symm.trans (unwoken_of_pends hpends)
    · rcases registered_move hmove hmem with hafter|hcarried
      · refine .inr ⟨hafter,fun hchanged => ?_⟩
        rcases (Bool.or_eq_true _ _).mp hchanged with hearlier|hnow
        · have hpositive := htake hearlier
          by_cases hown : ∃ turn,label=.driver turn
          · obtain ⟨turn,rfl⟩ := hown
            obtain ⟨hnearer,htakes⟩ := toTake_driver now hpositive
            have hone : toTake before.driver≠1 := by
              intro hone
              rw [(htakes hone).2] at hafter
              cases hafter
            omega
          · rw [toTake_keeps now hpositive (fun turn hlabel => hown ⟨turn,hlabel⟩)]
            exact hpositive
        · exact toTake_changes now hnow
      · exact .inl hcarried

/-- No wake-up is lost. A poll function that returned `Pending` and was not woken since is
registered, or its waker was taken and is about to be woken. Once the driver has processed
something after the call's check and has taken the wakers for that, the waker was taken.
After the driver's end it was taken. Whoever is about to notify, does, and whoever has
taken wakers wakes them. -/
theorem polls_not_forgotten (Q : Quiche σ ρ) (role : QuicRole) (waker : ι→ω)
    (start state : State σ ρ ω ι) (log : List (Label ρ ι)) (hfresh : Fresh start)
    (hread : ∀ conn stream cap,0<cap → (Q.streamRecv conn stream cap).1≠.ok (0,false))
    (run : PollRun Q role waker start log state) :
    (∀ i,pends (state.callers i)=true →
      waker i∈state.shared.pollWakers ∨ Carried state (waker i)) ∧
    (∀ i changed later,Meanwhile Q role waker i state changed later →
      pends (later.callers i)=true → Carried later (waker i) ∨
        (waker i∈later.shared.pollWakers ∧ (changed=true → 0<toTake later.driver))) ∧
    (collected state.driver=true → ∀ i,pends (state.callers i)=true →
      Carried state (waker i)) ∧
    (∀ label after,Step Q role waker state label after → changes state label=true →
      0<toTake after.driver) ∧
    Notifies Q role waker state ∧
    Delivers Q role waker .driver (fun state => driverTaken state.driver) state ∧
    ∀ i,Delivers Q role waker (.caller i) (fun state => callerTaken (state.callers i)) state := by
  have inv := pollRun_invariant hfresh hread run
  refine ⟨?_,?_,inv.carried,?_,notifies Q role waker state,driver_delivers Q role waker state,
    caller_delivers Q role waker state⟩
  · intro i hpends
    exact inv.registered i (unwoken_of_pends hpends)
  · intro i changed later hmeanwhile hpends
    exact hmeanwhile.waits (inv.registered i) hpends
  · intro label after hstep hchanges
    exact toTake_changes hstep hchanges

/-- A turn in which the driver is woken by a packet. -/
def packetTurn : Turn Unit := ⟨.sent,0,false,[],.packet ()⟩

/-- The driver takes some steps; six of them take it to its first packet. -/
def receiving (n : ℕ) : List (Label Unit Unit) := List.replicate n (.driver packetTurn)

/-- A step of the quiet connection in which no `poll_read` has an empty buffer. -/
def roomyStep (state : State Unit Unit Unit Unit) (label : Label Unit Unit) :
    Option (State Unit Unit Unit Unit) :=
  match state.callers () with
  | .poll (.read _ 0) _ _ => none
  | _ => quietStep state label

omit [DecidableEq ω] [DecidableEq ι] in
/-- In these steps no buffer is empty. -/
theorem roomyStep_step {before after : State Unit Unit Unit Unit} {label : Label Unit Unit}
    (h : roomyStep before label=some after) : PollStep quietQuiche .client id before label after := by
  unfold roomyStep at h
  split at h
  · cases h
  next hroom =>
    refine ⟨quietStep_step h,fun i turn stream cap woken _ hunder => ?_⟩
    exact Nat.pos_of_ne_zero fun hzero => hroom stream .tryLock woken (hzero ▸ hunder)

/-- A `poll_read` is pending, the driver processes a packet and takes the wakers: it has
the one of the `poll_read`. -/
theorem polls_not_forgotten_read :
    ∃ state later : State Unit Unit Unit Unit,pends (state.callers ())=true ∧
      Meanwhile quietQuiche .client id () state true later ∧ pends (later.callers ())=true ∧
      Carried later () := by
  have hstate : ∃ state s t later,
      (calling (.pollRead 0 1) 2++receiving 6).foldlM roomyStep quietStart=some state ∧
      pends (state.callers ())=true ∧ changes state (.driver packetTurn : Label Unit Unit)=true ∧
      step quietQuiche .client id state (.driver packetTurn)=some s ∧
      step quietQuiche .client id s (.driver packetTurn)=some t ∧
      step quietQuiche .client id t (.driver packetTurn)=some later ∧
      pends (later.callers ())=true ∧ toTake later.driver=0 :=
    ⟨_,_,_,_,rfl,rfl,rfl,rfl,rfl,rfl,rfl,rfl⟩
  obtain ⟨state,s,t,later,hrun,hpends,hchanges,hs,ht,hlater,hwaits,htaken⟩ := hstate
  have hmeanwhile : Meanwhile quietQuiche .client id () state
      (((false || changes state (.driver packetTurn : Label Unit Unit)) ||
        changes s (.driver packetTurn : Label Unit Unit)) ||
        changes t (.driver packetTurn : Label Unit Unit)) later :=
    .next (.next (.next .refl ⟨hs,nofun⟩ nofun) ⟨ht,nofun⟩ nofun) ⟨hlater,nofun⟩ nofun
  rw [hchanges,Bool.or_true,Bool.true_or,Bool.true_or] at hmeanwhile
  obtain ⟨_,hwaiting,_⟩ := polls_not_forgotten quietQuiche .client id quietStart state _
    quietStart_fresh (fun _ _ _ _ => nofun) (Run.start.extend (fun _ _ _ _ => roomyStep_step) hrun)
  refine ⟨state,later,hpends,hmeanwhile,hwaits,?_⟩
  rcases hwaiting () true later hmeanwhile hwaits with hcarried|⟨_,htake⟩
  · exact hcarried
  · have hpositive := htake rfl
    omega

end Steps

end WispersConnect.PollWakeups
