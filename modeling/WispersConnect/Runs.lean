import Mathlib.Data.List.Basic

/-!
# Runs of a system

A run is a list of events, each taking the state to the next. A step may depend
on the events so far, so that what an environment can do may depend on what it
has seen. An invariant of events and state holds of every run, and each event of
a run happened in a run of its own.
-/

namespace WispersConnect.Runs

variable {ε σ : Type*}

/-- The events of a run from the initial state, oldest first, and the state it leads to. -/
inductive Run (step : List ε→σ→ε→σ→Prop) (init : σ) : List ε→σ→Prop where
  /-- Nothing has happened. -/
  | start : Run step init [] init
  /-- One event more. -/
  | next {log : List ε} {before after : σ} {event : ε} (earlier : Run step init log before)
      (now : step log before event after) : Run step init (log++[event]) after

variable {step : List ε→σ→ε→σ→Prop} {init : σ}

/-- What holds initially and is kept by every step of a run holds of every run. -/
theorem Run.invariant {motive : List ε→σ→Prop} (hstart : motive [] init)
    (hstep : ∀ log before event after,Run step init log before → motive log before →
      step log before event after → motive (log++[event]) after)
    {log : List ε} {state : σ} (run : Run step init log state) : motive log state := by
  induction run with
  | start => exact hstart
  | next earlier now ih => exact hstep _ _ _ _ earlier ih now

/-- A run by steps of one kind is a run by steps of another kind that they are. -/
theorem Run.mono {step' : List ε→σ→ε→σ→Prop}
    (h : ∀ log before event after,step log before event after → step' log before event after)
    {log : List ε} {state : σ} (run : Run step init log state) : Run step' init log state := by
  induction run with
  | start => exact .start
  | next earlier now ih => exact ih.next (h _ _ _ _ now)

/-- Where steps do not depend on the events so far, a run may follow a run. -/
theorem Run.follow (hstep : ∀ log log' before event after,step log before event after →
      step log' before event after)
    {middle state : σ} {log later : List ε} (run : Run step init log middle)
    (run' : Run step middle later state) : Run step init (log++later) state := by
  induction run' with
  | start =>
    rw [List.append_nil]
    exact run
  | next earlier now ih =>
    rw [←List.append_assoc]
    exact ih.next (hstep _ _ _ _ _ now)

/-- Each event of a run was a step after a run of the events before it. -/
theorem Run.at {log : List ε} {state : σ} (run : Run step init log state) {i : ℕ} {event : ε}
    (h : log[i]?=some event) :
    ∃ before after,Run step init (log.take i) before ∧ step (log.take i) before event after ∧
      Run step init (log.take (i+1)) after := by
  induction run with
  | start => cases h
  | @next log before after last earlier now ih =>
    by_cases hi : i<log.length
    · rw [List.getElem?_append_left hi] at h
      obtain ⟨b,a,hbefore,hnow,hafter⟩ := ih h
      rw [List.take_append_of_le_length (by omega),List.take_append_of_le_length (by omega)]
      exact ⟨b,a,hbefore,hnow,hafter⟩
    · have hlt := (List.getElem?_eq_some_iff.mp h).1
      rw [List.length_append,List.length_singleton] at hlt
      have he : i=log.length := by omega
      subst he
      rw [List.getElem?_concat_length] at h
      obtain rfl := Option.some.inj h
      have hall : (log++[last]).take (log.length+1)=log++[last] :=
        List.take_of_length_le (Nat.le_of_eq List.length_append)
      rw [List.take_left,hall]
      exact ⟨before,after,earlier,now,.next earlier now⟩

/-- A run whose last event is known took its last step at it. -/
theorem Run.last {log : List ε} {event : ε} {state : σ} (run : Run step init (log++[event]) state) :
    ∃ before,Run step init log before ∧ step log before event state := by
  generalize hlog : log++[event]=whole at run
  cases run with
  | start => exact absurd hlog (List.append_ne_nil_of_right_ne_nil _ (List.cons_ne_nil _ _))
  | next earlier now =>
    obtain ⟨rfl,hevent⟩ := List.append_inj' hlog rfl
    obtain rfl := List.singleton_inj.mp hevent
    exact ⟨_,earlier,now⟩

/-- Where each step determines the next state, the events determine the state. -/
theorem Run.functional (hstep : ∀ log before event after after',step log before event after →
      step log before event after' → after=after')
    {log : List ε} {state state' : σ} (run : Run step init log state)
    (run' : Run step init log state') : state=state' := by
  induction run generalizing state' with
  | start =>
    generalize hlog : ([] : List ε)=log' at run'
    cases run' with
    | start => rfl
    | next earlier now => exact absurd hlog (List.append_ne_nil_of_right_ne_nil _ (List.cons_ne_nil _ _)).symm
  | @next log before after event earlier now ih =>
    generalize hlog : log++[event]=log' at run'
    cases run' with
    | start => exact absurd hlog (List.append_ne_nil_of_right_ne_nil _ (List.cons_ne_nil _ _))
    | next earlier' now' =>
      obtain ⟨rfl,hevent⟩ := List.append_inj' hlog rfl
      obtain rfl := List.cons.inj hevent |>.1
      obtain rfl := ih earlier'
      exact hstep _ _ _ _ _ now now'

/-- Events that follow each other by a function which only takes steps make a run. -/
theorem Run.extend {next : σ→ε→Option σ}
    (hnext : ∀ log before event after,next before event=some after → step log before event after)
    {log : List ε} {state state' : σ} (run : Run step init log state) {events : List ε}
    (h : events.foldlM next state=some state') : Run step init (log++events) state' := by
  induction events generalizing log state with
  | nil =>
    obtain rfl := Option.some.inj h
    rw [List.append_nil]
    exact run
  | cons event events ih =>
    obtain ⟨after,hafter,hrest⟩ := Option.bind_eq_some_iff.mp h
    have hrun := ih (run.next (hnext _ _ _ _ hafter)) hrest
    rw [List.append_assoc] at hrun
    exact hrun

/-- The state after the steps of a log, if they are possible and show what it says. -/
def replayed {ω : Type*} [DecidableEq ω] (next : σ→ε→Option (σ×ω)) (state : σ)
    (log : List (ε×ω)) : Option σ :=
  log.foldlM (fun state entry =>
    (next state entry.1).bind fun after => if after.2=entry.2 then some after.1 else none) state

/-- A log that can be replayed is a run. -/
theorem run_of_replayed {ω : Type*} [DecidableEq ω] {next : σ→ε→Option (σ×ω)} {state after : σ}
    {log : List (ε×ω)} (h : replayed next state log=some after) :
    Run (fun _ before entry after => next before entry.1=some (after,entry.2)) state log after := by
  show Run _ state ([]++log) after
  refine Run.extend (fun _ before entry after hstep => ?_) .start h
  obtain ⟨⟨reached,seen⟩,hnext,hcheck⟩ := Option.bind_eq_some_iff.mp hstep
  split at hcheck
  next hseen =>
    obtain rfl := Option.some.inj hcheck
    dsimp only at hseen
    rw [hnext,hseen]
  next => cases hcheck

/-- The first events of a log are those at its first positions. -/
theorem mem_take_iff {log : List ε} {i : ℕ} {event : ε} :
    event∈log.take i ↔ ∃ j,j < i ∧ log[j]?=some event := by
  rw [List.mem_iff_getElem?]
  constructor
  · rintro ⟨j,hj⟩
    have hlt := (List.getElem?_eq_some_iff.mp hj).1
    rw [List.length_take] at hlt
    rw [List.getElem?_take_of_lt (by omega)] at hj
    exact ⟨j,by omega,hj⟩
  · rintro ⟨j,hlt,hj⟩
    exact ⟨j,(List.getElem?_take_of_lt hlt).trans hj⟩

/-- Every step of the runs along a log meets a condition on its event and the state before it. -/
def EveryStep (step : List ε→σ→ε→σ→Prop) (init : σ) (condition : σ→ε→Prop) (log : List ε) : Prop :=
  ∀ earlier before event later,log=earlier++event::later → Run step init earlier before →
    condition before event

/-- A condition on every step is one on the steps before the last, and on the last. -/
theorem everyStep_concat {condition : σ→ε→Prop} {log : List ε} {event : ε} :
    EveryStep step init condition (log++[event]) ↔ EveryStep step init condition log ∧
      ∀ before,Run step init log before → condition before event := by
  constructor
  · intro h
    refine ⟨fun earlier before found later hlog run => ?_,fun before run => h log before event [] rfl run⟩
    exact h earlier before found (later++[event]) (by simp [hlog]) run
  · rintro ⟨hbefore,hlast⟩ earlier before found later hlog run
    rcases List.eq_nil_or_concat later with rfl|⟨rest,last,rfl⟩
    · obtain ⟨rfl,hevent⟩ := List.append_inj' hlog rfl
      obtain rfl := (List.cons.inj hevent).1
      exact hlast before run
    · rw [List.concat_eq_append,←List.cons_append,←List.append_assoc] at hlog
      exact hbefore earlier before found rest (List.append_inj' hlog rfl).1 run

/-- A condition on every step is one on the steps of every first part of the log. -/
theorem EveryStep.of_append {condition : σ→ε→Prop} {log later : List ε}
    (h : EveryStep step init condition (log++later)) : EveryStep step init condition log := by
  intro earlier before event rest hlog run
  exact h earlier before event (rest++later) (by simp [hlog]) run

/-- What every step draws afresh is drawn at one position only. -/
theorem Run.drawn_once {κ : Type*} {drawn : ε→Option κ}
    (hfresh : ∀ log before event after x,step log before event after → drawn event=some x →
      x∉log.filterMap drawn)
    {log : List ε} {state : σ} (run : Run step init log state) {i j : ℕ} {a b : ε} {x : κ}
    (hi : log[i]?=some a) (hj : log[j]?=some b) (ha : drawn a=some x) (hb : drawn b=some x) :
    i=j := by
  have hbefore : ∀ {i j : ℕ} {a b : ε},log[i]?=some a → log[j]?=some b → drawn a=some x →
      drawn b=some x → ¬i<j := by
    intro i j a b hi hj ha hb hlt
    obtain ⟨before,after,_,hstep,_⟩ := run.at hj
    have hmem : a∈log.take j := mem_take_iff.mpr ⟨i,hlt,hi⟩
    exact hfresh _ _ _ _ _ hstep hb (List.mem_filterMap.mpr ⟨a,hmem,ha⟩)
  have hleft := hbefore hi hj ha hb
  have hright := hbefore hj hi hb ha
  omega

end WispersConnect.Runs
