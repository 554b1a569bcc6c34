import WispersConnect.ServingRuns
import Mathlib.Algebra.BigOperators.Group.Finset.Basic
import Mathlib.Algebra.Order.BigOperators.Group.List

/-!
# The delays between attempts to connect

Over whole runs of a serving session: after each failed attempt of an outage the session
waits twice as long as before, up to the cap, give or take a fifth, whatever commands it
answers meanwhile. The next outage starts over. So the attempts of an outage are bounded
by the time spent waiting.
-/

namespace WispersConnect.ReconnectDelays

open NodeLifecycle ServingLoop ServingRuns Runs

/-- A base that doubles, up to a cap. -/
def doubled (base cap k : ℕ) : ℕ := min (base*2^k) cap

/-- Each delay is twice the one before, up to the cap. -/
theorem doubled_succ (base cap k : ℕ) : doubled base cap (k+1)=min (doubled base cap k*2) cap := by
  unfold doubled
  rw [pow_succ,←Nat.mul_assoc]
  omega

/-- Every delay is at most the cap. -/
theorem doubled_le (base cap k : ℕ) : doubled base cap k ≤ cap := Nat.min_le_right _ _

/-- After enough doublings every delay is the cap. -/
theorem doubled_eq {base cap m k : ℕ} (h : cap≤base*2^m) (hk : m≤k) : doubled base cap k=cap :=
  Nat.min_eq_right (h.trans (Nat.mul_le_mul_left base (Nat.pow_le_pow_right (by decide) hk)))

/-- The waits of the outage under way after an event, by those before it. -/
def waitsAfter (waits : List ℕ) : LoopEvent→List ℕ
  | .attempted (.error _) wait => waits++[wait]
  | .attempted (.ok ()) _ => []
  | .streamEnded => []
  | .streamFailed _ _ => []
  | _ => waits

/-- The waits of the outage under way: one for each attempt of it that failed. -/
def outageWaits (log : List LoopEntry) : List ℕ := (log.map Prod.fst).foldl waitsAfter []

/-- The waits are those of doubled delays, give or take a fifth. -/
def Doubling (waits : List ℕ) : Prop :=
  ∀ k wait,waits[k]?=some wait →
    (ReconnectBackoff.mk (doubled backoffBase backoffCap k)).Allows wait

/-- One wait more. -/
theorem Doubling.append {waits : List ℕ} {wait : ℕ} (h : Doubling waits)
    (hallowed : (ReconnectBackoff.mk (doubled backoffBase backoffCap waits.length)).Allows wait) :
    Doubling (waits++[wait]) := by
  intro k found hk
  obtain ⟨hlt,hget⟩ := List.getElem?_eq_some_iff.mp hk
  rw [List.length_append,List.length_singleton] at hlt
  by_cases hold : k<waits.length
  · rw [List.getElem?_append_left hold] at hk
    exact h k found hk
  · obtain rfl : k=waits.length := by omega
    rw [List.getElem?_concat_length] at hk
    exact Option.some.inj hk ▸ hallowed

/-- No wait is longer than the cap and a fifth. -/
theorem Doubling.le {waits : List ℕ} (h : Doubling waits) {wait : ℕ} (hwait : wait∈waits) :
    10*wait≤12*backoffCap := by
  obtain ⟨k,hk⟩ := List.mem_iff_getElem?.mp hwait
  have hallowed := (h k wait hk).2
  have hcap := doubled_le backoffBase backoffCap k
  dsimp only at hallowed
  omega

/-- From the sixth on, waits are at least the cap less a fifth. -/
theorem Doubling.sum {waits : List ℕ} (h : Doubling waits) :
    8*backoffCap*(waits.length-5)≤10*waits.sum := by
  induction waits using List.reverseRecOn with
  | nil => exact Nat.zero_le _
  | append_singleton waits wait ih =>
    have hrest : Doubling waits := fun k found hk => h k found <| by
      rw [List.getElem?_append_left (List.getElem?_eq_some_iff.mp hk).1]
      exact hk
    have hlast := (h waits.length wait List.getElem?_concat_length).1
    have hfront := ih hrest
    rw [List.length_append,List.length_singleton,List.sum_append,List.sum_singleton]
    by_cases hfew : waits.length<5
    · have hzero : waits.length+1-5=0 := by omega
      rw [hzero]
      omega
    · have hcap : doubled backoffBase backoffCap waits.length=backoffCap :=
        doubled_eq (m := 5) (by decide) (by omega)
      have hone : waits.length+1-5=(waits.length-5)+1 := by omega
      dsimp only at hlast
      rw [hcap] at hlast
      rw [hone,Nat.mul_add,Nat.mul_one]
      omega

/-- How long the loop would wait next, while there is an outage. -/
def nextDelay : Phase→Option ℕ
  | .connecting backoff => some backoff.current
  | .waiting backoff => some backoff.current
  | _ => none

variable {C : PeerSigning.PeerCrypto}

/-- A turn keeps the next delay that of the waits so far, and waits accordingly. -/
theorem Turn.delays {before after : ServingState C} {event : LoopEvent} {outputs : List Output}
    (h : Turn before event after outputs) {waits : List ℕ} (hwaits : Doubling waits)
    (hdelay : ∀ delay,nextDelay before.phase=some delay →
      delay=doubled backoffBase backoffCap waits.length) :
    (after.phase.Running → Doubling (waitsAfter waits event)) ∧
      ∀ delay,nextDelay after.phase=some delay →
        delay=doubled backoffBase backoffCap (waitsAfter waits event).length := by
  have hstart : ∀ delay,nextDelay (.connecting .new)=some delay →
      delay=doubled backoffBase backoffCap 0 := by
    intro delay hsome
    rw [←Option.some.inj hsome]
    rfl
  have hnone : Doubling [] := fun k wait hk => by cases hk
  cases h with
  | status => exact ⟨fun _ => hwaits,hdelay⟩
  | activationCode => exact ⟨fun _ => hwaits,hdelay⟩
  | shutdown => exact ⟨fun _ => hwaits,fun _ hno => by cases hno⟩
  | commandsClosed => exact ⟨fun _ => hwaits,fun _ hno => by cases hno⟩
  | checkIn => exact ⟨fun _ => hwaits,hdelay⟩
  | handled => exact ⟨fun _ => hwaits,fun _ hno => by cases hno⟩
  | panicked => exact ⟨fun _ => hwaits,fun _ hno => by cases hno⟩
  | streamEnded => exact ⟨fun _ => hnone,hstart⟩
  | streamFailed => exact ⟨fun _ => hnone,hstart⟩
  | rejected => exact ⟨fun _ => hnone,fun _ hno => by cases hno⟩
  | connected => exact ⟨fun _ => hnone,fun _ hno => by cases hno⟩
  | attemptRejected => exact ⟨fun hrunning => absurd hrunning id,fun _ hno => by cases hno⟩
  | @attemptFailed backoff error wait connecting retried allowed =>
    have hcurrent := hdelay backoff.current (by rw [connecting]; rfl)
    refine ⟨fun _ => hwaits.append (hcurrent ▸ allowed),?_⟩
    intro delay hsome
    rw [←Option.some.inj hsome,waitsAfter,List.length_append,List.length_singleton,doubled_succ,
      ←hcurrent]
    rfl
  | @slept backoff waiting =>
    refine ⟨fun _ => hwaits,fun delay hsome => hdelay delay ?_⟩
    rw [waiting]
    exact hsome

/-- In every run, whatever is answered meanwhile, the waits of an outage double from a second
up to half a minute, give or take a fifth. None is longer than 36 seconds, and an outage
waited through for some time saw at most five failed attempts, and one for every 24 seconds. -/
theorem waits_double (session : ServingSession C) (log : List LoopEntry) (state : ServingState C)
    (run : LoopRun session log state) (hrunning : state.phase.Running) :
    Doubling (outageWaits log) ∧ (∀ wait∈outageWaits log,wait≤36*10^9) ∧
      24*10^9*((outageWaits log).length-5)≤(outageWaits log).sum := by
  have hall : state.phase.Running → Doubling (outageWaits log) ∧
      ∀ delay,nextDelay state.phase=some delay →
        delay=doubled backoffBase backoffCap (outageWaits log).length := by
    refine LoopRun.invariant (motive:=fun log state => state.phase.Running →
      Doubling (outageWaits log) ∧ ∀ delay,nextDelay state.phase=some delay →
        delay=doubled backoffBase backoffCap (outageWaits log).length) ?_ ?_ run
    · exact fun _ => ⟨(fun k wait hk => by cases hk),fun delay hno => by cases hno⟩
    · intro log before event after outputs _ ih hturn hafter
      obtain ⟨hwaits,hdelay⟩ := ih (hturn.running hafter)
      have hnext : outageWaits (log++[(event,outputs)])=waitsAfter (outageWaits log) event := by
        unfold outageWaits
        rw [List.map_append,List.foldl_append]
        rfl
      rw [hnext]
      obtain ⟨hdoubling,hcurrent⟩ := Turn.delays hturn hwaits hdelay
      exact ⟨hdoubling hafter,hcurrent⟩
  obtain ⟨hwaits,-⟩ := hall hrunning
  have hcap : backoffCap=30*10^9 := rfl
  refine ⟨hwaits,?_,?_⟩
  · intro wait hwait
    have hle := hwaits.le hwait
    omega
  · have hsum := hwaits.sum
    rw [hcap] at hsum
    omega

/-- An outage in which four attempts fail. -/
def failingLog : List LoopEntry :=
  [(.streamEnded,[]),
    (.attempted (.error (.rpc .unavailable "down")) (9*10^8),[]),
    (.slept,[]),
    (.attempted (.error (.rpc .unavailable "down")) (2*10^9),[]),
    (.slept,[]),
    (.attempted (.error (.rpc .unavailable "down")) (44*10^8),[]),
    (.slept,[]),
    (.attempted (.error (.rpc .unavailable "down")) (8*10^9),[])]

/-- The waits after these attempts double, give or take a fifth. -/
theorem waits_double_failing : outageWaits failingLog=[9*10^8,2*10^9,44*10^8,8*10^9] ∧
    Doubling (outageWaits failingLog) ∧ (∀ wait∈outageWaits failingLog,wait≤36*10^9) ∧
    24*10^9*((outageWaits failingLog).length-5)≤(outageWaits failingLog).sum := by
  have hwaiting : (replayed ServingState.turn (.start secondServing) failingLog).map
      ServingState.phase=some (.waiting ⟨16*10^9⟩) := by decide +kernel
  obtain ⟨state,hreplay,hphase⟩ := Option.map_eq_some_iff.mp hwaiting
  have hrunning : state.phase.Running := by
    rw [hphase]
    trivial
  exact ⟨rfl,waits_double secondServing failingLog state (run_of_replayed hreplay) hrunning⟩

end WispersConnect.ReconnectDelays
