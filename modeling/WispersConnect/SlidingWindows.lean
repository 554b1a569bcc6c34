import Mathlib.Data.List.DropRight
import Mathlib.Order.Basic

/-!
# Windows of recent samples

A window keeps timed samples: a new one drives out those that are stale by then, and
the oldest one if the window is full. Where the times never go back, the window is the
last samples that are fresh. In any order of the times it lies between the last of
those samples that no later one found stale, and all of them.
-/

namespace WispersConnect.SlidingWindows

variable {τ α : Type*}

/-- A sample that is fresh stays so when looked at earlier, and so does a younger one. -/
structure Ageing [Preorder τ] (fresh : τ→τ→Bool) : Prop where
  /-- A sample is fresh when it is taken. -/
  now : ∀ t,fresh t t=true
  /-- What is fresh later is fresh earlier. -/
  earlier : ∀ {t t' taken},t≤t' → fresh t' taken=true → fresh t taken=true
  /-- What is taken later is fresh longer. -/
  younger : ∀ {t taken taken'},taken≤taken' → fresh t taken=true → fresh t taken'=true

section Definitions

variable (fresh : τ→τ→Bool) (n : ℕ)

/-- The samples that are fresh at a time. -/
def freshAt (t : τ) (samples : List (τ×α)) : List (τ×α) := samples.filter fun s => fresh t s.1

/-- Stale samples leave, and the first of `n`. -/
def makeRoom (t : τ) (window : List (τ×α)) : List (τ×α) :=
  let kept := freshAt fresh t window
  if kept.length=n then kept.tail else kept

/-- A new sample comes in. -/
def push (window : List (τ×α)) (sample : τ×α) : List (τ×α) :=
  makeRoom fresh n sample.1 window++[sample]

/-- The window after a history of samples. -/
def windowOf (history : List (τ×α)) : List (τ×α) := history.foldl (push fresh n) []

/-- The samples that no later one found stale. -/
def lasting (history : List (τ×α)) : List (τ×α) :=
  history.foldl (fun kept sample => freshAt fresh sample.1 kept++[sample]) []

end Definitions

variable {fresh : τ→τ→Bool} {n : ℕ}

section Steps

/-- The window after one sample more. -/
theorem windowOf_concat (history : List (τ×α)) (sample : τ×α) :
    windowOf fresh n (history++[sample])=push fresh n (windowOf fresh n history) sample := by
  simp only [windowOf,List.foldl_append,List.foldl_cons,List.foldl_nil]

/-- What lasts after one sample more. -/
theorem lasting_concat (history : List (τ×α)) (sample : τ×α) :
    lasting fresh (history++[sample])=freshAt fresh sample.1 (lasting fresh history)++[sample] := by
  simp only [lasting,List.foldl_append,List.foldl_cons,List.foldl_nil]

/-- What leaves makes room. -/
theorem makeRoom_sublist (t : τ) (window : List (τ×α)) :
    (makeRoom fresh n t window).Sublist (freshAt fresh t window) := by
  unfold makeRoom
  dsimp only
  split
  next => exact List.tail_sublist _
  next => exact List.Sublist.refl _

/-- There is room for one sample more. -/
theorem length_makeRoom (hn : 0<n) (t : τ) {window : List (τ×α)} (h : window.length≤n) :
    (makeRoom fresh n t window).length<n := by
  have hfilter : (freshAt fresh t window).length≤n := (List.length_filter_le _ _).trans h
  unfold makeRoom
  dsimp only
  split
  next hfull =>
    rw [List.length_tail,hfull]
    omega
  next hnot => omega

/-- A window never holds more than it may. -/
theorem length_windowOf (hn : 0<n) (history : List (τ×α)) :
    (windowOf fresh n history).length≤n := by
  induction history using List.reverseRecOn with
  | nil => exact Nat.zero_le n
  | append_singleton history sample ih =>
    have hroom : (makeRoom fresh n sample.1 (windowOf fresh n history)).length<n :=
      length_makeRoom hn sample.1 ih
    rw [windowOf_concat,push,List.length_append,List.length_singleton]
    omega

end Steps

section AnyOrder

/-- What a window holds has lasted. -/
theorem windowOf_sublist_lasting (history : List (τ×α)) :
    (windowOf fresh n history).Sublist (lasting fresh history) := by
  induction history using List.reverseRecOn with
  | nil => exact List.Sublist.refl _
  | append_singleton history sample ih =>
    rw [windowOf_concat,lasting_concat,push]
    exact ((makeRoom_sublist _ _).trans (ih.filter _)).append (List.Sublist.refl _)

/-- The end of a history lasts at least as long. -/
theorem lasting_suffix {later history : List (τ×α)} (h : later<:+history) :
    lasting fresh later<:+lasting fresh history := by
  obtain ⟨earlier,rfl⟩ := h
  induction later using List.reverseRecOn with
  | nil => exact List.nil_suffix
  | append_singleton later sample ih =>
    rw [←List.append_assoc,lasting_concat,lasting_concat]
    obtain ⟨before,hbefore⟩ := ih
    refine ⟨freshAt fresh sample.1 before,?_⟩
    rw [←hbefore,freshAt,freshAt,freshAt,List.filter_append,List.append_assoc]

/-- Nothing lasts that was not sampled. -/
theorem lasting_sublist (history : List (τ×α)) : (lasting fresh history).Sublist history := by
  induction history using List.reverseRecOn with
  | nil => exact List.Sublist.refl _
  | append_singleton history sample ih =>
    rw [lasting_concat]
    exact (List.filter_sublist.trans ih).append (List.Sublist.refl _)

/-- The last samples of a history are an end of it. -/
theorem rtake_suffix (history : List α) (k : ℕ) : history.rtake k<:+history :=
  List.drop_suffix _ _

/-- Fewer last samples are an end of more. -/
theorem rtake_suffix_rtake (history : List α) {k m : ℕ} (h : k ≤ m) :
    history.rtake k<:+history.rtake m := by
  refine List.suffix_of_suffix_length_le (rtake_suffix history k) (rtake_suffix history m) ?_
  simp only [List.rtake,List.length_drop]
  omega

/-- Of the last samples, those that last are in the window. -/
theorem lasting_rtake_suffix_windowOf (history : List (τ×α)) :
    lasting fresh (history.rtake n)<:+windowOf fresh n history := by
  induction history using List.reverseRecOn with
  | nil =>
    rw [List.rtake_nil]
    exact List.nil_suffix
  | append_singleton history sample ih =>
    obtain rfl|⟨m,rfl⟩ : n=0 ∨ ∃ m,n=m+1 := by cases n <;> simp
    · rw [List.rtake_zero]
      exact List.nil_suffix
    · have hshorter : lasting fresh (history.rtake m)<:+lasting fresh (history.rtake (m+1)) :=
        lasting_suffix (rtake_suffix_rtake history (Nat.le_succ m))
      obtain ⟨before,hbefore⟩ := hshorter.trans ih
      have hkept : freshAt fresh sample.1 (lasting fresh (history.rtake m))<:+
          freshAt fresh sample.1 (windowOf fresh (m+1) history) := by
        refine ⟨freshAt fresh sample.1 before,?_⟩
        rw [←hbefore,freshAt,freshAt,freshAt,List.filter_append]
      have hlength : (freshAt fresh sample.1 (lasting fresh (history.rtake m))).length ≤ m := by
        have hfilter := List.length_filter_le (fun s : τ×α => fresh sample.1 s.1)
          (lasting fresh (history.rtake m))
        have hlasting : (lasting fresh (history.rtake m)).length≤(history.rtake m).length :=
          (lasting_sublist _).length_le
        have hrtake : (history.rtake m).length ≤ m := by
          simp only [List.rtake,List.length_drop]
          omega
        exact hfilter.trans (hlasting.trans hrtake)
      rw [List.rtake_concat_succ,lasting_concat,windowOf_concat,push]
      refine List.suffix_append_self_iff.mpr ?_
      unfold makeRoom
      dsimp only
      split
      next hfull =>
        refine List.suffix_of_suffix_length_le hkept (List.tail_suffix _) ?_
        rw [List.length_tail,hfull]
        exact hlength
      next => exact hkept

end AnyOrder

section Ordered

variable [Preorder τ]

/-- Where freshness goes on along the samples, making room takes the first one away. -/
theorem makeRoom_eq (ageing : Ageing fresh) {samples : List (τ×α)} (hlength : samples.length≤n)
    (hsorted : samples.Pairwise fun s s' => s.1 ≤ s'.1) (t : τ) :
    makeRoom fresh n t samples=
      freshAt fresh t (if samples.length=n then samples.tail else samples) := by
  cases samples with
  | nil =>
    rw [List.tail_nil,ite_self]
    exact List.sublist_nil.mp (makeRoom_sublist t [])
  | cons sample rest =>
    have hlater := (List.pairwise_cons.mp hsorted).1
    by_cases hsample : fresh t sample.1=true
    · have hall : freshAt fresh t (sample::rest)=sample::rest := by
        refine List.filter_eq_self.mpr fun s hs => ?_
        obtain rfl|hs := List.mem_cons.mp hs
        · exact hsample
        · exact ageing.younger (hlater s hs) hsample
      have htail : freshAt fresh t rest=rest := by
        refine List.filter_eq_self.mpr fun s hs => ?_
        exact ageing.younger (hlater s hs) hsample
      unfold makeRoom
      dsimp only
      rw [hall]
      split
      next => exact htail.symm
      next => exact hall.symm
    · have hdrop : freshAt fresh t (sample::rest)=freshAt fresh t rest :=
        List.filter_cons_of_neg hsample
      have hshort : (freshAt fresh t rest).length≠n := by
        have hrest := List.length_filter_le (fun s : τ×α => fresh t s.1) rest
        rw [List.length_cons] at hlength
        unfold freshAt
        omega
      unfold makeRoom
      dsimp only
      rw [hdrop,if_neg hshort]
      split
      next => rfl
      next => exact hdrop.symm

/-- At any time from the last sample on, the window and the last samples have the same
fresh ones. -/
theorem freshAt_windowOf (ageing : Ageing fresh) (hn : 0<n) {history : List (τ×α)}
    (hsorted : history.Pairwise fun s s' => s.1 ≤ s'.1) {t : τ} (ht : ∀ s∈history,s.1≤t) :
    freshAt fresh t (windowOf fresh n history)=freshAt fresh t (history.rtake n) := by
  obtain ⟨m,rfl⟩ := Nat.exists_eq_add_one_of_ne_zero hn.ne'
  induction history using List.reverseRecOn generalizing t with
  | nil => rw [List.rtake_nil,windowOf,List.foldl_nil]
  | append_singleton history sample ih =>
    obtain ⟨hbefore,-,hlast⟩ := List.pairwise_append.mp hsorted
    have hlast : ∀ s∈history,s.1 ≤ sample.1 := fun s hs => hlast s hs sample List.mem_cons_self
    have hsample : sample.1≤t :=
      ht sample (List.mem_append_right history List.mem_cons_self)
    have hroom : makeRoom fresh (m+1) sample.1 (windowOf fresh (m+1) history)=
        makeRoom fresh (m+1) sample.1 (history.rtake (m+1)) := by
      unfold makeRoom
      rw [ih hbefore hlast]
    have hlength : (history.rtake (m+1)).length ≤ m+1 := by
      simp only [List.rtake,List.length_drop]
      omega
    have htail : (if (history.rtake (m+1)).length=m+1 then (history.rtake (m+1)).tail
        else history.rtake (m+1))=history.rtake m := by
      simp only [List.rtake,List.length_drop]
      split
      next hfull =>
        rw [List.tail_drop]
        congr 1
        omega
      next hnot =>
        congr 1
        omega
    rw [List.rtake_concat_succ,windowOf_concat,push,hroom,
      makeRoom_eq ageing hlength (hbefore.sublist (rtake_suffix history (m+1)).sublist) sample.1,
      htail,freshAt,freshAt,freshAt,List.filter_append,List.filter_append,List.filter_filter]
    refine congrArg (·++_) (List.filter_congr fun s _ => ?_)
    cases hs : fresh t s.1 with
    | false => rfl
    | true => rw [ageing.earlier hsample hs,Bool.and_true]

/-- Where the times never go back, the window is the last samples that are fresh at the
last of them. -/
theorem windowOf_eq (ageing : Ageing fresh) (hn : 0<n) {history : List (τ×α)} {sample : τ×α}
    (hsorted : (history++[sample]).Pairwise fun s s' => s.1 ≤ s'.1) :
    windowOf fresh n (history++[sample])=
      freshAt fresh sample.1 ((history++[sample]).rtake n) := by
  have hle : ∀ s∈history++[sample],s.1 ≤ sample.1 := by
    intro s hs
    obtain hs|hs := List.mem_append.mp hs
    · exact (List.pairwise_append.mp hsorted).2.2 s hs sample List.mem_cons_self
    · rw [List.mem_singleton.mp hs]
  have hfresh : freshAt fresh sample.1 (windowOf fresh n (history++[sample]))=
      windowOf fresh n (history++[sample]) := by
    refine List.filter_eq_self.mpr fun s hs => ?_
    have hs' := (windowOf_sublist_lasting (history++[sample])).subset hs
    rw [lasting_concat] at hs'
    obtain hs'|hs' := List.mem_append.mp hs'
    · exact (List.mem_filter.mp hs').2
    · rw [List.mem_singleton.mp hs']
      exact ageing.now sample.1
  rw [←hfresh,freshAt_windowOf ageing hn hsorted hle]

end Ordered

end WispersConnect.SlidingWindows
