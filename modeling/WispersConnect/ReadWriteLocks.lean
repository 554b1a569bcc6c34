import Mathlib.Data.List.Basic
import Mathlib.Data.List.Nodup

/-!
# Read-write locks

A lock is held by one writer or by any number of readers. It is given to the parties in the
order in which they asked for it, so that a reader waits behind a writer who waits. Whoever
is first among those that hold it or wait for it can always go on.
-/

namespace WispersConnect.ReadWriteLocks

variable {α : Type*}

/-- What a lock is asked for. -/
inductive Access where
  /-- With other readers. -/
  | read
  /-- Alone. -/
  | write
  deriving DecidableEq

/-- A lock. -/
structure Lock (α : Type*) where
  /-- Those who hold it, in the order in which they got it. -/
  holders : List (α×Access)
  /-- Those who wait for it, in the order in which they asked. -/
  queue : List (α×Access)
  deriving DecidableEq

namespace Lock

/-- Nobody has asked for it. -/
def free : Lock α := ⟨[],[]⟩

/-- Somebody asks for it. -/
def ask (lock : Lock α) (party : α) (access : Access) : Lock α :=
  {lock with queue := lock.queue++[(party,access)]}

/-- Somebody could get it, too. -/
def admits (lock : Lock α) : Access→Bool
  | .read => lock.holders.all fun holder => holder.2=.read
  | .write => lock.holders.isEmpty

/-- Whoever has waited longest gets it. -/
def grant (lock : Lock α) : Option (Lock α) :=
  match lock.queue with
  | [] => none
  | (party,access)::rest =>
    if lock.admits access then some ⟨lock.holders++[(party,access)],rest⟩ else none

/-- Somebody lets it go. -/
def release [DecidableEq α] (lock : Lock α) (party : α) : Lock α :=
  {lock with holders := lock.holders.filter fun holder => holder.1≠party}

/-- Those who hold it or wait for it, in the order in which they asked. -/
def entries (lock : Lock α) : List (α×Access) := lock.holders++lock.queue

/-- Those who hold it or wait for it, without what they ask for. -/
def line (lock : Lock α) : List α := lock.entries.map Prod.fst

end Lock

/-- Nobody is in line twice, and a writer is alone. -/
structure Fair (lock : Lock α) : Prop where
  /-- Nobody is in line twice. -/
  distinct : lock.line.Nodup
  /-- A writer who holds it is the only one. -/
  alone : ∀ {party},(party,Access.write)∈lock.holders → lock.holders=[(party,.write)]

variable {lock after : Lock α} {party other : α} {access : Access}

/-- Nobody is in line for a free lock. -/
theorem Fair.free : Fair (Lock.free : Lock α) where
  distinct := List.nodup_nil
  alone h := by cases h

/-- Whoever asks comes last. -/
theorem entries_ask : (lock.ask party access).entries=lock.entries++[(party,access)] :=
  (List.append_assoc _ _ _).symm

/-- Whoever asks is last in line. -/
theorem line_ask : (lock.ask party access).line=lock.line++[party] := by
  simp only [Lock.line,entries_ask,List.map_append,List.map_cons,List.map_nil]

/-- Asking is fair to those in line. -/
theorem Fair.ask (fair : Fair lock) (hnew : party∉lock.line) : Fair (lock.ask party access) where
  distinct := by
    rw [line_ask]
    exact List.nodup_append.mpr ⟨fair.distinct,List.nodup_singleton _,fun a ha b hb => by
      rw [List.mem_singleton] at hb
      exact fun h => hnew ((h.trans hb) ▸ ha)⟩
  alone h := fair.alone h

/-- What it means that somebody gets it. -/
theorem grant_cases (h : lock.grant=some after) :
    ∃ party access rest,lock.queue=(party,access)::rest ∧ lock.admits access=true ∧
      after=⟨lock.holders++[(party,access)],rest⟩ := by
  unfold Lock.grant at h
  split at h
  next => cases h
  next party access rest hqueue =>
    split at h
    next hadmits => exact ⟨party,access,rest,hqueue,hadmits,(Option.some.inj h).symm⟩
    next => cases h

/-- All stay in place when somebody gets it. -/
theorem entries_grant (h : lock.grant=some after) : after.entries=lock.entries := by
  obtain ⟨party,access,rest,hqueue,_,rfl⟩ := grant_cases h
  simp only [Lock.entries,hqueue,List.append_assoc,List.singleton_append]

/-- The line stays as it is when somebody gets it. -/
theorem line_grant (h : lock.grant=some after) : after.line=lock.line :=
  congrArg (List.map Prod.fst) (entries_grant h)

/-- Those who hold it go on to hold it when somebody gets it. -/
theorem holders_grant (h : lock.grant=some after) {entry : α×Access}
    (hmem : entry∈lock.holders) : entry∈after.holders := by
  obtain ⟨party,access,rest,_,_,rfl⟩ := grant_cases h
  exact List.mem_append_left _ hmem

/-- One waits less when somebody gets it. -/
theorem queue_length_grant (h : lock.grant=some after) :
    after.queue.length+1=lock.queue.length := by
  obtain ⟨party,access,rest,hqueue,_,rfl⟩ := grant_cases h
  rw [hqueue,List.length_cons]

/-- Getting it is fair. -/
theorem Fair.grant (fair : Fair lock) (h : lock.grant=some after) : Fair after where
  distinct := line_grant h ▸ fair.distinct
  alone {p} hp := by
    obtain ⟨party,access,rest,hqueue,hadmits,rfl⟩ := grant_cases h
    rcases List.mem_append.mp hp with hp|hp
    · have halone := fair.alone hp
      cases access with
      | read =>
        simp only [Lock.admits,halone,List.all_cons,List.all_nil,Bool.and_true,
          decide_eq_true_eq] at hadmits
        cases hadmits
      | write =>
        simp only [Lock.admits,halone,List.isEmpty_cons] at hadmits
        cases hadmits
    · obtain ⟨rfl,rfl⟩ := Prod.mk.inj (List.mem_singleton.mp hp)
      have hempty := List.isEmpty_iff.mp hadmits
      simp only [hempty,List.nil_append]

/-- Who holds it is in line. -/
theorem mem_line_of_holds (h : (party,access)∈lock.holders) : party∈lock.line :=
  List.mem_map.mpr ⟨_,List.mem_append_left _ h,rfl⟩

/-- Who asks gets in line, and nobody else does. -/
theorem mem_line_ask : other∈(lock.ask party access).line ↔ other∈lock.line ∨ other=party := by
  rw [line_ask,List.mem_append,List.mem_singleton]

/-- Who holds it does not wait for it. -/
theorem Fair.not_waits (fair : Fair lock) (h : (party,access)∈lock.holders) {access' : Access} :
    (party,access')∉lock.queue := by
  intro h'
  have hdistinct := fair.distinct
  rw [Lock.line,Lock.entries,List.map_append,List.nodup_append] at hdistinct
  exact hdistinct.2.2 party (List.mem_map.mpr ⟨_,h,rfl⟩) party (List.mem_map.mpr ⟨_,h',rfl⟩) rfl

section Releases

variable [DecidableEq α]

/-- Who lets it go leaves the line. -/
theorem Fair.line_release (fair : Fair lock) (h : (party,access)∈lock.holders) :
    (lock.release party).line=lock.line.filter fun other => other≠party := by
  have hqueue : (lock.queue.map Prod.fst).filter (fun other => other≠party)=
      lock.queue.map Prod.fst := by
    refine List.filter_eq_self.mpr fun other hother => decide_eq_true ?_
    rintro rfl
    obtain ⟨⟨_,access'⟩,hmem,rfl⟩ := List.mem_map.mp hother
    exact fair.not_waits h hmem
  simp only [Lock.line,Lock.entries,Lock.release,List.map_append,List.filter_append,hqueue]
  rw [List.filter_map]
  rfl

/-- Where the first in line lets it go, the others stay. -/
theorem Fair.line_release_first (fair : Fair lock) (h : (party,access)∈lock.holders)
    {rest : List α} (hline : lock.line=party::rest) : (lock.release party).line=rest := by
  have hout := (List.nodup_cons.mp (hline ▸ fair.distinct)).1
  rw [fair.line_release h,hline,List.filter_cons_of_neg (by
    simp only [ne_eq,not_true_eq_false,decide_false,Bool.false_eq_true,not_false_eq_true])]
  exact List.filter_eq_self.mpr fun other hother => decide_eq_true fun heq => hout (heq ▸ hother)

/-- Who lets it go leaves the line, and nobody else does. -/
theorem Fair.mem_line_release (fair : Fair lock) (h : (party,access)∈lock.holders) :
    other∈(lock.release party).line ↔ other∈lock.line ∧ other≠party := by
  rw [fair.line_release h,List.mem_filter,decide_eq_true_eq]

/-- Others hold on. -/
theorem mem_release {entry : α×Access} :
    entry∈(lock.release party).holders ↔ entry∈lock.holders ∧ entry.1≠party := by
  simp only [Lock.release,List.mem_filter,decide_eq_true_eq]

/-- Nobody comes by it when it is let go. -/
theorem mem_of_mem_release {entry : α×Access} (h : entry∈(lock.release party).entries) :
    entry∈lock.entries := by
  rcases List.mem_append.mp h with h|h
  · exact List.mem_append_left _ (mem_release.mp h).1
  · exact List.mem_append_right _ h

/-- Letting go is fair. -/
theorem Fair.release (fair : Fair lock) : Fair (lock.release party) where
  distinct := by
    refine List.Nodup.sublist ?_ fair.distinct
    exact (List.Sublist.append List.filter_sublist (List.Sublist.refl _)).map _
  alone {p} hp := by
    have hmem := mem_release.mp hp
    have halone := fair.alone hmem.1
    simp only [Lock.release,halone]
    exact List.filter_cons_of_pos (decide_eq_true hmem.2)

end Releases

/-- Whoever is first in line holds it, or can get it now. -/
theorem first_goes {rest : List α} (h : lock.line=party::rest) :
    (∃ access,(party,access)∈lock.holders) ∨
      lock.holders=[] ∧ ∃ after access,lock.grant=some after ∧ (party,access)∈after.holders := by
  cases hholders : lock.holders with
  | cons holder holders =>
    obtain ⟨first,access⟩ := holder
    rw [Lock.line,Lock.entries,hholders,List.cons_append,List.map_cons] at h
    obtain ⟨rfl,_⟩ := List.cons.inj h
    exact .inl ⟨access,List.mem_cons_self⟩
  | nil =>
    refine .inr ⟨rfl,?_⟩
    rw [Lock.line,Lock.entries,hholders,List.nil_append] at h
    cases hqueue : lock.queue with
    | nil =>
      rw [hqueue] at h
      cases h
    | cons waiter rest' =>
      obtain ⟨first,access⟩ := waiter
      rw [hqueue,List.map_cons] at h
      obtain ⟨rfl,_⟩ := List.cons.inj h
      refine ⟨⟨[(first,access)],rest'⟩,access,?_,List.mem_singleton_self _⟩
      have hadmits : lock.admits access=true := by
        cases access <;> simp only [Lock.admits,hholders,List.all_nil,List.isEmpty_nil]
      simp only [Lock.grant,hqueue,hadmits,if_true,hholders,List.nil_append]

/-- Where only readers are in line, one who waits can get it now. -/
theorem grant_of_readers (h : ∀ entry∈lock.entries,entry.2=.read)
    (hqueue : lock.queue≠[]) : ∃ after,lock.grant=some after := by
  cases heq : lock.queue with
  | nil => exact absurd heq hqueue
  | cons waiter rest =>
    obtain ⟨first,access⟩ := waiter
    have hread : access=.read := h (first,access)
      (List.mem_append_right _ (heq ▸ List.mem_cons_self))
    have hadmits : lock.admits .read=true := List.all_eq_true.mpr fun holder hholder =>
      decide_eq_true (h holder (List.mem_append_left _ hholder))
    subst hread
    exact ⟨_,by simp only [Lock.grant,heq,hadmits,if_true]; rfl⟩

end WispersConnect.ReadWriteLocks
