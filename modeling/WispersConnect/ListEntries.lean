import Mathlib.Data.List.Basic

/-!
# Entries of lists

What is found at an index of a list after an entry was set, changed or added, what comes
before or after a point of a list, and how many entries count.
-/

namespace WispersConnect.ListEntries

variable {α : Type*}

/-- An entry that was set and then changed. -/
theorem modify_set {entries : List α} {number : ℕ} {new : α} {f : α→α} :
    (entries.set number new).modify number f=entries.set number (f new) := by
  induction entries generalizing number with
  | nil => rw [List.set_nil,List.set_nil,List.modify_nil]
  | cons entry entries ih =>
    cases number with
    | zero => rfl
    | succ number => rw [List.set_cons_succ,List.set_cons_succ,List.modify_succ_cons,ih]

/-- What is found in a list after an entry was set. -/
theorem getElem?_set_iff {entries : List α} {number n : ℕ} {old new found : α}
    (h : entries[number]?=some old) : (entries.set number new)[n]?=some found ↔
      (n=number ∧ found=new) ∨ (n≠number ∧ entries[n]?=some found) := by
  have hlt := (List.getElem?_eq_some_iff.mp h).1
  by_cases hn : n=number
  · subst hn
    rw [List.getElem?_set_self hlt]
    constructor
    · exact fun h => .inl ⟨rfl,(Option.some.inj h).symm⟩
    · rintro (⟨_,rfl⟩|⟨hne,_⟩)
      · rfl
      · exact absurd rfl hne
  · rw [List.getElem?_set_ne (Ne.symm hn)]
    constructor
    · exact fun h => .inr ⟨hn,h⟩
    · rintro (⟨heq,_⟩|⟨_,h⟩)
      · exact absurd heq hn
      · exact h

/-- What is found in a list after an entry was added. -/
theorem getElem?_concat_iff {entries : List α} {n : ℕ} {new found : α} :
    (entries++[new])[n]?=some found ↔
      entries[n]?=some found ∨ (n=entries.length ∧ found=new) := by
  rcases Nat.lt_trichotomy n entries.length with hlt|rfl|hgt
  · rw [List.getElem?_append_left hlt]
    constructor
    · exact .inl
    · rintro (h|⟨rfl,_⟩)
      · exact h
      · exact absurd hlt (Nat.lt_irrefl _)
  · rw [List.getElem?_concat_length]
    constructor
    · exact fun h => .inr ⟨rfl,(Option.some.inj h).symm⟩
    · rintro (h|⟨_,rfl⟩)
      · exact absurd (List.getElem?_eq_some_iff.mp h).1 (Nat.lt_irrefl _)
      · rfl
  · constructor
    · intro h
      have hlen := (List.getElem?_eq_some_iff.mp h).1
      rw [List.length_append,List.length_singleton] at hlen
      omega
    · rintro (h|⟨rfl,_⟩)
      · exact absurd (List.getElem?_eq_some_iff.mp h).1 (Nat.lt_asymm hgt)
      · exact absurd hgt (Nat.lt_irrefl _)

/-- What comes before a point in a list is there when the list is longer. -/
theorem takeWhile_sublist_append {p : α→Bool} (entries more : List α) :
    (entries.takeWhile p).Sublist ((entries++more).takeWhile p) := by
  induction entries with
  | nil => exact List.nil_sublist _
  | cons entry entries ih =>
    rw [List.cons_append,List.takeWhile_cons,List.takeWhile_cons]
    split
    · exact ih.cons_cons entry
    · exact List.nil_sublist _

/-- What comes after a point in a list is there when the list is longer. -/
theorem tail_dropWhile_sublist_append {p : α→Bool} (entries more : List α) :
    (entries.dropWhile p).tail.Sublist ((entries++more).dropWhile p).tail := by
  induction entries with
  | nil => exact List.nil_sublist _
  | cons entry entries ih =>
    rw [List.cons_append,List.dropWhile_cons,List.dropWhile_cons]
    split
    · exact ih
    · exact List.sublist_append_left _ _

/-- What comes before a point in a list, where some entries but not that point are left out. -/
theorem takeWhile_filter_kept {p kept : α→Bool} (h : ∀ entry,p entry=false → kept entry=true)
    (entries : List α) : (entries.filter kept).takeWhile p=(entries.takeWhile p).filter kept := by
  induction entries with
  | nil => rfl
  | cons entry entries ih =>
    cases hp : p entry with
    | true =>
      rw [List.takeWhile_cons_of_pos hp]
      cases hk : kept entry with
      | true =>
        rw [List.filter_cons_of_pos hk,List.filter_cons_of_pos hk,List.takeWhile_cons_of_pos hp,ih]
      | false =>
        have hnot := Bool.eq_false_iff.mp hk
        rw [List.filter_cons_of_neg hnot,List.filter_cons_of_neg hnot,ih]
    | false =>
      have hnot := Bool.eq_false_iff.mp hp
      rw [List.takeWhile_cons_of_neg hnot,List.filter_cons_of_pos (h entry hp),
        List.takeWhile_cons_of_neg hnot,List.filter_nil]

/-- One entry that counts no longer. -/
theorem countP_one_less {f g : α→Bool} {entries : List α} {entry : α} (hdistinct : entries.Nodup)
    (hmem : entry∈entries) (hf : f entry=true) (hg : g entry=false)
    (hsame : ∀ other∈entries,other≠entry → g other=f other) :
    entries.countP f=entries.countP g+1 := by
  induction entries with
  | nil => cases hmem
  | cons first entries ih =>
    obtain ⟨hfirst,hrest⟩ := List.nodup_cons.mp hdistinct
    rw [List.countP_cons,List.countP_cons]
    rcases List.mem_cons.mp hmem with rfl|hmem
    · have hcount : entries.countP f=entries.countP g := List.countP_congr fun other hother => by
        rw [hsame other (List.mem_cons_of_mem _ hother) fun h => hfirst (h ▸ hother)]
      rw [hf,hg,hcount,if_pos rfl,if_neg Bool.false_ne_true,Nat.add_zero]
    · have hne : first≠entry := fun h => hfirst (h ▸ hmem)
      rw [ih hrest hmem fun other hother => hsame other (List.mem_cons_of_mem _ hother),
        hsame first List.mem_cons_self hne]
      omega

end WispersConnect.ListEntries
