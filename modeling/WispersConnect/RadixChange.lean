import Mathlib.Data.Nat.Digits.Lemmas

/-!
# One number in two radices

Digits stand with the most significant first. Digits of one radix recode digits of
another when both stand for the same number. Zeros in front change nothing, and at
a given number of digits each side determines the other.
-/

namespace WispersConnect.RadixChange

/-- The number that digits stand for. -/
def value (radix : ℕ) (digits : List ℕ) : ℕ := digits.foldl (fun acc d => acc*radix+d) 0

/-- Digits of two radices that stand for the same number. -/
structure Recodes (a b : ℕ) (s t : List ℕ) : Prop where
  /-- The first are digits. -/
  left_lt : ∀ d∈s,d<a
  /-- The second are digits. -/
  right_lt : ∀ d∈t,d<b
  /-- Their number is the same. -/
  same : value a s=value b t

section Values

/-- Mathlib's digits stand with the least significant first. -/
theorem value_eq_ofDigits (radix : ℕ) (digits : List ℕ) :
    value radix digits=Nat.ofDigits radix digits.reverse := by
  rw [Nat.ofDigits_eq_foldr,List.foldr_reverse]
  refine congrArg (fun f => digits.foldl f 0) ?_
  funext acc d
  simp only [Nat.cast_id]
  ring

/-- Zeros in front change nothing. -/
@[simp] theorem value_replicate_zero_append (radix count : ℕ) (digits : List ℕ) :
    value radix (List.replicate count 0++digits)=value radix digits := by
  rw [value_eq_ofDigits,value_eq_ofDigits,List.reverse_append,List.reverse_replicate,
    Nat.ofDigits_append_replicate_zero]

/-- A number is less than the power that its digits can write. -/
theorem value_lt {radix : ℕ} (hradix : 1<radix) {digits : List ℕ} (h : ∀ d∈digits,d<radix) :
    value radix digits<radix^digits.length := by
  rw [value_eq_ofDigits,←List.length_reverse]
  exact Nat.ofDigits_lt_base_pow_length hradix fun d hd => h d (List.mem_reverse.mp hd)

/-- As many digits with the same number are the same. -/
theorem value_inj {radix : ℕ} (hradix : 1<radix) {s t : List ℕ} (hlength : s.length=t.length)
    (hs : ∀ d∈s,d<radix) (ht : ∀ d∈t,d<radix) (h : value radix s=value radix t) : s=t := by
  rw [value_eq_ofDigits,value_eq_ofDigits] at h
  refine List.reverse_injective (Nat.ofDigits_inj_of_len_eq hradix ?_ ?_ ?_ h)
  · simpa only [List.length_reverse] using hlength
  · exact fun d hd => hs d (List.mem_reverse.mp hd)
  · exact fun d hd => ht d (List.mem_reverse.mp hd)

end Values

section Recoding

variable {a b : ℕ} {s t u : List ℕ}

/-- Recoding goes both ways. -/
theorem Recodes.symm (h : Recodes a b s t) : Recodes b a t s :=
  ⟨h.right_lt,h.left_lt,h.same.symm⟩

/-- At a given width there is one recoding. -/
theorem Recodes.right_unique (hb : 1<b) (h : Recodes a b s t) (h' : Recodes a b s u)
    (hlength : t.length=u.length) : t=u :=
  value_inj hb hlength h.right_lt h'.right_lt (h.same.symm.trans h'.same)

/-- At a given width there is one that is recoded. -/
theorem Recodes.left_unique (ha : 1<a) (h : Recodes a b s u) (h' : Recodes a b t u)
    (hlength : s.length=t.length) : s=t :=
  h.symm.right_unique ha h'.symm hlength

end Recoding

end WispersConnect.RadixChange
