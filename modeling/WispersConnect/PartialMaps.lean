import Mathlib.Logic.Function.Basic
import Mathlib.Tactic.Common

/-!
# Partial maps

A partial map is a function to optional values. What is found in it after one key was
set or removed is what was set, or what was found before under another key.
-/

namespace WispersConnect.PartialMaps

variable {κ : Type*} {α : Type*} [DecidableEq κ] {map : κ→Option α} {key other : κ} {value found : α}

/-- What is found once a key was set. -/
theorem update_some_eq_some : Function.update map key (some value) other=some found ↔
    (other=key ∧ found=value) ∨ (other≠key ∧ map other=some found) := by
  by_cases heq : other=key
  · subst heq
    rw [Function.update_self]
    constructor
    · exact fun h => .inl ⟨rfl,(Option.some.inj h).symm⟩
    · rintro (⟨_,rfl⟩|⟨hne,_⟩)
      · rfl
      · exact absurd rfl hne
  · rw [Function.update_of_ne heq]
    constructor
    · exact fun h => .inr ⟨heq,h⟩
    · rintro (⟨hsame,_⟩|⟨_,h⟩)
      · exact absurd hsame heq
      · exact h

/-- What is found once a key was removed. -/
theorem update_none_eq_some : Function.update map key none other=some found ↔
    other≠key ∧ map other=some found := by
  by_cases heq : other=key
  · subst heq
    rw [Function.update_self]
    constructor
    · exact fun h => by cases h
    · exact fun h => absurd rfl h.1
  · rw [Function.update_of_ne heq]
    constructor
    · exact fun h => ⟨heq,h⟩
    · exact fun h => h.2

end WispersConnect.PartialMaps
