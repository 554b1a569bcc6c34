import Mathlib.Tactic.Common

/-!
# Outcomes of fallible code that can also panic

A call returns a value, returns an error, or panics. Sequencing stops at the
first error or panic. Each early-exit primitive has one inversion lemma, so
that a successful run of a whole function unfolds into its local facts, and
panic freedom composes along sequencing.
-/

namespace WispersConnect.OutcomeMonad

/-- Result of one call: its value, its returned error or its panic text. -/
inductive Outcome (ε α : Type) where
  /-- The call returned normally. -/
  | ok (value : α)
  /-- The call returned an error to its caller. -/
  | err (error : ε)
  /-- The call panicked with the given text. -/
  | panic (message : String)
  deriving DecidableEq

namespace Outcome

variable {ε δ α β : Type}

/-- Sequencing: errors and panics skip the continuation. -/
def bind (x : Outcome ε α) (f : α→Outcome ε β) : Outcome ε β :=
  match x with
  | ok a => f a
  | err e => err e
  | panic m => panic m

instance : Monad (Outcome ε) where
  pure := ok
  bind := bind

/-- An absent value returns the given error. -/
def okOr (x : Option α) (e : ε) : Outcome ε α :=
  match x with
  | some a => ok a
  | none => err e

/-- An absent value panics with the given text. -/
def expect (x : Option α) (message : String) : Outcome ε α :=
  match x with
  | some a => ok a
  | none => panic message

/-- Early return of an error exactly when the condition holds. -/
def reject (p : Prop) [Decidable p] (e : ε) : Outcome ε Unit :=
  if p then err e else ok ()

/-- Debug assertion: panics exactly when the condition fails. -/
def debugAssert (p : Prop) [Decidable p] (message : String) : Outcome ε Unit :=
  if p then ok () else panic message

/-- Translate the error, leaving values and panics alone. -/
def mapErr (f : δ→ε) (x : Outcome δ α) : Outcome ε α :=
  match x with
  | ok a => ok a
  | err e => err (f e)
  | panic m => panic m

/-- A result of code that never panics. -/
def ofExcept (x : Except ε α) : Outcome ε α :=
  match x with
  | .ok a => ok a
  | .error e => err e

/-- The call returned a value. -/
def isOk : Outcome ε α→Bool
  | ok _ => true
  | _ => false

/-- The value a call returned, or what was there before when it returned none. -/
def valueOr (x : Outcome ε α) (unchanged : α) : α :=
  match x with
  | ok a => a
  | _ => unchanged

/-- A call that returned a value has one. -/
theorem isOk_iff {x : Outcome ε α} : x.isOk=true ↔ ∃ a, x=ok a := by
  cases x <;> simp [isOk]

/-- What holds of every returned value and of what was there before holds of the value. -/
theorem valueOr_of_ok {p : α→Prop} {x : Outcome ε α} {unchanged : α} (hok : ∀ a,x=ok a → p a)
    (hunchanged : p unchanged) : p (x.valueOr unchanged) := by
  cases x with
  | ok a => exact hok a rfl
  | err e => exact hunchanged
  | panic m => exact hunchanged

@[simp] theorem pure_eq_ok (a : α) : (pure a : Outcome ε α)=ok a := rfl

@[simp] theorem ok_bind (a : α) (f : α→Outcome ε β) : (ok a >>= f)=f a := rfl

@[simp] theorem err_bind (e : ε) (f : α→Outcome ε β) : (err e >>= f)=err e := rfl

@[simp] theorem panic_bind (m : String) (f : α→Outcome ε β) : (panic m >>= f)=panic m := rfl

/-- Sequences nest either way. -/
theorem bind_assoc {γ : Type} (x : Outcome ε α) (f : α→Outcome ε β) (g : β→Outcome ε γ) :
    ((x >>= f) >>= g)=(x >>= fun a => f a >>= g) := by
  cases x <;> rfl

/-- A sequence succeeds exactly when both of its halves do. -/
@[simp] theorem bind_eq_ok {x : Outcome ε α} {f : α→Outcome ε β} {b : β} :
    (x >>= f)=ok b ↔ ∃ a, x=ok a ∧ f a=ok b := by
  cases x <;> simp

/-- A sequence fails in its first half or, after a value, in its second. -/
theorem bind_eq_err {x : Outcome ε α} {f : α→Outcome ε β} {e : ε} :
    (x >>= f)=err e ↔ x=err e ∨ ∃ a, x=ok a ∧ f a=err e := by
  cases x <;> simp

/-- A sequence panics in its first half or, after a value, in its second. -/
theorem bind_eq_panic {x : Outcome ε α} {f : α→Outcome ε β} {m : String} :
    (x >>= f)=panic m ↔ x=panic m ∨ ∃ a, x=ok a ∧ f a=panic m := by
  cases x <;> simp

@[simp] theorem okOr_eq_ok {x : Option α} {e : ε} {a : α} : okOr x e=ok a ↔ x=some a := by
  cases x <;> simp [okOr]

@[simp] theorem okOr_eq_err {x : Option α} {e e' : ε} :
    okOr x e=err e' ↔ x=none ∧ e=e' := by
  cases x <;> simp [okOr]

@[simp] theorem okOr_ne_panic {x : Option α} {e : ε} {m : String} : okOr x e≠panic m := by
  cases x <;> simp [okOr]

@[simp] theorem reject_ne_panic {p : Prop} [Decidable p] {e : ε} {m : String} :
    reject p e≠panic m := by
  by_cases hp : p <;> simp [reject,hp]

@[simp] theorem ofExcept_ne_panic {x : Except ε α} {m : String} : ofExcept x≠panic m := by
  cases x <;> simp [ofExcept]

@[simp] theorem expect_ne_err {x : Option α} {m : String} {e : ε} :
    (expect x m : Outcome ε α)≠err e := by
  cases x <;> simp [expect]

@[simp] theorem reject_eq_err {p : Prop} [Decidable p] {e e' : ε} :
    reject p e=err e' ↔ p ∧ e=e' := by
  by_cases hp : p <;> simp [reject,hp]

@[simp] theorem debugAssert_ne_err {p : Prop} [Decidable p] {m : String} {e : ε} :
    (debugAssert p m : Outcome ε Unit)≠err e := by
  by_cases hp : p <;> simp [debugAssert,hp]

@[simp] theorem expect_eq_ok {x : Option α} {m : String} {a : α} :
    (expect x m : Outcome ε α)=ok a ↔ x=some a := by
  cases x <;> simp [expect]

@[simp] theorem reject_eq_ok {p : Prop} [Decidable p] {e : ε} {u : Unit} :
    reject p e=ok u ↔ ¬p := by
  by_cases hp : p <;> simp [reject,hp]

@[simp] theorem debugAssert_eq_ok {p : Prop} [Decidable p] {m : String} {u : Unit} :
    (debugAssert p m : Outcome ε Unit)=ok u ↔ p := by
  by_cases hp : p <;> simp [debugAssert,hp]

@[simp] theorem mapErr_eq_ok {f : δ→ε} {x : Outcome δ α} {a : α} :
    mapErr f x=ok a ↔ x=ok a := by
  cases x <;> simp [mapErr]

@[simp] theorem mapErr_eq_err {f : δ→ε} {x : Outcome δ α} {e : ε} :
    mapErr f x=err e ↔ ∃ d, x=err d ∧ f d=e := by
  cases x <;> simp [mapErr]

@[simp] theorem mapErr_eq_panic {f : δ→ε} {x : Outcome δ α} {m : String} :
    mapErr f x=panic m ↔ x=panic m := by
  cases x <;> simp [mapErr]

@[simp] theorem ofExcept_eq_ok {x : Except ε α} {a : α} : ofExcept x=ok a ↔ x=.ok a := by
  cases x <;> simp [ofExcept]

/-- The call returns: a value or an error, but no panic. -/
def NoPanic (x : Outcome ε α) : Prop := ∀ m, x≠panic m

@[simp] theorem noPanic_ok (a : α) : NoPanic (ok a : Outcome ε α) := by
  intro m h
  cases h

@[simp] theorem noPanic_err (e : ε) : NoPanic (err e : Outcome ε α) := by
  intro m h
  cases h

@[simp] theorem noPanic_panic (m : String) : ¬NoPanic (panic m : Outcome ε α) :=
  fun h => h m rfl

/-- A sequence panics nowhere when neither half does. -/
theorem NoPanic.bind {x : Outcome ε α} {f : α→Outcome ε β} (hx : NoPanic x)
    (hf : ∀ a, x=ok a→NoPanic (f a)) : NoPanic (x >>= f) := by
  cases x with
  | ok a => exact hf a rfl
  | err e => exact noPanic_err e
  | panic m => exact absurd hx (noPanic_panic m)

theorem noPanic_okOr (x : Option α) (e : ε) : NoPanic (okOr x e) := by
  cases x <;> simp [okOr]

theorem noPanic_reject (p : Prop) [Decidable p] (e : ε) : NoPanic (reject p e) := by
  by_cases hp : p <;> simp [reject,hp]

theorem noPanic_ofExcept (x : Except ε α) : NoPanic (ofExcept x) := by
  cases x <;> simp [ofExcept]

@[simp] theorem noPanic_mapErr {f : δ→ε} {x : Outcome δ α} :
    NoPanic (mapErr f x) ↔ NoPanic x := by
  cases x <;> simp [mapErr]

end Outcome

end WispersConnect.OutcomeMonad
