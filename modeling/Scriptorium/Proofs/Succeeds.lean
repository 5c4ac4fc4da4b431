import Mathlib.Logic.Basic

/-!
# Computations that succeed

What it takes for a computation in parts to come to a result.
-/
namespace Scriptorium

section Except

variable {ε α β : Type} {x : Except ε α} {b : β}

/-- A computation in two parts succeeds if both do. -/
theorem bind_eq_ok {f : α → Except ε β} :
    (x >>= f) = .ok b ↔ ∃ a, x = .ok a ∧ f a = .ok b := by
  cases x <;> simp [bind, Except.bind]

theorem map_eq_ok {f : α → β} : x.map f = .ok b ↔ ∃ a, x = .ok a ∧ f a = b := by
  cases x <;> simp [Except.map]

theorem mapError_eq_ok {δ : Type} {f : ε → δ} {a : α} : x.mapError f = .ok a ↔ x = .ok a := by
  cases x with
  | error e => constructor <;> (intro h; cases h)
  | ok b => exact ⟨fun h => congrArg _ (Except.ok.inj h), fun h => congrArg _ (Except.ok.inj h)⟩

theorem toOption_eq_some {x : Except ε α} {a : α} : x.toOption = some a ↔ x = .ok a := by
  cases x <;> simp [Except.toOption]

end Except

/-- One of two attempts succeeds. -/
theorem orElse_eq_some {α : Type} {x y : Option α} {a : α} (h : (x <|> y) = some a) :
    x = some a ∨ y = some a := by
  cases x with
  | none => exact .inr h
  | some b => exact .inl h

/-- Neither of two attempts succeeds. -/
theorem orElse_eq_none {α : Type} {x y : Option α} (h : (x <|> y) = none) :
    x = none ∧ y = none := by
  cases x with
  | none => exact ⟨rfl, h⟩
  | some b => exact absurd h (by simp)

/-- What finds exactly the values with a property finds none if there is none. -/
theorem eq_none_iff_of_eq_some {α : Type} {x : Option α} {P : α → Prop}
    (h : ∀ a, x = some a ↔ P a) : x = none ↔ ∀ a, ¬ P a := by
  rw [Option.eq_none_iff_forall_ne_some]
  exact forall_congr' fun a => not_congr (h a)

end Scriptorium
