import Mathlib.Init

/-! # Computations that may fail -/
namespace Overseer.Library

theorem except_bind_ok {E α β : Type} {x : Except E α} {f : α → Except E β} {b : β} (h : (x >>= f) = .ok b) :
    ∃ a, x = .ok a ∧ f a = .ok b := by
  cases x with
  | error e => cases h
  | ok a => exact ⟨a,rfl,h⟩

theorem except_map_ok {E α β : Type} {x : Except E α} {f : α → β} {b : β} (h : x.map f = .ok b) : ∃ a, x = .ok a ∧ b = f a := by
  cases x with
  | error e => cases h
  | ok a => exact ⟨a,rfl,(Except.ok.inj h).symm⟩

/-- Go on when the condition holds, fail otherwise. -/
def ensure {E : Type} (c : Prop) [Decidable c] (e : E) : Except E Unit := if c then .ok () else .error e

@[simp] theorem ensure_ok {E : Type} {c : Prop} [Decidable c] {e : E} {u : Unit} : ensure c e = .ok u ↔ c := by
  by_cases hc : c <;> simp [ensure,hc]

end Overseer.Library
