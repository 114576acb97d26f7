import Mathlib.Logic.Basic
import Mathlib.Data.Nat.Notation

/-! # While loops

A loop that may raise, run for a given number of rounds. With an invariant that a round
keeps and a measure that it lowers, as many rounds as the measure says are enough.
-/
namespace Overseer.Library
variable {σ ε : Type}

/-- Run the body while the condition holds; `none` when the rounds run out. -/
def whileLoop (cond : σ → Bool) (body : σ → Except ε σ) : ℕ → σ → ExceptT ε Option σ
  | 0, _ => none
  | n + 1, s => if cond s then (match body s with
      | .ok s' => whileLoop cond body n s'
      | .error e => throw e) else pure s

theorem whileLoop_total {cond : σ → Bool} {body : σ → Except ε σ} {inv : σ → Prop} {size : σ → ℕ}
    (hbody : ∀ s, inv s → cond s = true → ∃ s', body s = .ok s' ∧ inv s' ∧ size s' < size s) {n : ℕ} {s : σ}
    (hs : inv s) (hn : size s < n) : ∃ s', whileLoop cond body n s = pure s' ∧ inv s' ∧ cond s' = false := by
  induction n generalizing s with
  | zero => omega
  | succ n ih =>
    by_cases hc : cond s = true
    · obtain ⟨s₁,hrun,hs₁,hlt⟩ := hbody s hs hc
      obtain ⟨s',hloop,hs',hend⟩ := ih hs₁ (by omega)
      refine ⟨s',?_,hs',hend⟩
      simp only [whileLoop,hc,↓reduceIte,hrun,hloop]
    · refine ⟨s,?_,hs,by simpa using hc⟩
      simp only [whileLoop,hc,Bool.false_eq_true,↓reduceIte]

theorem mapM_pure {α β : Type} {f : α → ExceptT ε Option β} {g : α → β} {l : List α}
    (h : ∀ a ∈ l, f a = pure (g a)) : l.mapM f = (pure (l.map g) : ExceptT ε Option (List β)) := by
  induction l with
  | nil => rfl
  | cons a rest ih =>
    rw [List.mapM_cons,h a List.mem_cons_self,ih fun b hb => h b (List.mem_cons_of_mem _ hb)]
    rfl

end Overseer.Library
