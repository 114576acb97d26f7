import Mathlib.Data.List.Infix
import Mathlib.Data.List.Induction

/-! # Runs of a step function

A run applies one operation after another. When a step keeps a law exactly under some
condition, a run keeps it throughout exactly when every step meets the condition.
-/
namespace Overseer.Library
variable {σ ω : Type} {step : σ → ω → σ} {s₀ : σ} {I Law : σ → Prop} {Extra Cond : σ → ω → Prop} {ops : List ω}

theorem foldl_concat (step : σ → ω → σ) (s : σ) (pre : List ω) (op : ω) :
    (pre ++ [op]).foldl step s = step (pre.foldl step s) op := by simp

theorem foldl_invariant (h₀ : I s₀) (hstep : ∀ s op, I s → I (step s op)) (ops : List ω) : I (ops.foldl step s₀) := by
  induction ops using List.reverseRecOn with
  | nil => exact h₀
  | append_singleton ops op ih =>
    rw [foldl_concat]
    exact hstep _ op ih

/-- `Law` is about the states of a run and `Extra` about its steps. -/
theorem foldl_law_iff (hinv : ∀ pre, pre <+: ops → I (pre.foldl step s₀)) (h₀ : Law s₀)
    (hstep : ∀ s op, op ∈ ops → I s → Law s → (Law (step s op) ∧ Extra s op ↔ Cond s op)) :
    (∀ pre op, pre ++ [op] <+: ops → Cond (pre.foldl step s₀) op) ↔
      (∀ pre, pre <+: ops → Law (pre.foldl step s₀)) ∧ ∀ pre op, pre ++ [op] <+: ops → Extra (pre.foldl step s₀) op := by
  have hmem : ∀ {pre : List ω} {op : ω}, pre ++ [op] <+: ops → op ∈ ops :=
    fun hpre => hpre.subset (List.mem_append_right _ List.mem_cons_self)
  have hshorter : ∀ {pre : List ω} {op : ω}, pre ++ [op] <+: ops → pre <+: ops :=
    fun hpre => (List.prefix_append _ _).trans hpre
  constructor
  · intro hcond
    have hlaw : ∀ pre, pre <+: ops → Law (pre.foldl step s₀) := by
      intro pre
      induction pre using List.reverseRecOn with
      | nil => exact fun _ => h₀
      | append_singleton pre op ih =>
        intro hpre
        rw [foldl_concat]
        exact ((hstep _ op (hmem hpre) (hinv pre (hshorter hpre)) (ih (hshorter hpre))).mpr (hcond pre op hpre)).1
    refine ⟨hlaw,fun pre op hpre => ?_⟩
    have hbefore := hlaw pre (hshorter hpre)
    exact ((hstep _ op (hmem hpre) (hinv pre (hshorter hpre)) hbefore).mpr (hcond pre op hpre)).2
  · rintro ⟨hlaw,hextra⟩ pre op hpre
    have hafter := hlaw _ hpre
    rw [foldl_concat] at hafter
    exact (hstep _ op (hmem hpre) (hinv pre (hshorter hpre)) (hlaw pre (hshorter hpre))).mp ⟨hafter,hextra pre op hpre⟩

/-- A reflexive and transitive relation holds between any two states of a run exactly when
every step keeps it. -/
theorem foldl_relation_iff {R : σ → σ → Prop} (hrefl : ∀ s, R s s) (htrans : ∀ {s t u}, R s t → R t u → R s u) :
    (∀ pre op, pre ++ [op] <+: ops → R (pre.foldl step s₀) (step (pre.foldl step s₀) op)) ↔
      ∀ pre later, pre ++ later <+: ops → R (pre.foldl step s₀) ((pre ++ later).foldl step s₀) := by
  constructor
  · intro h pre later
    induction later using List.reverseRecOn with
    | nil =>
      intro _
      rw [List.append_nil]
      exact hrefl _
    | append_singleton later op ih =>
      intro hpre
      rw [← List.append_assoc] at hpre ⊢
      rw [foldl_concat]
      exact htrans (ih ((List.prefix_append _ _).trans hpre)) (h _ op hpre)
  · intro h pre op hpre
    have hstep := h pre [op] hpre
    rwa [foldl_concat] at hstep

end Overseer.Library
