import Overseer.Library.Runs

/-! # Executable schedules

A schedule starts programs and lets threads take steps, answering their questions
from a given table. Playing it computes the world it leads to, so that a concrete
run is checked by evaluation.
-/
namespace Overseer.Library

/-- Start a program, or let thread `i` take one step with the given answers. -/
inductive Move (S H : Type) {Q : Type} (A : Q → Type) (E R : Type) where
  | start (p : Prog S H A E R)
  | step (i : ℕ) (answers : ∀ q, A q)

/-- The move starts only what the system may start. -/
def Move.Allowed {S H Q : Type} {A : Q → Type} {E R : Type} (sys : System S H A E R) : Move S H A E R → Prop
  | .start p => sys.start p
  | .step _ _ => True

/-- What a program that has ended returned. -/
def Prog.result? {S H Q : Type} {A : Q → Type} {E α : Type} : Prog S H A E α → Option α
  | .ret a => some a
  | _ => none

theorem Prog.eq_ret {S H Q : Type} {A : Q → Type} {E α : Type} {p : Prog S H A E α} {a : α}
    (h : p.result? = some a) : p = .ret a := by
  cases p <;> simp_all [Prog.result?]

namespace World
variable {S H Q : Type} {A : Q → Type} {E R : Type}

/-- One move; `valid` and `guard` decide what the system allows. -/
def move (valid : Trace S A → (q : Q) → A q → Bool) (guard : S → H → S → Bool) (w : World S H A E R) :
    Move S H A E R → Option (World S H A E R)
  | .start p => some ⟨w.trace,w.threads ++ [p]⟩
  | .step i answers =>
    match w.threads[i]? with
    | some (.tx held next k) =>
      if guard w.trace.store held (next w.trace.store) then
        some ⟨w.trace.commit (next w.trace.store),w.threads.set i (k w.trace.store)⟩
      else none
    | some (.call q k) =>
      if valid w.trace q (answers q) then
        some ⟨w.trace.record i q (answers q),w.threads.set i (k (answers q))⟩
      else none
    | _ => none

def play (valid : Trace S A → (q : Q) → A q → Bool) (guard : S → H → S → Bool) (w : World S H A E R) :
    List (Move S H A E R) → Option (World S H A E R)
  | [] => some w
  | mv :: rest => (w.move valid guard mv).bind fun w' => w'.play valid guard rest

/-- Move the same thread `n` times. -/
def steps (i n : ℕ) (answers : ∀ q, A q) : List (Move S H A E R) := List.replicate n (.step i answers)

variable {valid : Trace S A → (q : Q) → A q → Bool} {guard : S → H → S → Bool} {sys : System S H A E R}

theorem move_step (hv : ∀ t q a, valid t q a = true → sys.valid t q a)
    (hg : ∀ s h s', guard s h s' = true → sys.guard s h s') {w w' : World S H A E R}
    {mv : Move S H A E R} (hstart : mv.Allowed sys)
    (h : w.move valid guard mv = some w') : Step sys w w' := by
  cases mv with
  | start p =>
    cases h
    exact .start p hstart
  | step i answers =>
    simp only [move] at h
    split at h
    · next held next k hi =>
      split at h
      · next hguard =>
        cases h
        exact .tx i hi (hg _ _ _ hguard)
      · cases h
    · next q k hi =>
      split at h
      · next hvalid =>
        cases h
        exact .call i hi _ (hv _ _ _ hvalid)
      · cases h
    · cases h

theorem play_reachable (hv : ∀ t q a, valid t q a = true → sys.valid t q a)
    (hg : ∀ s h s', guard s h s' = true → sys.guard s h s') {moves : List (Move S H A E R)}
    {w w' : World S H A E R} (hstart : ∀ mv ∈ moves, mv.Allowed sys)
    (h : w.play valid guard moves = some w') : Reachable sys w w' := by
  induction moves generalizing w with
  | nil => cases h; exact .refl
  | cons mv rest ih =>
    simp only [play] at h
    obtain ⟨w₁,hw₁,hrest⟩ := Option.bind_eq_some_iff.mp h
    exact .head (move_step hv hg (hstart mv List.mem_cons_self) hw₁)
      (ih (fun mv' hmv => hstart mv' (List.mem_cons_of_mem _ hmv)) hrest)

theorem allowed_start (sys : System S H A E R) {p : Prog S H A E R} (h : sys.start p) : ∀ mv ∈ [Move.start p], mv.Allowed sys := by
  intro mv hmv
  rw [List.mem_singleton.mp hmv]
  exact h

theorem allowed_steps (i n : ℕ) (answers : ∀ q, A q) :
    ∀ mv ∈ (steps i n answers : List (Move S H A E R)), mv.Allowed sys := by
  intro mv hmv
  rw [List.eq_of_mem_replicate hmv]
  trivial

theorem exists_reachable (w : World S H A E R) (moves : List (Move S H A E R)) (check : World S H A E R → Bool)
    (hv : ∀ t q a, valid t q a = true → sys.valid t q a)
    (hg : ∀ s h s', guard s h s' = true → sys.guard s h s') (hstart : ∀ mv ∈ moves, mv.Allowed sys)
    (h : (w.play valid guard moves).any check = true) : ∃ w', Reachable sys w w' ∧ check w' = true := by
  obtain ⟨w',hw',hc⟩ := (Option.any_eq_true _ _).mp h
  exact ⟨w',play_reachable hv hg hstart hw',hc⟩

end World
end Overseer.Library
