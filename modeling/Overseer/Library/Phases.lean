import Overseer.Library.Schedule
import Mathlib.Logic.Function.Basic

/-! # Phases of a program

Phases with the transactions and the questions that lead from one to the next. A program that
follows them, whatever states and answers it meets, can be told its phase at every point of a
run, and an invariant may speak of the phases of all threads at once.
-/
namespace Overseer.Library

structure Phases (S H Q Φ : Type) where
  tx : Φ → S → H → S → Φ → Prop
  ask : Φ → Q → Φ → Prop

namespace Phases
variable {S H Q Φ : Type} {A : Q → Type} {E α β R : Type} (M : Phases S H Q Φ)

/-- From phase `φ` the program goes through the phases and ends under `Post`. -/
def Follows (Post : Except E α → Φ → Prop) : Prog S H A E α → Φ → Prop
  | .ret a, φ => Post (.ok a) φ
  | .fail e, φ => Post (.error e) φ
  | .tx held next k, φ => ∀ s, ∃ φ', M.tx φ s held (next s) φ' ∧ Follows Post (k s) φ'
  | .call q k, φ => ∃ φ', M.ask φ q φ' ∧ ∀ a, Follows Post (k a) φ'

variable {M} {φ : Φ}

/-- What the end of the first part has to bring about. -/
def Then (M : Phases S H Q Φ) (Post : Except E β → Φ → Prop) (f : α → Prog S H A E β) : Except E α → Φ → Prop
  | .ok a, φ => M.Follows Post (f a) φ
  | .error e, φ => Post (.error e) φ

theorem Follows.bind {Post : Except E β → Φ → Prop} {p : Prog S H A E α} {f : α → Prog S H A E β}
    (h : M.Follows (M.Then Post f) p φ) : M.Follows Post (p.bind f) φ := by
  induction p generalizing φ with
  | ret a => exact h
  | fail e => exact h
  | tx held next k ih =>
    intro s
    obtain ⟨φ',hstep,hk⟩ := h s
    exact ⟨φ',hstep,ih s hk⟩
  | call q k ih =>
    obtain ⟨φ',hstep,hk⟩ := h
    exact ⟨φ',hstep,fun a => ih a (hk a)⟩

/-- What an exception of the first part has to bring about. -/
def Caught (M : Phases S H Q Φ) (Post : Except E α → Φ → Prop) (h : E → Prog S H A E α) : Except E α → Φ → Prop
  | .ok a, φ => Post (.ok a) φ
  | .error e, φ => M.Follows Post (h e) φ

theorem Follows.handle {Post : Except E α → Φ → Prop} {p : Prog S H A E α} {h : E → Prog S H A E α}
    (hp : M.Follows (M.Caught Post h) p φ) : M.Follows Post (p.handle h) φ := by
  induction p generalizing φ with
  | ret a => exact hp
  | fail e => exact hp
  | tx held next k ih =>
    intro s
    obtain ⟨φ',hstep,hk⟩ := hp s
    exact ⟨φ',hstep,ih s hk⟩
  | call q k ih =>
    obtain ⟨φ',hstep,hk⟩ := hp
    exact ⟨φ',hstep,fun a => ih a (hk a)⟩

theorem follows_transaction {Post : Except E α → Φ → Prop} {held : H} {t : Tx S E α}
    (h : ∀ s, ∃ φ', M.tx φ s held (t.next s) φ' ∧ Post ((t s).map Prod.fst) φ') :
    M.Follows Post (Prog.transaction held t : Prog S H A E α) φ := by
  intro s
  obtain ⟨φ',hstep,hpost⟩ := h s
  refine ⟨φ',hstep,?_⟩
  change M.Follows Post (Prog.outcome (t s)) φ'
  generalize t s = r at hpost
  cases r with
  | ok r => exact hpost
  | error e => exact hpost

theorem Follows.mono {P P' : Except E α → Φ → Prop} {p : Prog S H A E α} (h : M.Follows P p φ) (hP : ∀ r φ', P r φ' → P' r φ') :
    M.Follows P' p φ := by
  induction p generalizing φ with
  | ret a => exact hP _ _ h
  | fail e => exact hP _ _ h
  | tx held next k ih =>
    intro s
    obtain ⟨φ',hstep,hk⟩ := h s
    exact ⟨φ',hstep,ih s hk⟩
  | call q k ih =>
    obtain ⟨φ',hstep,hk⟩ := h
    exact ⟨φ',hstep,fun a => ih a (hk a)⟩

section Rules
variable [Inhabited H] {Post : Except E β → Φ → Prop} {f : α → Prog S H A E β}

theorem follows_bind {p : Prog S H A E α} (h : M.Follows (M.Then Post f) p φ) : M.Follows Post (p >>= f) φ := h.bind

theorem Follows.andThen {P : Φ → Prop} {p : Prog S H A E α} (hp : M.Follows (fun _ φ' => P φ') p φ)
    (herror : ∀ e φ', P φ' → Post (.error e) φ') (h : ∀ a φ', P φ' → M.Follows Post (f a) φ') : M.Follows Post (p >>= f) φ := by
  refine follows_bind (hp.mono fun r φ' hφ' => ?_)
  cases r with
  | ok a => exact h a φ' hφ'
  | error e => exact herror e φ' hφ'

theorem follows_require_bind {c : Prop} [Decidable c] {e : E} {f : Unit → Prog S H A E β} (herror : Post (.error e) φ)
    (h : c → M.Follows Post (f ()) φ) : M.Follows Post (require c e >>= f) φ := by
  unfold require
  split
  · next hc => exact h hc
  · exact herror

theorem follows_orRaise_bind {o : Option α} {e : E} (herror : Post (.error e) φ)
    (h : ∀ a, o = some a → M.Follows Post (f a) φ) : M.Follows Post (orRaise o e >>= f) φ := by
  cases o with
  | none => exact herror
  | some a => exact h a rfl

theorem follows_ask_bind {q : Q} {f : A q → Prog S H A E β} {φ' : Φ} (hstep : M.ask φ q φ')
    (h : ∀ a, M.Follows Post (f a) φ') : M.Follows Post (Prog.ask q >>= f) φ := ⟨φ',hstep,h⟩

theorem follows_read_bind {held : H} {g : S → α} (h : ∀ s, ∃ φ', M.tx φ s held s φ' ∧ M.Follows Post (f (g s)) φ') :
    M.Follows Post ((Prog.transaction held (Tx.read g) : Prog S H A E α) >>= f) φ := h

end Rules
end Phases

namespace World
variable {S H Q Φ : Type} {A : Q → Type} {E R : Type} {sys : System S H A E R} {M : Phases S H Q Φ}

/-- Runs each step of which meets a condition on the world before and the world after it. -/
def Under (sys : System S H A E R) (Cond : World S H A E R → World S H A E R → Prop) (w w' : World S H A E R) : Prop :=
  Relation.ReflTransGen (fun w w' => Step sys w w' ∧ Cond w w') w w'

/-- An invariant of the phases of all threads and the world, kept by every step, holds in every
world of a run of programs that follow the phases. -/
theorem Under.phases {Cond : World S H A E R → World S H A E R → Prop} {Post : Except E R → Φ → Prop} {φ₀ : Φ} {s₀ : S}
    {J : (ℕ → Φ) → World S H A E R → Prop} {w : World S H A E R} (hstart : ∀ p, sys.start p → M.Follows Post p φ₀)
    (h₀ : J (fun _ => φ₀) (init s₀))
    (hJstart : ∀ φ w p, J φ w → (∀ i, w.threads.length ≤ i → φ i = φ₀) → sys.start p → Cond w ⟨w.trace,w.threads ++ [p]⟩ →
      J φ ⟨w.trace,w.threads ++ [p]⟩)
    (hJtx : ∀ φ w i held next k φ', J φ w → (∀ i, w.threads.length ≤ i → φ i = φ₀) → (∀ j p, w.threads[j]? = some p → M.Follows Post p (φ j)) →
      w.threads[i]? = some (.tx held next k) → sys.guard w.trace.store held (next w.trace.store) →
      M.tx (φ i) w.trace.store held (next w.trace.store) φ' → M.Follows Post (k w.trace.store) φ' →
      Cond w ⟨w.trace.commit (next w.trace.store),w.threads.set i (k w.trace.store)⟩ →
      J (Function.update φ i φ') ⟨w.trace.commit (next w.trace.store),w.threads.set i (k w.trace.store)⟩)
    (hJcall : ∀ φ w i q k a φ', J φ w → (∀ i, w.threads.length ≤ i → φ i = φ₀) → (∀ j p, w.threads[j]? = some p → M.Follows Post p (φ j)) →
      w.threads[i]? = some (.call q k) → sys.valid w.trace q a → M.ask (φ i) q φ' → M.Follows Post (k a) φ' →
      Cond w ⟨w.trace.record i q a,w.threads.set i (k a)⟩ →
      J (Function.update φ i φ') ⟨w.trace.record i q a,w.threads.set i (k a)⟩)
    (h : Under sys Cond (init s₀) w) :
    ∃ φ, (∀ i p, w.threads[i]? = some p → M.Follows Post p (φ i)) ∧ J φ w := by
  suffices key : ∃ φ, (∀ i, w.threads.length ≤ i → φ i = φ₀) ∧ (∀ i p, w.threads[i]? = some p → M.Follows Post p (φ i)) ∧ J φ w by
    obtain ⟨φ,-,hφ⟩ := key
    exact ⟨φ,hφ⟩
  -- the thread that moved is in its next phase, the others are where they were
  have hset : ∀ {w : World S H A E R} {φ : ℕ → Φ} {i : ℕ} {p p' : Prog S H A E R} {φ' : Φ}, w.threads[i]? = some p →
      (∀ i, w.threads.length ≤ i → φ i = φ₀) → (∀ i p, w.threads[i]? = some p → M.Follows Post p (φ i)) → M.Follows Post p' φ' →
      (∀ j, (w.threads.set i p').length ≤ j → Function.update φ i φ' j = φ₀) ∧
      ∀ j q, (w.threads.set i p')[j]? = some q → M.Follows Post q (Function.update φ i φ' j) := by
    intro w φ i p p' φ' hi hlate hall hp'
    have hlt : i < w.threads.length := (List.getElem?_eq_some_iff.mp hi).1
    constructor
    · intro j hj
      rw [List.length_set] at hj
      rw [Function.update_of_ne (by omega)]
      exact hlate j hj
    · intro j q hq
      rcases thread_set hq with ⟨rfl,rfl⟩ | ⟨hne,hq⟩
      · simpa using hp'
      · rw [Function.update_of_ne hne]
        exact hall j q hq
  induction h with
  | refl => exact ⟨fun _ => φ₀,fun _ _ => rfl,fun i p hi => by simp [init] at hi,h₀⟩
  | tail _ hs ih =>
    obtain ⟨φ,hlate,hall,hJ⟩ := ih
    obtain ⟨hstep,hcond⟩ := hs
    cases hstep with
    | start p hp =>
      refine ⟨φ,fun i hi => hlate i (by simp at hi; omega),fun i q hq => ?_,hJstart _ _ p hJ hlate hp hcond⟩
      rcases thread_append hq with hq | ⟨rfl,rfl⟩
      · exact hall i q hq
      · rw [hlate _ le_rfl]
        exact hstart q hp
    | tx i hi hg =>
      obtain ⟨φ',htx,hk⟩ := hall i _ hi _
      obtain ⟨hlate',hall'⟩ := hset hi hlate hall hk
      exact ⟨_,hlate',hall',hJtx _ _ i _ _ _ φ' hJ hlate hall hi hg htx hk hcond⟩
    | call i hi a ha =>
      obtain ⟨φ',hask,hk⟩ := hall i _ hi
      obtain ⟨hlate',hall'⟩ := hset hi hlate hall (hk a)
      exact ⟨_,hlate',hall',hJcall _ _ i _ _ a φ' hJ hlate hall hi ha hask (hk a) hcond⟩

/-! ### Taking turns -/

/-- A thread becomes busy only when no thread is. -/
def InTurn (busy : Prog S H A E R → Prop) (w w' : World S H A E R) : Prop :=
  ∀ (i : ℕ) (p' : Prog S H A E R), w'.threads[i]? = some p' → busy p' → (∃ p, w.threads[i]? = some p ∧ busy p) ∨ ∀ p ∈ w.threads, ¬ busy p

/-- At most one thread is busy. -/
def Alone (busy : Prog S H A E R → Prop) (w : World S H A E R) : Prop :=
  ∀ (i j : ℕ) (p q : Prog S H A E R), w.threads[i]? = some p → busy p → w.threads[j]? = some q → busy q → i = j

variable {busy : Prog S H A E R → Prop} {w w' : World S H A E R}

theorem Alone.next (h : Alone busy w) (hturn : InTurn busy w w') {i : ℕ}
    (hothers : ∀ j q, j ≠ i → w'.threads[j]? = some q → w.threads[j]? = some q) : Alone busy w' := by
  -- the thread that moved and another busy one
  have hmoved : ∀ j p q, w'.threads[i]? = some p → busy p → w'.threads[j]? = some q → busy q → i = j := by
    intro j p q hp hbp hq hbq
    by_contra hne
    have hold := hothers j q (fun h => hne h.symm) hq
    rcases hturn i p hp hbp with ⟨p₀,hp₀,hb₀⟩ | hnone
    · exact hne (h i j p₀ q hp₀ hb₀ hold hbq)
    · exact hnone q (List.mem_of_getElem? hold) hbq
  intro j k p q hp hbp hq hbq
  by_cases hj : j = i
  · subst hj
    exact hmoved k p q hp hbp hq hbq
  by_cases hk : k = i
  · subst hk
    exact (hmoved j q p hq hbq hp hbp).symm
  exact h j k p q (hothers j p hj hp) hbp (hothers k q hk hq) hbq

theorem Alone.set (h : Alone busy w) {i : ℕ} {p' : Prog S H A E R} {t : Trace S A} (hturn : InTurn busy w ⟨t,w.threads.set i p'⟩) :
    Alone busy ⟨t,w.threads.set i p'⟩ := by
  refine h.next hturn (i := i) fun j q hj hq => ?_
  rcases thread_set hq with ⟨rfl,-⟩ | ⟨-,hq⟩
  · exact absurd rfl hj
  · exact hq

theorem Alone.append (h : Alone busy w) {p' : Prog S H A E R} {t : Trace S A} (hturn : InTurn busy w ⟨t,w.threads ++ [p']⟩) :
    Alone busy ⟨t,w.threads ++ [p']⟩ := by
  refine h.next hturn (i := w.threads.length) fun j q hj hq => ?_
  rcases thread_append hq with hq | ⟨rfl,-⟩
  · exact hq
  · exact absurd rfl hj

/-! ### Playing under a condition -/

/-- Play a schedule, looking at every step. -/
def playUnder (valid : Trace S A → (q : Q) → A q → Bool) (guard : S → H → S → Bool)
    (cond : World S H A E R → World S H A E R → Bool) (w : World S H A E R) : List (Move S H A E R) → Option (World S H A E R)
  | [] => some w
  | mv :: rest => (w.move valid guard mv).bind fun w' => if cond w w' then w'.playUnder valid guard cond rest else none

theorem playUnder_under {valid : Trace S A → (q : Q) → A q → Bool} {guard : S → H → S → Bool}
    {cond : World S H A E R → World S H A E R → Bool} {Cond : World S H A E R → World S H A E R → Prop}
    (hv : ∀ t q a, valid t q a = true → sys.valid t q a) (hg : ∀ s h s', guard s h s' = true → sys.guard s h s')
    (hc : ∀ w w', cond w w' = true → Cond w w') {moves : List (Move S H A E R)} (hstart : ∀ mv ∈ moves, mv.Allowed sys)
    (h : w.playUnder valid guard cond moves = some w') : Under sys Cond w w' := by
  induction moves generalizing w with
  | nil =>
    cases h
    exact .refl
  | cons mv rest ih =>
    obtain ⟨w₁,hw₁,hrest⟩ := Option.bind_eq_some_iff.mp h
    split at hrest
    · next hcond =>
      exact .head ⟨move_step hv hg (hstart mv List.mem_cons_self) hw₁,hc _ _ hcond⟩
        (ih (fun mv' hmv => hstart mv' (List.mem_cons_of_mem _ hmv)) hrest)
    · cases hrest

/-- A schedule played under the condition whose last world passes a check. -/
theorem exists_under {valid : Trace S A → (q : Q) → A q → Bool} {guard : S → H → S → Bool}
    {cond : World S H A E R → World S H A E R → Bool} {Cond : World S H A E R → World S H A E R → Prop} (w : World S H A E R)
    (moves : List (Move S H A E R)) (check : World S H A E R → Bool) (hv : ∀ t q a, valid t q a = true → sys.valid t q a)
    (hg : ∀ s h s', guard s h s' = true → sys.guard s h s') (hc : ∀ w w', cond w w' = true → Cond w w')
    (hstart : ∀ mv ∈ moves, mv.Allowed sys) (h : (w.playUnder valid guard cond moves).any check = true) :
    ∃ w', Under sys Cond w w' ∧ check w' = true := by
  obtain ⟨w',hw',hcheck⟩ := (Option.any_eq_true _ _).mp h
  exact ⟨w',playUnder_under hv hg hc hstart hw',hcheck⟩

end World
end Overseer.Library
