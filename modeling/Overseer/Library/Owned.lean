import Overseer.Library.Quiet

/-! # What a thread may commit by what it was told

`Owned Rel own p` says that every commit of `p` is one that `Rel` allows to a program
that has been given the answers `own` so far. In a run the answers of a thread are
those the log records under its number.
-/
namespace Overseer.Library

namespace Prog
variable {S H Q : Type} {A : Q → Type} {E α β : Type} {Rel : List (Σ q, A q) → S → S → Prop}

def Owned (Rel : List (Σ q, A q) → S → S → Prop) : List (Σ q, A q) → Prog S H A E α → Prop
  | _, .ret _ => True
  | _, .fail _ => True
  | own, .tx _ next k => (∀ s, Rel own s (next s)) ∧ ∀ s, (k s).Owned Rel own
  | own, .call q k => ∀ a, (k a).Owned Rel (⟨q,a⟩ :: own)

theorem Owned.bind {p : Prog S H A E α} {f : α → Prog S H A E β} {own : List (Σ q, A q)} (hp : p.Owned Rel own)
    (hf : ∀ a own', own ⊆ own' → (f a).Owned Rel own') : (p.bind f).Owned Rel own := by
  induction p generalizing own with
  | ret a => exact hf a own (List.Subset.refl own)
  | fail e => trivial
  | tx held next k ih => exact ⟨hp.1,fun s => ih s (hp.2 s) hf⟩
  | call q k ih =>
    intro a
    exact ih a (hp a) fun b own' h => hf b own' fun e he => h (List.mem_cons_of_mem _ he)

theorem Owned.of_steps {p : Prog S H A E α} {Rel' : S → S → Prop} (hp : p.Steps fun s _ s' => Rel' s s')
    (h : ∀ own s s', Rel' s s' → Rel own s s') (own : List (Σ q, A q)) : p.Owned Rel own := by
  induction p generalizing own with
  | ret a => trivial
  | fail e => trivial
  | tx held next k ih => exact ⟨fun s => h own _ _ (hp.1 s),fun s => ih s (hp.2 s) own⟩
  | call q k ih => exact fun a => ih a (hp a) _

theorem Owned.steps {p : Prog S H A E α} {own : List (Σ q, A q)} {Rel' : S → S → Prop} (hp : p.Owned Rel own)
    (h : ∀ own s s', Rel own s s' → Rel' s s') : p.Steps fun s _ s' => Rel' s s' := by
  induction p generalizing own with
  | ret a => trivial
  | fail e => trivial
  | tx held next k ih => exact ⟨fun s => h own _ _ (hp.1 s),fun s => ih s (hp.2 s)⟩
  | call q k ih => exact fun a => ih a (hp a)

theorem owned_transaction {held : H} {t : Tx S E α} {own : List (Σ q, A q)} (h : ∀ s, Rel own s (t.next s)) :
    (transaction held t : Prog S H A E α).Owned Rel own := by
  refine ⟨h,fun s => ?_⟩
  change (outcome (t s) : Prog S H A E α).Owned Rel own
  cases t s <;> trivial

variable [Inhabited H]

theorem owned_bind {p : Prog S H A E α} {f : α → Prog S H A E β} {own : List (Σ q, A q)} (hp : p.Owned Rel own)
    (hf : ∀ a own', own ⊆ own' → (f a).Owned Rel own') : (p >>= f).Owned Rel own := Owned.bind hp hf

theorem owned_ask_bind {q : Q} {f : A q → Prog S H A E β} {own : List (Σ q, A q)}
    (h : ∀ a, (f a).Owned Rel (⟨q,a⟩ :: own)) : (ask q >>= f).Owned Rel own := h

end Prog

namespace World
variable {S H Q : Type} {A : Q → Type} {E R : Type} {sys : System S H A E R}

/-- The answers thread `i` was given, latest first. -/
def answersOf (t : Trace S A) (i : ℕ) : List (Σ q, A q) := (t.log.filter (·.1 = i)).map (·.2)

theorem mem_answersOf {t : Trace S A} {i : ℕ} {e : Σ q, A q} : e ∈ answersOf t i ↔ (i,e) ∈ t.log := by
  simp only [answersOf,List.mem_map,List.mem_filter,decide_eq_true_eq]
  constructor
  · rintro ⟨⟨j,e'⟩,⟨hmem,rfl⟩,rfl⟩
    exact hmem
  · intro h
    exact ⟨(i,e),⟨h,rfl⟩,rfl⟩

theorem answersOf_eq_nil {t : Trace S A} {i : ℕ} (h : ∀ e ∈ t.log, e.1 < i) : answersOf t i = [] := by
  refine List.eq_nil_iff_forall_not_mem.mpr fun e he => ?_
  exact absurd (h _ (mem_answersOf.mp he)) (lt_irrefl _)

@[simp] theorem answersOf_record_self (t : Trace S A) (i : ℕ) (q : Q) (a : A q) :
    answersOf (t.record i q a) i = ⟨q,a⟩ :: answersOf t i := by simp [answersOf]

theorem answersOf_record_ne {i j : ℕ} (h : j ≠ i) (t : Trace S A) (q : Q) (a : A q) :
    answersOf (t.record i q a) j = answersOf t j := by simp [answersOf,h.symm]

theorem Reachable.owned {Rel : List (Σ q, A q) → S → S → Prop} {s₀ : S} {w : World S H A E R}
    (hstart : ∀ p, sys.start p → p.Owned Rel []) (h : Reachable sys (init s₀) w) :
    ∀ (i : ℕ) p, w.threads[i]? = some p → p.Owned Rel (answersOf w.trace i) := by
  refine (h.threads (J := fun _ => True) (I := fun i p t => p.Owned Rel (answersOf t i)) trivial ?_ ?_ ?_).2
  · intro p hp i t _ hlog
    rw [answersOf_eq_nil hlog]
    exact hstart p hp
  · intro i held next k t _ howned _
    exact ⟨⟨trivial,howned.2 _⟩,fun j p _ hj => hj⟩
  · intro i q k a t _ howned _
    refine ⟨⟨trivial,?_⟩,fun j p hji hj => ?_⟩
    · rw [answersOf_record_self]
      exact howned a
    · rw [answersOf_record_ne hji]
      exact hj

/-- Every commit of a run is one that a thread may make by the answers it was given. -/
theorem Reachable.owned_chain {Rel : List (Σ q, A q) → S → S → Prop} {s₀ : S} {w : World S H A E R}
    (hmono : ∀ own own' s s', own ⊆ own' → Rel own s s' → Rel own' s s')
    (hstart : ∀ p, sys.start p → p.Owned Rel []) (h : Reachable sys (init s₀) w) :
    List.IsChain (fun s' s => ∃ i, Rel (answersOf w.trace i) s s') w.trace.history := by
  induction h with
  | refl => exact List.isChain_singleton _
  | @tail w w' hw hs ih =>
    have hthreads := Reachable.owned hstart hw
    cases hs with
    | start p hp => exact ih
    | tx i hi hg => exact List.isChain_cons_cons.mpr ⟨⟨i,(hthreads i _ hi).1 _⟩,ih⟩
    | call i hi a ha =>
      refine ih.imp fun s' s h => ?_
      obtain ⟨j,hj⟩ := h
      refine ⟨j,hmono _ _ s s' (fun e he => ?_) hj⟩
      exact mem_answersOf.mpr (List.mem_cons_of_mem _ (mem_answersOf.mp he))

end World
end Overseer.Library
