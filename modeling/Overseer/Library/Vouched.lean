import Overseer.Library.Tickets
import Overseer.Library.Owned
import Overseer.Library.Tame

/-! # When a question may be put

A rule says in which state a program may put a question, given the answers it had so far.
`Vouched` programs keep the rule; `Licensed` ones, moreover, pay for their questions.
-/
namespace Overseer.Library

namespace Discipline
variable {S H Q : Type} {A : Q → Type} {E R α β C : Type} (D : Discipline S H A E R)

/-- From `u` on the program, given the answers `own`, puts a question only when the rule
allows it. -/
def Vouched (rule : List (Σ q, A q) → S → Q → Prop) (Ret : List (Σ q, A q) → α → S → Prop) :
    List (Σ q, A q) → Prog S H A E α → S → Prop
  | own, .ret a, u => Ret own a u
  | _, .fail _, _ => True
  | own, .tx held next k, u => ∀ s, D.After u s → D.ok s → D.sys.guard s held (next s) →
      (D.step s (next s) ∧ D.ok (next s)) ∧ Vouched rule Ret own (k s) (next s)
  | own, .call q k, u => (∀ s, D.After u s → rule own s q) ∧ ∀ a, Vouched rule Ret (⟨q,a⟩ :: own) (k a) u

variable {D} {rule : List (Σ q, A q) → S → Q → Prop} {Ret : List (Σ q, A q) → α → S → Prop}
  {Ret' : List (Σ q, A q) → β → S → Prop} {own : List (Σ q, A q)} {u : S}

theorem Vouched.bind {p : Prog S H A E α} {f : α → Prog S H A E β} (hp : D.Vouched rule Ret own p u)
    (hf : ∀ own' a u', D.After u u' → own ⊆ own' → Ret own' a u' → D.Vouched rule Ret' own' (f a) u') :
    D.Vouched rule Ret' own (p.bind f) u := by
  induction p generalizing u own with
  | ret a => exact hf own a u (.refl u) (List.Subset.refl own) hp
  | fail e => trivial
  | tx held next k ih =>
    intro s hs hok hg
    obtain ⟨hstep,hk⟩ := hp s hs hok hg
    exact ⟨hstep,ih s hk fun own' a u' hu' => hf own' a u' ((hs.commit hok hstep.1 hstep.2).trans hu')⟩
  | call q k ih =>
    refine ⟨hp.1,fun a => ih a (hp.2 a) fun own' b u' hu' hown => hf own' b u' hu' ?_⟩
    exact fun e he => hown (List.mem_cons_of_mem _ he)

theorem Vouched.handle {p : Prog S H A E α} {h : E → Prog S H A E α} (hp : D.Vouched rule Ret own p u)
    (hh : ∀ own' e u', D.After u u' → D.Vouched rule Ret own' (h e) u') : D.Vouched rule Ret own (p.handle h) u := by
  induction p generalizing u own with
  | ret a => exact hp
  | fail e => exact hh own e u (.refl u)
  | tx held next k ih =>
    intro s hs hok hg
    obtain ⟨hstep,hk⟩ := hp s hs hok hg
    exact ⟨hstep,ih s hk fun own' e u' hu' => hh own' e u' ((hs.commit hok hstep.1 hstep.2).trans hu')⟩
  | call q k ih => exact ⟨hp.1,fun a => ih a (hp.2 a) hh⟩

theorem vouched_of_from {M : α → S → Prop} {isIt : Q → Prop} {p : Prog S H A E α} (hp : D.From M p u)
    (hasks : p.Asks isIt 0) (hfree : ∀ own s q, ¬ isIt q → rule own s q) :
    D.Vouched rule (fun _ a u' => M a u') own p u := by
  induction p generalizing u own with
  | ret a => exact hp
  | fail e => trivial
  | tx held next k ih => exact fun s hs hok hg => ⟨(hp s hs hok hg).1,ih s (hp s hs hok hg).2 (hasks s)⟩
  | call q k ih =>
    have hq : ¬ isIt q := by
      intro hq
      obtain ⟨m,hm,-⟩ := hasks.1 hq
      omega
    exact ⟨fun s _ => hfree own s q hq,fun a => ih a (hp a) (hasks.2 hq a)⟩

theorem vouched_transaction {held : H} {t : Tx S E α} (h : ∀ s, D.After u s → D.ok s → ∀ a s', t s = .ok (a,s') →
    D.sys.guard s held s' → (D.step s s' ∧ D.ok s') ∧ Ret own a s') : D.Vouched rule Ret own (Prog.transaction held t) u := by
  intro s hs hok hg
  cases ht : t s with
  | ok r =>
    have hn : t.next s = r.2 := by simp only [Tx.next,ht]
    rw [hn] at hg ⊢
    change _ ∧ D.Vouched rule Ret own (Prog.outcome (t s)) r.2
    rw [ht]
    exact h s hs hok r.1 r.2 ht hg
  | error e =>
    have hn : t.next s = s := by simp only [Tx.next,ht]
    rw [hn]
    change _ ∧ D.Vouched rule Ret own (Prog.outcome (t s)) s
    rw [ht]
    exact ⟨⟨D.idle s,hok⟩,trivial⟩

theorem from_steps {Rel : S → S → Prop} {p : Prog S H A E α} (hsteps : p.Steps fun s _ s' => Rel s s')
    (hRel : ∀ s s', D.ok s → Rel s s' → D.step s s' ∧ D.ok s') : D.From (fun _ _ => True) p u := by
  induction p generalizing u with
  | ret a => trivial
  | fail e => trivial
  | tx held next k ih => exact fun s _ hok _ => ⟨hRel s _ hok (hsteps.1 s),ih s (hsteps.2 s)⟩
  | call q k ih => exact fun a => ih a (hsteps a)

/-- Whatever it was told and whatever tickets it has, the program pays for its questions
and keeps the rule. -/
class Licensed (D : Discipline S H A E R) (T : Tickets S Q C) (rule : List (Σ q, A q) → S → Q → Prop)
    (p : Prog S H A E α) : Prop where
  pays : ∀ own u, D.Pays T (fun _ _ _ => True) own p u
  vouched : ∀ own u, D.Vouched rule (fun _ _ _ => True) own p u

variable {T : Tickets S Q C}

theorem licensed_of_tame {Rel : S → S → Prop} {p : Prog S H A E α} [hp : Prog.Tame Rel T.marked p]
    (hRel : ∀ s s', D.ok s → Rel s s' → D.step s s' ∧ D.ok s') (hfree : ∀ own s q, ¬ T.marked q → rule own s q) :
    D.Licensed T rule p where
  pays _ _ := (pays_of_from (from_steps hp.steps hRel) hp.asks).imp fun _ _ _ _ => trivial
  vouched _ _ := vouched_of_from (from_steps hp.steps hRel) hp.asks hfree

instance licensed_ite {c : Prop} [Decidable c] {p p' : Prog S H A E α} [hp : D.Licensed T rule p] [hp' : D.Licensed T rule p'] :
    D.Licensed T rule (if c then p else p') := by
  split
  · exact hp
  · exact hp'

section Combinators
variable [Inhabited H]

instance licensed_bind {p : Prog S H A E α} {f : α → Prog S H A E β} [hp : D.Licensed T rule p]
    [hf : ∀ a, D.Licensed T rule (f a)] : D.Licensed T rule (p >>= f) where
  pays own u := (hp.pays own u).bind fun own' a u' _ _ => (hf a).pays own' u'
  vouched own u := (hp.vouched own u).bind fun own' a u' _ _ _ => (hf a).vouched own' u'

instance licensed_rescue {p : Prog S H A E α} {h : E → Prog S H A E α} [hp : D.Licensed T rule p]
    [hh : ∀ e, D.Licensed T rule (h e)] : D.Licensed T rule (rescue p h) where
  pays own u := (hp.pays own u).handle fun own' e u' _ => (hh e).pays own' u'
  vouched own u := (hp.vouched own u).handle fun own' e u' _ => (hh e).vouched own' u'

theorem vouched_bind {p : Prog S H A E α} {f : α → Prog S H A E β} (hp : D.Vouched rule Ret own p u)
    (hf : ∀ own' a u', D.After u u' → own ⊆ own' → Ret own' a u' → D.Vouched rule Ret' own' (f a) u') :
    D.Vouched rule Ret' own (p >>= f) u := Vouched.bind hp hf

theorem vouched_require_bind {c : Prop} [Decidable c] {e : E} {f : Unit → Prog S H A E β}
    (h : c → D.Vouched rule Ret' own (f ()) u) : D.Vouched rule Ret' own (require c e >>= f) u := by
  unfold require
  split
  · next hc => exact h hc
  · trivial

theorem vouched_orRaise_bind {o : Option α} {e : E} {f : α → Prog S H A E β}
    (h : ∀ a, o = some a → D.Vouched rule Ret' own (f a) u) : D.Vouched rule Ret' own (orRaise o e >>= f) u := by
  cases o with
  | some a => exact h a rfl
  | none => trivial

theorem vouched_read_bind {g : S → α} {f : α → Prog S H A E β}
    (h : ∀ s, D.After u s → D.ok s → D.Vouched rule Ret' own (f (g s)) s) :
    D.Vouched rule Ret' own (atomically (Tx.read g) >>= f) u := by
  have hread : D.Vouched rule (fun own' a s => own' = own ∧ D.After u s ∧ D.ok s ∧ a = g s) own
      (Prog.transaction default (Tx.read g) : Prog S H A E α) u := by
    refine vouched_transaction fun s hs hok a s' hrun _ => ?_
    cases hrun
    exact ⟨⟨D.idle s,hok⟩,rfl,hs,hok,rfl⟩
  refine vouched_bind hread ?_
  rintro own' a s - - ⟨rfl,hs,hok,rfl⟩
  exact h s hs hok

theorem vouched_ask_bind {q : Q} {f : A q → Prog S H A E β} (hq : ∀ s, D.After u s → rule own s q)
    (hf : ∀ a, D.Vouched rule Ret' (⟨q,a⟩ :: own) (f a) u) : D.Vouched rule Ret' own (Prog.ask q >>= f) u := ⟨hq,hf⟩

end Combinators
end Discipline

namespace World
variable {S H Q : Type} {A : Q → Type} {E R C : Type} {D : Discipline S H A E R}

/-- Vouched programs run together: each puts its next question only when the rule allows it. -/
theorem Reachable.vouched {rule : List (Σ q, A q) → S → Q → Prop} {s₀ : S} {w : World S H A E R}
    (hstart : ∀ p, D.sys.start p → ∀ u, D.Vouched rule (fun _ _ _ => True) [] p u) (h₀ : D.ok s₀)
    (h : Reachable D.sys (init s₀) w) {i : ℕ} {q : Q} {k : A q → Prog S H A E R} (hi : w.threads[i]? = some (.call q k)) :
    rule (answersOf w.trace i) w.trace.store q := by
  have key := h.threads (J := fun t => D.ok t.store) (I := fun i p t =>
    ∃ u, D.After u t.store ∧ D.Vouched rule (fun _ _ _ => True) (answersOf t i) p u) h₀ ?_ ?_ ?_
  · obtain ⟨u,hu,hrule,-⟩ := key.2 i _ hi
    exact hrule _ hu
  · intro p hp i t _ hlog
    rw [answersOf_eq_nil hlog]
    exact ⟨t.store,.refl _,hstart p hp _⟩
  · rintro i held next k t hok ⟨u,hu,hthread⟩ hg
    obtain ⟨⟨hstep,hok'⟩,hk⟩ := hthread _ hu hok hg
    refine ⟨⟨hok',_,.refl _,hk⟩,fun j p _ hj => ?_⟩
    obtain ⟨u',hu',hp'⟩ := hj
    exact ⟨u',hu'.commit hok hstep hok',hp'⟩
  · rintro i q k a t hok ⟨u,hu,hthread⟩ _
    refine ⟨⟨hok,u,hu,?_⟩,fun j p hji hj => ?_⟩
    · rw [answersOf_record_self]
      exact hthread.2 a
    · rw [answersOf_record_ne hji]
      exact hj

/-- What a question needs of the state, once true, holds of every question that was put. -/
theorem Reachable.vouched_log (holds : S → Q → Prop) {s₀ : S} {w : World S H A E R}
    (hstart : ∀ p, D.sys.start p → ∀ u, D.Vouched (fun _ s q => holds s q) (fun _ _ _ => True) [] p u)
    (hstays : ∀ s s' q, D.step s s' → holds s q → holds s' q) (h₀ : D.ok s₀) (h : Reachable D.sys (init s₀) w) :
    D.ok w.trace.store ∧ ∀ e ∈ w.trace.log, holds w.trace.store e.2.1 := by
  refine (h.threads (J := fun t => D.ok t.store ∧ ∀ e ∈ t.log, holds t.store e.2.1) (I := fun _ p t =>
    ∃ u own, D.After u t.store ∧ D.Vouched (fun _ s q => holds s q) (fun _ _ _ => True) own p u) ⟨h₀,nofun⟩ ?_ ?_ ?_).1
  · intro p hp i t _ _
    exact ⟨t.store,[],.refl _,hstart p hp _⟩
  · rintro i held next k t ⟨hok,hlog⟩ ⟨u,own,hu,hthread⟩ hg
    obtain ⟨⟨hstep,hok'⟩,hk⟩ := hthread _ hu hok hg
    refine ⟨⟨⟨hok',fun e he => hstays _ _ _ hstep (hlog e he)⟩,_,own,.refl _,hk⟩,fun j p _ hj => ?_⟩
    obtain ⟨u',own',hu',hp'⟩ := hj
    exact ⟨u',own',hu'.commit hok hstep hok',hp'⟩
  · rintro i q k a t ⟨hok,hlog⟩ ⟨u,own,hu,hthread⟩ _
    refine ⟨⟨⟨hok,fun e he => ?_⟩,u,_,hu,hthread.2 a⟩,fun j p _ hj => hj⟩
    rcases List.mem_cons.mp he with rfl | he
    · exact hthread.1 _ hu
    · exact hlog e he

end World
end Overseer.Library
