import Overseer.Library.Discipline

/-! # Questions that need a ticket

A ticket is given out by the commit after which it is `gone`, to the program that made
the commit, and given up with the question it is for. When a ticket that is gone stays
gone, its question is put at most once, however many programs run.
-/
namespace Overseer.Library

/-- The ticket a question needs, and when a ticket has been given out. -/
structure Tickets (S Q C : Type) where
  needs : Q → Option C
  gone : C → S → Prop

namespace Tickets
variable {S Q C : Type} (T : Tickets S Q C)

/-- The commit gives the ticket out. -/
def Issues (c : C) (s s' : S) : Prop := ¬ T.gone c s ∧ T.gone c s'

def marked (q : Q) : Prop := T.needs q ≠ none

/-- How often the log has the question of a ticket. -/
def put {A : Q → Type} [DecidableEq C] (log : List (ℕ × Σ q, A q)) (c : C) : ℕ :=
  log.countP fun e => T.needs e.2.1 = some c

end Tickets

namespace Discipline
variable {S H Q : Type} {A : Q → Type} {E R α β C : Type} (D : Discipline S H A E R) (T : Tickets S Q C)

/-- From `u` on the program keeps the discipline and, with the tickets `own`, pays for
every marked question. What it returns satisfies `Ret` with the tickets it then has. -/
def Pays (Ret : (C → Prop) → α → S → Prop) : (C → Prop) → Prog S H A E α → S → Prop
  | own, .ret a, u => Ret own a u
  | _, .fail _, _ => True
  | own, .tx held next k, u => ∀ s, D.After u s → D.ok s → D.sys.guard s held (next s) →
      (D.step s (next s) ∧ D.ok (next s)) ∧ Pays Ret (fun c => own c ∨ T.Issues c s (next s)) (k s) (next s)
  | own, .call q k, u => (∀ c, T.needs q = some c → own c) ∧
      ∀ a, Pays Ret (fun c => own c ∧ T.needs q ≠ some c) (k a) u

variable {D T} {u : S} {own own' : C → Prop} {Ret : (C → Prop) → α → S → Prop} {Ret' : (C → Prop) → β → S → Prop}

theorem Pays.mono {p : Prog S H A E α} (hp : D.Pays T (fun _ _ _ => True) own p u) (h : ∀ c, own c → own' c) :
    D.Pays T (fun _ _ _ => True) own' p u := by
  induction p generalizing u own own' with
  | ret a => trivial
  | fail e => trivial
  | tx held next k ih =>
    intro s hs hok hg
    exact ⟨(hp s hs hok hg).1,ih s (hp s hs hok hg).2 fun c => Or.imp_left (h c)⟩
  | call q k ih =>
    constructor
    · exact fun c hc => h c (hp.1 c hc)
    · exact fun a => ih a (hp.2 a) fun c => And.imp_left (h c)

theorem Pays.disciplined {p : Prog S H A E α} (hp : D.Pays T Ret own p u) : D.From (fun _ _ => True) p u := by
  induction p generalizing u own with
  | ret a => trivial
  | fail e => trivial
  | tx held next k ih => exact fun s hs hok hg => ⟨(hp s hs hok hg).1,ih s (hp s hs hok hg).2⟩
  | call q k ih => exact fun a => ih a (hp.2 a)

theorem Pays.bind {p : Prog S H A E α} {f : α → Prog S H A E β} (hp : D.Pays T Ret own p u)
    (hf : ∀ own' a u', D.After u u' → Ret own' a u' → D.Pays T Ret' own' (f a) u') :
    D.Pays T Ret' own (p.bind f) u := by
  induction p generalizing u own with
  | ret a => exact hf own a u (.refl u) hp
  | fail e => trivial
  | tx held next k ih =>
    intro s hs hok hg
    obtain ⟨hstep,hk⟩ := hp s hs hok hg
    exact ⟨hstep,ih s hk fun own' a u' hu' => hf own' a u' ((hs.commit hok hstep.1 hstep.2).trans hu')⟩
  | call q k ih => exact ⟨hp.1,fun a => ih a (hp.2 a) hf⟩

theorem Pays.handle {p : Prog S H A E α} {h : E → Prog S H A E α} (hp : D.Pays T Ret own p u)
    (hh : ∀ own' e u', D.After u u' → D.Pays T Ret own' (h e) u') : D.Pays T Ret own (p.handle h) u := by
  induction p generalizing u own with
  | ret a => exact hp
  | fail e => exact hh own e u (.refl u)
  | tx held next k ih =>
    intro s hs hok hg
    obtain ⟨hstep,hk⟩ := hp s hs hok hg
    exact ⟨hstep,ih s hk fun own' e u' hu' => hh own' e u' ((hs.commit hok hstep.1 hstep.2).trans hu')⟩
  | call q k ih => exact ⟨hp.1,fun a => ih a (hp.2 a) hh⟩

theorem pays_of_from {M : α → S → Prop} {p : Prog S H A E α} (hp : D.From M p u) (hasks : p.Asks T.marked 0) :
    D.Pays T (fun own' a u' => (∀ c, own c → own' c) ∧ M a u') own p u := by
  suffices key : ∀ now : C → Prop, (∀ c, own c → now c) →
      D.Pays T (fun own' a u' => (∀ c, own c → own' c) ∧ M a u') now p u from key own fun _ h => h
  induction p generalizing u with
  | ret a => exact fun now hnow => ⟨hnow,hp⟩
  | fail e => exact fun _ _ => trivial
  | tx held next k ih =>
    intro now hnow s hs hok hg
    obtain ⟨hstep,hk⟩ := hp s hs hok hg
    exact ⟨hstep,ih s hk (hasks s) _ fun c hc => .inl (hnow c hc)⟩
  | call q k ih =>
    intro now hnow
    have hq : ¬ T.marked q := by
      intro hq
      obtain ⟨m,hm,-⟩ := hasks.1 hq
      omega
    have hnone : T.needs q = none := not_not.mp hq
    constructor
    · intro c hc
      rw [hnone] at hc
      cases hc
    · exact fun a => ih a (hp a) (hasks.2 hq a) _ fun c hc => ⟨hnow c hc,by simp [hnone]⟩

theorem Pays.imp {Ret' : (C → Prop) → α → S → Prop} {p : Prog S H A E α} (hp : D.Pays T Ret own p u)
    (h : ∀ own' a u', Ret own' a u' → Ret' own' a u') : D.Pays T Ret' own p u := by
  induction p generalizing u own with
  | ret a => exact h own a u hp
  | fail e => trivial
  | tx held next k ih => exact fun s hs hok hg => ⟨(hp s hs hok hg).1,ih s (hp s hs hok hg).2⟩
  | call q k ih => exact ⟨hp.1,fun a => ih a (hp.2 a)⟩

theorem pays_transaction {held : H} {t : Tx S E α} (h : ∀ s, D.After u s → D.ok s → ∀ a s', t s = .ok (a,s') →
    D.sys.guard s held s' → (D.step s s' ∧ D.ok s') ∧ Ret (fun c => own c ∨ T.Issues c s s') a s') :
    D.Pays T Ret own (Prog.transaction held t) u := by
  intro s hs hok hg
  cases ht : t s with
  | ok r =>
    have hn : t.next s = r.2 := by simp only [Tx.next,ht]
    rw [hn] at hg ⊢
    change _ ∧ D.Pays T Ret _ (Prog.outcome (t s)) r.2
    rw [ht]
    exact h s hs hok r.1 r.2 ht hg
  | error e =>
    have hn : t.next s = s := by simp only [Tx.next,ht]
    rw [hn]
    change _ ∧ D.Pays T Ret _ (Prog.outcome (t s)) s
    rw [ht]
    exact ⟨⟨D.idle s,hok⟩,trivial⟩

theorem pays_last {M : α → S → Prop} {p : Prog S H A E α} [hs : Prog.Silent T.marked p] (hp : D.From M p u) :
    D.Pays T (fun _ _ _ => True) own p u := (pays_of_from hp hs.asks).imp fun _ _ _ _ => trivial

section Combinators
variable [Inhabited H]

theorem pays_bind {p : Prog S H A E α} {f : α → Prog S H A E β} (hp : D.Pays T Ret own p u)
    (hf : ∀ own' a u', D.After u u' → Ret own' a u' → D.Pays T Ret' own' (f a) u') :
    D.Pays T Ret' own (p >>= f) u := Pays.bind hp hf

theorem pays_from_bind {M : α → S → Prop} {p : Prog S H A E α} [hs : Prog.Silent T.marked p] {f : α → Prog S H A E β}
    (hp : D.From M p u) (hf : ∀ a u' own', D.After u u' → M a u' → (∀ c, own c → own' c) →
      D.Pays T Ret' own' (f a) u') : D.Pays T Ret' own (p >>= f) u :=
  Pays.bind (pays_of_from hp hs.asks) fun own' a u' hu' h => hf a u' own' hu' h.2 h.1

theorem pays_sound_bind {p : Prog S H A E α} [hp : D.Sound p] [hs : Prog.Silent T.marked p] {f : α → Prog S H A E β}
    (hf : ∀ a u' own', D.After u u' → (∀ c, own c → own' c) → D.Pays T Ret' own' (f a) u') :
    D.Pays T Ret' own (p >>= f) u :=
  pays_from_bind (hp.sound u) fun a u' own' hu' _ => hf a u' own' hu'

theorem pays_require_bind {c : Prop} [Decidable c] {e : E} {f : Unit → Prog S H A E β}
    (h : c → D.Pays T Ret' own (f ()) u) : D.Pays T Ret' own (require c e >>= f) u := by
  unfold require
  split
  · next hc => exact h hc
  · trivial

theorem pays_orRaise_bind {o : Option α} {e : E} {f : α → Prog S H A E β}
    (h : ∀ a, o = some a → D.Pays T Ret' own (f a) u) : D.Pays T Ret' own (orRaise o e >>= f) u := by
  cases o with
  | some a => exact h a rfl
  | none => trivial

theorem pays_ask_bind {q : Q} {f : A q → Prog S H A E β} (hown : ∀ c, T.needs q = some c → own c)
    (hf : ∀ a, D.Pays T Ret' (fun c => own c ∧ T.needs q ≠ some c) (f a) u) :
    D.Pays T Ret' own (Prog.ask q >>= f) u := ⟨hown,hf⟩

end Combinators
end Discipline

namespace World
variable {S H Q : Type} {A : Q → Type} {E R C : Type} [DecidableEq C]

/-- The tickets in a run: who holds which, and that a question was put for each at most once. -/
structure TicketsHeld (D : Discipline S H A E R) (T : Tickets S Q C) (own : ℕ → C → Prop) (w : World S H A E R) :
    Prop where
  ok : D.ok w.trace.store
  threads : ∀ (i : ℕ) p, w.threads[i]? = some p →
    ∃ u, D.After u w.trace.store ∧ D.Pays T (fun _ _ _ => True) (own i) p u
  holder : ∀ i c, own i c → i < w.threads.length ∧ T.gone c w.trace.store ∧ T.put w.trace.log c = 0
  unique : ∀ i j c, own i c → own j c → i = j
  once : ∀ c, T.put w.trace.log c ≤ 1 ∧ (T.put w.trace.log c ≠ 0 → T.gone c w.trace.store)

variable {D : Discipline S H A E R} {T : Tickets S Q C} {own : ℕ → C → Prop} {w : World S H A E R}

theorem TicketsHeld.start (h : TicketsHeld D T own w) {p : Prog S H A E R}
    (hpays : ∀ u, D.Pays T (fun _ _ _ => True) (fun _ => False) p u) : TicketsHeld D T own ⟨w.trace,w.threads ++ [p]⟩ where
  ok := h.ok
  threads i p' hi := by
    rcases Nat.lt_or_ge i w.threads.length with hlt | hge
    · rw [List.getElem?_append_left hlt] at hi
      exact h.threads i p' hi
    · obtain rfl : p' = p := by
        have hi' := hi
        rw [List.getElem?_append_right hge] at hi'
        exact List.mem_singleton.mp (List.mem_of_getElem? hi')
      exact ⟨w.trace.store,.refl _,(hpays _).mono fun _ => False.elim⟩
  holder i c hc := ⟨by simpa using Nat.lt_succ_of_lt (h.holder i c hc).1,(h.holder i c hc).2⟩
  unique := h.unique
  once := h.once

/-- A commit hands out the tickets that are gone by it. -/
theorem TicketsHeld.tx (h : TicketsHeld D T own w)
    (hgone : ∀ c s s', D.ok s → D.step s s' → T.gone c s → T.gone c s') {i : ℕ} {held : H} {next : S → S}
    {k : S → Prog S H A E R} (hi : w.threads[i]? = some (.tx held next k))
    (hg : D.sys.guard w.trace.store held (next w.trace.store)) :
    ∃ own', TicketsHeld D T own' ⟨w.trace.commit (next w.trace.store),w.threads.set i (k w.trace.store)⟩ := by
  obtain ⟨u,hu,hpays⟩ := h.threads i _ hi
  obtain ⟨⟨hstep,hok'⟩,hk⟩ := hpays _ hu h.ok hg
  have hlt : i < w.threads.length := (List.getElem?_eq_some_iff.mp hi).1
  refine ⟨fun j c => own j c ∨ j = i ∧ T.Issues c w.trace.store (next w.trace.store),?_⟩
  refine { ok := hok', threads := fun j p hj => ?_, holder := ?_, unique := ?_, once := ?_ }
  · by_cases hji : i = j
    · subst hji
      obtain rfl : k w.trace.store = p := by simpa [hlt] using hj
      exact ⟨_,.refl _,hk.mono fun c hc => hc.imp_right fun h => ⟨rfl,h⟩⟩
    · rw [List.getElem?_set_ne hji] at hj
      obtain ⟨u',hu',hp'⟩ := h.threads j p hj
      exact ⟨u',hu'.commit h.ok hstep hok',hp'.mono fun c => .inl⟩
  · rintro j c (hc | ⟨rfl,hissued⟩)
    · obtain ⟨hj,hgc,hput⟩ := h.holder j c hc
      exact ⟨by simpa using hj,hgone c _ _ h.ok hstep hgc,hput⟩
    · refine ⟨by simpa using hlt,hissued.2,?_⟩
      by_contra hput
      exact hissued.1 ((h.once c).2 hput)
  · rintro j j' c (hj | ⟨rfl,hissued⟩) (hj' | ⟨rfl,hissued'⟩)
    · exact h.unique j j' c hj hj'
    · exact absurd (h.holder j c hj).2.1 hissued'.1
    · exact absurd (h.holder j' c hj').2.1 hissued.1
    · rfl
  · exact fun c => ⟨(h.once c).1,fun hput => hgone c _ _ h.ok hstep ((h.once c).2 hput)⟩

/-- A marked question gives its ticket up. -/
theorem TicketsHeld.call (h : TicketsHeld D T own w) {i : ℕ} {q : Q} {k : A q → Prog S H A E R}
    (hi : w.threads[i]? = some (.call q k)) (a : A q) :
    ∃ own', TicketsHeld D T own' ⟨w.trace.record i q a,w.threads.set i (k a)⟩ := by
  obtain ⟨u,hu,hpays⟩ := h.threads i _ hi
  have hlt : i < w.threads.length := (List.getElem?_eq_some_iff.mp hi).1
  have hput : ∀ c, T.put (w.trace.record i q a).log c = T.put w.trace.log c + if T.needs q = some c then 1 else 0 := by
    intro c
    simp [Tickets.put,List.countP_cons]
  refine ⟨fun j c => own j c ∧ T.needs q ≠ some c,?_⟩
  refine { ok := h.ok, threads := fun j p hj => ?_, holder := ?_, unique := ?_, once := ?_ }
  · by_cases hji : i = j
    · subst hji
      obtain rfl : k a = p := by simpa [hlt] using hj
      exact ⟨u,hu,hpays.2 a⟩
    · rw [List.getElem?_set_ne hji] at hj
      obtain ⟨u',hu',hp'⟩ := h.threads j p hj
      refine ⟨u',hu',hp'.mono fun c hc => ⟨hc,fun hq => hji ?_⟩⟩
      exact h.unique i j c (hpays.1 c hq) hc
  · rintro j c ⟨hc,hq⟩
    obtain ⟨hj,hgc,hzero⟩ := h.holder j c hc
    exact ⟨by simpa using hj,hgc,by rw [hput,hzero,if_neg hq]⟩
  · exact fun j j' c hj hj' => h.unique j j' c hj.1 hj'.1
  · intro c
    rw [hput]
    by_cases hq : T.needs q = some c
    · obtain ⟨-,hgc,hzero⟩ := h.holder i c (hpays.1 c hq)
      rw [hzero,if_pos hq]
      exact ⟨le_refl _,fun _ => hgc⟩
    · rw [if_neg hq]
      exact h.once c

/-- Every marked question is put at most once for its ticket, which is gone then. -/
theorem Reachable.tickets {s₀ : S} (hstart : ∀ p, D.sys.start p → ∀ u, D.Pays T (fun _ _ _ => True) (fun _ => False) p u)
    (hgone : ∀ c s s', D.ok s → D.step s s' → T.gone c s → T.gone c s') (h₀ : D.ok s₀)
    (h : Reachable D.sys (init s₀) w) :
    ∀ c, T.put w.trace.log c ≤ 1 ∧ (T.put w.trace.log c ≠ 0 → T.gone c w.trace.store) := by
  suffices key : ∃ own, TicketsHeld D T own w by
    obtain ⟨own,hw⟩ := key
    exact hw.once
  refine h.invariant (P := fun w => ∃ own, TicketsHeld D T own w) ?_ ?_
  · refine ⟨fun _ _ => False,h₀,fun i p hi => ?_,fun _ _ => False.elim,fun _ _ _ => False.elim,fun c => ?_⟩
    · simp [init] at hi
    · simp [init,Trace.start,Tickets.put]
  · rintro w w' ⟨own,hw⟩ hs
    cases hs with
    | start p hp => exact ⟨own,hw.start (hstart p hp)⟩
    | tx i hi hg => exact hw.tx hgone hi hg
    | call i hi a _ => exact hw.call hi a

end World
end Overseer.Library
