import Overseer.Library.Runs

/-! # Reasoning about one thread among others

A protocol fixes the invariant of the trace and what each thread promises about
the states it commits. `Safe` says that a program keeps both from a given trace
on, whatever the other threads do under their promises. Safe programs run
together keep the invariant.
-/
namespace Overseer.Library

structure Protocol (S H : Type) {Q : Type} (A : Q → Type) (E R : Type) where
  sys : System S H A E R
  inv : Trace S A → Prop
  promise : ℕ → Trace S A → S → Prop

namespace Protocol
variable {S H Q : Type} {A : Q → Type} {E R α β : Type} (P : Protocol S H A E R) (i : ℕ)

/-- One step of a thread other than `i`. -/
inductive Other : Trace S A → Trace S A → Prop where
  | commit {t : Trace S A} (j : ℕ) (s : S) (hj : j ≠ i) (ht : P.inv t) (hp : P.promise j t s)
      (hi : P.inv (t.commit s)) : Other t (t.commit s)
  | record {t : Trace S A} (j : ℕ) (q : Q) (a : A q) (hj : j ≠ i) (ht : P.inv t)
      (ha : P.sys.valid t q a) (hi : P.inv (t.record j q a)) : Other t (t.record j q a)

/-- What thread `i` may find when it next runs. -/
def Later (t t' : Trace S A) : Prop := P.inv t' ∧ Relation.ReflTransGen (P.Other i) t t'

/-- From `t` on the program keeps the invariant and the promise of thread `i`,
returns only under `Ret` and raises only under `Err`. -/
def Safe (Ret : α → Trace S A → Prop) (Err : E → Trace S A → Prop) :
    Prog S H A E α → Trace S A → Prop
  | .ret a, t => ∀ t', P.Later i t t' → Ret a t'
  | .fail e, t => ∀ t', P.Later i t t' → Err e t'
  | .tx held next k, t => ∀ t', P.Later i t t' → P.sys.guard t'.store held (next t'.store) →
      P.promise i t' (next t'.store) ∧ P.inv (t'.commit (next t'.store)) ∧
      Safe Ret Err (k t'.store) (t'.commit (next t'.store))
  | .call q k, t => ∀ t', P.Later i t t' → ∀ a, P.sys.valid t' q a →
      P.inv (t'.record i q a) ∧ Safe Ret Err (k a) (t'.record i q a)

variable {P i} {t t' : Trace S A} {Ret : α → Trace S A → Prop} {Err : E → Trace S A → Prop}

theorem Other.extends (h : P.Other i t t') : t.Extends t' := by
  cases h with
  | commit j s => exact Trace.extends_commit _ s
  | record j q a => exact Trace.extends_record _ j q a

theorem Later.extends (h : P.Later i t t') : t.Extends t' := by
  obtain ⟨-,h⟩ := h
  induction h with
  | refl => exact Trace.Extends.refl t
  | tail _ hs ih => exact ih.trans hs.extends

theorem Later.refl (h : P.inv t) : P.Later i t t := ⟨h,.refl⟩

theorem Later.trans {t'' : Trace S A} (h : P.Later i t t') (h' : P.Later i t' t'') : P.Later i t t'' :=
  ⟨h'.1,h.2.trans h'.2⟩

theorem Later.stable {F : Trace S A → Prop} (h : P.Later i t t')
    (hF : ∀ t t', P.Other i t t' → F t → F t') (ht : F t) : F t' := by
  obtain ⟨-,h⟩ := h
  induction h with
  | refl => exact ht
  | tail _ hs ih => exact hF _ _ hs ih

theorem Safe.later {p : Prog S H A E α} (h : P.Safe i Ret Err p t) (hl : P.Later i t t') :
    P.Safe i Ret Err p t' := by
  cases p with
  | ret a => exact fun t'' h' => h t'' (hl.trans h')
  | fail e => exact fun t'' h' => h t'' (hl.trans h')
  | tx held next k => exact fun t'' h' => h t'' (hl.trans h')
  | call q k => exact fun t'' h' => h t'' (hl.trans h')

theorem Safe.of_later {p : Prog S H A E α} (h : ∀ t', P.Later i t t' → P.Safe i Ret Err p t') :
    P.Safe i Ret Err p t := by
  cases p with
  | ret a => exact fun t' hl => h t' hl t' (Later.refl hl.1)
  | fail e => exact fun t' hl => h t' hl t' (Later.refl hl.1)
  | tx held next k => exact fun t' hl => h t' hl t' (Later.refl hl.1)
  | call q k => exact fun t' hl => h t' hl t' (Later.refl hl.1)

theorem Safe.mono {Ret' : α → Trace S A → Prop} {Err' : E → Trace S A → Prop} {p : Prog S H A E α}
    (h : P.Safe i Ret Err p t) (hr : ∀ a t', t.Extends t' → P.inv t' → Ret a t' → Ret' a t')
    (he : ∀ e t', t.Extends t' → P.inv t' → Err e t' → Err' e t') : P.Safe i Ret' Err' p t := by
  induction p generalizing t with
  | ret a => exact fun t' hl => hr a t' hl.extends hl.1 (h t' hl)
  | fail e => exact fun t' hl => he e t' hl.extends hl.1 (h t' hl)
  | tx held next k ih =>
    intro t' hl hg
    obtain ⟨hp,hi,hk⟩ := h t' hl hg
    have hx := hl.extends.trans (Trace.extends_commit t' (next t'.store))
    exact ⟨hp,hi,ih _ hk (fun a t'' hx' => hr a t'' (hx.trans hx')) (fun e t'' hx' => he e t'' (hx.trans hx'))⟩
  | call q k ih =>
    intro t' hl a ha
    obtain ⟨hi,hk⟩ := h t' hl a ha
    have hx := hl.extends.trans (Trace.extends_record t' i q a)
    exact ⟨hi,ih a hk (fun a t'' hx' => hr a t'' (hx.trans hx')) (fun e t'' hx' => he e t'' (hx.trans hx'))⟩

theorem Safe.bind {M : α → Trace S A → Prop} {Ret : β → Trace S A → Prop} {p : Prog S H A E α}
    {f : α → Prog S H A E β} (hp : P.Safe i M Err p t)
    (hf : ∀ a t', t.Extends t' → P.inv t' → M a t' → P.Safe i Ret Err (f a) t') :
    P.Safe i Ret Err (p.bind f) t := by
  induction p generalizing t with
  | ret a => exact .of_later fun t' hl => hf a t' hl.extends hl.1 (hp t' hl)
  | fail e => exact hp
  | tx held next k ih =>
    intro t' hl hg
    obtain ⟨hp',hi,hk⟩ := hp t' hl hg
    have hx := hl.extends.trans (Trace.extends_commit t' (next t'.store))
    exact ⟨hp',hi,ih _ hk fun a t'' hx' => hf a t'' (hx.trans hx')⟩
  | call q k ih =>
    intro t' hl a ha
    obtain ⟨hi,hk⟩ := hp t' hl a ha
    have hx := hl.extends.trans (Trace.extends_record t' i q a)
    exact ⟨hi,ih a hk fun a t'' hx' => hf a t'' (hx.trans hx')⟩

theorem Safe.handle {M : E → Trace S A → Prop} {p : Prog S H A E α} {h : E → Prog S H A E α}
    (hp : P.Safe i Ret M p t)
    (hh : ∀ e t', t.Extends t' → P.inv t' → M e t' → P.Safe i Ret Err (h e) t') :
    P.Safe i Ret Err (p.handle h) t := by
  induction p generalizing t with
  | ret a => exact hp
  | fail e => exact .of_later fun t' hl => hh e t' hl.extends hl.1 (hp t' hl)
  | tx held next k ih =>
    intro t' hl hg
    obtain ⟨hp',hi,hk⟩ := hp t' hl hg
    have hx := hl.extends.trans (Trace.extends_commit t' (next t'.store))
    exact ⟨hp',hi,ih _ hk fun e t'' hx' => hh e t'' (hx.trans hx')⟩
  | call q k ih =>
    intro t' hl a ha
    obtain ⟨hi,hk⟩ := hp t' hl a ha
    have hx := hl.extends.trans (Trace.extends_record t' i q a)
    exact ⟨hi,ih a hk fun e t'' hx' => hh e t'' (hx.trans hx')⟩

/-- A transaction is safe when each commit keeps promise and invariant and gives
`Ret`, and each refusal, which leaves the state as it was, gives `Err`. The facts
must last until the thread next runs. -/
theorem safe_transaction {held : H} {tx : Tx S E α}
    (hok : ∀ t', P.Later i t t' → P.sys.guard t'.store held (tx.next t'.store) →
      P.promise i t' (tx.next t'.store) ∧ P.inv (t'.commit (tx.next t'.store)) ∧
      (∀ a s', tx t'.store = .ok (a,s') → ∀ t'', P.Later i (t'.commit s') t'' → Ret a t'') ∧
      (∀ e, tx t'.store = .error e → ∀ t'', P.Later i (t'.commit t'.store) t'' → Err e t'')) :
    P.Safe i Ret Err (Prog.transaction held tx) t := by
  intro t' hl hg
  obtain ⟨hp,hi,hret,herr⟩ := hok t' hl hg
  refine ⟨hp,hi,?_⟩
  cases htx : tx t'.store with
  | ok r =>
    have hn : tx.next t'.store = r.2 := by simp only [Tx.next,htx]
    simp only [htx,hn]
    exact hret r.1 r.2 htx
  | error e =>
    have hn : tx.next t'.store = t'.store := by simp only [Tx.next,htx]
    simp only [htx,hn]
    exact herr e htx

theorem safe_ask {q : Q} {Ret : A q → Trace S A → Prop}
    (h : ∀ t', P.Later i t t' → ∀ a, P.sys.valid t' q a → P.inv (t'.record i q a) ∧
      ∀ t'', P.Later i (t'.record i q a) t'' → Ret a t'') :
    P.Safe i Ret Err (Prog.ask q : Prog S H A E (A q)) t := h

end Protocol

namespace World
variable {S H Q : Type} {A : Q → Type} {E R : Type} {P : Protocol S H A E R}

/-- Safe programs run together keep the invariant, and each of them stays safe. -/
theorem Reachable.safe {Ret : R → Trace S A → Prop} {Err : E → Trace S A → Prop} {s₀ : S}
    {w : World S H A E R} (h₀ : P.inv (Trace.start s₀))
    (hstart : ∀ p, P.sys.start p → ∀ i t, P.inv t → (∀ e ∈ t.log, e.1 < i) → P.Safe i Ret Err p t)
    (h : Reachable P.sys (init s₀) w) :
    P.inv w.trace ∧ ∀ i p, w.threads[i]? = some p → P.Safe i Ret Err p w.trace := by
  refine h.threads (J := P.inv) (I := fun i p t => P.Safe i Ret Err p t) h₀ hstart ?_ ?_
  · intro i held next k t hinv hsafe hg
    obtain ⟨hp,hinv',hk⟩ := hsafe t (.refl hinv) hg
    exact ⟨⟨hinv',hk⟩,fun j p hji hj => hj.later ⟨hinv',.single (.commit i _ hji.symm hinv hp hinv')⟩⟩
  · intro i q k a t hinv hsafe ha
    obtain ⟨hinv',hk⟩ := hsafe t (.refl hinv) a ha
    exact ⟨⟨hinv',hk⟩,fun j p hji hj => hj.later ⟨hinv',.single (.record i q a hji.symm hinv ha hinv')⟩⟩

end World
end Overseer.Library
