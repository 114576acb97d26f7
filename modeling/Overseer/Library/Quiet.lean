import Overseer.Library.Protocol

/-! # Programs that write nothing and programs that keep silent

Two properties that instance search derives from the shape of a program: `Silent`,
no question is a marked one, and `Quiet`, moreover no transaction changes the
state. What a thread knows lasts through a quiet program.
-/
namespace Overseer.Library

namespace Prog
variable {S H Q : Type} {A : Q → Type} {E α β : Type} {isIt : Q → Prop}

class Silent (isIt : Q → Prop) (p : Prog S H A E α) : Prop where
  asks : p.Asks isIt 0

class Quiet (isIt : Q → Prop) (p : Prog S H A E α) : Prop where
  idles : p.Steps fun s _ s' => s' = s
  asks : p.Asks isIt 0

instance : Idle fun (s : S) (_ : H) (s' : S) => s' = s := ⟨fun _ _ => rfl⟩

theorem Asks.weaken {isIt' : Q → Prop} (h : ∀ q, isIt' q → isIt q) {p : Prog S H A E α} {n : ℕ}
    (hp : p.Asks isIt n) : p.Asks isIt' n := by
  induction p generalizing n with
  | ret a => trivial
  | fail e => trivial
  | tx held next k ih => exact fun s => ih s (hp s)
  | call q k ih =>
    by_cases hq : isIt q
    · obtain ⟨m,rfl,hm⟩ := hp.1 hq
      exact ⟨fun _ => ⟨m,rfl,fun a => ih a (hm a)⟩,fun _ a => (ih a (hm a)).mono (Nat.le_succ m)⟩
    · exact ⟨fun hq' => absurd (h q hq') hq,fun _ a => ih a (hp.2 hq a)⟩

theorem asks_one_of_silent (p : Prog S H A E α) [hp : Silent isIt p] : p.Asks isIt 1 :=
  hp.asks.mono (Nat.zero_le 1)

instance {c : Prop} [Decidable c] {p p' : Prog S H A E α} [hp : Silent isIt p] [hp' : Silent isIt p'] :
    Silent isIt (if c then p else p') := by
  split
  · exact hp
  · exact hp'

instance {c : Prop} [Decidable c] {p p' : Prog S H A E α} [hp : Quiet isIt p] [hp' : Quiet isIt p'] :
    Quiet isIt (if c then p else p') := by
  split
  · exact hp
  · exact hp'

instance {held : H} {p : Prog S H A E α} [hp : Silent isIt p] : Silent isIt (p.holding held) :=
  ⟨hp.asks.holding⟩

instance {held : H} {p : Prog S H A E α} [hp : Quiet isIt p] : Quiet isIt (p.holding held) :=
  ⟨hp.idles.holding fun _ _ _ h => h,hp.asks.holding⟩

variable [Inhabited H]

instance (a : α) : Silent isIt (pure a : Prog S H A E α) := ⟨trivial⟩
instance (a : α) : Quiet isIt (pure a : Prog S H A E α) := ⟨trivial,trivial⟩
instance (e : E) : Silent isIt (Overseer.Library.raise e : Prog S H A E α) := ⟨trivial⟩
instance (e : E) : Quiet isIt (Overseer.Library.raise e : Prog S H A E α) := ⟨trivial,trivial⟩
instance (t : Tx S E α) : Silent isIt (atomically t : Prog S H A E α) := ⟨asks_transaction⟩
instance (f : S → α) : Quiet isIt (atomically (Tx.read f) : Prog S H A E α) := ⟨steps_read f,asks_transaction⟩

instance bind_silent {p : Prog S H A E α} {f : α → Prog S H A E β} [hp : Silent isIt p]
    [hf : ∀ a, Silent isIt (f a)] : Silent isIt (p >>= f) := ⟨hp.asks.bind fun a => (hf a).asks⟩

instance bind_quiet {p : Prog S H A E α} {f : α → Prog S H A E β} [hp : Quiet isIt p]
    [hf : ∀ a, Quiet isIt (f a)] : Quiet isIt (p >>= f) :=
  ⟨steps_bind hp.idles fun a => (hf a).idles,hp.asks.bind fun a => (hf a).asks⟩

instance rescue_silent {p : Prog S H A E α} {h : E → Prog S H A E α} [hp : Silent isIt p]
    [hh : ∀ e, Silent isIt (h e)] : Silent isIt (rescue p h) := ⟨hp.asks.handle fun e => (hh e).asks⟩

instance rescue_quiet {p : Prog S H A E α} {h : E → Prog S H A E α} [hp : Quiet isIt p]
    [hh : ∀ e, Quiet isIt (h e)] : Quiet isIt (rescue p h) :=
  ⟨steps_rescue hp.idles fun e => (hh e).idles,hp.asks.handle fun e => (hh e).asks⟩

instance (c : Prop) [Decidable c] (e : E) : Silent isIt (require c e : Prog S H A E Unit) := by
  unfold require
  infer_instance

instance (c : Prop) [Decidable c] (e : E) : Quiet isIt (require c e : Prog S H A E Unit) := by
  unfold require
  infer_instance

instance (o : Option α) (e : E) : Silent isIt (orRaise o e : Prog S H A E α) := by
  cases o <;> exact ⟨trivial⟩

instance (o : Option α) (e : E) : Quiet isIt (orRaise o e : Prog S H A E α) := by
  cases o <;> exact ⟨trivial,trivial⟩

theorem asks_bind_one {p : Prog S H A E α} {f : α → Prog S H A E β} [hp : Silent isIt p]
    (hf : ∀ a, (f a).Asks isIt 1) : (p >>= f).Asks isIt 1 := Asks.bind hp.asks hf

/-- Until a transaction that satisfies `P` the program leaves the state as it is. -/
def UntilFirst (P : S → S → Prop) : Prog S H A E α → Prop
  | .ret _ => True
  | .fail _ => True
  | .tx _ next k => ∀ s, P s (next s) ∨ next s = s ∧ UntilFirst P (k s)
  | .call _ k => ∀ a, UntilFirst P (k a)

theorem untilFirst_bind {P : S → S → Prop} {p : Prog S H A E α} {f : α → Prog S H A E β}
    (hp : p.Steps fun s _ s' => s' = s) (hf : ∀ a, (f a).UntilFirst P) : (p >>= f).UntilFirst P := by
  change (p.bind f).UntilFirst P
  induction p with
  | ret a => exact hf a
  | fail e => trivial
  | tx held next k ih => exact fun s => .inr ⟨hp.1 s,ih s (hp.2 s)⟩
  | call q k ih => exact fun a => ih a (hp a)

theorem untilFirst_transaction_bind {P : S → S → Prop} {held : H} {t : Tx S E α} {f : α → Prog S H A E β}
    (h : ∀ s, t.Post s fun _ s' => P s s') : (transaction held t >>= f : Prog S H A E β).UntilFirst P := by
  intro s
  cases ht : t s with
  | ok r =>
    have hn : t.next s = r.2 := by simp only [Tx.next,ht]
    rw [hn]
    exact .inl ((h s).of_ok ht)
  | error e =>
    have hn : t.next s = s := by simp only [Tx.next,ht]
    refine .inr ⟨hn,?_⟩
    simp only [ht]
    trivial

end Prog

namespace Protocol
variable {S H Q : Type} {A : Q → Type} {E R α β : Type} {P : Protocol S H A E R} {i : ℕ}

/-- A protocol whose promise and invariant bear a commit of the unchanged state and
every question that is not marked. -/
structure Calm (P : Protocol S H A E R) (isIt : Q → Prop) : Prop where
  idle : ∀ i t, P.inv t → P.promise i t t.store ∧ P.inv (t.commit t.store)
  record : ∀ i t q a, P.inv t → P.sys.valid t q a → ¬ isIt q → P.inv (t.record i q a)

/-- Knowledge of thread `i` that neither the others nor its own idle steps undo. -/
structure Lasting (P : Protocol S H A E R) (i : ℕ) (F : Trace S A → Prop) : Prop where
  other : ∀ t t', P.Other i t t' → F t → F t'
  idle : ∀ t, F t → F (t.commit t.store)
  record : ∀ t q a, F t → F (t.record i q a)

theorem Lasting.later {F : Trace S A → Prop} (hF : P.Lasting i F) {t t' : Trace S A} (h : P.Later i t t')
    (ht : F t) : F t' := h.stable hF.other ht

theorem Lasting.and {F G : Trace S A → Prop} (hF : P.Lasting i F) (hG : P.Lasting i G) :
    P.Lasting i fun t => F t ∧ G t where
  other t t' h hh := ⟨hF.other t t' h hh.1,hG.other t t' h hh.2⟩
  idle t hh := ⟨hF.idle t hh.1,hG.idle t hh.2⟩
  record t q a hh := ⟨hF.record t q a hh.1,hG.record t q a hh.2⟩

theorem Lasting.of_extends {F : Trace S A → Prop} (hF : ∀ t t', t.Extends t' → F t → F t') :
    P.Lasting i F where
  other t t' h := hF t t' h.extends
  idle t := hF _ _ (Trace.extends_commit t _)
  record t q a := hF _ _ (Trace.extends_record t i q a)

theorem safe_quiet {isIt : Q → Prop} (hP : P.Calm isIt) {F : Trace S A → Prop} (hF : P.Lasting i F)
    (p : Prog S H A E α) [hp : Prog.Quiet isIt p] {t : Trace S A} (ht : F t) :
    P.Safe i (fun _ => F) (fun _ => F) p t := by
  obtain ⟨hidles,hasks⟩ := hp
  induction p generalizing t with
  | ret a => exact fun t' hl => hF.later hl ht
  | fail e => exact fun t' hl => hF.later hl ht
  | tx held next k ih =>
    intro t' hl _
    have ht' := hF.later hl ht
    rw [hidles.1 t'.store]
    exact ⟨(hP.idle i t' hl.1).1,(hP.idle i t' hl.1).2,ih _ (hF.idle t' ht') (hidles.2 _) (hasks _)⟩
  | call q k ih =>
    intro t' hl a ha
    have hq : ¬ isIt q := fun hq => by
      obtain ⟨m,hm,-⟩ := hasks.1 hq
      omega
    exact ⟨hP.record i t' q a hl.1 ha hq,ih a (hF.record t' q a (hF.later hl ht)) (hidles a) (hasks.2 hq a)⟩

section Combinators
variable [Inhabited H] {t : Trace S A} {F : Trace S A → Prop} {Ret : α → Trace S A → Prop}
  {Err : E → Trace S A → Prop}

theorem safe_bind {M : α → Trace S A → Prop} {Ret : β → Trace S A → Prop} {p : Prog S H A E α}
    {f : α → Prog S H A E β} (hp : P.Safe i M Err p t)
    (hf : ∀ a t', t.Extends t' → P.inv t' → M a t' → P.Safe i Ret Err (f a) t') :
    P.Safe i Ret Err (p >>= f) t := hp.bind hf

theorem safe_rescue {M : E → Trace S A → Prop} {p : Prog S H A E α} {h : E → Prog S H A E α}
    (hp : P.Safe i Ret M p t)
    (hh : ∀ e t', t.Extends t' → P.inv t' → M e t' → P.Safe i Ret Err (h e) t') :
    P.Safe i Ret Err (rescue p h) t := hp.handle hh

theorem safe_pure (hF : P.Lasting i F) (ht : F t) {a : α} (h : ∀ t', t.Extends t' → P.inv t' → F t' → Ret a t') :
    P.Safe i Ret Err (pure a : Prog S H A E α) t :=
  fun t' hl => h t' hl.extends hl.1 (hF.later hl ht)

theorem safe_holding_bind {M : α → Trace S A → Prop} {Ret : β → Trace S A → Prop} {held : H}
    {p : Prog S H A E α} {f : α → Prog S H A E β} (hp : P.Safe i M Err (p.holding held) t)
    (hf : ∀ a t', t.Extends t' → P.inv t' → M a t' → P.Safe i Ret Err ((f a).holding held) t') :
    P.Safe i Ret Err ((p >>= f).holding held) t := by
  change P.Safe i Ret Err ((p.bind f).holding held) t
  rw [Prog.holding_bind]
  exact hp.bind hf

theorem safe_holding_atomically {held : H} {tx : Tx S E α} (h : P.Safe i Ret Err (Prog.transaction held tx) t) :
    P.Safe i Ret Err ((atomically tx : Prog S H A E α).holding held) t := by
  change P.Safe i Ret Err ((Prog.transaction default tx).holding held) t
  rwa [Prog.holding_transaction]

theorem safe_require (hF : P.Lasting i F) (ht : F t) {c : Prop} [Decidable c] {e : E}
    (he : ∀ t', P.inv t' → F t' → Err e t') :
    P.Safe i (fun _ t' => F t' ∧ c) Err (require c e : Prog S H A E Unit) t := by
  unfold require
  split
  · next hc => exact fun t' hl => ⟨hF.later hl ht,hc⟩
  · exact fun t' hl => he t' hl.1 (hF.later hl ht)

end Combinators

theorem safe_read {isIt : Q → Prop} (hP : P.Calm isIt) {F : Trace S A → Prop} (hF : P.Lasting i F)
    {held : H} {f : S → α} {Err : E → Trace S A → Prop} {t : Trace S A} (ht : F t) {Ret : α → Trace S A → Prop}
    (h : ∀ t', P.inv t' → F t' → ∀ t'', F t'' → P.Later i (t'.commit t'.store) t'' → Ret (f t'.store) t'') :
    P.Safe i Ret Err (Prog.transaction held (Tx.read f)) t := by
  refine safe_transaction fun t' hl _ => ⟨(hP.idle i t' hl.1).1,(hP.idle i t' hl.1).2,?_,?_⟩
  · rintro a s' hrun t'' hl'
    cases hrun
    have ht' := hF.later hl ht
    exact h t' hl.1 ht' t'' (hF.later hl' (hF.idle t' ht')) hl'
  · intro e hrun
    cases hrun

/-- A transaction that keeps promise and invariant whenever it commits. -/
theorem safe_commit {isIt : Q → Prop} (hP : P.Calm isIt) {F : Trace S A → Prop} (hF : P.Lasting i F) {held : H}
    {tx : Tx S E α} {Ret : α → Trace S A → Prop} {Err : E → Trace S A → Prop} {t : Trace S A} (ht : F t)
    (h : ∀ t', P.inv t' → F t' → ∀ a s', tx t'.store = .ok (a,s') → P.sys.guard t'.store held s' →
      P.promise i t' s' ∧ P.inv (t'.commit s') ∧ ∀ t'', P.Later i (t'.commit s') t'' → Ret a t'')
    (he : ∀ e t', P.inv t' → F t' → Err e t') : P.Safe i Ret Err (Prog.transaction held tx) t := by
  refine safe_transaction fun t' hl hg => ?_
  have ht' := hF.later hl ht
  cases htx : tx t'.store with
  | ok r =>
    have hn : tx.next t'.store = r.2 := by simp only [Tx.next,htx]
    rw [hn] at hg ⊢
    obtain ⟨hp,hi,hret⟩ := h t' hl.1 ht' r.1 r.2 htx hg
    refine ⟨hp,hi,fun a s' hr => ?_,fun e hr => by cases hr⟩
    cases hr
    exact hret
  | error e =>
    have hn : tx.next t'.store = t'.store := by simp only [Tx.next,htx]
    rw [hn]
    refine ⟨(hP.idle i t' hl.1).1,(hP.idle i t' hl.1).2,fun a s' hr => (by cases hr),fun e' _ t'' hl' => ?_⟩
    exact he e' t'' hl'.1 (hF.later hl' (hF.idle t' ht'))

end Protocol
end Overseer.Library
