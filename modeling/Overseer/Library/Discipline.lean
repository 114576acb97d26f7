import Overseer.Library.Quiet

/-! # Disciplines

A discipline fixes the states a store may be in and what one commit may change.
`From` says that a program, begun when the store was `u`, keeps the discipline
whatever disciplined programs commit in between; what it learned of `u` it may use
at every later state. Programs that keep a discipline run together keep it.
-/
namespace Overseer.Library

structure Discipline (S H : Type) {Q : Type} (A : Q → Type) (E R : Type) where
  sys : System S H A E R
  ok : S → Prop
  step : S → S → Prop
  idle : ∀ s, step s s

namespace Discipline
variable {S H Q : Type} {A : Q → Type} {E R α β : Type} (D : Discipline S H A E R)

/-- The store may have become `s` since it was `u`. -/
def After (u s : S) : Prop := Relation.ReflTransGen (fun s s' => D.ok s ∧ D.step s s' ∧ D.ok s') u s

/-- From `u` on every commit keeps the discipline, and what is returned satisfies `Ret`
in the state the program last saw. -/
def From (Ret : α → S → Prop) : Prog S H A E α → S → Prop
  | .ret a, u => Ret a u
  | .fail _, _ => True
  | .tx held next k, u => ∀ s, D.After u s → D.ok s → D.sys.guard s held (next s) →
      (D.step s (next s) ∧ D.ok (next s)) ∧ From Ret (k s) (next s)
  | .call _ k, u => ∀ a, From Ret (k a) u

variable {D} {u u' s : S} {Ret : α → S → Prop}

theorem After.refl (u : S) : D.After u u := Relation.ReflTransGen.refl

theorem After.trans (h : D.After u u') (h' : D.After u' s) : D.After u s := Relation.ReflTransGen.trans h h'

theorem After.commit {s' : S} (h : D.After u s) (hs : D.ok s) (hstep : D.step s s') (hs' : D.ok s') :
    D.After u s' := Relation.ReflTransGen.tail h ⟨hs,hstep,hs'⟩

theorem After.lift {L : S → S → Prop} (h : D.After u s) (hrefl : ∀ s, L s s)
    (htrans : ∀ s s' s'', L s s' → L s' s'' → L s s'') (hstep : ∀ s s', D.ok s → D.step s s' → L s s') : L u s := by
  induction h with
  | refl => exact hrefl u
  | tail _ hs ih => exact htrans _ _ _ ih (hstep _ _ hs.1 hs.2.1)

theorem From.mono {Ret' : α → S → Prop} {p : Prog S H A E α} (h : D.From Ret p u)
    (hr : ∀ a u', D.After u u' → Ret a u' → Ret' a u') : D.From Ret' p u := by
  induction p generalizing u with
  | ret a => exact hr a u (.refl u) h
  | fail e => trivial
  | tx held next k ih =>
    intro s hs hok hg
    obtain ⟨hstep,hk⟩ := h s hs hok hg
    exact ⟨hstep,ih s hk fun a u' hu' => hr a u' ((hs.commit hok hstep.1 hstep.2).trans hu')⟩
  | call q k ih => exact fun a => ih a (h a) hr

theorem From.bind {M : α → S → Prop} {Ret : β → S → Prop} {p : Prog S H A E α} {f : α → Prog S H A E β}
    (h : D.From M p u) (hf : ∀ a u', D.After u u' → M a u' → D.From Ret (f a) u') : D.From Ret (p.bind f) u := by
  induction p generalizing u with
  | ret a => exact hf a u (.refl u) h
  | fail e => trivial
  | tx held next k ih =>
    intro s hs hok hg
    obtain ⟨hstep,hk⟩ := h s hs hok hg
    exact ⟨hstep,ih s hk fun a u' hu' => hf a u' ((hs.commit hok hstep.1 hstep.2).trans hu')⟩
  | call q k ih => exact fun a => ih a (h a) hf

theorem From.handle {p : Prog S H A E α} {h : E → Prog S H A E α} (hp : D.From Ret p u)
    (hh : ∀ e u', D.After u u' → D.From Ret (h e) u') : D.From Ret (p.handle h) u := by
  induction p generalizing u with
  | ret a => exact hp
  | fail e => exact hh e u (.refl u)
  | tx held next k ih =>
    intro s hs hok hg
    obtain ⟨hstep,hk⟩ := hp s hs hok hg
    exact ⟨hstep,ih s hk fun e u' hu' => hh e u' ((hs.commit hok hstep.1 hstep.2).trans hu')⟩
  | call q k ih => exact fun a => ih a (hp a) hh

theorem from_transaction {held : H} {t : Tx S E α} (h : ∀ s, D.After u s → D.ok s → ∀ a s', t s = .ok (a,s') →
    D.sys.guard s held s' → D.step s s' ∧ D.ok s' ∧ Ret a s') : D.From Ret (Prog.transaction held t) u := by
  intro s hs hok hg
  cases ht : t s with
  | ok r =>
    have hn : t.next s = r.2 := by simp only [Tx.next,ht]
    rw [hn] at hg ⊢
    obtain ⟨hstep,hok',hret⟩ := h s hs hok r.1 r.2 ht hg
    refine ⟨⟨hstep,hok'⟩,?_⟩
    simp only [ht]
    exact hret
  | error e =>
    have hn : t.next s = s := by simp only [Tx.next,ht]
    rw [hn]
    refine ⟨⟨D.idle s,hok⟩,?_⟩
    simp only [ht]
    trivial

theorem from_read {held : H} {f : S → α} (h : ∀ s, D.After u s → D.ok s → Ret (f s) s) :
    D.From Ret (Prog.transaction held (Tx.read f)) u := by
  refine from_transaction fun s hs hok a s' hrun _ => ?_
  cases hrun
  exact ⟨D.idle s,hok,h s hs hok⟩

/-- The program keeps the discipline from any state, without knowing anything of it. -/
class Sound (D : Discipline S H A E R) (p : Prog S H A E α) : Prop where
  sound : ∀ u, D.From (fun _ _ => True) p u

theorem Sound.of_from {p : Prog S H A E α} (h : ∀ u, D.From Ret p u) : D.Sound p :=
  ⟨fun u => (h u).mono fun _ _ _ _ => trivial⟩

section Combinators
variable [Inhabited H] {c : Prop} [Decidable c]

theorem from_bind {M : α → S → Prop} {Ret : β → S → Prop} {p : Prog S H A E α} {f : α → Prog S H A E β}
    (h : D.From M p u) (hf : ∀ a u', D.After u u' → M a u' → D.From Ret (f a) u') : D.From Ret (p >>= f) u :=
  From.bind h hf

theorem from_sound_bind {Ret : β → S → Prop} {p : Prog S H A E α} {f : α → Prog S H A E β} [hp : D.Sound p]
    (hf : ∀ a u', D.After u u' → D.From Ret (f a) u') : D.From Ret (p >>= f) u :=
  From.bind (hp.sound u) fun a u' hu' _ => hf a u' hu'

theorem from_rescue {p : Prog S H A E α} {h : E → Prog S H A E α} (hp : D.From Ret p u)
    (hh : ∀ e u', D.After u u' → D.From Ret (h e) u') : D.From Ret (rescue p h) u := hp.handle hh

theorem from_pure {a : α} (h : Ret a u) : D.From Ret (pure a : Prog S H A E α) u := h
theorem from_require (e : E) : D.From (fun _ u' => u' = u ∧ c) (require c e : Prog S H A E Unit) u := by
  unfold require
  split
  · next hc => exact ⟨rfl,hc⟩
  · trivial

theorem from_orRaise (o : Option α) (e : E) :
    D.From (fun a u' => u' = u ∧ o = some a) (orRaise o e : Prog S H A E α) u := by
  cases o with
  | some a => exact ⟨rfl,rfl⟩
  | none => trivial

theorem from_require_bind {Ret : β → S → Prop} {e : E} {f : Unit → Prog S H A E β}
    (h : c → D.From Ret (f ()) u) : D.From Ret (require c e >>= f) u := by
  refine from_bind (from_require e) ?_
  rintro - u' - ⟨rfl,hc⟩
  exact h hc

theorem from_orRaise_bind {Ret : β → S → Prop} {o : Option α} {e : E} {f : α → Prog S H A E β}
    (h : ∀ a, o = some a → D.From Ret (f a) u) : D.From Ret (orRaise o e >>= f) u := by
  refine from_bind (from_orRaise o e) ?_
  rintro a u' - ⟨rfl,ha⟩
  exact h a ha

theorem from_ask_bind {Ret : β → S → Prop} {q : Q} {f : A q → Prog S H A E β}
    (h : ∀ a, D.From Ret (f a) u) : D.From Ret (Prog.ask q >>= f) u := h

theorem from_read_bind {Ret : β → S → Prop} {g : S → α} {f : α → Prog S H A E β}
    (h : ∀ s, D.After u s → D.ok s → D.From Ret (f (g s)) s) :
    D.From Ret (atomically (Tx.read g) >>= f) u := by
  have hread : D.From (fun a s => D.After u s ∧ D.ok s ∧ a = g s) (Prog.transaction default (Tx.read g)) u :=
    from_read fun s hs hok => ⟨hs,hok,rfl⟩
  refine from_bind hread ?_
  rintro a s - ⟨hs,hok,rfl⟩
  exact h s hs hok

theorem from_holding_bind {M : α → S → Prop} {Ret : β → S → Prop} {held : H} {p : Prog S H A E α}
    {f : α → Prog S H A E β} (h : D.From M (p.holding held) u)
    (hf : ∀ a u', D.After u u' → M a u' → D.From Ret ((f a).holding held) u') :
    D.From Ret ((p >>= f).holding held) u := by
  change D.From Ret ((p.bind f).holding held) u
  rw [Prog.holding_bind]
  exact From.bind h hf

theorem from_holding_atomically {held : H} {t : Tx S E α} (h : D.From Ret (Prog.transaction held t) u) :
    D.From Ret ((atomically t : Prog S H A E α).holding held) u := by
  change D.From Ret ((Prog.transaction default t).holding held) u
  rwa [Prog.holding_transaction]

theorem from_holding_require {held : H} (e : E) :
    D.From (fun _ u' => u' = u ∧ c) (Prog.holding held (require c e : Prog S H A E Unit)) u := by
  unfold require
  split
  · next hc => exact ⟨rfl,hc⟩
  · trivial

instance (a : α) : D.Sound (pure a : Prog S H A E α) := ⟨fun _ => trivial⟩
instance (e : E) : D.Sound (Overseer.Library.raise e : Prog S H A E α) := ⟨fun _ => trivial⟩
instance (q : Q) : D.Sound (Prog.ask q : Prog S H A E (A q)) := ⟨fun _ _ => trivial⟩
instance (f : S → α) : D.Sound (atomically (Tx.read f) : Prog S H A E α) :=
  ⟨fun _ => from_read fun _ _ _ => trivial⟩

instance bind_sound {p : Prog S H A E α} {f : α → Prog S H A E β} [hp : D.Sound p] [hf : ∀ a, D.Sound (f a)] :
    D.Sound (p >>= f) := ⟨fun _ => from_sound_bind fun a u' _ => (hf a).sound u'⟩

theorem Sound.bind {p : Prog S H A E α} {f : α → Prog S H A E β} (hp : D.Sound p) (hf : ∀ a, D.Sound (f a)) :
    D.Sound (p >>= f) := bind_sound

instance rescue_sound {p : Prog S H A E α} {h : E → Prog S H A E α} [hp : D.Sound p]
    [hh : ∀ e, D.Sound (h e)] : D.Sound (rescue p h) := ⟨fun u => from_rescue (hp.sound u) fun e u' _ => (hh e).sound u'⟩

instance {p p' : Prog S H A E α} [hp : D.Sound p] [hp' : D.Sound p'] : D.Sound (if c then p else p') := by
  split
  · exact hp
  · exact hp'

instance (e : E) : D.Sound (require c e : Prog S H A E Unit) :=
  ⟨fun _ => (from_require e).mono fun _ _ _ _ => trivial⟩

instance (o : Option α) (e : E) : D.Sound (orRaise o e : Prog S H A E α) :=
  ⟨fun _ => (from_orRaise o e).mono fun _ _ _ _ => trivial⟩

omit [Inhabited H] in
theorem sound_of_quiet {isIt : Q → Prop} {p : Prog S H A E α} (hp : Prog.Quiet isIt p) : D.Sound p := by
  refine ⟨fun u => ?_⟩
  have hidles := hp.idles
  clear hp
  induction p generalizing u with
  | ret a => trivial
  | fail e => trivial
  | tx held next k ih =>
    intro s hs hok _
    rw [hidles.1 s]
    exact ⟨⟨D.idle s,hok⟩,ih s s (hidles.2 s)⟩
  | call q k ih => exact fun a => ih a u (hidles a)

/-- Commits related by `K` keep the discipline. -/
class Admits (D : Discipline S H A E R) (K : outParam (S → S → Prop)) : Prop where
  admits : ∀ s s', D.ok s → K s s' → D.step s s' ∧ D.ok s'

instance admitted_sound {K : S → S → Prop} [hD : Admits D K] (held : H) (t : Tx S E α) [ht : Tx.Keeps K t] :
    D.Sound (Prog.transaction held t : Prog S H A E α) := by
  refine ⟨fun u => from_transaction fun s _ hok a s' hrun _ => ?_⟩
  obtain ⟨hstep,hok'⟩ := hD.admits s s' hok ((ht.keeps s).of_ok hrun)
  exact ⟨hstep,hok',trivial⟩

instance {K : S → S → Prop} [Admits D K] (t : Tx S E α) [Tx.Keeps K t] :
    D.Sound (atomically t : Prog S H A E α) := admitted_sound default t

end Combinators
end Discipline

namespace World
variable {S H Q : Type} {A : Q → Type} {E R : Type}

/-- Programs run together that each keep the discipline: every state is one it allows, every commit is
one of its steps, and what a program is still to do is kept whatever was committed since it last looked. -/
theorem Reachable.kept (D : Discipline S H A E R) {Ret : R → S → Prop} {s₀ : S} {w : World S H A E R}
    (hstart : ∀ p, D.sys.start p → ∀ u, D.From Ret p u) (h₀ : D.ok s₀) (h : Reachable D.sys (init s₀) w) :
    ((∀ s ∈ w.trace.history, D.ok s) ∧ List.IsChain (fun s' s => D.step s s') w.trace.history) ∧
      ∀ p ∈ w.threads, ∃ u, D.After u w.trace.store ∧ D.From Ret p u := by
  have hrun := h.threads (J := fun t => (∀ s ∈ t.history, D.ok s) ∧ List.IsChain (fun s' s => D.step s s') t.history)
    (I := fun _ p t => ∃ u, D.After u t.store ∧ D.From Ret p u) ?_ ?_ ?_ ?_
  · refine ⟨hrun.1,fun p hp => ?_⟩
    obtain ⟨i,hi⟩ := List.mem_iff_getElem?.mp hp
    exact hrun.2 i p hi
  · refine ⟨fun s hs => ?_,List.isChain_singleton _⟩
    obtain rfl : s = s₀ := by simpa [Trace.start,Trace.history] using hs
    exact h₀
  · exact fun p hp i t _ _ => ⟨t.store,.refl _,hstart p hp _⟩
  · rintro i held next k t ⟨hok,hc⟩ ⟨u,hu,hthread⟩ hg
    have hnow := hok _ t.store_mem_history
    obtain ⟨⟨hstep,hok'⟩,hk⟩ := hthread _ hu hnow hg
    refine ⟨⟨⟨fun s hs => ?_,List.isChain_cons_cons.mpr ⟨hstep,hc⟩⟩,_,.refl _,hk⟩,fun j p _ hj => ?_⟩
    · rcases List.mem_cons.mp hs with rfl | hs
      · exact hok'
      · exact hok s hs
    · obtain ⟨u',hu',hp'⟩ := hj
      exact ⟨u',hu'.commit hnow hstep hok',hp'⟩
  · rintro i q k a t hJ ⟨u,hu,hthread⟩ _
    exact ⟨⟨hJ,u,hu,hthread a⟩,fun j p _ hj => hj⟩

theorem Reachable.returns (D : Discipline S H A E R) {Ret : R → S → Prop} {s₀ : S} {w : World S H A E R}
    (hstart : ∀ p, D.sys.start p → ∀ u, D.From Ret p u) (h₀ : D.ok s₀) (h : Reachable D.sys (init s₀) w) (a : R)
    (ha : Prog.ret a ∈ w.threads) : ∃ u, D.After u w.trace.store ∧ Ret a u := (h.kept D hstart h₀).2 _ ha

/-- Sound programs run together: every state is one the discipline allows and every
commit is one of its steps. -/
theorem Reachable.disciplined (D : Discipline S H A E R) {s₀ : S} {w : World S H A E R}
    (hstart : ∀ p, D.sys.start p → D.Sound p) (h₀ : D.ok s₀) (h : Reachable D.sys (init s₀) w) :
    (∀ s ∈ w.trace.history, D.ok s) ∧ List.IsChain (fun s' s => D.step s s') w.trace.history :=
  (h.kept D (fun p hp => (hstart p hp).sound) h₀).1

end World
end Overseer.Library
