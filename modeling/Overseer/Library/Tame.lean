import Overseer.Library.Quiet

/-! # Programs that stay within a relation

`Tame R isIt` says that every commit of a program is one of `R` and that it puts no marked
question; instance search derives it from the shape of the program. A protocol that bears
the commits of `R` bears every tame program.
-/
namespace Overseer.Library

namespace Prog
variable {S H Q : Type} {A : Q → Type} {E α β : Type} {R : S → S → Prop} {isIt : Q → Prop}

/-- A question that is not marked. -/
class Unmarked (isIt : Q → Prop) (q : Q) : Prop where
  unmarked : ¬ isIt q

class Tame (R : S → S → Prop) (isIt : Q → Prop) (p : Prog S H A E α) : Prop where
  steps : p.Steps fun s _ s' => R s s'
  asks : p.Asks isIt 0

theorem Tame.mono {R' : S → S → Prop} {p : Prog S H A E α} (hp : Tame R isIt p) (h : ∀ s s', R s s' → R' s s') :
    Tame R' isIt p := ⟨hp.steps.mono fun s _ s' => h s s',hp.asks⟩

variable {c : Prop} [Decidable c]

instance tame_ite {p p' : Prog S H A E α} [hp : Tame R isIt p] [hp' : Tame R isIt p'] : Tame R isIt (if c then p else p') := by
  split
  · exact hp
  · exact hp'

instance tame_ask (q : Q) [hq : Unmarked isIt q] : Tame R isIt (ask q : Prog S H A E (A q)) :=
  ⟨steps_ask q,asks_ask hq.unmarked⟩

instance tame_transaction [hR : IsPreorder S R] (held : H) (t : Tx S E α) [ht : Tx.Keeps R t] :
    Tame R isIt (transaction held t : Prog S H A E α) :=
  ⟨steps_transaction fun s => Tx.next_of_post (hR.refl s) (ht.keeps s),asks_transaction⟩

variable [Inhabited H]

instance (a : α) : Tame R isIt (pure a : Prog S H A E α) := ⟨trivial,trivial⟩
instance (e : E) : Tame R isIt (Overseer.Library.raise e : Prog S H A E α) := ⟨trivial,trivial⟩
instance [IsPreorder S R] (t : Tx S E α) [Tx.Keeps R t] : Tame R isIt (atomically t : Prog S H A E α) := tame_transaction default t

instance tame_bind {p : Prog S H A E α} {f : α → Prog S H A E β} [hp : Tame R isIt p] [hf : ∀ a, Tame R isIt (f a)] :
    Tame R isIt (p >>= f) := ⟨steps_bind hp.steps fun a => (hf a).steps,hp.asks.bind fun a => (hf a).asks⟩

theorem Tame.bind {p : Prog S H A E α} {f : α → Prog S H A E β} (hp : Tame R isIt p) (hf : ∀ a, Tame R isIt (f a)) :
    Tame R isIt (p >>= f) := tame_bind

instance tame_rescue {p : Prog S H A E α} {h : E → Prog S H A E α} [hp : Tame R isIt p] [hh : ∀ e, Tame R isIt (h e)] :
    Tame R isIt (rescue p h) := ⟨steps_rescue hp.steps fun e => (hh e).steps,hp.asks.handle fun e => (hh e).asks⟩

instance (e : E) : Tame R isIt (require c e : Prog S H A E Unit) := by
  unfold require
  infer_instance

instance (o : Option α) (e : E) : Tame R isIt (orRaise o e : Prog S H A E α) := by
  cases o <;> exact ⟨trivial,trivial⟩

end Prog

namespace Protocol
variable {S H Q : Type} {A : Q → Type} {E R' α : Type} {P : Protocol S H A E R'} {i : ℕ} {R : S → S → Prop} {isIt : Q → Prop}

/-- Commits of `R` keep promise and invariant, and so does every unmarked question. -/
structure Bears (P : Protocol S H A E R') (R : S → S → Prop) (isIt : Q → Prop) : Prop where
  commit : ∀ i t s', P.inv t → R t.store s' → P.promise i t s' ∧ P.inv (t.commit s')
  record : ∀ i t q a, P.inv t → P.sys.valid t q a → ¬ isIt q → P.inv (t.record i q a)

theorem Bears.calm [hR : IsPreorder S R] (hP : P.Bears R isIt) : P.Calm isIt where
  idle i t ht := hP.commit i t t.store ht (hR.refl _)
  record := hP.record

theorem safe_tame (hP : P.Bears R isIt) (p : Prog S H A E α) [hp : Prog.Tame R isIt p] {t : Trace S A} :
    P.Safe i (fun _ _ => True) (fun _ _ => True) p t := by
  obtain ⟨hsteps,hasks⟩ := hp
  induction p generalizing t with
  | ret a => exact fun _ _ => trivial
  | fail e => exact fun _ _ => trivial
  | tx held next k ih =>
    intro t' hl _
    obtain ⟨hpromise,hinv⟩ := hP.commit i t' _ hl.1 (hsteps.1 t'.store)
    exact ⟨hpromise,hinv,ih _ (hsteps.2 _) (hasks _)⟩
  | call q k ih =>
    intro t' hl a ha
    have hq : ¬ isIt q := by
      intro hq
      obtain ⟨m,hm,-⟩ := hasks.1 hq
      omega
    exact ⟨hP.record i t' q a hl.1 ha hq,ih a (hsteps a) (hasks.2 hq a)⟩

end Protocol
end Overseer.Library
