import Mathlib.Logic.Basic
import Mathlib.Order.Defs.Unbundled

/-! # Programs over a transactional store

A transaction computes on the stored state and leaves it as it was when it
raises. A program is a tree whose nodes are transactions and questions to the
outside. A store method is written once over `MonadStore`: inside a transaction
its statements join that transaction, in a program each one commits by itself.
-/
namespace Overseer.Library

def Tx (S E α : Type) : Type := S → Except E (α × S)

namespace Tx
variable {S E α β : Type}

def bind (t : Tx S E α) (f : α → Tx S E β) : Tx S E β := fun s =>
  match t s with
  | .ok (a,s') => f a s'
  | .error e => .error e

instance : Monad (Tx S E) where
  pure a := fun s => .ok (a,s)
  bind := bind

def read (f : S → α) : Tx S E α := fun s => .ok (f s,s)
def write (f : S → S) : Tx S E Unit := fun s => .ok ((),f s)
def raise (e : E) : Tx S E α := fun _ => .error e

/-- Handle an exception; what the failed part wrote is lost. -/
def rescue (t : Tx S E α) (h : E → Tx S E α) : Tx S E α := fun s =>
  match t s with
  | .ok r => .ok r
  | .error e => h e s

/-- The state a transaction leaves behind. -/
def next (t : Tx S E α) (s : S) : S :=
  match t s with
  | .ok (_,s') => s'
  | .error _ => s

/-- Whenever the transaction commits from `s`, its result and its state satisfy `Q`. -/
def Post (t : Tx S E α) (s : S) (Q : α → S → Prop) : Prop :=
  match t s with
  | .ok (a,s') => Q a s'
  | .error _ => True

@[simp] theorem post_pure (a : α) (s : S) (Q : α → S → Prop) :
    Post (pure a : Tx S E α) s Q ↔ Q a s := Iff.rfl

@[simp] theorem post_raise (e : E) (s : S) (Q : α → S → Prop) :
    Post (raise e : Tx S E α) s Q ↔ True := Iff.rfl

@[simp] theorem post_read (f : S → α) (s : S) (Q : α → S → Prop) :
    Post (read f : Tx S E α) s Q ↔ Q (f s) s := Iff.rfl

@[simp] theorem post_write (f : S → S) (s : S) (Q : Unit → S → Prop) :
    Post (write f : Tx S E Unit) s Q ↔ Q () (f s) := Iff.rfl

@[simp] theorem post_bind (t : Tx S E α) (f : α → Tx S E β) (s : S) (Q : β → S → Prop) :
    Post (t >>= f) s Q ↔ Post t s fun a s' => Post (f a) s' Q := by
  change Post (bind t f) s Q ↔ _
  simp only [Post,bind]
  cases t s <;> rfl

theorem post_true (t : Tx S E α) (s : S) : Post t s fun _ _ => True := by
  simp only [Post]
  cases t s <;> trivial

theorem Post.mono {t : Tx S E α} {s : S} {P Q : α → S → Prop} (h : Post t s P)
    (hPQ : ∀ a s', P a s' → Q a s') : Post t s Q := by
  simp only [Post] at *
  cases ht : t s with
  | ok r => rw [ht] at h; exact hPQ _ _ h
  | error e => trivial

theorem Post.of_ok {t : Tx S E α} {s s' : S} {a : α} {Q : α → S → Prop} (h : Post t s Q)
    (ht : t s = .ok (a,s')) : Q a s' := by
  simpa only [Post,ht] using h

theorem post_rescue {t : Tx S E α} {h : E → Tx S E α} {s : S} {Q : α → S → Prop}
    (ht : Post t s Q) (hh : ∀ e, Post (h e) s Q) : Post (rescue t h) s Q := by
  simp only [Post,rescue] at *
  cases hts : t s with
  | ok r => simpa only [hts] using ht
  | error e => exact hh e

theorem bind_of_ok {t : Tx S E α} {f : α → Tx S E β} {s s' : S} {a : α} (h : t s = .ok (a,s')) : (t >>= f) s = f a s' := by
  change bind t f s = _
  simp only [bind,h]

theorem bind_of_error {t : Tx S E α} {f : α → Tx S E β} {s : S} {e : E} (h : t s = .error e) : (t >>= f) s = .error e := by
  change bind t f s = _
  simp only [bind,h]

theorem next_of_post {t : Tx S E α} {s : S} {R : S → Prop} (hs : R s) (h : Post t s fun _ s' => R s') :
    R (t.next s) := by
  simp only [Post,next] at *
  cases ht : t s with
  | ok r => simpa only [ht] using h
  | error e => exact hs

end Tx

/-- Computations that read and write the store, raise and handle exceptions. -/
class MonadStore (S E : outParam Type) (m : Type → Type) extends Monad m where
  atomically {α : Type} : Tx S E α → m α
  raise {α : Type} : E → m α
  rescue {α : Type} : m α → (E → m α) → m α

export MonadStore (atomically raise rescue)

instance (S E : Type) : MonadStore S E (Tx S E) where
  atomically t := t
  raise := Tx.raise
  rescue := Tx.rescue

section Helpers
variable {S E : Type} {m : Type → Type} [MonadStore S E m] {α : Type}

/-- Go on when the condition holds, raise `e` otherwise. -/
def require (c : Prop) [Decidable c] (e : E) : m Unit := if c then pure () else raise e

/-- The value, or `e` raised when there is none. -/
def orRaise (o : Option α) (e : E) : m α :=
  match o with
  | some a => pure a
  | none => raise e

end Helpers

namespace Tx
variable {S E α : Type}

@[simp] theorem post_atomically (t : Tx S E α) (s : S) (Q : α → S → Prop) :
    Post (atomically t) s Q ↔ Post t s Q := Iff.rfl

@[simp] theorem post_raise_store (e : E) (s : S) (Q : α → S → Prop) :
    Post (Overseer.Library.raise e : Tx S E α) s Q ↔ True := Iff.rfl

@[simp] theorem post_require (c : Prop) [Decidable c] (e : E) (s : S) (Q : Unit → S → Prop) :
    Post (require c e : Tx S E Unit) s Q ↔ (c → Q () s) := by
  by_cases h : c <;> simp [require,h]

@[simp] theorem post_orRaise (o : Option α) (e : E) (s : S) (Q : α → S → Prop) :
    Post (orRaise o e : Tx S E α) s Q ↔ ∀ a, o = some a → Q a s := by
  cases o <;> simp [orRaise]

@[simp] theorem post_ite {c : Prop} [Decidable c] (t t' : Tx S E α) (s : S) (Q : α → S → Prop) :
    Post (if c then t else t') s Q ↔ (c → Post t s Q) ∧ (¬ c → Post t' s Q) := by
  by_cases h : c <;> simp [h]

end Tx

/-- Whenever the transaction commits, its state is related to the one it began with. -/
class Tx.Keeps {S E α : Type} (R : S → S → Prop) (t : Tx S E α) : Prop where
  keeps : ∀ s, t.Post s fun _ s' => R s s'

namespace Tx
variable {S E α β : Type} {R : S → S → Prop} [hR : IsPreorder S R] {c : Prop} [Decidable c]

instance : IsPreorder S fun s s' => s' = s where
  refl _ := rfl
  trans _ _ _ h h' := h'.trans h

/-- A transaction that writes nothing. -/
abbrev Reads (t : Tx S E α) : Prop := Keeps (fun s s' => s' = s) t

theorem Reads.post {t : Tx S E α} [h : Reads t] {s : S} {Q : α → S → Prop} (hQ : ∀ a, Q a s) : t.Post s Q :=
  (h.keeps s).mono fun a s' hs => by rw [hs]; exact hQ a

theorem keeps_of_reads {t : Tx S E α} (h : Reads t) : Keeps R t :=
  ⟨fun s => h.post fun _ => hR.refl s⟩

instance (a : α) : Keeps R (pure a : Tx S E α) := ⟨fun s => hR.refl s⟩
instance (e : E) : Keeps R (Overseer.Library.raise e : Tx S E α) := ⟨fun _ => trivial⟩
instance (f : S → α) : Keeps R (read f : Tx S E α) := ⟨fun s => hR.refl s⟩
instance (t : Tx S E α) [h : Keeps R t] : Keeps R (atomically t : Tx S E α) := h

instance bind_keeps {t : Tx S E α} {f : α → Tx S E β} [ht : Keeps R t] [hf : ∀ a, Keeps R (f a)] :
    Keeps R (t >>= f) := by
  refine ⟨fun s => ?_⟩
  rw [post_bind]
  exact (ht.keeps s).mono fun a s' h => ((hf a).keeps s').mono fun _ _ h' => hR.trans _ _ _ h h'

theorem Keeps.bind {t : Tx S E α} {f : α → Tx S E β} (ht : Keeps R t) (hf : ∀ a, Keeps R (f a)) : Keeps R (t >>= f) :=
  bind_keeps

instance rescue_keeps {t : Tx S E α} {h : E → Tx S E α} [ht : Keeps R t] [hh : ∀ e, Keeps R (h e)] :
    Keeps R (Overseer.Library.rescue t h) := ⟨fun s => post_rescue (ht.keeps s) fun e => (hh e).keeps s⟩

instance ite_keeps {t t' : Tx S E α} [ht : Keeps R t] [ht' : Keeps R t'] : Keeps R (if c then t else t') := by
  split
  · exact ht
  · exact ht'

instance (e : E) : Keeps R (require c e : Tx S E Unit) := by
  unfold require
  infer_instance

instance (o : Option α) (e : E) : Keeps R (orRaise o e : Tx S E α) := by
  cases o <;> unfold orRaise <;> infer_instance

end Tx

/-- A program with result type `α`: it returns, raises, commits a transaction and
goes on by what the transaction saw, or asks a question and goes on by the answer.
`held` names the copies of stored records the transaction works from. -/
inductive Prog (S H : Type) {Q : Type} (A : Q → Type) (E α : Type) : Type where
  | ret (a : α)
  | fail (e : E)
  | tx (held : H) (next : S → S) (k : S → Prog S H A E α)
  | call (q : Q) (k : A q → Prog S H A E α)

namespace Prog
variable {S H Q : Type} {A : Q → Type} {E α β : Type}

def bind : Prog S H A E α → (α → Prog S H A E β) → Prog S H A E β
  | .ret a, f => f a
  | .fail e, _ => .fail e
  | .tx held next k, f => .tx held next fun s => (k s).bind f
  | .call q k, f => .call q fun a => (k a).bind f

def handle : Prog S H A E α → (E → Prog S H A E α) → Prog S H A E α
  | .ret a, _ => .ret a
  | .fail e, h => h e
  | .tx held next k, h => .tx held next fun s => (k s).handle h
  | .call q k, h => .call q fun a => (k a).handle h

/-- What a program does after the outcome of a transaction. -/
def outcome : Except E (α × S) → Prog S H A E α
  | .ok (a,_) => .ret a
  | .error e => .fail e

/-- One transaction working from the copies `held`. -/
def transaction (held : H) (t : Tx S E α) : Prog S H A E α := .tx held t.next fun s => outcome (t s)

/-- Run the transactions of a program as working from the copies `held`. -/
def holding (held : H) : Prog S H A E α → Prog S H A E α
  | .ret a => .ret a
  | .fail e => .fail e
  | .tx _ next k => .tx held next fun s => (k s).holding held
  | .call q k => .call q fun a => (k a).holding held

/-- Put a question to the outside. -/
def ask (q : Q) : Prog S H A E (A q) := .call q .ret

theorem holding_bind (held : H) (p : Prog S H A E α) (f : α → Prog S H A E β) :
    (p.bind f).holding held = (p.holding held).bind fun a => (f a).holding held := by
  induction p with
  | ret a => rfl
  | fail e => rfl
  | tx h next k ih => simp only [bind,holding,ih]
  | call q k ih => simp only [bind,holding,ih]

theorem holding_transaction (held h : H) (t : Tx S E α) :
    (transaction h t : Prog S H A E α).holding held = transaction held t := by
  have key : ∀ r : Except E (α × S), (outcome r : Prog S H A E α).holding held = outcome r := by
    rintro (e | r) <;> rfl
  simp only [transaction,holding,key]

instance [Inhabited H] : MonadStore S E (Prog S H A E) where
  pure := .ret
  bind := bind
  atomically := transaction default
  raise := .fail
  rescue := handle

end Prog
end Overseer.Library
