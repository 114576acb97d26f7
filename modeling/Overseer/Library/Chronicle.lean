import Overseer.Library.Program
import Mathlib.Data.List.Nodup

/-! # The events of a program by itself

Programs that run one after the other leave a list of events: commits, each with the store
before it and after it, and answered questions. A chronicle says what each of them has to
satisfy; it keeps the marks of the questions, so that one can be put no more than once.
-/
namespace Overseer.Library

inductive Event (S H : Type) {Q : Type} (A : Q → Type) where
  | commit (held : H) (s s' : S)
  | asked (s : S) (q : Q) (a : A q)

namespace Prog
variable {S H Q : Type} {A : Q → Type} {E α : Type}

/-- From `s` the program, undisturbed, has these events up to `s'`. It may be at its end there or break off. -/
inductive Recorded : Prog S H A E α → S → List (Event S H A) → S → Prop where
  | here (p : Prog S H A E α) (s : S) : Recorded p s [] s
  | tx (held : H) (next : S → S) (k : S → Prog S H A E α) {s s' : S} {events : List (Event S H A)}
      (h : Recorded (k s) (next s) events s') : Recorded (.tx held next k) s (.commit held s (next s) :: events) s'
  | call (q : Q) (k : A q → Prog S H A E α) (a : A q) {s s' : S} {events : List (Event S H A)}
      (h : Recorded (k a) s events s') : Recorded (.call q k) s (.asked s q a :: events) s'

/-- The first events of a program whose questions have these answers. -/
def record (answers : ∀ q, A q) : ℕ → Prog S H A E α → S → List (Event S H A) × S
  | n + 1, .tx held next k, s =>
    let rest := record answers n (k s) (next s)
    (.commit held s (next s) :: rest.1,rest.2)
  | n + 1, .call q k, s =>
    let rest := record answers n (k (answers q)) s
    (.asked s q (answers q) :: rest.1,rest.2)
  | _, _, s => ([],s)

theorem recorded_record (answers : ∀ q, A q) (n : ℕ) (p : Prog S H A E α) (s : S) :
    p.Recorded s (record answers n p s).1 (record answers n p s).2 := by
  induction n generalizing p s with
  | zero => exact .here p s
  | succ n ih =>
    cases p with
    | ret a => exact .here _ s
    | fail e => exact .here _ s
    | tx held next k => exact .tx held next k (ih (k s) (next s))
    | call q k => exact .call q k (answers q) (ih (k (answers q)) s)

end Prog

/-- What a store satisfies between two events with the marks so far, and what an event satisfies. -/
structure Chronicle (S H : Type) {Q : Type} (A : Q → Type) (K : Type) where
  allowed : S → H → S → Prop
  mark : Q → Option K
  ok : List K → S → Prop
  commit : S → H → S → Prop
  asked : S → Q → Prop

namespace Chronicle
variable {S H Q : Type} {A : Q → Type} {E K α β : Type} (C : Chronicle S H A K)

/-- The event may happen. -/
def Allowed : Event S H A → Prop
  | .commit held s s' => C.allowed s held s'
  | .asked _ _ _ => True

def Fine : Event S H A → Prop
  | .commit held s s' => C.commit s held s'
  | .asked s q _ => C.asked s q

def eventMark : Event S H A → Option K
  | .commit _ _ _ => none
  | .asked _ q _ => C.mark q

/-- From `s` on every event is fine, and what is returned satisfies `Ret` with the marks and the store then. -/
def Keeps (Ret : α → List K → S → Prop) : Prog S H A E α → List K → S → Prop
  | .ret a, ks, s => Ret a ks s
  | .fail _, _, _ => True
  | .tx held next k, ks, s => C.allowed s held (next s) →
      (C.commit s held (next s) ∧ C.ok ks (next s)) ∧ Keeps Ret (k s) ks (next s)
  | .call q k, ks, s => (C.asked s q ∧ C.ok ((C.mark q).toList ++ ks) s) ∧ ∀ a, Keeps Ret (k a) ((C.mark q).toList ++ ks) s

variable {C} {Ret : α → List K → S → Prop} {ks : List K} {s : S}

theorem Keeps.bind {M : α → List K → S → Prop} {Ret : β → List K → S → Prop} {p : Prog S H A E α} {f : α → Prog S H A E β}
    (h : C.Keeps M p ks s) (hf : ∀ a ks' s', M a ks' s' → C.Keeps Ret (f a) ks' s') : C.Keeps Ret (p.bind f) ks s := by
  induction p generalizing ks s with
  | ret a => exact hf a ks s h
  | fail e => trivial
  | tx held next k ih => exact fun hallowed => ⟨(h hallowed).1,ih s (h hallowed).2⟩
  | call q k ih => exact ⟨h.1,fun a => ih a (h.2 a)⟩

theorem Keeps.mono {Ret' : α → List K → S → Prop} {p : Prog S H A E α} (h : C.Keeps Ret p ks s)
    (hr : ∀ a ks' s', Ret a ks' s' → Ret' a ks' s') : C.Keeps Ret' p ks s := by
  induction p generalizing ks s with
  | ret a => exact hr a ks s h
  | fail e => trivial
  | tx held next k ih => exact fun hallowed => ⟨(h hallowed).1,ih s (h hallowed).2⟩
  | call q k ih => exact ⟨h.1,fun a => ih a (h.2 a)⟩

/-- A transaction and what follows it: with its result, or with its error at the store it left as it was. -/
theorem keeps_tx {Ret : β → List K → S → Prop} {held : H} {t : Tx S E α} {k : S → Prog S H A E β} (hok : C.ok ks s)
    (hidle : ∀ e, t s = .error e → C.commit s held s)
    (h : ∀ a s', t s = .ok (a,s') → C.allowed s held s' → (C.commit s held s' ∧ C.ok ks s') ∧ C.Keeps Ret (k s) ks s')
    (herror : ∀ e, t s = .error e → C.Keeps Ret (k s) ks s) : C.Keeps Ret (.tx held t.next k) ks s := by
  intro hallowed
  cases ht : t s with
  | ok r =>
    have hn : t.next s = r.2 := by simp only [Tx.next,ht]
    rw [hn] at hallowed ⊢
    exact h r.1 r.2 ht hallowed
  | error e =>
    have hn : t.next s = s := by simp only [Tx.next,ht]
    rw [hn]
    exact ⟨⟨hidle e ht,hok⟩,herror e ht⟩

theorem keeps_transaction {held : H} {t : Tx S E α} (hok : C.ok ks s) (hidle : ∀ e, t s = .error e → C.commit s held s)
    (h : t.Post s fun a s' => C.allowed s held s' → C.commit s held s' ∧ C.ok ks s' ∧ Ret a ks s') :
    C.Keeps Ret (Prog.transaction held t) ks s := by
  refine keeps_tx hok hidle (fun a s' ht hallowed => ?_) fun e ht => ?_
  · obtain ⟨hcommit,hok',hret⟩ := h.of_ok ht hallowed
    rw [ht]
    exact ⟨⟨hcommit,hok'⟩,hret⟩
  · rw [ht]
    trivial

section Combinators
variable [Inhabited H]

theorem keeps_bind {M : α → List K → S → Prop} {Ret : β → List K → S → Prop} {p : Prog S H A E α} {f : α → Prog S H A E β}
    (h : C.Keeps M p ks s) (hf : ∀ a ks' s', M a ks' s' → C.Keeps Ret (f a) ks' s') : C.Keeps Ret (p >>= f) ks s := h.bind hf

theorem keeps_rescue {t : Tx S E α} {h : E → Prog S H A E α} (hok : C.ok ks s)
    (hidle : ∀ e, t s = .error e → C.commit s default s)
    (ht : t.Post s fun a s' => C.allowed s default s' → C.commit s default s' ∧ C.ok ks s' ∧ Ret a ks s')
    (hh : ∀ e, C.Keeps Ret (h e) ks s) : C.Keeps Ret (rescue (atomically t : Prog S H A E α) h) ks s := by
  refine keeps_tx hok hidle (fun a s' hrun hallowed => ?_) fun e hrun => ?_
  · obtain ⟨hcommit,hok',hret⟩ := ht.of_ok hrun hallowed
    refine ⟨⟨hcommit,hok'⟩,?_⟩
    change C.Keeps Ret ((Prog.outcome (t s)).handle h) ks s'
    rw [hrun]
    exact hret
  · change C.Keeps Ret ((Prog.outcome (t s)).handle h) ks s
    rw [hrun]
    exact hh e

theorem keeps_ask_bind {q : Q} {Ret : β → List K → S → Prop} {f : A q → Prog S H A E β} (h : C.asked s q)
    (hok : C.ok ((C.mark q).toList ++ ks) s) (hf : ∀ a, C.Keeps Ret (f a) ((C.mark q).toList ++ ks) s) :
    C.Keeps Ret (Prog.ask q >>= f) ks s := ⟨⟨h,hok⟩,hf⟩

theorem keeps_orRaise {o : Option α} {e : E} (h : ∀ a, o = some a → Ret a ks s) : C.Keeps Ret (orRaise o e : Prog S H A E α) ks s := by
  cases o with
  | some a => exact h a rfl
  | none => trivial

theorem keeps_holding_bind {M : α → List K → S → Prop} {Ret : β → List K → S → Prop} {held : H} {p : Prog S H A E α}
    {f : α → Prog S H A E β} (h : C.Keeps M (p.holding held) ks s)
    (hf : ∀ a ks' s', M a ks' s' → C.Keeps Ret ((f a).holding held) ks' s') : C.Keeps Ret ((p >>= f).holding held) ks s := by
  change C.Keeps Ret ((p.bind f).holding held) ks s
  rw [Prog.holding_bind]
  exact h.bind hf

theorem keeps_holding_atomically {held : H} {t : Tx S E α} (h : C.Keeps Ret (Prog.transaction held t) ks s) :
    C.Keeps Ret ((atomically t : Prog S H A E α).holding held) ks s := by
  change C.Keeps Ret ((Prog.transaction default t).holding held) ks s
  rwa [Prog.holding_transaction]

end Combinators

/-- The marks of the events, latest first, before those there were. -/
def marks (ks : List K) (events : List (Event S H A)) : List K := (events.filterMap C.eventMark).reverse ++ ks

theorem Keeps.recorded {p : Prog S H A E α} {s' : S} {events : List (Event S H A)} (h : C.Keeps Ret p ks s) (hok : C.ok ks s)
    (hrun : p.Recorded s events s') (hallowed : ∀ e ∈ events, C.Allowed e) :
    (∀ e ∈ events, C.Fine e) ∧ C.ok (C.marks ks events) s' := by
  induction hrun generalizing ks with
  | here p s => exact ⟨fun _ he => (by cases he),hok⟩
  | tx held next k _ ih =>
    obtain ⟨hfine,hrest⟩ := h (hallowed _ List.mem_cons_self)
    obtain ⟨hevents,hok'⟩ := ih hrest hfine.2 fun e he => hallowed e (List.mem_cons_of_mem _ he)
    refine ⟨fun e he => ?_,hok'⟩
    rcases List.mem_cons.mp he with rfl | he
    · exact hfine.1
    · exact hevents e he
  | @call q k a s s' events _ ih =>
    obtain ⟨hevents,hok'⟩ := ih (h.2 a) h.1.2 fun e he => hallowed e (List.mem_cons_of_mem _ he)
    refine ⟨fun e he => ?_,?_⟩
    · rcases List.mem_cons.mp he with rfl | he
      · exact h.1.1
      · exact hevents e he
    · have hmarks : C.marks ks (.asked s q a :: events) = C.marks ((C.mark q).toList ++ ks) events := by
        unfold marks
        cases hmark : C.mark q with
        | none => simp [eventMark,hmark]
        | some k => simp [eventMark,hmark]
      rw [hmarks]
      exact hok'

end Chronicle
end Overseer.Library
