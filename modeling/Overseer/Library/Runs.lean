import Overseer.Library.Program
import Mathlib.Logic.Relation
import Mathlib.Data.List.Chain
import Mathlib.Data.List.Basic

/-! # Interleaved runs of programs

Any number of programs run over one store. A step starts a program, commits one
transaction of a running one or answers one of its questions. A program that
crashes is one that takes no further step, so every run is also a run cut by
crashes at arbitrary points.
-/
namespace Overseer.Library

/-- The stored state, the states before it, latest first, and the questions
answered so far with the thread that asked. -/
structure Trace (S : Type) {Q : Type} (A : Q → Type) where
  store : S
  past : List S
  log : List (ℕ × Σ q, A q)

namespace Trace
variable {S Q : Type} {A : Q → Type}

def start (s : S) : Trace S A := ⟨s,[],[]⟩
def commit (t : Trace S A) (s : S) : Trace S A := ⟨s,t.store :: t.past,t.log⟩
def record (t : Trace S A) (i : ℕ) (q : Q) (a : A q) : Trace S A := ⟨t.store,t.past,(i,⟨q,a⟩) :: t.log⟩
def history (t : Trace S A) : List S := t.store :: t.past

@[simp] theorem commit_store (t : Trace S A) (s : S) : (t.commit s).store = s := rfl
@[simp] theorem commit_log (t : Trace S A) (s : S) : (t.commit s).log = t.log := rfl
@[simp] theorem commit_history (t : Trace S A) (s : S) : (t.commit s).history = s :: t.history := rfl
@[simp] theorem record_store (t : Trace S A) (i : ℕ) (q : Q) (a : A q) :
    (t.record i q a).store = t.store := rfl
@[simp] theorem record_log (t : Trace S A) (i : ℕ) (q : Q) (a : A q) :
    (t.record i q a).log = (i,⟨q,a⟩) :: t.log := rfl
@[simp] theorem record_history (t : Trace S A) (i : ℕ) (q : Q) (a : A q) :
    (t.record i q a).history = t.history := rfl

theorem store_mem_history (t : Trace S A) : t.store ∈ t.history := List.mem_cons_self

/-- The later trace remembers everything the earlier one does. -/
def Extends (t t' : Trace S A) : Prop := t.history ⊆ t'.history ∧ t.log ⊆ t'.log

theorem Extends.refl (t : Trace S A) : t.Extends t := ⟨fun _ h => h,fun _ h => h⟩

theorem Extends.trans {t t' t'' : Trace S A} (h : t.Extends t') (h' : t'.Extends t'') : t.Extends t'' :=
  ⟨fun _ hs => h'.1 (h.1 hs),fun _ he => h'.2 (h.2 he)⟩

theorem extends_commit (t : Trace S A) (s : S) : t.Extends (t.commit s) :=
  ⟨fun _ h => List.mem_cons_of_mem _ h,fun _ h => h⟩

theorem extends_record (t : Trace S A) (i : ℕ) (q : Q) (a : A q) : t.Extends (t.record i q a) :=
  ⟨fun _ h => h,fun _ h => List.mem_cons_of_mem _ h⟩

end Trace

/-- Which programs may be started, which answers the outside may give, and which
commits a run is allowed to make from the copies a transaction holds. -/
structure System (S H : Type) {Q : Type} (A : Q → Type) (E R : Type) where
  start : Prog S H A E R → Prop
  valid : Trace S A → (q : Q) → A q → Prop
  guard : S → H → S → Prop

structure World (S H : Type) {Q : Type} (A : Q → Type) (E R : Type) where
  trace : Trace S A
  threads : List (Prog S H A E R)

namespace World
variable {S H Q : Type} {A : Q → Type} {E R : Type}

def init (s : S) : World S H A E R := ⟨Trace.start s,[]⟩

inductive Step (sys : System S H A E R) : World S H A E R → World S H A E R → Prop where
  | start {w : World S H A E R} (p : Prog S H A E R) (hp : sys.start p) :
      Step sys w ⟨w.trace,w.threads ++ [p]⟩
  | tx {w : World S H A E R} (i : ℕ) {held : H} {next : S → S} {k : S → Prog S H A E R}
      (hi : w.threads[i]? = some (.tx held next k))
      (hg : sys.guard w.trace.store held (next w.trace.store)) :
      Step sys w ⟨w.trace.commit (next w.trace.store),w.threads.set i (k w.trace.store)⟩
  | call {w : World S H A E R} (i : ℕ) {q : Q} {k : A q → Prog S H A E R}
      (hi : w.threads[i]? = some (.call q k)) (a : A q) (ha : sys.valid w.trace q a) :
      Step sys w ⟨w.trace.record i q a,w.threads.set i (k a)⟩

def Reachable (sys : System S H A E R) (w₀ w : World S H A E R) : Prop :=
  Relation.ReflTransGen (Step sys) w₀ w

theorem Reachable.invariant {sys : System S H A E R} {w₀ w : World S H A E R} {P : World S H A E R → Prop}
    (h : Reachable sys w₀ w) (h₀ : P w₀) (hstep : ∀ w w', P w → Step sys w w' → P w') : P w := by
  induction h with
  | refl => exact h₀
  | tail _ hs ih => exact hstep _ _ ih hs

theorem Reachable.getLast?_history {sys : System S H A E R} {s₀ : S} {w : World S H A E R}
    (h : Reachable sys (init s₀) w) : w.trace.history.getLast? = some s₀ := by
  induction h with
  | refl => rfl
  | @tail w w' _ hs ih =>
    cases hs with
    | start p hp => exact ih
    | tx i hi hg =>
      rw [Trace.commit_history,List.getLast?_cons,ih]
      rfl
    | call i hi a ha => exact ih

/-- The questions of the log were put by threads that run. -/
def LogOfThreads (w : World S H A E R) : Prop := ∀ e ∈ w.trace.log, e.1 < w.threads.length

theorem LogOfThreads.step {sys : System S H A E R} {w w' : World S H A E R} (h : w.LogOfThreads) (hs : Step sys w w') :
    w'.LogOfThreads := by
  intro e he
  cases hs with
  | start p hp => simpa using Nat.lt_succ_of_lt (h e he)
  | tx i hi hg => simpa using h e he
  | call i hi a ha =>
    have hlt : i < w.threads.length := (List.getElem?_eq_some_iff.mp hi).1
    rcases List.mem_cons.mp he with rfl | he
    · simpa using hlt
    · simpa using h e he

theorem thread_set {threads : List (Prog S H A E R)} {i j : ℕ} {p p' : Prog S H A E R} (h : (threads.set i p)[j]? = some p') :
    (j = i ∧ p' = p) ∨ (j ≠ i ∧ threads[j]? = some p') := by
  rw [List.getElem?_set] at h
  split at h
  · next hij =>
    split at h
    · exact .inl ⟨hij.symm,(Option.some.inj h).symm⟩
    · cases h
  · next hij => exact .inr ⟨fun hji => hij hji.symm,h⟩

theorem thread_append {threads : List (Prog S H A E R)} {j : ℕ} {p p' : Prog S H A E R} (h : (threads ++ [p])[j]? = some p') :
    threads[j]? = some p' ∨ (j = threads.length ∧ p' = p) := by
  rcases Nat.lt_trichotomy j threads.length with hlt | rfl | hgt
  · rw [List.getElem?_append_left hlt] at h
    exact .inl h
  · rw [List.getElem?_concat_length] at h
    exact .inr ⟨rfl,(Option.some.inj h).symm⟩
  · rw [List.getElem?_eq_none (by simp; omega)] at h
    cases h

/-- What a step does to the trace, to its own thread and to the others carries over to runs. -/
theorem Reachable.threads {sys : System S H A E R} {s₀ : S} {w : World S H A E R} {J : Trace S A → Prop}
    {I : ℕ → Prog S H A E R → Trace S A → Prop} (h₀ : J (Trace.start s₀))
    (hstart : ∀ p, sys.start p → ∀ i t, J t → (∀ e ∈ t.log, e.1 < i) → I i p t)
    (htx : ∀ i held next k t, J t → I i (.tx held next k) t → sys.guard t.store held (next t.store) →
      (J (t.commit (next t.store)) ∧ I i (k t.store) (t.commit (next t.store))) ∧
      ∀ j p, j ≠ i → I j p t → I j p (t.commit (next t.store)))
    (hcall : ∀ i q k a t, J t → I i (.call q k) t → sys.valid t q a →
      (J (t.record i q a) ∧ I i (k a) (t.record i q a)) ∧ ∀ j p, j ≠ i → I j p t → I j p (t.record i q a))
    (h : Reachable sys (init s₀) w) : J w.trace ∧ ∀ i p, w.threads[i]? = some p → I i p w.trace := by
  suffices key : w.LogOfThreads ∧ J w.trace ∧ ∀ i p, w.threads[i]? = some p → I i p w.trace from key.2
  refine h.invariant (P := fun w => w.LogOfThreads ∧ J w.trace ∧ ∀ i p, w.threads[i]? = some p → I i p w.trace) ?_ ?_
  · refine ⟨fun e he => ?_,h₀,fun i p hi => ?_⟩
    · simp [init,Trace.start] at he
    · simp [init] at hi
  · rintro w w' ⟨hlog,hJ,hI⟩ hs
    refine ⟨hlog.step hs,?_⟩
    cases hs with
    | start p hp =>
      refine ⟨hJ,fun j p' hj => ?_⟩
      rcases thread_append hj with hj | ⟨rfl,rfl⟩
      · exact hI j p' hj
      · exact hstart p' hp _ _ hJ hlog
    | tx i hi hg =>
      obtain ⟨⟨hJ',hi'⟩,hother⟩ := htx i _ _ _ _ hJ (hI i _ hi) hg
      refine ⟨hJ',fun j p' hj => ?_⟩
      rcases thread_set hj with ⟨rfl,rfl⟩ | ⟨hne,hj⟩
      · exact hi'
      · exact hother j p' hne (hI j p' hj)
    | call i hi a ha =>
      obtain ⟨⟨hJ',hi'⟩,hother⟩ := hcall i _ _ a _ hJ (hI i _ hi) ha
      refine ⟨hJ',fun j p' hj => ?_⟩
      rcases thread_set hj with ⟨rfl,rfl⟩ | ⟨hne,hj⟩
      · exact hi'
      · exact hother j p' hne (hI j p' hj)

end World

namespace Prog
variable {S H Q : Type} {A : Q → Type} {E α β R : Type}

/-- Every transaction of the program, run from any state, satisfies `Rel`. -/
def Steps (Rel : S → H → S → Prop) : Prog S H A E α → Prop
  | .ret _ => True
  | .fail _ => True
  | .tx held next k => (∀ s, Rel s held (next s)) ∧ ∀ s, (k s).Steps Rel
  | .call _ k => ∀ a, (k a).Steps Rel

/-- On every path the program puts at most `n` questions that `isIt` marks. -/
def Asks (isIt : Q → Prop) : ℕ → Prog S H A E α → Prop
  | _, .ret _ => True
  | _, .fail _ => True
  | n, .tx _ _ k => ∀ s, (k s).Asks isIt n
  | n, .call q k => (isIt q → ∃ m, n = m + 1 ∧ ∀ a, (k a).Asks isIt m) ∧
      (¬ isIt q → ∀ a, (k a).Asks isIt n)

section Steps
variable {Rel : S → H → S → Prop}

theorem Steps.bind {p : Prog S H A E α} {f : α → Prog S H A E β} (hp : p.Steps Rel)
    (hf : ∀ a, (f a).Steps Rel) : (p.bind f).Steps Rel := by
  induction p with
  | ret a => exact hf a
  | fail e => trivial
  | tx held next k ih => exact ⟨hp.1,fun s => ih s (hp.2 s)⟩
  | call q k ih => exact fun a => ih a (hp a)

theorem Steps.handle {p : Prog S H A E α} {h : E → Prog S H A E α} (hp : p.Steps Rel)
    (hh : ∀ e, (h e).Steps Rel) : (p.handle h).Steps Rel := by
  induction p with
  | ret a => trivial
  | fail e => exact hh e
  | tx held next k ih => exact ⟨hp.1,fun s => ih s (hp.2 s)⟩
  | call q k ih => exact fun a => ih a (hp a)

theorem Steps.mono {Rel' : S → H → S → Prop} {p : Prog S H A E α} (hp : p.Steps Rel)
    (hR : ∀ s held s', Rel s held s' → Rel' s held s') : p.Steps Rel' := by
  induction p with
  | ret a => trivial
  | fail e => trivial
  | tx held next k ih => exact ⟨fun s => hR _ _ _ (hp.1 s),fun s => ih s (hp.2 s)⟩
  | call q k ih => exact fun a => ih a (hp a)

theorem steps_outcome (r : Except E (α × S)) : (outcome r : Prog S H A E α).Steps Rel := by
  cases r <;> trivial

theorem steps_transaction {held : H} {t : Tx S E α} (h : ∀ s, Rel s held (t.next s)) :
    (transaction held t : Prog S H A E α).Steps Rel := ⟨h,fun _ => steps_outcome _⟩

theorem Steps.holding {Rel' : S → H → S → Prop} {held : H} {p : Prog S H A E α} (hp : p.Steps Rel')
    (hR : ∀ s h s', Rel' s h s' → Rel s held s') : (p.holding held).Steps Rel := by
  induction p with
  | ret a => trivial
  | fail e => trivial
  | tx h next k ih => exact ⟨fun s => hR _ _ _ (hp.1 s),fun s => ih s (hp.2 s)⟩
  | call q k ih => exact fun a => ih a (hp a)

/-- Whatever the program returns satisfies `Ret`. -/
def Returns (Ret : α → Prop) : Prog S H A E α → Prop
  | .ret a => Ret a
  | .fail _ => True
  | .tx _ _ k => ∀ s, (k s).Returns Ret
  | .call _ k => ∀ a, (k a).Returns Ret

theorem returns_true (p : Prog S H A E α) : p.Returns fun _ => True := by
  induction p with
  | ret a => trivial
  | fail e => trivial
  | tx held next k ih => exact ih
  | call q k ih => exact ih

theorem Returns.bind {M : α → Prop} {Ret : β → Prop} {p : Prog S H A E α} {f : α → Prog S H A E β} (hp : p.Returns M)
    (hf : ∀ a, M a → (f a).Returns Ret) : (p.bind f).Returns Ret := by
  induction p with
  | ret a => exact hf a hp
  | fail e => trivial
  | tx held next k ih => exact fun s => ih s (hp s)
  | call q k ih => exact fun a => ih a (hp a)

theorem Steps.bind_returns {M : α → Prop} {p : Prog S H A E α} {f : α → Prog S H A E β} (hp : p.Steps Rel) (hM : p.Returns M)
    (hf : ∀ a, M a → (f a).Steps Rel) : (p.bind f).Steps Rel := by
  induction p with
  | ret a => exact hf a hM
  | fail e => trivial
  | tx held next k ih => exact ⟨hp.1,fun s => ih s (hp.2 s) (hM s)⟩
  | call q k ih => exact fun a => ih a (hp a) (hM a)

end Steps

/-- A relation that a transaction which writes nothing satisfies. -/
class Idle (Rel : S → H → S → Prop) : Prop where
  idle : ∀ s held, Rel s held s

section Combinators
variable {Rel : S → H → S → Prop}

@[simp] theorem steps_ask (q : Q) : (ask q : Prog S H A E (A q)).Steps Rel := fun _ => trivial

@[simp] theorem steps_ite {c : Prop} [Decidable c] {p p' : Prog S H A E α} (hp : p.Steps Rel)
    (hp' : p'.Steps Rel) : (if c then p else p').Steps Rel := by
  split
  · exact hp
  · exact hp'

variable [Inhabited H]

@[simp] theorem steps_pure (a : α) : (pure a : Prog S H A E α).Steps Rel := trivial
@[simp] theorem steps_raise (e : E) : (Overseer.Library.raise e : Prog S H A E α).Steps Rel := trivial
@[simp] theorem steps_bind {p : Prog S H A E α} {f : α → Prog S H A E β} (hp : p.Steps Rel)
    (hf : ∀ a, (f a).Steps Rel) : (p >>= f).Steps Rel := hp.bind hf

@[simp] theorem steps_rescue {p : Prog S H A E α} {h : E → Prog S H A E α} (hp : p.Steps Rel)
    (hh : ∀ e, (h e).Steps Rel) : (rescue p h).Steps Rel := hp.handle hh

@[simp] theorem steps_require (c : Prop) [Decidable c] (e : E) :
    (require c e : Prog S H A E Unit).Steps Rel := by
  unfold require
  simp

@[simp] theorem steps_orRaise (o : Option α) (e : E) : (orRaise o e : Prog S H A E α).Steps Rel := by
  cases o <;> trivial

theorem steps_atomically {t : Tx S E α} (h : ∀ s, Rel s default (t.next s)) :
    (atomically t : Prog S H A E α).Steps Rel := steps_transaction h

@[simp] theorem steps_read [hR : Idle Rel] (f : S → α) :
    (atomically (Tx.read f) : Prog S H A E α).Steps Rel := steps_atomically fun s => hR.idle s default

end Combinators

section Asks
variable {isIt : Q → Prop}

theorem Asks.mono {p : Prog S H A E α} {n m : ℕ} (hp : p.Asks isIt n) (hnm : n ≤ m) : p.Asks isIt m := by
  induction p generalizing n m with
  | ret a => trivial
  | fail e => trivial
  | tx held next k ih => exact fun s => ih s (hp s) hnm
  | call q k ih =>
    refine ⟨fun hq => ?_,fun hq a => ih a (hp.2 hq a) hnm⟩
    obtain ⟨n',rfl,hn'⟩ := hp.1 hq
    obtain ⟨m',rfl⟩ := Nat.exists_eq_add_of_le' (Nat.le_trans (Nat.le_add_left 1 n') hnm)
    exact ⟨m',rfl,fun a => ih a (hn' a) (Nat.le_of_succ_le_succ hnm)⟩

theorem Asks.bind {p : Prog S H A E α} {f : α → Prog S H A E β} {n m : ℕ} (hp : p.Asks isIt n)
    (hf : ∀ a, (f a).Asks isIt m) : (p.bind f).Asks isIt (n + m) := by
  induction p generalizing n with
  | ret a => exact (hf a).mono (Nat.le_add_left m n)
  | fail e => trivial
  | tx held next k ih => exact fun s => ih s (hp s)
  | call q k ih =>
    refine ⟨fun hq => ?_,fun hq a => ih a (hp.2 hq a)⟩
    obtain ⟨n',rfl,hn'⟩ := hp.1 hq
    exact ⟨n' + m,by omega,fun a => ih a (hn' a)⟩

theorem Asks.handle {p : Prog S H A E α} {h : E → Prog S H A E α} {n m : ℕ} (hp : p.Asks isIt n)
    (hh : ∀ e, (h e).Asks isIt m) : (p.handle h).Asks isIt (n + m) := by
  induction p generalizing n with
  | ret a => trivial
  | fail e => exact (hh e).mono (Nat.le_add_left m n)
  | tx held next k ih => exact fun s => ih s (hp s)
  | call q k ih =>
    refine ⟨fun hq => ?_,fun hq a => ih a (hp.2 hq a)⟩
    obtain ⟨n',rfl,hn'⟩ := hp.1 hq
    exact ⟨n' + m,by omega,fun a => ih a (hn' a)⟩

theorem Asks.holding {held : H} {p : Prog S H A E α} {n : ℕ} (hp : p.Asks isIt n) :
    (p.holding held).Asks isIt n := by
  induction p generalizing n with
  | ret a => trivial
  | fail e => trivial
  | tx h next k ih => exact fun s => ih s (hp s)
  | call q k ih =>
    refine ⟨fun hq => ?_,fun hq a => ih a (hp.2 hq a)⟩
    obtain ⟨n',rfl,hn'⟩ := hp.1 hq
    exact ⟨n',rfl,fun a => ih a (hn' a)⟩

theorem asks_transaction {held : H} {t : Tx S E α} {n : ℕ} :
    (transaction held t : Prog S H A E α).Asks isIt n := by
  intro s
  change (outcome (t s) : Prog S H A E α).Asks isIt n
  cases t s <;> trivial

theorem asks_ask {q : Q} (hq : ¬ isIt q) {n : ℕ} : (ask q : Prog S H A E (A q)).Asks isIt n :=
  ⟨fun h => absurd h hq,fun _ _ => trivial⟩

theorem asks_ask_one (q : Q) : (ask q : Prog S H A E (A q)).Asks isIt 1 :=
  ⟨fun _ => ⟨0,rfl,fun _ => trivial⟩,fun _ _ => trivial⟩

end Asks
end Prog

namespace World
variable {S H Q : Type} {A : Q → Type} {E R : Type} {sys : System S H A E R}

/-- When every transaction of every program a system starts satisfies `Rel`, and `Rel`
keeps a property of the state, that property holds of every state of a run and
successive states are linked. -/
theorem Reachable.steps {Rel : S → H → S → Prop} {Ok : S → Prop} {Link : S → S → Prop} {s₀ : S}
    {w : World S H A E R} (hstart : ∀ p, sys.start p → p.Steps Rel)
    (hlink : ∀ s held s', Ok s → sys.guard s held s' → Rel s held s' → Ok s' ∧ Link s s') (h₀ : Ok s₀)
    (h : Reachable sys (init s₀) w) :
    (∀ s ∈ w.trace.history, Ok s) ∧ List.IsChain (fun s' s => Link s s') w.trace.history := by
  suffices key : ((∀ s ∈ w.trace.history, Ok s) ∧
      List.IsChain (fun s' s => Link s s') w.trace.history) ∧ ∀ p ∈ w.threads, p.Steps Rel from key.1
  refine h.invariant (P := fun w => ((∀ s ∈ w.trace.history, Ok s) ∧
    List.IsChain (fun s' s => Link s s') w.trace.history) ∧ ∀ p ∈ w.threads, p.Steps Rel) ?_ ?_
  · refine ⟨⟨fun s hs => ?_,List.isChain_singleton _⟩,fun p hp => by simp [init] at hp⟩
    simpa [init,Trace.start,Trace.history] using (by simpa [init,Trace.start,Trace.history] using hs) ▸ h₀
  · rintro w w' ⟨⟨hok,hc⟩,hp⟩ hs
    cases hs with
    | start p hsp =>
      refine ⟨⟨hok,hc⟩,fun p' hp' => ?_⟩
      rcases List.mem_append.mp hp' with hp' | hp'
      · exact hp p' hp'
      · rw [List.mem_singleton.mp hp']
        exact hstart p hsp
    | tx i hi hg =>
      have hthread := hp _ (List.mem_of_getElem? hi)
      obtain ⟨hok',hl⟩ := hlink _ _ _ (hok _ w.trace.store_mem_history) hg (hthread.1 _)
      refine ⟨⟨fun s hs => ?_,List.isChain_cons_cons.mpr ⟨hl,hc⟩⟩,fun p' hp' => ?_⟩
      · rcases List.mem_cons.mp hs with rfl | hs
        · exact hok'
        · exact hok s hs
      · rcases List.mem_or_eq_of_mem_set hp' with hp' | rfl
        · exact hp p' hp'
        · exact hthread.2 _
    | call i hi a ha =>
      have hthread := hp _ (List.mem_of_getElem? hi)
      refine ⟨⟨hok,hc⟩,fun p' hp' => ?_⟩
      rcases List.mem_or_eq_of_mem_set hp' with hp' | rfl
      · exact hp p' hp'
      · exact hthread a

theorem pairwise_of_chain {Link Before : S → S → Prop} {l : List S}
    (h : List.IsChain (fun s' s => Link s s') l) (hb : ∀ s s', Link s s' → Before s s')
    (htrans : ∀ s s' s'', Before s s' → Before s' s'' → Before s s'') :
    l.Pairwise fun s' s => Before s s' := by
  have : Trans (fun s' s => Before s s') (fun s' s => Before s s') (fun s' s : S => Before s s') :=
    ⟨fun h h' => htrans _ _ _ h' h⟩
  exact (h.imp fun _ _ hl => hb _ _ hl).pairwise

/-- The number of questions marked by `isIt` that thread `i` has put. -/
def asked (isIt : Q → Prop) [DecidablePred isIt] (t : Trace S A) (i : ℕ) : ℕ :=
  t.log.countP fun e => e.1 = i ∧ isIt e.2.1

/-- Programs that put at most one marked question: no thread ever puts a second. -/
theorem Reachable.asked_le_one {isIt : Q → Prop} [DecidablePred isIt] {s₀ : S} {w : World S H A E R}
    (hstart : ∀ p, sys.start p → p.Asks isIt 1) (h : Reachable sys (init s₀) w) (i : ℕ) :
    asked isIt w.trace i ≤ 1 := by
  have key : (∀ i, w.threads.length ≤ i → asked isIt w.trace i = 0) ∧
      ∀ i p, w.threads[i]? = some p → ∃ n, asked isIt w.trace i + n ≤ 1 ∧ p.Asks isIt n := by
    refine h.invariant (P := fun w => (∀ i, w.threads.length ≤ i → asked isIt w.trace i = 0) ∧
      ∀ i p, w.threads[i]? = some p → ∃ n, asked isIt w.trace i + n ≤ 1 ∧ p.Asks isIt n) ?_ ?_
    · exact ⟨fun _ _ => rfl,fun i p hi => by simp [init] at hi⟩
    · rintro w w' ⟨h0,hp⟩ hs
      cases hs with
      | start p hsp =>
        refine ⟨fun j hj => h0 j (by simp at hj; omega),fun j p' hj => ?_⟩
        rcases Nat.lt_trichotomy j w.threads.length with hlt | rfl | hgt
        · rw [List.getElem?_append_left hlt] at hj
          exact hp j p' hj
        · simp only [List.getElem?_concat_length,Option.some.injEq] at hj
          exact ⟨1,by simp [h0 _ le_rfl],hj ▸ hstart p hsp⟩
        · rw [List.getElem?_eq_none (by simp; omega)] at hj
          cases hj
      | tx i hi hg =>
        refine ⟨fun j hj => h0 j (by simpa using hj),fun j p' hj => ?_⟩
        rw [List.getElem?_set] at hj
        split at hj
        · next hij =>
          subst hij
          obtain ⟨n,hn,hk⟩ := hp i _ hi
          split at hj
          · cases hj
            exact ⟨n,hn,hk _⟩
          · cases hj
        · exact hp j p' hj
      | call i hi a ha =>
        rename_i q k
        have hlt : i < w.threads.length := (List.getElem?_eq_some_iff.mp hi).1
        have hcount : ∀ j, asked isIt (w.trace.record i q a) j =
            asked isIt w.trace j + if i = j ∧ isIt q then 1 else 0 := by
          intro j
          simp [asked,List.countP_cons]
        refine ⟨fun j hj => ?_,fun j p' hj => ?_⟩
        · have hj' : w.threads.length ≤ j := by simpa using hj
          rw [hcount,h0 j hj',if_neg (fun h => by omega)]
        · rw [List.getElem?_set] at hj
          obtain ⟨n,hn,hk⟩ := hp i _ hi
          split at hj
          · next hij =>
            subst hij
            cases hj
            by_cases hq : isIt q
            · obtain ⟨m,rfl,hm⟩ := hk.1 hq
              exact ⟨m,by simp [hcount,hq]; omega,hm a⟩
            · exact ⟨n,by simpa [hcount,hq] using hn,hk.2 hq a⟩
          · next hij =>
            obtain ⟨n',hn',hk'⟩ := hp j p' hj
            exact ⟨n',by simpa [hcount,hij] using hn',hk'⟩
  rcases Nat.lt_or_ge i w.threads.length with hi | hi
  · obtain ⟨n,hn,-⟩ := key.2 i _ (List.getElem?_eq_getElem hi)
    omega
  · rw [key.1 i hi]
    omega

end World
end Overseer.Library
