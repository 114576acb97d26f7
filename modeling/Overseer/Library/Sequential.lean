import Overseer.Library.Runs

/-! # A program by itself

A program that no other disturbs finds at each transaction what it left at the one before.
`Wp` is its weakest precondition; `perform` runs it with a table of answers.
-/
namespace Overseer.Library.Prog
variable {S H Q : Type} {A : Q → Type} {E α β : Type}

/-- The program, run by itself with these answers, comes to its end. -/
inductive Solo : Prog S H A E α → S → List (Σ q, A q) → Except E α → S → Prop where
  | ret (a : α) (s : S) : Solo (.ret a) s [] (.ok a) s
  | fail (e : E) (s : S) : Solo (.fail e) s [] (.error e) s
  | tx (held : H) (next : S → S) (k : S → Prog S H A E α) {s s' : S} {log : List (Σ q, A q)} {r : Except E α}
      (h : Solo (k s) (next s) log r s') : Solo (.tx held next k) s log r s'
  | call (q : Q) (k : A q → Prog S H A E α) (a : A q) {s s' : S} {log : List (Σ q, A q)} {r : Except E α}
      (h : Solo (k a) s log r s') : Solo (.call q k) s (⟨q,a⟩ :: log) r s'

/-- The program may be cut off at this store: it has made some of its commits. -/
inductive Cut : Prog S H A E α → S → List (Σ q, A q) → S → Prop where
  | here (p : Prog S H A E α) (s : S) : Cut p s [] s
  | tx (held : H) (next : S → S) (k : S → Prog S H A E α) {s s' : S} {log : List (Σ q, A q)}
      (h : Cut (k s) (next s) log s') : Cut (.tx held next k) s log s'
  | call (q : Q) (k : A q → Prog S H A E α) (a : A q) {s s' : S} {log : List (Σ q, A q)}
      (h : Cut (k a) s log s') : Cut (.call q k) s (⟨q,a⟩ :: log) s'

theorem Solo.cut {p : Prog S H A E α} {s s' : S} {log : List (Σ q, A q)} {r : Except E α} (h : Solo p s log r s') : Cut p s log s' := by
  induction h with
  | ret a s => exact .here _ s
  | fail e s => exact .here _ s
  | tx held next k _ ih => exact .tx held next k ih
  | call q k a _ ih => exact .call q k a ih

/-- With answers in `valid`, the program keeps `I` at every store on its way and ends under `Post`. -/
def Wp (valid : (q : Q) → A q → Prop) (I : S → Prop) (Post : Except E α → S → Prop) : Prog S H A E α → S → Prop
  | .ret a, s => I s ∧ Post (.ok a) s
  | .fail e, s => I s ∧ Post (.error e) s
  | .tx _ next k, s => I s ∧ (k s).Wp valid I Post (next s)
  | .call q k, s => I s ∧ ∀ a, valid q a → (k a).Wp valid I Post s

variable {valid : (q : Q) → A q → Prop} {I : S → Prop} {Post : Except E α → S → Prop}

theorem Wp.here {p : Prog S H A E α} {s : S} (h : p.Wp valid I Post s) : I s := by
  cases p with
  | ret a => exact h.1
  | fail e => exact h.1
  | tx held next k => exact h.1
  | call q k => exact h.1

theorem Wp.solo {p : Prog S H A E α} {s s' : S} {log : List (Σ q, A q)} {r : Except E α} (h : p.Wp valid I Post s)
    (hrun : Solo p s log r s') (hlog : ∀ e ∈ log, valid e.1 e.2) : Post r s' := by
  induction hrun with
  | ret a s => exact h.2
  | fail e s => exact h.2
  | tx held next k _ ih => exact ih h.2 hlog
  | call q k a _ ih => exact ih (h.2 a (hlog _ List.mem_cons_self)) fun e he => hlog e (List.mem_cons_of_mem _ he)

theorem Wp.cut {p : Prog S H A E α} {s s' : S} {log : List (Σ q, A q)} (h : p.Wp valid I Post s)
    (hrun : Cut p s log s') (hlog : ∀ e ∈ log, valid e.1 e.2) : I s' := by
  induction hrun with
  | here p s => exact h.here
  | tx held next k _ ih => exact ih h.2 hlog
  | call q k a _ ih => exact ih (h.2 a (hlog _ List.mem_cons_self)) fun e he => hlog e (List.mem_cons_of_mem _ he)

theorem Wp.mono {p : Prog S H A E α} {s : S} {I' : S → Prop} {Post' : Except E α → S → Prop} (h : p.Wp valid I Post s)
    (hI : ∀ s', I s' → I' s') (hpost : ∀ r s', I s' → Post r s' → Post' r s') : p.Wp valid I' Post' s := by
  induction p generalizing s with
  | ret a => exact ⟨hI _ h.1,hpost _ _ h.1 h.2⟩
  | fail e => exact ⟨hI _ h.1,hpost _ _ h.1 h.2⟩
  | tx held next k ih => exact ⟨hI _ h.1,ih _ h.2⟩
  | call q k ih => exact ⟨hI _ h.1,fun a ha => ih a (h.2 a ha)⟩

theorem wp_of_same {p : Prog S H A E α} {s : S} (hp : p.Steps fun s _ s' => s' = s) (hs : I s) :
    p.Wp valid I (fun _ s' => s' = s) s := by
  induction p with
  | ret a => exact ⟨hs,rfl⟩
  | fail e => exact ⟨hs,rfl⟩
  | tx held next k ih =>
    refine ⟨hs,?_⟩
    rw [hp.1 s]
    exact ih s (hp.2 s)
  | call q k ih => exact ⟨hs,fun a _ => ih a (hp a)⟩

/-- What the end of the first part of a program has to bring about. -/
def After (valid : (q : Q) → A q → Prop) (I : S → Prop) (Post : Except E β → S → Prop) (f : α → Prog S H A E β) :
    Except E α → S → Prop
  | .ok a, s => (f a).Wp valid I Post s
  | .error e, s => Post (.error e) s

theorem Wp.bind {Post : Except E β → S → Prop} {p : Prog S H A E α} {f : α → Prog S H A E β} {s : S}
    (h : p.Wp valid I (After valid I Post f) s) : (p.bind f).Wp valid I Post s := by
  induction p generalizing s with
  | ret a => exact h.2
  | fail e => exact h
  | tx held next k ih => exact ⟨h.1,ih _ h.2⟩
  | call q k ih => exact ⟨h.1,fun a ha => ih a (h.2 a ha)⟩

theorem Wp.holding {held : H} {p : Prog S H A E α} {s : S} (h : p.Wp valid I Post s) : (p.holding held).Wp valid I Post s := by
  induction p generalizing s with
  | ret a => exact h
  | fail e => exact h
  | tx held' next k ih => exact ⟨h.1,ih _ h.2⟩
  | call q k ih => exact ⟨h.1,fun a ha => ih a (h.2 a ha)⟩

theorem wp_transaction {held : H} {t : Tx S E α} {s : S} (hs : I s)
    (hok : ∀ a s', t s = .ok (a,s') → I s' ∧ Post (.ok a) s') (herror : ∀ e, t s = .error e → Post (.error e) s) :
    (transaction held t : Prog S H A E α).Wp valid I Post s := by
  refine ⟨hs,?_⟩
  change (outcome (t s) : Prog S H A E α).Wp valid I Post (t.next s)
  cases ht : t s with
  | ok r =>
    simp only [Tx.next,ht]
    exact hok r.1 r.2 ht
  | error e =>
    simp only [Tx.next,ht]
    exact ⟨hs,herror e ht⟩

theorem wp_ask {q : Q} {Post : Except E (A q) → S → Prop} {s : S} (hs : I s) (h : ∀ a, valid q a → Post (.ok a) s) :
    (ask q : Prog S H A E (A q)).Wp valid I Post s := ⟨hs,fun a ha => ⟨hs,h a ha⟩⟩

section Rules
variable [Inhabited H] {f : α → Prog S H A E β} {Post : Except E β → S → Prop} {s : S}

theorem wp_require_bind {c : Prop} [Decidable c] {e : E} {f : Unit → Prog S H A E β} (hs : I s) (herror : ¬ c → Post (.error e) s)
    (h : c → (f ()).Wp valid I Post s) : (require c e >>= f).Wp valid I Post s := by
  unfold require
  split
  · next hc => exact h hc
  · next hc => exact ⟨hs,herror hc⟩

theorem wp_orRaise_bind {o : Option α} {e : E} (hs : I s) (herror : o = none → Post (.error e) s)
    (h : ∀ a, o = some a → (f a).Wp valid I Post s) : (orRaise o e >>= f).Wp valid I Post s := by
  cases o with
  | none => exact ⟨hs,herror rfl⟩
  | some a => exact h a rfl

theorem wp_ask_bind {q : Q} {f : A q → Prog S H A E β} (hs : I s) (h : ∀ a, valid q a → (f a).Wp valid I Post s) :
    (ask q >>= f).Wp valid I Post s := ⟨hs,h⟩

theorem wp_read_bind {g : S → α} (hs : I s) (h : (f (g s)).Wp valid I Post s) :
    ((atomically (Tx.read g) : Prog S H A E α) >>= f).Wp valid I Post s := ⟨hs,h⟩

theorem wp_atomically_bind {t : Tx S E α} (hs : I s) (hok : ∀ a s', t s = .ok (a,s') → (f a).Wp valid I Post s')
    (herror : ∀ e, t s = .error e → Post (.error e) s) : ((atomically t : Prog S H A E α) >>= f).Wp valid I Post s := by
  refine ⟨hs,?_⟩
  change ((outcome (t s)).bind f).Wp valid I Post (t.next s)
  cases ht : t s with
  | ok r =>
    simp only [Tx.next,ht]
    exact hok r.1 r.2 ht
  | error e =>
    simp only [Tx.next,ht]
    exact ⟨hs,herror e ht⟩

end Rules

/-! ### A run, part by part -/

section Parts
variable {s s' : S} {log : List (Σ q, A q)}

theorem Solo.bind_ok {p : Prog S H A E α} {f : α → Prog S H A E β} {b : β} (h : Solo (p.bind f) s log (.ok b) s') :
    ∃ a s₁ l₁ l₂, Solo p s l₁ (.ok a) s₁ ∧ Solo (f a) s₁ l₂ (.ok b) s' ∧ log = l₁ ++ l₂ := by
  induction p generalizing s log with
  | ret a => exact ⟨a,s,[],log,.ret a s,h,rfl⟩
  | fail e => cases h
  | tx held next k ih =>
    cases h with
    | tx _ _ _ h =>
      obtain ⟨a,s₁,l₁,l₂,hfirst,hrest,hlog⟩ := ih _ h
      exact ⟨a,s₁,l₁,l₂,.tx held next k hfirst,hrest,hlog⟩
  | call q k ih =>
    cases h with
    | call _ _ answer h =>
      obtain ⟨a,s₁,l₁,l₂,hfirst,hrest,rfl⟩ := ih _ h
      exact ⟨a,s₁,⟨q,answer⟩ :: l₁,l₂,.call q k answer hfirst,hrest,rfl⟩

theorem Solo.of_holding {held : H} {p : Prog S H A E α} {r : Except E α} (h : Solo (p.holding held) s log r s') : Solo p s log r s' := by
  induction p generalizing s log with
  | ret a => exact h
  | fail e => exact h
  | tx held' next k ih =>
    cases h with
    | tx _ _ _ h => exact .tx held' next k (ih _ h)
  | call q k ih =>
    cases h with
    | call _ _ answer h => exact .call q k answer (ih _ h)

theorem Solo.transaction_ok {held : H} {t : Tx S E α} {a : α} (h : Solo (transaction held t) s log (.ok a) s') :
    t s = .ok (a,s') ∧ log = [] := by
  cases h with
  | tx _ _ _ h =>
    change Solo (outcome (t s)) (t.next s) log (.ok a) s' at h
    cases ht : t s with
    | ok r =>
      simp only [Tx.next,ht] at h
      cases h
      exact ⟨rfl,rfl⟩
    | error e =>
      simp only [Tx.next,ht] at h
      cases h

theorem Solo.read_ok [Inhabited H] {f : S → α} {a : α} (h : Solo (atomically (Tx.read f) : Prog S H A E α) s log (.ok a) s') :
    f s = a ∧ s' = s ∧ log = [] := by
  obtain ⟨hread,hlog⟩ := Solo.transaction_ok h
  cases hread
  exact ⟨rfl,rfl,hlog⟩

theorem Solo.ask_ok {q : Q} {a : A q} (h : Solo (ask q : Prog S H A E (A q)) s log (.ok a) s') : s' = s ∧ log = [⟨q,a⟩] := by
  cases h with
  | call _ _ _ h =>
    cases h
    exact ⟨rfl,rfl⟩

theorem Solo.pure_ok [Inhabited H] {a b : α} (h : Solo (pure a : Prog S H A E α) s log (.ok b) s') : b = a ∧ s' = s ∧ log = [] := by
  cases h
  exact ⟨rfl,rfl,rfl⟩

theorem Solo.orRaise_ok [Inhabited H] {o : Option α} {e : E} {a : α} (h : Solo (orRaise o e : Prog S H A E α) s log (.ok a) s') :
    o = some a ∧ s' = s ∧ log = [] := by
  cases o with
  | none => cases h
  | some b =>
    cases h
    exact ⟨rfl,rfl,rfl⟩

theorem Asks.solo {isIt : Q → Prop} {p : Prog S H A E α} {r : Except E α} (hp : p.Asks isIt 0) (h : Solo p s log r s') :
    ∀ e ∈ log, ¬ isIt e.1 := by
  induction h with
  | ret => exact fun e he => (by cases he)
  | fail => exact fun e he => (by cases he)
  | tx held next k _ ih => exact ih (hp _)
  | call q k a _ ih =>
    have hq : ¬ isIt q := by
      intro hq
      obtain ⟨m,hm,-⟩ := hp.1 hq
      omega
    intro e he
    rcases List.mem_cons.mp he with rfl | he
    · exact hq
    · exact ih (hp.2 hq a) e he

theorem Solo.require_ok [Inhabited H] {c : Prop} [Decidable c] {e : E} {a : Unit}
    (h : Solo (require c e : Prog S H A E Unit) s log (.ok a) s') : c ∧ s' = s ∧ log = [] := by
  unfold require at h
  split at h
  · next hc => exact ⟨hc,h.pure_ok.2⟩
  · cases h

theorem Solo.rescue_ok [Inhabited H] {p : Prog S H A E α} {f : E → Prog S H A E α} {a : α} (h : Solo (rescue p f) s log (.ok a) s') :
    Solo p s log (.ok a) s' ∨ ∃ e s₁ l₁ l₂, Solo p s l₁ (.error e) s₁ ∧ Solo (f e) s₁ l₂ (.ok a) s' ∧ log = l₁ ++ l₂ := by
  change Solo (p.handle f) s log (.ok a) s' at h
  induction p generalizing s log with
  | ret b => exact .inl h
  | fail e => exact .inr ⟨e,s,[],log,.fail e s,h,rfl⟩
  | tx held next k ih =>
    cases h with
    | tx _ _ _ h =>
      rcases ih _ h with h | ⟨e,s₁,l₁,l₂,hfirst,hrest,hlog⟩
      · exact .inl (.tx held next k h)
      · exact .inr ⟨e,s₁,l₁,l₂,.tx held next k hfirst,hrest,hlog⟩
  | call q k ih =>
    cases h with
    | call _ _ answer h =>
      rcases ih _ h with h | ⟨e,s₁,l₁,l₂,hfirst,hrest,rfl⟩
      · exact .inl (.call q k answer h)
      · exact .inr ⟨e,s₁,⟨q,answer⟩ :: l₁,l₂,.call q k answer hfirst,hrest,rfl⟩

theorem Steps.solo_rel {R : S → S → Prop} [hR : IsPreorder S R] {p : Prog S H A E α} {r : Except E α}
    (hp : p.Steps fun s _ s' => R s s') (h : Solo p s log r s') : R s s' := by
  induction h with
  | ret a s => exact hR.refl s
  | fail e s => exact hR.refl s
  | tx held next k _ ih => exact hR.trans _ _ _ (hp.1 _) (ih (hp.2 _))
  | call q k a _ ih => exact ih (hp a)

theorem Steps.solo {p : Prog S H A E α} {r : Except E α} (hp : p.Steps fun s _ s' => s' = s) (h : Solo p s log r s') : s' = s := by
  have hsame : p.Wp (fun _ _ => True) (fun _ => True) (fun _ s' => s' = s) s := wp_of_same hp trivial
  exact hsame.solo h fun _ _ => trivial

end Parts

/-! ### With answers that change

Where the same question is asked again, its answer may be another one: it is given by the number
of questions asked before. -/

/-- What the program asks and is told, what it returns or raises, and the store it leaves. -/
def play (answers : ℕ → ∀ q, A q) : ℕ → Prog S H A E α → S → List (Σ q, A q) × Except E α × S
  | _, .ret a, s => ([],.ok a,s)
  | _, .fail e, s => ([],.error e,s)
  | n, .tx _ next k, s => play answers n (k s) (next s)
  | n, .call q k, s =>
    let rest := play answers (n + 1) (k (answers n q)) s
    (⟨q,answers n q⟩ :: rest.1,rest.2)

theorem play_solo (answers : ℕ → ∀ q, A q) (n : ℕ) (p : Prog S H A E α) (s : S) :
    Solo p s (play answers n p s).1 (play answers n p s).2.1 (play answers n p s).2.2 := by
  induction p generalizing s n with
  | ret a => exact .ret a s
  | fail e => exact .fail e s
  | tx held next k ih => exact .tx held next k (ih s n (next s))
  | call q k ih => exact .call q k (answers n q) (ih (answers n q) (n + 1) s)

/-! ### With a table of answers -/

/-- What the program returns or raises and the store it leaves. -/
def perform (answers : ∀ q, A q) : Prog S H A E α → S → Except E α × S
  | .ret a, s => (.ok a,s)
  | .fail e, s => (.error e,s)
  | .tx _ next k, s => (k s).perform answers (next s)
  | .call q k, s => (k (answers q)).perform answers s

variable {answers : ∀ q, A q}

theorem perform_solo (answers : ∀ q, A q) (p : Prog S H A E α) (s : S) :
    ∃ log, Solo p s log (p.perform answers s).1 (p.perform answers s).2 ∧ ∀ e ∈ log, e.2 = answers e.1 := by
  induction p generalizing s with
  | ret a => exact ⟨[],.ret a s,fun _ he => (by cases he)⟩
  | fail e => exact ⟨[],.fail e s,fun _ he => (by cases he)⟩
  | tx held next k ih =>
    obtain ⟨log,hrun,hlog⟩ := ih s (next s)
    exact ⟨log,.tx held next k hrun,hlog⟩
  | call q k ih =>
    obtain ⟨log,hrun,hlog⟩ := ih (answers q) s
    refine ⟨_,.call q k (answers q) hrun,fun e he => ?_⟩
    rcases List.mem_cons.mp he with rfl | he
    · rfl
    · exact hlog e he

theorem Wp.perform {p : Prog S H A E α} {s : S} (h : p.Wp (fun q a => a = answers q) I Post s) : I (p.perform answers s).2 := by
  obtain ⟨log,hrun,hlog⟩ := perform_solo answers p s
  exact h.cut hrun.cut hlog

theorem perform_bind {p : Prog S H A E α} {f : α → Prog S H A E β} {s s' : S} {a : α} (h : p.perform answers s = (.ok a,s')) :
    (p.bind f).perform answers s = (f a).perform answers s' := by
  induction p generalizing s with
  | ret b =>
    cases h
    rfl
  | fail e => cases h
  | tx held next k ih => exact ih _ h
  | call q k ih => exact ih _ h

theorem perform_bind_error {p : Prog S H A E α} {f : α → Prog S H A E β} {s s' : S} {e : E} (h : p.perform answers s = (.error e,s')) :
    (p.bind f).perform answers s = (.error e,s') := by
  induction p generalizing s with
  | ret b => cases h
  | fail e =>
    cases h
    rfl
  | tx held next k ih => exact ih _ h
  | call q k ih => exact ih _ h

theorem perform_handle {p : Prog S H A E α} {h : E → Prog S H A E α} {s s' : S} {a : α} (hp : p.perform answers s = (.ok a,s')) :
    (p.handle h).perform answers s = (.ok a,s') := by
  induction p generalizing s with
  | ret b => exact hp
  | fail e => cases hp
  | tx held next k ih => exact ih _ hp
  | call q k ih => exact ih _ hp

theorem perform_holding (held : H) (p : Prog S H A E α) (s : S) : (p.holding held).perform answers s = p.perform answers s := by
  induction p generalizing s with
  | ret a => rfl
  | fail e => rfl
  | tx held' next k ih => exact ih _ _
  | call q k ih => exact ih _ _

theorem perform_transaction {held : H} {t : Tx S E α} {s s' : S} {a : α} (h : t s = .ok (a,s')) :
    (transaction held t : Prog S H A E α).perform answers s = (.ok a,s') := by
  change (outcome (t s) : Prog S H A E α).perform answers (t.next s) = _
  simp only [Tx.next,h]
  rfl

section Store
variable [Inhabited H] {f : α → Prog S H A E β} {s s' : S}

@[simp] theorem perform_pure_bind (a : α) : ((pure a : Prog S H A E α) >>= f).perform answers s = (f a).perform answers s := rfl

@[simp] theorem perform_raise_bind (e : E) : ((raise e : Prog S H A E α) >>= f).perform answers s = (.error e,s) := rfl

@[simp] theorem perform_ask_bind {q : Q} {f : A q → Prog S H A E β} :
    ((ask q : Prog S H A E (A q)) >>= f).perform answers s = (f (answers q)).perform answers s := rfl

@[simp] theorem perform_read_bind (g : S → α) :
    ((atomically (Tx.read g) : Prog S H A E α) >>= f).perform answers s = (f (g s)).perform answers s := rfl

theorem perform_atomically_bind {t : Tx S E α} {a : α} (h : t s = .ok (a,s')) :
    ((atomically t : Prog S H A E α) >>= f).perform answers s = (f a).perform answers s' :=
  perform_bind (perform_transaction h)

end Store

/-! ### A program that asks nothing

Its run is a function of the store it begins with. -/

section Settle
variable {s s' : S} {log : List (Σ q, A q)}

/-- How the program ends, unless it asks something. -/
def settle : Prog S H A E α → S → Option (Except E α × S)
  | .ret a, s => some (.ok a,s)
  | .fail e, s => some (.error e,s)
  | .tx _ next k, s => (k s).settle (next s)
  | .call _ _, _ => none

theorem Solo.settled {p : Prog S H A E α} {r : Except E α} {o : Except E α × S} (h : Solo p s log r s') (ho : p.settle s = some o) :
    o = (r,s') ∧ log = [] := by
  induction h with
  | ret a s =>
    cases ho
    exact ⟨rfl,rfl⟩
  | fail e s =>
    cases ho
    exact ⟨rfl,rfl⟩
  | tx held next k _ ih => exact ih ho
  | call q k a _ ih => cases ho

theorem perform_settled {answers : ∀ q, A q} {p : Prog S H A E α} {o : Except E α × S} (ho : p.settle s = some o) :
    p.perform answers s = o := by
  induction p generalizing s with
  | ret a =>
    cases ho
    rfl
  | fail e =>
    cases ho
    rfl
  | tx held next k ih => exact ih _ ho
  | call q k ih => cases ho

section Rules
variable [Inhabited H] {p : Prog S H A E α} {f : α → Prog S H A E β} {s₁ : S}

theorem settle_bind {a : α} (h : p.settle s = some (.ok a,s₁)) : (p >>= f).settle s = (f a).settle s₁ := by
  change (p.bind f).settle s = _
  induction p generalizing s with
  | ret b =>
    cases h
    rfl
  | fail e => cases h
  | tx held next k ih => exact ih _ h
  | call q k ih => cases h

theorem settle_bind_error {e : E} (h : p.settle s = some (.error e,s₁)) : (p >>= f).settle s = some (.error e,s₁) := by
  change (p.bind f).settle s = _
  induction p generalizing s with
  | ret b => cases h
  | fail e =>
    cases h
    rfl
  | tx held next k ih => exact ih _ h
  | call q k ih => cases h

theorem settle_rescue {a : α} {h : E → Prog S H A E α} (hp : p.settle s = some (.ok a,s₁)) :
    (rescue p h).settle s = some (.ok a,s₁) := by
  change (p.handle h).settle s = _
  induction p generalizing s with
  | ret b =>
    cases hp
    rfl
  | fail e => cases hp
  | tx held next k ih => exact ih _ hp
  | call q k ih => cases hp

theorem settle_rescue_error {e : E} {h : E → Prog S H A E α} (hp : p.settle s = some (.error e,s₁)) :
    (rescue p h).settle s = (h e).settle s₁ := by
  change (p.handle h).settle s = _
  induction p generalizing s with
  | ret b => cases hp
  | fail e =>
    cases hp
    rfl
  | tx held next k ih => exact ih _ hp
  | call q k ih => cases hp

theorem settle_read_bind {g : S → α} : ((atomically (Tx.read g) : Prog S H A E α) >>= f).settle s = (f (g s)).settle s := rfl

theorem settle_raise {e : E} : (raise e : Prog S H A E α).settle s = some (.error e,s) := rfl

theorem settle_pure {a : α} : (pure a : Prog S H A E α).settle s = some (.ok a,s) := rfl

end Rules

end Settle

end Overseer.Library.Prog
