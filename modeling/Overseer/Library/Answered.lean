import Overseer.Library.Sequential
import Overseer.Library.Quiet

/-! # Questions answered by programs

Where the outside is itself a program over the same store, its answers are worked out on the way.
`Served` is the weakest precondition of the program that asks, from what is known of the answers.
-/
namespace Overseer.Library.Prog
variable {S H Q R : Type} {A : Q → Type} {B : R → Type} {E α β : Type}

/-- The program with every question answered by a program. -/
def answering (f : ∀ q, Prog S H B E (A q)) : Prog S H A E α → Prog S H B E α
  | .ret a => .ret a
  | .fail e => .fail e
  | .tx held next k => .tx held next fun s => (k s).answering f
  | .call q k => (f q).bind fun a => (k a).answering f

/-- The program that answers `q` may come to this end, told no answers but those in `valid`. -/
def Answered (valid : (q : R) → B q → Prop) (f : ∀ q, Prog S H B E (A q)) (q : Q) (s : S) (r : Except E (A q)) (s' : S) : Prop :=
  ∃ log, Solo (f q) s log r s' ∧ ∀ e ∈ log, valid e.1 e.2

/-- With questions answered within `answers`, the program ends under `Post`. -/
def Served (answers : (q : Q) → S → Except E (A q) → S → Prop) (Post : Except E α → S → Prop) : Prog S H A E α → S → Prop
  | .ret a, s => Post (.ok a) s
  | .fail e, s => Post (.error e) s
  | .tx _ next k, s => (k s).Served answers Post (next s)
  | .call q k, s => ∀ r s', answers q s r s' → match r with
    | .ok a => (k a).Served answers Post s'
    | .error e => Post (.error e) s'

/-- A run went through its first part, or ended in it. -/
theorem Solo.bind_cases {p : Prog S H A E α} {f : α → Prog S H A E β} {s s' : S} {log : List (Σ q, A q)} {r : Except E β}
    (h : Solo (p.bind f) s log r s') :
    (∃ a s₁ l₁ l₂, Solo p s l₁ (.ok a) s₁ ∧ Solo (f a) s₁ l₂ r s' ∧ log = l₁ ++ l₂) ∨
      ∃ e, r = .error e ∧ Solo p s log (.error e) s' := by
  induction p generalizing s log with
  | ret a => exact .inl ⟨a,s,[],log,.ret a s,h,rfl⟩
  | fail e =>
    cases h
    exact .inr ⟨e,rfl,.fail e _⟩
  | tx held next k ih =>
    cases h with
    | tx _ _ _ h =>
      rcases ih _ h with ⟨a,s₁,l₁,l₂,hfirst,hrest,hlog⟩ | ⟨e,hr,hfirst⟩
      · exact .inl ⟨a,s₁,l₁,l₂,.tx held next k hfirst,hrest,hlog⟩
      · exact .inr ⟨e,hr,.tx held next k hfirst⟩
  | call q k ih =>
    cases h with
    | call _ _ answer h =>
      rcases ih _ h with ⟨a,s₁,l₁,l₂,hfirst,hrest,rfl⟩ | ⟨e,hr,hfirst⟩
      · exact .inl ⟨a,s₁,⟨q,answer⟩ :: l₁,l₂,.call q k answer hfirst,hrest,rfl⟩
      · exact .inr ⟨e,hr,.call q k answer hfirst⟩

section Rules
variable {answers : (q : Q) → S → Except E (A q) → S → Prop} {Post : Except E α → S → Prop} {s s₁ : S}

theorem Served.solo {valid : (q : R) → B q → Prop} {f : ∀ q, Prog S H B E (A q)} {p : Prog S H A E α} {s' : S}
    {log : List (Σ q, B q)} {r : Except E α} (h : p.Served (Answered valid f) Post s) (hrun : Solo (p.answering f) s log r s')
    (hlog : ∀ e ∈ log, valid e.1 e.2) : Post r s' := by
  induction p generalizing s log with
  | ret a =>
    cases hrun
    exact h
  | fail e =>
    cases hrun
    exact h
  | tx held next k ih =>
    cases hrun with
    | tx _ _ _ hrun => exact ih _ h hrun hlog
  | call q k ih =>
    rcases Solo.bind_cases hrun with ⟨a,s₁,l₁,l₂,hanswer,hrest,rfl⟩ | ⟨e,rfl,hanswer⟩
    · have hnext := h (.ok a) s₁ ⟨l₁,hanswer,fun e he => hlog e (List.mem_append_left _ he)⟩
      exact ih a hnext hrest fun e he => hlog e (List.mem_append_right _ he)
    · exact h (.error e) s' ⟨log,hanswer,hlog⟩

theorem Served.mono {p : Prog S H A E α} {Post' : Except E α → S → Prop} (h : p.Served answers Post s)
    (hpost : ∀ r s', Post r s' → Post' r s') : p.Served answers Post' s := by
  induction p generalizing s with
  | ret a => exact hpost _ _ h
  | fail e => exact hpost _ _ h
  | tx held next k ih => exact ih _ h
  | call q k ih =>
    intro r s' hr
    have hnext := h r s' hr
    cases r with
    | ok a => exact ih a hnext
    | error e => exact hpost _ _ hnext

/-- What the end of the first part of a program has to bring about. -/
def Next (answers : (q : Q) → S → Except E (A q) → S → Prop) (Post : Except E β → S → Prop) (f : α → Prog S H A E β) :
    Except E α → S → Prop
  | .ok a, s => (f a).Served answers Post s
  | .error e, s => Post (.error e) s

theorem Served.bind {Post : Except E β → S → Prop} {p : Prog S H A E α} {f : α → Prog S H A E β}
    (h : p.Served answers (Next answers Post f) s) : (p.bind f).Served answers Post s := by
  induction p generalizing s with
  | ret a => exact h
  | fail e => exact h
  | tx held next k ih => exact ih _ h
  | call q k ih =>
    intro r s' hr
    have hnext := h r s' hr
    cases r with
    | ok a => exact ih a hnext
    | error e => exact hnext

theorem served_ask {q : Q} {Post : Except E (A q) → S → Prop} (h : ∀ r s', answers q s r s' → Post r s') :
    (ask q : Prog S H A E (A q)).Served answers Post s := by
  intro r s' hr
  cases r with
  | ok a => exact h _ _ hr
  | error e => exact h _ _ hr

theorem served_settled {p : Prog S H A E α} {r : Except E α} (h : p.settle s = some (r,s₁)) (hpost : Post r s₁) :
    p.Served answers Post s := by
  induction p generalizing s with
  | ret a =>
    cases h
    exact hpost
  | fail e =>
    cases h
    exact hpost
  | tx held next k ih => exact ih _ h
  | call q k ih => cases h

theorem served_settled_bind {Post : Except E β → S → Prop} {p : Prog S H A E α} {f : α → Prog S H A E β} {a : α}
    (h : p.settle s = some (.ok a,s₁)) (hrest : (f a).Served answers Post s₁) : (p.bind f).Served answers Post s :=
  Served.bind (served_settled h hrest)

end Rules

theorem wp_settled {valid : (q : Q) → A q → Prop} {I : S → Prop} {Post : Except E α → S → Prop} {p : Prog S H A E α}
    {s s₁ : S} {r : Except E α} (hI : ∀ s, I s) (h : p.settle s = some (r,s₁)) (hpost : Post r s₁) : p.Wp valid I Post s := by
  induction p generalizing s with
  | ret a =>
    cases h
    exact ⟨hI _,hpost⟩
  | fail e =>
    cases h
    exact ⟨hI _,hpost⟩
  | tx held next k ih => exact ⟨hI _,ih _ h⟩
  | call q k ih => cases h

theorem settle_solo {p : Prog S H A E α} {s s₁ : S} {r : Except E α} (h : p.settle s = some (r,s₁)) : Solo p s [] r s₁ := by
  induction p generalizing s with
  | ret a =>
    cases h
    exact .ret a _
  | fail e =>
    cases h
    exact .fail e _
  | tx held next k ih => exact .tx held next k (ih _ h)
  | call q k ih => cases h

theorem settle_total {isIt : Q → Prop} {p : Prog S H A E α} (hp : p.Asks isIt 0) (hall : ∀ q, isIt q) (s : S) : ∃ o, p.settle s = some o := by
  induction p generalizing s with
  | ret a => exact ⟨_,rfl⟩
  | fail e => exact ⟨_,rfl⟩
  | tx held next k ih => exact ih s (hp s) (next s)
  | call q k ih =>
    obtain ⟨m,hm,-⟩ := hp.1 (hall q)
    omega

theorem settle_transaction {held : H} {t : Tx S E α} {s s' : S} {a : α} (h : t s = .ok (a,s')) :
    (transaction held t : Prog S H A E α).settle s = some (.ok a,s') := by
  change (outcome (t s) : Prog S H A E α).settle (t.next s) = _
  simp only [Tx.next,h]
  rfl

theorem settle_transaction_error {held : H} {t : Tx S E α} {s : S} {e : E} (h : t s = .error e) :
    (transaction held t : Prog S H A E α).settle s = some (.error e,s) := by
  change (outcome (t s) : Prog S H A E α).settle (t.next s) = _
  simp only [Tx.next,h]
  rfl

theorem settle_holding (held : H) (p : Prog S H A E α) (s : S) : (p.holding held).settle s = p.settle s := by
  induction p generalizing s with
  | ret a => rfl
  | fail e => rfl
  | tx held' next k ih => exact ih _ _
  | call q k ih => rfl

/-! ### Programs in parts -/

section Quiet
variable {γ : Type} {s s' : S} {log : List (Σ q, A q)} [Inhabited H]

theorem bind_bind (p : Prog S H A E α) (f : α → Prog S H A E β) (g : β → Prog S H A E γ) :
    (p >>= f) >>= g = p >>= fun a => f a >>= g := by
  change (p.bind f).bind g = p.bind fun a => (f a).bind g
  induction p with
  | ret a => rfl
  | fail e => rfl
  | tx held next k ih => exact congrArg (tx held next) (funext ih)
  | call q k ih => exact congrArg (call q) (funext ih)

theorem pure_bind' (a : α) (f : α → Prog S H A E β) : (pure a : Prog S H A E α) >>= f = f a := rfl

theorem Quiet.bind {isIt : Q → Prop} {p : Prog S H A E α} {f : α → Prog S H A E β} (hp : Quiet isIt p)
    (hf : ∀ a, Quiet isIt (f a)) : Quiet isIt (p >>= f) := bind_quiet

theorem Solo.quiet_bind (isIt : Q → Prop) {p : Prog S H A E α} [hp : Quiet isIt p] {f : α → Prog S H A E β}
    {r : Except E β} (h : Solo (p >>= f) s log r s') :
    (∃ a l₁ l₂, Solo p s l₁ (.ok a) s ∧ Solo (f a) s l₂ r s' ∧ log = l₁ ++ l₂ ∧ ∀ e ∈ l₁, ¬ isIt e.1) ∨
      (s' = s ∧ (∃ e, r = .error e) ∧ ∀ e ∈ log, ¬ isIt e.1) := by
  rcases Solo.bind_cases h with ⟨a,s₁,l₁,l₂,hfirst,hrest,hlog⟩ | ⟨e,hr,hfirst⟩
  · obtain rfl := hp.idles.solo hfirst
    exact .inl ⟨a,l₁,l₂,hfirst,hrest,hlog,hp.asks.solo hfirst⟩
  · exact .inr ⟨hp.idles.solo hfirst,⟨e,hr⟩,hp.asks.solo hfirst⟩

end Quiet

end Overseer.Library.Prog
