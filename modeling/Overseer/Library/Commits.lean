import Overseer.Library.Runs

/-! # The commits of one thread

A run seen from one thread: the states that its transactions found and left. The states
that they find are whatever the other threads have made of the store.
-/
namespace Overseer.Library

namespace Prog
variable {S H Q : Type} {A : Q → Type} {E α β : Type}

/-- By these commits, the state found and the state left of each, a program comes to what is left of it. -/
inductive Goes : Prog S H A E α → List (S × S) → Prog S H A E α → Prop where
  | refl (p : Prog S H A E α) : Goes p [] p
  | tx (held : H) (next : S → S) (k : S → Prog S H A E α) (s : S) {own : List (S × S)} {p' : Prog S H A E α}
      (h : Goes (k s) own p') : Goes (.tx held next k) ((s,next s) :: own) p'
  | call (q : Q) (k : A q → Prog S H A E α) (a : A q) {own : List (S × S)} {p' : Prog S H A E α}
      (h : Goes (k a) own p') : Goes (.call q k) own p'

theorem Goes.snoc_tx {p : Prog S H A E α} {own : List (S × S)} {held : H} {next : S → S} {k : S → Prog S H A E α}
    (h : Goes p own (.tx held next k)) (s : S) : Goes p (own ++ [(s,next s)]) (k s) := by
  generalize hp : Prog.tx held next k = p' at h
  induction h with
  | refl p =>
    subst hp
    exact .tx held next k s (.refl _)
  | tx held' next' k' s' _ ih => exact .tx held' next' k' s' (ih hp)
  | call q k' a _ ih => exact .call q k' a (ih hp)

theorem Goes.snoc_call {p : Prog S H A E α} {own : List (S × S)} {q : Q} {k : A q → Prog S H A E α}
    (h : Goes p own (.call q k)) (a : A q) : Goes p own (k a) := by
  generalize hp : Prog.call q k = p' at h
  induction h with
  | refl p =>
    subst hp
    exact .call q k a (.refl _)
  | tx held' next' k' s' _ ih => exact .tx held' next' k' s' (ih hp)
  | call q' k' a' _ ih => exact .call q' k' a' (ih hp)

/-- A program in two parts is still in the first or has come to the second. -/
theorem Goes.bind_cases {p : Prog S H A E α} {f : α → Prog S H A E β} {own : List (S × S)} {p' : Prog S H A E β}
    (h : Goes (p.bind f) own p') : (∃ q, Goes p own q ∧ (∀ a, q ≠ .ret a) ∧ p' = q.bind f) ∨
      ∃ a own₁ own₂, own = own₁ ++ own₂ ∧ Goes p own₁ (.ret a) ∧ Goes (f a) own₂ p' := by
  induction p generalizing own with
  | ret a => exact .inr ⟨a,[],own,rfl,.refl _,h⟩
  | fail e =>
    cases h
    exact .inl ⟨.fail e,.refl _,nofun,rfl⟩
  | tx held next k ih =>
    cases h with
    | refl => exact .inl ⟨_,.refl _,nofun,rfl⟩
    | tx _ _ _ s h =>
      rcases ih s h with ⟨q,hq,hne,rfl⟩ | ⟨a,own₁,own₂,rfl,hq,hf⟩
      · exact .inl ⟨q,.tx held next k s hq,hne,rfl⟩
      · exact .inr ⟨a,_ :: own₁,own₂,rfl,.tx held next k s hq,hf⟩
  | call q k ih =>
    cases h with
    | refl => exact .inl ⟨_,.refl _,nofun,rfl⟩
    | call _ _ a h =>
      rcases ih a h with ⟨r,hr,hne,rfl⟩ | ⟨b,own₁,own₂,rfl,hr,hf⟩
      · exact .inl ⟨r,.call q k a hr,hne,rfl⟩
      · exact .inr ⟨b,own₁,own₂,rfl,.call q k a hr,hf⟩

theorem bind_ne_ret {p : Prog S H A E α} (hp : ∀ a, p ≠ .ret a) (f : α → Prog S H A E β) (b : β) : p.bind f ≠ .ret b := by
  cases p with
  | ret a => exact absurd rfl (hp a)
  | fail e => nofun
  | tx held next k => nofun
  | call q k => nofun

/-- A transaction has not run yet, or the rest goes on by its outcome. -/
theorem Goes.transaction_cases {held : H} {t : Tx S E α} {f : α → Prog S H A E β} {own : List (S × S)} {p' : Prog S H A E β}
    (h : Goes ((transaction held t).bind f) own p') : (own = [] ∧ ∀ b, p' ≠ .ret b) ∨
      ∃ s own', own = (s,t.next s) :: own' ∧
        ((∃ a s', t s = .ok (a,s') ∧ Goes (f a) own' p') ∨ ∃ e, t s = .error e ∧ own' = [] ∧ p' = .fail e) := by
  change Goes (.tx held t.next fun s => (outcome (t s)).bind f) own p' at h
  cases h with
  | refl => exact .inl ⟨rfl,nofun⟩
  | tx _ _ _ s h =>
    refine .inr ⟨s,_,rfl,?_⟩
    change Goes ((outcome (t s)).bind f) _ p' at h
    generalize t s = r at h
    cases r with
    | ok r => exact .inl ⟨r.1,r.2,rfl,h⟩
    | error e =>
      cases h
      exact .inr ⟨e,rfl,rfl,rfl⟩

/-! ### Programs that failed -/

section Failed
variable {own : List (S × S)} {e : E} {f : α → Prog S H A E β}

theorem Goes.ret_fail {a : α} (h : Goes (.ret a : Prog S H A E α) own (.fail e)) : False := by cases h

theorem Goes.fail_nil {e' : E} (h : Goes (.fail e' : Prog S H A E α) own (.fail e)) : own = [] := by
  cases h
  rfl

variable [Inhabited H]

theorem Goes.bind_fail {p : Prog S H A E α} (h : Goes (p >>= f) own (.fail e)) : Goes p own (.fail e) ∨
    ∃ a own₁ own₂, own = own₁ ++ own₂ ∧ Goes p own₁ (.ret a) ∧ Goes (f a) own₂ (.fail e) := by
  rcases h.bind_cases with ⟨q,hq,hne,heq⟩ | hend
  · cases q with
    | ret a => exact absurd rfl (hne a)
    | fail e' =>
      cases heq
      exact .inl hq
    | tx held next k => cases heq
    | call q k => cases heq
  · exact .inr hend

theorem Goes.transaction_fail {held : H} {t : Tx S E α} (h : Goes (transaction held t >>= f) own (.fail e)) :
    ∃ s own', own = (s,t.next s) :: own' ∧
      ((∃ a s', t s = .ok (a,s') ∧ Goes (f a) own' (.fail e)) ∨ (t s = .error e ∧ own' = [])) := by
  change Goes (.tx held t.next fun s => (outcome (t s)).bind f) own (.fail e) at h
  cases h with
  | tx _ _ _ s h =>
    refine ⟨s,_,rfl,?_⟩
    change Goes ((outcome (t s)).bind f) _ (.fail e) at h
    generalize t s = r at h
    cases r with
    | ok r => exact .inl ⟨r.1,r.2,rfl,h⟩
    | error e' =>
      cases h
      exact .inr ⟨rfl,rfl⟩

theorem Goes.ask_fail {q : Q} {f : A q → Prog S H A E β} (h : Goes (ask q >>= f) own (.fail e)) :
    ∃ a, Goes (f a) own (.fail e) := by
  change Goes (.call q fun a => f a) own (.fail e) at h
  cases h with
  | call _ _ a h => exact ⟨a,h⟩

theorem Goes.require_fail {c : Prop} [Decidable c] {e' : E} {f : Unit → Prog S H A E β}
    (h : Goes (require c e' >>= f) own (.fail e)) : own = [] ∨ (c ∧ Goes (f ()) own (.fail e)) := by
  unfold require at h
  split at h
  · next hc => exact .inr ⟨hc,h⟩
  · exact .inl h.fail_nil

theorem Goes.orRaise_fail {o : Option α} {e' : E} (h : Goes (orRaise o e' >>= f) own (.fail e)) :
    (o = none ∧ own = []) ∨ ∃ a, o = some a ∧ Goes (f a) own (.fail e) := by
  cases o with
  | none => exact .inl ⟨rfl,h.fail_nil⟩
  | some a => exact .inr ⟨a,rfl,h⟩

end Failed

theorem Goes.steps {Rel : S → H → S → Prop} {p p' : Prog S H A E α} {own : List (S × S)} (h : Goes p own p')
    (hp : p.Steps Rel) : ∀ c ∈ own, ∃ held, Rel c.1 held c.2 := by
  induction h with
  | refl => exact fun _ hc => (by cases hc)
  | tx held next k s _ ih =>
    intro c hc
    rcases List.mem_cons.mp hc with rfl | hc
    · exact ⟨held,hp.1 s⟩
    · exact ih (hp.2 s) c hc
  | call q k a _ ih => exact ih (hp a)

theorem Goes.returns {Ret : α → Prop} {p p' : Prog S H A E α} {own : List (S × S)} (h : Goes p own p')
    (hp : p.Returns Ret) : p'.Returns Ret := by
  induction h with
  | refl => exact hp
  | tx held next k s _ ih => exact ih (hp s)
  | call q k a _ ih => exact ih (hp a)

end Prog

namespace World
variable {S H Q : Type} {A : Q → Type} {E R : Type}

/-- A run in which the transactions of thread `i` made the commits `own`. -/
inductive Runs (sys : System S H A E R) (i : ℕ) (w : World S H A E R) : List (S × S) → World S H A E R → Prop where
  | refl : Runs sys i w [] w
  | start {own : List (S × S)} {w' : World S H A E R} (h : Runs sys i w own w') (p : Prog S H A E R) (hp : sys.start p) :
      Runs sys i w own ⟨w'.trace,w'.threads ++ [p]⟩
  | tx {own : List (S × S)} {w' : World S H A E R} (h : Runs sys i w own w') (j : ℕ) {held : H} {next : S → S}
      {k : S → Prog S H A E R} (hj : w'.threads[j]? = some (.tx held next k))
      (hg : sys.guard w'.trace.store held (next w'.trace.store)) :
      Runs sys i w (if j = i then own ++ [(w'.trace.store,next w'.trace.store)] else own)
        ⟨w'.trace.commit (next w'.trace.store),w'.threads.set j (k w'.trace.store)⟩
  | call {own : List (S × S)} {w' : World S H A E R} (h : Runs sys i w own w') (j : ℕ) {q : Q} {k : A q → Prog S H A E R}
      (hj : w'.threads[j]? = some (.call q k)) (a : A q) (ha : sys.valid w'.trace q a) :
      Runs sys i w own ⟨w'.trace.record j q a,w'.threads.set j (k a)⟩

variable {sys : System S H A E R}

/-- Seen from its thread, a run is what the program does. -/
theorem Runs.thread {i : ℕ} {w w' : World S H A E R} {own : List (S × S)} {p : Prog S H A E R} (h : Runs sys i w own w')
    (hp : w.threads[i]? = some p) : ∃ p', w'.threads[i]? = some p' ∧ p.Goes own p' := by
  induction h with
  | refl => exact ⟨p,hp,.refl p⟩
  | start _ p₁ _ ih =>
    obtain ⟨p',hp',hgoes⟩ := ih
    refine ⟨p',?_,hgoes⟩
    rw [List.getElem?_append_left (List.getElem?_eq_some_iff.mp hp').1]
    exact hp'
  | @tx own w' _ j held next k hj _ ih =>
    obtain ⟨p',hp',hgoes⟩ := ih
    by_cases hji : j = i
    · subst hji
      rw [hj] at hp'
      cases hp'
      refine ⟨k w'.trace.store,?_,?_⟩
      · exact List.getElem?_set_self (List.getElem?_eq_some_iff.mp hj).1
      · rw [if_pos rfl]
        exact hgoes.snoc_tx w'.trace.store
    · refine ⟨p',?_,?_⟩
      · rw [List.getElem?_set_ne hji]
        exact hp'
      · rw [if_neg hji]
        exact hgoes
  | @call own w' _ j q k hj a _ ih =>
    obtain ⟨p',hp',hgoes⟩ := ih
    by_cases hji : j = i
    · subst hji
      rw [hj] at hp'
      cases hp'
      exact ⟨k a,List.getElem?_set_self (List.getElem?_eq_some_iff.mp hj).1,hgoes.snoc_call a⟩
    · refine ⟨p',?_,hgoes⟩
      rw [List.getElem?_set_ne hji]
      exact hp'

theorem Runs.left_sublist {i : ℕ} {w w' : World S H A E R} {own : List (S × S)} (h : Runs sys i w own w') :
    (own.map (·.2)).reverse.Sublist w'.trace.history := by
  induction h with
  | refl => exact List.nil_sublist _
  | start _ p hp ih => exact ih
  | @tx own w' _ j held next k hj hg ih =>
    rw [Trace.commit_history]
    split
    · rw [List.map_append,List.reverse_append]
      exact ih.cons_cons _
    · exact ih.cons _
  | call _ j hj a ha ih => exact ih

theorem Runs.reachable {i : ℕ} {w w' : World S H A E R} {own : List (S × S)} (h : Runs sys i w own w') : Reachable sys w w' := by
  induction h with
  | refl => exact .refl
  | start _ p hp ih => exact ih.tail (.start p hp)
  | tx _ j hj hg ih => exact ih.tail (.tx j hj hg)
  | call _ j hj a ha ih => exact ih.tail (.call j hj a ha)

end World
end Overseer.Library
