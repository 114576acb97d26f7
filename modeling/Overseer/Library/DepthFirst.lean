import Mathlib.Data.Finset.Card
import Mathlib.Logic.Relation
import Mathlib.Logic.Function.Basic

/-! # Depth-first search for a cycle

A search marks a node while the nodes after it are visited, and raises when it meets a node that is
marked. Among finitely many nodes it ends, and it raises exactly when one of them is on a cycle.
-/
namespace Overseer.Library

inductive Color where
  | fresh | visiting | visited
  deriving DecidableEq

namespace DepthFirst
variable {α ε : Type} [DecidableEq α]

/-- Visit a node: the nodes after it first. `none` when the search is deeper than its bound. -/
def visit (next : α → Except ε (List α)) (error : ε) : ℕ → (α → Color) → α → ExceptT ε Option (α → Color)
  | 0, _, _ => none
  | n + 1, state, a =>
    match state a with
    | .visiting => throw error
    | .visited => pure state
    | .fresh =>
      match next a with
      | .error e => throw e
      | .ok items => do
        let state ← items.foldlM (visit next error n) (Function.update state a .visiting)
        return Function.update state a .visited

/-- Visit one node after another. -/
def visitAll (next : α → Except ε (List α)) (error : ε) (n : ℕ) (state : α → Color) (l : List α) : ExceptT ε Option (α → Color) :=
  l.foldlM (visit next error n) state

/-- The nodes of the search and what comes after each of them. -/
structure Graph (α : Type) where
  nodes : Finset α
  after : α → List α
  closed : ∀ a ∈ nodes, ∀ b ∈ after a, b ∈ nodes

namespace Graph

def Edge (g : Graph α) (a b : α) : Prop := a ∈ g.nodes ∧ b ∈ g.after a

def Cyclic (g : Graph α) : Prop := ∃ a, Relation.TransGen g.Edge a a

variable {g : Graph α} {s s' s'' : α → Color} {a : α}

/-- What has been visited is on no cycle, and so is all that comes after it. -/
structure Sound (g : Graph α) (s : α → Color) : Prop where
  closed : ∀ a, s a = .visited → ∀ b, g.Edge a b → s b = .visited
  acyclic : ∀ a, s a = .visited → ¬ Relation.TransGen g.Edge a a

/-- A search from `s` that has ended in `s'`. -/
structure Extends (s s' : α → Color) : Prop where
  visiting : ∀ a, s' a = .visiting ↔ s a = .visiting
  visited : ∀ a, s a = .visited → s' a = .visited

omit [DecidableEq α] in
theorem Extends.refl (s : α → Color) : Extends s s := ⟨fun _ => Iff.rfl,fun _ h => h⟩

omit [DecidableEq α] in
theorem Extends.trans (h : Extends s s') (h' : Extends s' s'') : Extends s s'' :=
  ⟨fun a => (h'.visiting a).trans (h.visiting a),fun a ha => h'.visited a (h.visited a ha)⟩

omit [DecidableEq α] in
theorem Sound.visited_of_path (h : g.Sound s) {b : α} (ha : s a = .visited) (hpath : Relation.ReflTransGen g.Edge a b) :
    s b = .visited := by
  induction hpath with
  | refl => exact ha
  | tail _ hedge ih => exact h.closed _ ih _ hedge

/-! ### The bound -/

def freshNodes (g : Graph α) (s : α → Color) : Finset α := g.nodes.filter fun a => s a = .fresh

theorem freshNodes_visiting (hmem : a ∈ g.nodes) (ha : s a = .fresh) :
    (g.freshNodes (Function.update s a .visiting)).card < (g.freshNodes s).card := by
  refine Finset.card_lt_card (Finset.ssubset_iff_of_subset ?_ |>.mpr ⟨a,?_,?_⟩)
  · intro b hb
    obtain ⟨hb,hfresh⟩ := Finset.mem_filter.mp hb
    refine Finset.mem_filter.mpr ⟨hb,?_⟩
    by_cases hba : b = a
    · rw [hba,Function.update_self] at hfresh
      cases hfresh
    · rwa [Function.update_of_ne hba] at hfresh
  · exact Finset.mem_filter.mpr ⟨hmem,ha⟩
  · intro hmem'
    have hfresh := (Finset.mem_filter.mp hmem').2
    rw [Function.update_self] at hfresh
    cases hfresh

omit [DecidableEq α] in
theorem Extends.freshNodes_le (h : Extends s s') : (g.freshNodes s').card ≤ (g.freshNodes s).card := by
  refine Finset.card_le_card fun b hb => ?_
  obtain ⟨hb,hfresh⟩ := Finset.mem_filter.mp hb
  refine Finset.mem_filter.mpr ⟨hb,?_⟩
  cases hcolor : s b with
  | fresh => rfl
  | visiting =>
    rw [(h.visiting b).mpr hcolor] at hfresh
    cases hfresh
  | visited =>
    rw [h.visited b hcolor] at hfresh
    cases hfresh

/-! ### One node -/

theorem Sound.visit (h : g.Sound s) (ha : s a = .fresh) : g.Sound (Function.update s a .visiting) := by
  have hvisited : ∀ b, Function.update s a Color.visiting b = .visited ↔ s b = .visited := by
    intro b
    by_cases hba : b = a
    · rw [hba,Function.update_self,ha]
      exact ⟨nofun,nofun⟩
    · rw [Function.update_of_ne hba]
  constructor
  · intro b hb c hedge
    exact (hvisited c).mpr (h.closed b ((hvisited b).mp hb) c hedge)
  · intro b hb
    exact h.acyclic b ((hvisited b).mp hb)

/-- Once all that comes after a node is visited, so is the node: it is on no cycle, since it was
marked until now. -/
theorem Sound.leave (h : g.Sound s) (ha : s a = .visiting) (hafter : ∀ b, g.Edge a b → s b = .visited) :
    g.Sound (Function.update s a .visited) := by
  have hkept : ∀ b, s b = .visited → Function.update s a Color.visited b = .visited := by
    intro b hb
    by_cases hba : b = a
    · rw [hba,Function.update_self]
    · rw [Function.update_of_ne hba,hb]
  constructor
  · intro b hb c hedge
    by_cases hba : b = a
    · exact hkept c (hafter c (hba ▸ hedge))
    · rw [Function.update_of_ne hba] at hb
      exact hkept c (h.closed b hb c hedge)
  · intro b hb
    by_cases hba : b = a
    · rw [hba]
      intro hcycle
      obtain ⟨c,hedge,hpath⟩ := Relation.TransGen.head'_iff.mp hcycle
      have hvisited := h.visited_of_path (hafter c hedge) hpath
      rw [ha] at hvisited
      cases hvisited
    · rw [Function.update_of_ne hba] at hb
      exact h.acyclic b hb

theorem Extends.leave (h : Extends (Function.update s a .visiting) s') (ha : s a = .fresh) :
    Extends s (Function.update s' a .visited) := by
  constructor
  · intro b
    by_cases hba : b = a
    · rw [hba,Function.update_self,ha]
      exact ⟨nofun,nofun⟩
    · rw [Function.update_of_ne hba,h.visiting b,Function.update_of_ne hba]
  · intro b hb
    by_cases hba : b = a
    · rw [hba,Function.update_self]
    · have hb' : Function.update s a Color.visiting b = .visited := by rw [Function.update_of_ne hba,hb]
      rw [Function.update_of_ne hba,h.visited b hb']

/-! ### The search -/

/-- If all marked nodes lead to the node, one of them is on a cycle. -/
def Closes (g : Graph α) (s : α → Color) (a : α) : Prop := (∀ b, s b = .visiting → Relation.TransGen g.Edge b a) → g.Cyclic

/-- What a visit of the node comes to. -/
def Visits (g : Graph α) (error : ε) (s : α → Color) (a : α) (r : ExceptT ε Option (α → Color)) : Prop :=
  (∃ s', r = pure s' ∧ g.Sound s' ∧ Extends s s' ∧ s' a = .visited) ∨ (r = throw error ∧ g.Closes s a)

variable {next : α → Except ε (List α)} {error : ε} {n : ℕ}

theorem visitAll_of_visits (hvisit : ∀ s a, a ∈ g.nodes → g.Sound s → (g.freshNodes s).card < n → g.Visits error s a (visit next error n s a))
    {l : List α} (hl : ∀ a ∈ l, a ∈ g.nodes) (hs : g.Sound s) (hn : (g.freshNodes s).card < n) :
    (∃ s', visitAll next error n s l = pure s' ∧ g.Sound s' ∧ Extends s s' ∧ ∀ a ∈ l, s' a = .visited) ∨
      (visitAll next error n s l = throw error ∧ ∃ a ∈ l, g.Closes s a) := by
  induction l generalizing s with
  | nil => exact .inl ⟨s,rfl,hs,.refl s,fun a ha => (by cases ha)⟩
  | cons a rest ih =>
    have hcons : visitAll next error n s (a :: rest) = visit next error n s a >>= fun s' => visitAll next error n s' rest :=
      List.foldlM_cons
    rw [hcons]
    rcases hvisit s a (hl a List.mem_cons_self) hs hn with ⟨s₁,hrun,hs₁,hext,ha⟩ | ⟨hrun,hcloses⟩
    · rw [hrun,pure_bind]
      have hn₁ : (g.freshNodes s₁).card < n := hext.freshNodes_le.trans_lt hn
      rcases ih (fun b hb => hl b (List.mem_cons_of_mem _ hb)) hs₁ hn₁ with ⟨s',hrest,hs',hext',hall⟩ | ⟨hrest,b,hb,hcloses⟩
      · refine .inl ⟨s',hrest,hs',hext.trans hext',fun b hb => ?_⟩
        rcases List.mem_cons.mp hb with rfl | hb
        · exact hext'.visited b ha
        · exact hall b hb
      · refine .inr ⟨hrest,b,List.mem_cons_of_mem _ hb,fun hlead => hcloses fun c hc => ?_⟩
        exact hlead c ((hext.visiting c).mp hc)
    · rw [hrun]
      exact .inr ⟨rfl,a,List.mem_cons_self,hcloses⟩

/-- With as many levels as there are fresh nodes a visit ends, and it raises only on a cycle. -/
theorem visit_visits (hnext : ∀ a ∈ g.nodes, next a = .ok (g.after a)) (n : ℕ) : ∀ s a, a ∈ g.nodes → g.Sound s →
    (g.freshNodes s).card < n → g.Visits error s a (visit next error n s a) := by
  induction n with
  | zero => exact fun _ _ _ _ hn => absurd hn (Nat.not_lt_zero _)
  | succ n ih =>
    intro s a ha hs hn
    unfold visit
    cases hcolor : s a with
    | visiting => exact .inr ⟨rfl,fun hlead => ⟨a,hlead a hcolor⟩⟩
    | visited => exact .inl ⟨s,rfl,hs,.refl s,hcolor⟩
    | fresh =>
      dsimp only
      rw [hnext a ha]
      have hedge : ∀ b, g.Edge a b → b ∈ g.after a := fun b h => h.2
      have hbound : (g.freshNodes (Function.update s a .visiting)).card < n :=
        Nat.lt_of_lt_of_le (freshNodes_visiting ha hcolor) (Nat.lt_succ_iff.mp hn)
      change g.Visits error s a (visitAll next error n (Function.update s a .visiting) (g.after a) >>= fun state =>
        pure (Function.update state a .visited))
      rcases visitAll_of_visits ih (g.closed a ha) (hs.visit hcolor) hbound with ⟨s₁,hrun,hs₁,hext,hall⟩ | ⟨hrun,b,hb,hcloses⟩
      · rw [hrun,pure_bind]
        have hmarked : s₁ a = .visiting := (hext.visiting a).mpr (Function.update_self ..)
        refine .inl ⟨_,rfl,hs₁.leave hmarked fun b hb => hall b (hedge b hb),hext.leave hcolor,Function.update_self ..⟩
      · rw [hrun]
        refine .inr ⟨rfl,fun hlead => hcloses fun c hc => ?_⟩
        by_cases hca : c = a
        · rw [hca]
          exact .single ⟨ha,hb⟩
        · rw [Function.update_of_ne hca] at hc
          exact (hlead c hc).tail ⟨ha,hb⟩

/-- A search over all nodes ends: it raises when there is a cycle, and only then. -/
theorem search_ends (error : ε) (hnext : ∀ a ∈ g.nodes, next a = .ok (g.after a)) {order : List α} (horder : ∀ a, a ∈ order ↔ a ∈ g.nodes)
    (hn : g.nodes.card < n) :
    ((∃ s, visitAll next error n (fun _ => .fresh) order = pure s) ∧ ¬ g.Cyclic) ∨
      (visitAll next error n (fun _ => .fresh) order = throw error ∧ g.Cyclic) := by
  have hsound : g.Sound fun _ => .fresh := ⟨nofun,nofun⟩
  have hbound : (g.freshNodes fun _ => .fresh).card < n := (Finset.card_filter_le _ _).trans_lt hn
  rcases visitAll_of_visits (visit_visits hnext n) (fun a ha => (horder a).mp ha) hsound hbound with
    ⟨s,hrun,hs,-,hall⟩ | ⟨hrun,a,-,hcloses⟩
  · refine .inl ⟨⟨s,hrun⟩,?_⟩
    rintro ⟨a,hcycle⟩
    obtain ⟨b,hedge,-⟩ := Relation.TransGen.head'_iff.mp hcycle
    exact hs.acyclic a (hall a ((horder a).mpr hedge.1)) hcycle
  · exact .inr ⟨hrun,hcloses nofun⟩

/-- A search from the nodes that something comes after: the others are on no cycle. -/
theorem search_ends_of_sources (error : ε) (hnext : ∀ a ∈ g.nodes, next a = .ok (g.after a)) {order : List α}
    (horder : ∀ a ∈ order, a ∈ g.nodes) (hsource : ∀ a b, g.Edge a b → a ∈ order) (hn : g.nodes.card < n) :
    ((∃ s, visitAll next error n (fun _ => .fresh) order = pure s) ∧ ¬ g.Cyclic) ∨
      (visitAll next error n (fun _ => .fresh) order = throw error ∧ g.Cyclic) := by
  have hsound : g.Sound fun _ => .fresh := by
    constructor
    · intro _ h
      cases h
    · intro _ h
      cases h
  have hbound : (g.freshNodes fun _ => .fresh).card < n := (Finset.card_filter_le _ _).trans_lt hn
  rcases visitAll_of_visits (visit_visits hnext n) horder hsound hbound with ⟨s,hrun,hs,-,hall⟩ | ⟨hrun,a,-,hcloses⟩
  · refine .inl ⟨⟨s,hrun⟩,?_⟩
    rintro ⟨a,hcycle⟩
    obtain ⟨b,hedge,-⟩ := Relation.TransGen.head'_iff.mp hcycle
    exact hs.acyclic a (hall a (hsource a b hedge)) hcycle
  · refine .inr ⟨hrun,hcloses fun b hb => ?_⟩
    cases hb

end Graph
end DepthFirst
end Overseer.Library
