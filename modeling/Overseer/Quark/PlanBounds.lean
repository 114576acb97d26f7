import Overseer.Quark.Plan
import Mathlib.Tactic.Linarith
import Mathlib.Tactic.FieldSimp

/-! # The capacity guardrail

The loop of one limit keeps its books: what is handed out and what is left make up the
spendable capacity, and no item gets more than its estimate. Each pass takes an item off
its queue or a whole slice off the capacity, so the loop ends.
-/
namespace Overseer.Quark
open Overseer.Library Overseer.Agent

/-- What the allocations give an item. -/
def unitsOf (allocations : List WorkAllocation) (workId : String) : ℚ :=
  ((allocations.filter (·.workId = workId)).map (·.allocatedUnits)).sum

def totalUnits (allocations : List WorkAllocation) : ℚ := (allocations.map (·.allocatedUnits)).sum

@[simp] theorem totalUnits_append (l l' : List WorkAllocation) : totalUnits (l ++ l') = totalUnits l + totalUnits l' := by
  simp [totalUnits]

theorem unitsOf_append_one (l : List WorkAllocation) (a : WorkAllocation) (id : String) :
    unitsOf (l ++ [a]) id = unitsOf l id + if a.workId = id then a.allocatedUnits else 0 := by
  by_cases h : a.workId = id <;> simp [unitsOf,h]

structure RoundOk (maxSlice spendable : ℚ) (eligible : List AgentWorkItem) (r : Round) : Prop where
  available : 0 ≤ r.available
  balance : r.available + totalUnits r.allocations = spendable
  slices : ∀ a ∈ r.allocations, 0 < a.allocatedUnits ∧ a.allocatedUnits ≤ maxSlice ∧
    ∃ item ∈ eligible, a = workAllocation item a.allocatedUnits
  totals : ∀ id, r.allocated id = unitsOf r.allocations id
  estimates : ∀ item ∈ eligible, unitsOf r.allocations item.id ≤ item.estimatedUnits
  queues : ∀ p q, r.byProject.get? p = some q → ∀ item ∈ q, item ∈ eligible
  order : r.projectOrder.Nodup
  waiting : ∀ p ∈ r.projectOrder, ∃ item q, r.byProject.get? p = some (item :: q)

/-- The part of the books that holds of items under shared ids too. -/
structure RoundKept (maxSlice spendable : ℚ) (eligible : List AgentWorkItem) (r : Round) : Prop where
  available : 0 ≤ r.available
  balance : r.available + totalUnits r.allocations = spendable
  slices : ∀ a ∈ r.allocations, 0 < a.allocatedUnits ∧ a.allocatedUnits ≤ maxSlice ∧
    ∃ item ∈ eligible, a = workAllocation item a.allocatedUnits
  queues : ∀ p q, r.byProject.get? p = some q → ∀ item ∈ q, item ∈ eligible
  order : r.projectOrder.Nodup
  waiting : ∀ p ∈ r.projectOrder, ∃ item q, r.byProject.get? p = some (item :: q)

theorem RoundOk.kept {maxSlice spendable : ℚ} {eligible : List AgentWorkItem} {r : Round}
    (h : RoundOk maxSlice spendable eligible r) : RoundKept maxSlice spendable eligible r :=
  ⟨h.available,h.balance,h.slices,h.queues,h.order,h.waiting⟩

/-! ### One pass -/

section Pass
variable {maxSlice spendable : ℚ} {eligible : List AgentWorkItem} {r : Round}

theorem Round.give_allocated (r : Round) (item : AgentWorkItem) {units : ℚ} (hunits : 0 < units) (id : String) :
    (r.give item units).allocated id = r.allocated id + if item.id = id then units else 0 := by
  by_cases h : id = item.id
  · subst h
    simp [Round.give,hunits,Round.allocated]
  · have h' : ¬ item.id = id := fun e => h e.symm
    simp [Round.give,hunits,Round.allocated,h,h']

@[simp] theorem Round.give_byProject (r : Round) (item : AgentWorkItem) (units : ℚ) :
    (r.give item units).byProject = r.byProject := by
  unfold Round.give
  split <;> rfl

@[simp] theorem Round.give_projectOrder (r : Round) (item : AgentWorkItem) (units : ℚ) :
    (r.give item units).projectOrder = r.projectOrder := by
  unfold Round.give
  split <;> rfl

theorem Round.give_pos (r : Round) (item : AgentWorkItem) {units : ℚ} (hunits : 0 < units) : r.give item units = { r with
    available := r.available - units
    allocatedByWork := r.allocatedByWork.set item.id (r.allocated item.id + units)
    allocations := r.allocations ++ [workAllocation item units] } := if_pos hunits

theorem Round.give_nonpos (r : Round) (item : AgentWorkItem) {units : ℚ} (hunits : ¬ 0 < units) : r.give item units = r :=
  if_neg hunits

theorem RoundKept.give (h : RoundKept maxSlice spendable eligible r) {item : AgentWorkItem} (hitem : item ∈ eligible) {units : ℚ}
    (hslice : units ≤ maxSlice) (havailable : units ≤ r.available) : RoundKept maxSlice spendable eligible (r.give item units) := by
  by_cases hunits : 0 < units
  · have hgive := r.give_pos item hunits
    have halloc : (r.give item units).allocations = r.allocations ++ [workAllocation item units] := by rw [hgive]
    constructor
    · rw [hgive]
      exact sub_nonneg.mpr havailable
    · rw [halloc,totalUnits_append,← h.balance,hgive]
      simp [totalUnits,workAllocation]
    · intro a ha
      rw [halloc,List.mem_append,List.mem_singleton] at ha
      rcases ha with ha | rfl
      · exact h.slices a ha
      · exact ⟨hunits,hslice,item,hitem,rfl⟩
    · simpa using h.queues
    · simpa using h.order
    · simpa using h.waiting
  · rw [r.give_nonpos item hunits]
    exact h

/-- A slice within the estimate too keeps all of them. -/
theorem RoundOk.give (h : RoundOk maxSlice spendable eligible r) (hids : (eligible.map (·.id)).Nodup)
    {item : AgentWorkItem} (hitem : item ∈ eligible) {units : ℚ} (hslice : units ≤ maxSlice)
    (hestimate : units ≤ item.estimatedUnits - r.allocated item.id) (havailable : units ≤ r.available) :
    RoundOk maxSlice spendable eligible (r.give item units) := by
  have hkept := h.kept.give hitem hslice havailable
  by_cases hunits : 0 < units
  · have halloc : (r.give item units).allocations = r.allocations ++ [workAllocation item units] := by
      rw [r.give_pos item hunits]
    refine ⟨hkept.available,hkept.balance,hkept.slices,fun id => ?_,fun other hother => ?_,hkept.queues,hkept.order,hkept.waiting⟩
    · rw [r.give_allocated item hunits,halloc,unitsOf_append_one,h.totals]
      rfl
    · rw [halloc,unitsOf_append_one]
      by_cases hid : item.id = other.id
      · obtain rfl : item = other := List.inj_on_of_nodup_map hids hitem hother hid
        have htotal := h.totals item.id
        simp only [workAllocation,↓reduceIte]
        linarith
      · simpa [workAllocation,hid] using h.estimates other hother
  · rw [r.give_nonpos item hunits]
    exact h

/-- Putting a queue back in place. -/
theorem RoundKept.requeue (h : RoundKept maxSlice spendable eligible r) {p : String} {rest : List String}
    {queue : List AgentWorkItem} (horder : r.projectOrder = p :: rest) (hqueue : ∀ item ∈ queue, item ∈ eligible) :
    RoundKept maxSlice spendable eligible { r with
      byProject := r.byProject.set p queue
      projectOrder := if queue = [] then rest else rest ++ [p] } := by
  have hnodup := h.order
  rw [horder,List.nodup_cons] at hnodup
  refine ⟨h.available,h.balance,h.slices,fun p' q hq item hitem => ?_,?_,fun p' hp' => ?_⟩
  · simp only [Dict.get?_set] at hq
    split at hq
    · cases hq
      exact hqueue item hitem
    · exact h.queues p' q hq item hitem
  · dsimp only
    split
    · exact hnodup.2
    · exact List.nodup_append.mpr ⟨hnodup.2,by simp,fun a ha b hb hab => hnodup.1 (by simp_all)⟩
  · simp only [Dict.get?_set]
    by_cases hpp : p' = p
    · subst hpp
      cases queue with
      | nil => simp [hnodup.1] at hp'
      | cons item q => exact ⟨item,q,by simp⟩
    · rw [if_neg hpp]
      refine h.waiting p' ?_
      rw [horder]
      split at hp'
      · exact List.mem_cons_of_mem _ hp'
      · rcases List.mem_append.mp hp' with hp' | hp'
        · exact List.mem_cons_of_mem _ hp'
        · exact absurd (List.mem_singleton.mp hp') hpp

theorem RoundOk.requeue (h : RoundOk maxSlice spendable eligible r) {p : String} {rest : List String}
    {queue : List AgentWorkItem} (horder : r.projectOrder = p :: rest) (hqueue : ∀ item ∈ queue, item ∈ eligible) :
    RoundOk maxSlice spendable eligible { r with
      byProject := r.byProject.set p queue
      projectOrder := if queue = [] then rest else rest ++ [p] } := by
  have hkept := h.kept.requeue horder hqueue
  exact ⟨h.available,h.balance,h.slices,h.totals,h.estimates,hkept.queues,hkept.order,hkept.waiting⟩

theorem queued_requeue {p : String} {rest : List String} {queue : List AgentWorkItem} (hp : p ∉ rest) :
    Round.queued { r with
      byProject := r.byProject.set p queue
      projectOrder := if queue = [] then rest else rest ++ [p] } =
    (rest.map fun p => ((r.byProject.get? p).getD []).length).sum + queue.length := by
  have hrest : (rest.map fun p' => (((r.byProject.set p queue).get? p').getD []).length) =
      rest.map fun p' => ((r.byProject.get? p').getD []).length := by
    refine List.map_congr_left fun p' hp' => ?_
    have hne : p' ≠ p := fun e => hp (e ▸ hp')
    rw [Dict.get?_set,if_neg hne]
  unfold Round.queued
  dsimp only
  split
  · next hq =>
    rw [hrest,hq]
    rfl
  · rw [List.map_append,List.sum_append,hrest]
    simp

theorem ceil_slices_lt {maxSlice available : ℚ} (hslice : 0 < maxSlice) (havailable : 0 < available) :
    ⌈(available - min maxSlice available) / maxSlice⌉₊ < ⌈available / maxSlice⌉₊ := by
  have hpos : 0 < ⌈available / maxSlice⌉₊ := Nat.ceil_pos.mpr (div_pos havailable hslice)
  have hle : available / maxSlice ≤ (⌈available / maxSlice⌉₊ : ℚ) := Nat.le_ceil _
  suffices hceil : ⌈(available - min maxSlice available) / maxSlice⌉₊ ≤ ⌈available / maxSlice⌉₊ - 1 by omega
  have hcast : ((⌈available / maxSlice⌉₊ - 1 : ℕ) : ℚ) = (⌈available / maxSlice⌉₊ : ℚ) - 1 := by
    rw [Nat.cast_sub hpos,Nat.cast_one]
  rw [Nat.ceil_le,hcast]
  rcases le_total maxSlice available with h | h
  · rw [min_eq_left h,sub_div,div_self hslice.ne']
    linarith
  · have hone : (1 : ℚ) ≤ (⌈available / maxSlice⌉₊ : ℚ) := by exact_mod_cast hpos
    rw [min_eq_right h,sub_self,zero_div]
    linarith

theorem Round.give_available (r : Round) (item : AgentWorkItem) (units : ℚ) :
    (r.give item units).available = r.available - max 0 units := by
  unfold Round.give
  split
  · next h => rw [max_eq_right h.le]
  · next h => rw [max_eq_left (not_lt.mp h),sub_zero]

/-- What the first of the projects asks for. -/
def Round.wanted (maxSlice : ℚ) (r : Round) (item : AgentWorkItem) : ℚ :=
  min maxSlice (min (item.estimatedUnits - r.allocated item.id) r.available)

/-- The queue of the item after it has been served. -/
def Round.left (maxSlice : ℚ) (r : Round) (item : AgentWorkItem) (q : List AgentWorkItem) : List AgentWorkItem :=
  if item.estimatedUnits ≤ (r.give item (r.wanted maxSlice item)).allocated item.id then q else item :: q

theorem Round.left_subset (maxSlice : ℚ) (r : Round) (item : AgentWorkItem) (q : List AgentWorkItem) :
    r.left maxSlice item q ⊆ item :: q := by
  unfold Round.left
  split
  · exact List.subset_cons_self item q
  · exact List.Subset.refl _

/-- One pass serves the first of the projects. -/
theorem allocateNext_serves (h : RoundKept maxSlice spendable eligible r) (hmore : r.more = true) :
    ∃ p rest item q, r.projectOrder = p :: rest ∧ r.byProject.get? p = some (item :: q) ∧ item ∈ eligible ∧
      (∀ i ∈ r.left maxSlice item q, i ∈ eligible) ∧
      allocateNext maxSlice r = .ok { r.give item (r.wanted maxSlice item) with
        byProject := (r.give item (r.wanted maxSlice item)).byProject.set p (r.left maxSlice item q)
        projectOrder := if r.left maxSlice item q = [] then rest else rest ++ [p] } := by
  simp only [Round.more,decide_eq_true_eq] at hmore
  obtain ⟨p,rest,horder⟩ := List.exists_cons_of_ne_nil hmore.2
  obtain ⟨item,q,hqueue⟩ := h.waiting p (by rw [horder]; exact List.mem_cons_self)
  refine ⟨p,rest,item,q,horder,hqueue,h.queues p _ hqueue item List.mem_cons_self,
    fun i hi => h.queues p _ hqueue i (r.left_subset maxSlice item q hi),?_⟩
  simp only [allocateNext,horder,hqueue,Round.give_byProject]
  rfl

/-- A pass comes nearer to the end: the item leaves its queue or takes a whole slice. -/
theorem size_serves (hslice : 0 < maxSlice) (havailable : 0 < r.available) {p : String} {rest : List String} {item : AgentWorkItem}
    {q : List AgentWorkItem} (horder : r.projectOrder = p :: rest) (hp : p ∉ rest) (hqueue : r.byProject.get? p = some (item :: q)) :
    Round.size maxSlice { r.give item (r.wanted maxSlice item) with
      byProject := (r.give item (r.wanted maxSlice item)).byProject.set p (r.left maxSlice item q)
      projectOrder := if r.left maxSlice item q = [] then rest else rest ++ [p] } < r.size maxSlice := by
  have hqueued : r.queued = (rest.map fun p => ((r.byProject.get? p).getD []).length).sum + (q.length + 1) := by
    simp [Round.queued,horder,hqueue]
    omega
  unfold Round.size
  rw [queued_requeue hp,hqueued,Round.give_byProject,Round.give_available]
  by_cases hdone : item.estimatedUnits ≤ (r.give item (r.wanted maxSlice item)).allocated item.id
  · have hq : r.left maxSlice item q = q := if_pos hdone
    have hceil : ⌈(r.available - max 0 (r.wanted maxSlice item)) / maxSlice⌉₊ ≤ ⌈r.available / maxSlice⌉₊ := by
      refine Nat.ceil_le_ceil (div_le_div_of_nonneg_right ?_ hslice.le)
      linarith [le_max_left 0 (r.wanted maxSlice item)]
    rw [hq]
    omega
  · have hq : r.left maxSlice item q = item :: q := if_neg hdone
    -- the item stays queued, so it got neither nothing nor all it still needs
    have hpos : 0 < r.wanted maxSlice item := by
      by_contra hle
      rw [r.give_nonpos item hle] at hdone
      have hrest : 0 < item.estimatedUnits - r.allocated item.id := by linarith
      exact hle (lt_min hslice (lt_min hrest havailable))
    have hunits : r.wanted maxSlice item = min maxSlice r.available := by
      have hlt : r.wanted maxSlice item < item.estimatedUnits - r.allocated item.id := by
        rw [r.give_allocated item hpos,if_pos rfl] at hdone
        linarith
      have hassoc : r.wanted maxSlice item = min (item.estimatedUnits - r.allocated item.id) (min maxSlice r.available) :=
        min_left_comm _ _ _
      rcases min_choice (item.estimatedUnits - r.allocated item.id) (min maxSlice r.available) with hc | hc
      · rw [hassoc,hc] at hlt
        exact absurd hlt (lt_irrefl _)
      · rw [hassoc,hc]
    have hceil := ceil_slices_lt hslice havailable
    rw [hq,max_eq_right hpos.le,hunits,List.length_cons]
    omega

theorem allocateNext_kept (hslice : 0 < maxSlice) (h : RoundKept maxSlice spendable eligible r) (hmore : r.more = true) :
    ∃ r', allocateNext maxSlice r = .ok r' ∧ RoundKept maxSlice spendable eligible r' ∧ r'.size maxSlice < r.size maxSlice := by
  obtain ⟨p,rest,item,q,horder,hqueue,hitem,hleft,hrun⟩ := allocateNext_serves h hmore
  have hp : p ∉ rest := (List.nodup_cons.mp (horder ▸ h.order)).1
  simp only [Round.more,decide_eq_true_eq] at hmore
  have hgiven : RoundKept maxSlice spendable eligible (r.give item (r.wanted maxSlice item)) :=
    h.give hitem (min_le_left _ _) ((min_le_right _ _).trans (min_le_right _ _))
  exact ⟨_,hrun,hgiven.requeue (by simpa using horder) hleft,size_serves hslice hmore.1 horder hp hqueue⟩

theorem allocateNext_step (hslice : 0 < maxSlice) (hids : (eligible.map (·.id)).Nodup)
    (h : RoundOk maxSlice spendable eligible r) (hmore : r.more = true) :
    ∃ r', allocateNext maxSlice r = .ok r' ∧ RoundOk maxSlice spendable eligible r' ∧
      r'.size maxSlice < r.size maxSlice := by
  obtain ⟨p,rest,item,q,horder,hqueue,hitem,hleft,hrun⟩ := allocateNext_serves h.kept hmore
  have hp : p ∉ rest := (List.nodup_cons.mp (horder ▸ h.order)).1
  simp only [Round.more,decide_eq_true_eq] at hmore
  have hgiven : RoundOk maxSlice spendable eligible (r.give item (r.wanted maxSlice item)) :=
    h.give hids hitem (min_le_left _ _) ((min_le_right _ _).trans (min_le_left _ _)) ((min_le_right _ _).trans (min_le_right _ _))
  exact ⟨_,hrun,hgiven.requeue (by simpa using horder) hleft,size_serves hslice hmore.1 horder hp hqueue⟩

theorem Round.give_allocations_ne (r : Round) (item : AgentWorkItem) {units : ℚ} (h : r.allocations ≠ [] ∨ 0 < units) :
    (r.give item units).allocations ≠ [] := by
  unfold Round.give
  split
  · simp
  · next hle => exact h.resolve_right hle

theorem allocateNext_gives (hslice : 0 < maxSlice) (h : RoundOk maxSlice spendable eligible r) (hmore : r.more = true) {r' : Round}
    (hrun : allocateNext maxSlice r = .ok r') : r'.allocations ≠ [] := by
  simp only [Round.more,decide_eq_true_eq] at hmore
  obtain ⟨havailable,hne⟩ := hmore
  obtain ⟨p,rest,horder⟩ := List.exists_cons_of_ne_nil hne
  obtain ⟨item,q,hqueue⟩ := h.waiting p (by rw [horder]; exact List.mem_cons_self)
  simp only [allocateNext,horder,hqueue] at hrun
  cases hrun
  refine r.give_allocations_ne item ?_
  by_cases hnone : r.allocations = []
  · -- nothing was given yet, so the item still needs all of its estimate
    have hallocated : r.allocated item.id = 0 := by
      rw [h.totals,hnone]
      rfl
    have hrest : 0 < item.estimatedUnits - r.allocated item.id := by
      rw [hallocated,sub_zero]
      exact item.estimate_pos
    exact .inr (lt_min hslice (lt_min hrest havailable))
  · exact .inl hnone

end Pass

/-! ### One limit -/

theorem groupByProject_mem (items : List AgentWorkItem) {p : String} {q : List AgentWorkItem}
    (h : (groupByProject items).get? p = some q) : q ≠ [] ∧ ∀ item ∈ q, item ∈ items := by
  suffices key : ∀ (l : List AgentWorkItem) (d : Dict (List AgentWorkItem)), l ⊆ items →
      (∀ p q, d.get? p = some q → q ≠ [] ∧ ∀ item ∈ q, item ∈ items) →
      ∀ p q, (l.foldl (fun d item => d.set item.projectId ((d.get? item.projectId).getD [] ++ [item])) d).get? p =
        some q → q ≠ [] ∧ ∀ item ∈ q, item ∈ items from
    key items .empty (List.Subset.refl _) (fun p q hq => by simp at hq) p q h
  intro l
  induction l with
  | nil => exact fun d _ hd => hd
  | cons item rest ih =>
    intro d hl hd
    obtain ⟨hitem,hrest⟩ := List.cons_subset.mp hl
    refine ih _ hrest fun p q hq => ?_
    rw [Dict.get?_set] at hq
    split at hq
    · cases hq
      refine ⟨by simp,fun i hi => ?_⟩
      rcases List.mem_append.mp hi with hi | hi
      · cases hrow : d.get? item.projectId with
        | none => simp [hrow] at hi
        | some q => exact (hd _ q hrow).2 i (by simpa [hrow] using hi)
      · rw [List.mem_singleton.mp hi]
        exact hitem
    · exact hd p q hq

theorem startRound_ok {maxSlice spendable : ℚ} (hspendable : 0 ≤ spendable) (eligible : List AgentWorkItem) :
    RoundOk maxSlice spendable eligible (startRound spendable eligible) where
  available := hspendable
  balance := by simp [startRound,totalUnits]
  slices a ha := by simp [startRound] at ha
  totals id := by simp [startRound,Round.allocated,unitsOf]
  estimates item _ := by simpa [startRound,unitsOf] using item.estimate_pos.le
  queues p q hq item hitem := by
    have hmem := (groupByProject_mem _ hq).2 item hitem
    simpa using hmem
  order := (List.perm_insertionSort _ _).nodup_iff.mpr (groupByProject _).nodup
  waiting p hp := by
    have hkey : p ∈ (groupByProject (eligible.insertionSort higherPriority)).keys := by
      simpa [startRound] using hp
    obtain ⟨q,hq⟩ := (Dict.mem_keys_iff _ p).mp hkey
    obtain ⟨item,q',rfl⟩ := List.exists_cons_of_ne_nil (groupByProject_mem _ hq).1
    exact ⟨item,q',hq⟩

theorem startRound_waiting {spendable : ℚ} {eligible : List AgentWorkItem} (h : eligible ≠ []) :
    (startRound spendable eligible).projectOrder ≠ [] := by
  have hset : ∀ (d : Dict (List AgentWorkItem)) k v, (d.set k v).keys ≠ [] := by
    intro d k v hnil
    have hmem := (Dict.mem_keys_iff (d.set k v) k).mpr ⟨v,by simp⟩
    rw [hnil] at hmem
    cases hmem
  have hfold : ∀ (l : List AgentWorkItem) (d : Dict (List AgentWorkItem)), d.keys ≠ [] →
      (l.foldl (fun d item => d.set item.projectId ((d.get? item.projectId).getD [] ++ [item])) d).keys ≠ [] := by
    intro l
    induction l with
    | nil => exact fun d hd => hd
    | cons item rest ih => exact fun d _ => ih _ (hset _ _ _)
  have hsorted : eligible.insertionSort higherPriority ≠ [] := by
    intro hnil
    have hlength := List.length_insertionSort higherPriority eligible
    rw [hnil] at hlength
    exact h (List.length_eq_zero_iff.mp hlength.symm)
  obtain ⟨item,rest,hcons⟩ := List.exists_cons_of_ne_nil hsorted
  have hkeys : (groupByProject (eligible.insertionSort higherPriority)).keys ≠ [] := by
    unfold groupByProject
    rw [hcons]
    exact hfold rest _ (hset _ _ _)
  intro hnil
  have hlength := List.length_insertionSort textLe (groupByProject (eligible.insertionSort higherPriority)).keys
  have hnil' : (groupByProject (eligible.insertionSort higherPriority)).keys.insertionSort textLe = [] := hnil
  rw [hnil'] at hlength
  exact hkeys (List.length_eq_zero_iff.mp hlength.symm)

/-- What holds of the plan of one limit. -/
structure LimitOk (policy : QuarkUsagePolicy) (capacity : Option ℚ) (limitWork : List AgentWorkItem) (l : LimitPlan) :
    Prop where
  slices : ∀ a ∈ l.allocations, 0 < a.allocatedUnits ∧ a.allocatedUnits ≤ policy.maxSlicePoints ∧
    ∃ item ∈ eligibleWork limitWork, a = workAllocation item a.allocatedUnits
  estimates : ∀ item ∈ limitWork, unitsOf l.allocations item.id ≤ item.estimatedUnits
  unknown : capacity = none → l.allocations = []
  spendable : ∀ c, capacity = some c → l.spendable = spendableUnits policy c (activeUnits limitWork)
  total : totalUnits l.allocations ≤ l.spendable
  remaining : ∀ c, capacity = some c → 0 < l.spendable →
    ∃ rest, l.remainingAfter = some rest ∧ policy.guardrail ≤ rest

theorem LimitOk.own {policy : QuarkUsagePolicy} {capacity : Option ℚ} {work : List AgentWorkItem} {k : String} {l : LimitPlan}
    (h : LimitOk policy capacity (work.filter (·.limitId = k)) l) {a : WorkAllocation} (ha : a ∈ l.allocations) : a.limitId = k := by
  obtain ⟨-,-,item,hitem,heq⟩ := h.slices a ha
  simp only [eligibleWork,List.mem_filter,decide_eq_true_eq] at hitem
  rw [heq]
  exact hitem.1.2

theorem limitOk_nil {policy : QuarkUsagePolicy} {capacity : Option ℚ} {limitWork : List AgentWorkItem} {l : LimitPlan}
    (hl : l.allocations = []) (hspendable : ∀ c, capacity = some c → l.spendable = spendableUnits policy c (activeUnits limitWork))
    (hzero : l.spendable = 0) : LimitOk policy capacity limitWork l where
  slices a ha := by simp [hl] at ha
  estimates item _ := by simpa [hl,unitsOf] using item.estimate_pos.le
  unknown _ := hl
  spendable := hspendable
  total := by simp [hl,hzero,totalUnits]
  remaining c _ h := by simp [hzero] at h

theorem planLimit_ok (policy : QuarkUsagePolicy) (capacity : Option ℚ) {limitWork : List AgentWorkItem}
    (hids : (limitWork.map (·.id)).Nodup) : ∃ l, planLimit policy capacity limitWork = pure l ∧
      LimitOk policy capacity limitWork l := by
  cases capacity with
  | none => exact ⟨_,rfl,limitOk_nil rfl (fun c hc => by cases hc) rfl⟩
  | some c =>
    let spendable := spendableUnits policy c (activeUnits limitWork)
    have hnonneg : 0 ≤ spendable := le_max_left _ _
    by_cases hzero : spendable ≤ 0
    · refine ⟨_,if_pos hzero,limitOk_nil rfl (fun c' hc => ?_) (le_antisymm hzero hnonneg)⟩
      cases hc
      rfl
    · have hsub : (eligibleWork limitWork).Sublist limitWork := List.filter_sublist
      have hids' : ((eligibleWork limitWork).map (·.id)).Nodup := hids.sublist (hsub.map _)
      obtain ⟨last,hloop,hlast,-⟩ := whileLoop_total (fun r hr => allocateNext_step policy.slice_pos hids' hr)
        (startRound_ok hnonneg (eligibleWork limitWork))
        (Nat.lt_succ_self ((startRound spendable (eligibleWork limitWork)).size policy.maxSlicePoints))
      refine ⟨{ active := activeUnits limitWork, spendable
                remainingAfter := some (c - activeUnits limitWork - (spendable - last.available))
                allocations := last.allocations, unused := decide (0 < last.available) },?_,?_⟩
      · simp only [planLimit]
        rw [if_neg hzero,hloop]
        rfl
      · have hbalance := hlast.balance
        have hleft := hlast.available
        refine ⟨hlast.slices,fun item hitem => ?_,fun h => (by cases h),fun c' hc => (by cases hc; rfl),?_,?_⟩
        · by_cases helig : item ∈ eligibleWork limitWork
          · exact hlast.estimates item helig
          · -- no allocation is of this item: its item would be eligible under the same id
            have hnone : last.allocations.filter (·.workId = item.id) = [] := by
              refine List.filter_eq_nil_iff.mpr fun a ha hid => helig ?_
              obtain ⟨-,-,other,hother,hother'⟩ := hlast.slices a ha
              have hsame : other.id = item.id := by
                have hwork := of_decide_eq_true hid
                rw [hother'] at hwork
                exact hwork
              exact List.inj_on_of_nodup_map hids (hsub.subset hother) hitem hsame ▸ hother
            simpa [unitsOf,hnone] using item.estimate_pos.le
        · change totalUnits last.allocations ≤ spendable
          linarith
        · intro c' hc hpos
          cases hc
          refine ⟨_,rfl,?_⟩
          have hspend : spendable = c - policy.guardrail - activeUnits limitWork := by
            rcases max_choice 0 (c - policy.guardrail - activeUnits limitWork) with h | h
            · exact absurd (le_of_eq h) hzero
            · exact h
          linarith

/-- Eligible work is given something while there is something to spend. -/
theorem planLimit_gives {policy : QuarkUsagePolicy} {c : ℚ} {limitWork : List AgentWorkItem} {l : LimitPlan}
    (hids : (limitWork.map (·.id)).Nodup) (hspend : 0 < spendableUnits policy c (activeUnits limitWork))
    (heligible : eligibleWork limitWork ≠ []) (h : planLimit policy (some c) limitWork = pure l) : l.allocations ≠ [] := by
  have hids' : ((eligibleWork limitWork).map (·.id)).Nodup := hids.sublist (List.filter_sublist.map _)
  let spendable := spendableUnits policy c (activeUnits limitWork)
  have hstep : ∀ r, (RoundOk policy.maxSlicePoints spendable (eligibleWork limitWork) r ∧ (r.projectOrder = [] → r.allocations ≠ [])) →
      r.more = true → ∃ r', allocateNext policy.maxSlicePoints r = .ok r' ∧
        (RoundOk policy.maxSlicePoints spendable (eligibleWork limitWork) r' ∧ (r'.projectOrder = [] → r'.allocations ≠ [])) ∧
        r'.size policy.maxSlicePoints < r.size policy.maxSlicePoints := by
    rintro r ⟨hr,-⟩ hmore
    obtain ⟨r',hrun,hr',hsize⟩ := allocateNext_step policy.slice_pos hids' hr hmore
    exact ⟨r',hrun,⟨hr',fun _ => allocateNext_gives policy.slice_pos hr hmore hrun⟩,hsize⟩
  have hstart : RoundOk policy.maxSlicePoints spendable (eligibleWork limitWork) (startRound spendable (eligibleWork limitWork)) ∧
      ((startRound spendable (eligibleWork limitWork)).projectOrder = [] →
        (startRound spendable (eligibleWork limitWork)).allocations ≠ []) :=
    ⟨startRound_ok hspend.le _,fun hnil => absurd hnil (startRound_waiting heligible)⟩
  obtain ⟨last,hloop,⟨hlast,horder⟩,hend⟩ := whileLoop_total hstep hstart
    (Nat.lt_succ_self ((startRound spendable (eligibleWork limitWork)).size policy.maxSlicePoints))
  have hl : l.allocations = last.allocations := by
    simp only [planLimit] at h
    rw [if_neg (not_le.mpr hspend),hloop] at h
    cases h
    rfl
  rw [hl]
  intro hnil
  have hbalance := hlast.balance
  rw [hnil] at hbalance
  have havailable : 0 < last.available := by
    simp only [totalUnits,List.map_nil,List.sum_nil,add_zero] at hbalance
    rw [hbalance]
    exact hspend
  have hdone : last.projectOrder = [] := by
    by_contra hne
    simp [Round.more,havailable,hne] at hend
  exact horder hdone hnil

/-! ### The plan -/

theorem flatMap_one {α : Type} {l : List String} {f : String → List α} {k : String} (hl : l.Nodup)
    (hf : ∀ k' ∈ l, k' ≠ k → f k' = []) : l.flatMap f = if k ∈ l then f k else [] := by
  induction l with
  | nil => rfl
  | cons a rest ih =>
    rw [List.nodup_cons] at hl
    rw [List.flatMap_cons,ih hl.2 fun k' hk' => hf k' (List.mem_cons_of_mem _ hk')]
    by_cases ha : a = k
    · subst ha
      simp [hl.1]
    · have hka : ¬ k = a := fun e => ha e.symm
      rw [hf a List.mem_cons_self ha]
      simp [hka]

/-- The plan keeps a limit of known capacity within its guardrail. -/
structure LimitGuarded (policy : QuarkUsagePolicy) (work : List AgentWorkItem) (plan : QuarkWorkPlan) (limitId : String)
    (capacity : ℚ) : Prop where
  total : totalUnits (plan.allocations.filter (·.limitId = limitId)) ≤
    max 0 (capacity - (policy.hardReservePoints + policy.uncertaintyPoints) -
      activeUnits (work.filter (·.limitId = limitId)))
  spendable : plan.spendableCapacity.at limitId =
    some (spendableUnits policy capacity (activeUnits (work.filter (·.limitId = limitId))))
  remaining : 0 < spendableUnits policy capacity (activeUnits (work.filter (·.limitId = limitId))) →
    ∃ rest, plan.remainingAfterPlan.at limitId = some (some rest) ∧ policy.guardrail ≤ rest

theorem keys_of_capacity {points : ℚ} {work : List AgentWorkItem} {capacity : Dict (Option ℚ)}
    (h : capacityByLimit (.scalar points) work = .ok capacity) : ∃ limitId, capacity.keys = [limitId] := by
  simp only [capacityByLimit] at h
  split at h
  · cases h
  · split at h
    · cases h
      exact ⟨"codex",rfl⟩
    · next limitId _ =>
      cases h
      exact ⟨limitId,rfl⟩
    · cases h

/-- A field of the plan at a limit it covers. -/
theorem planField_at {α : Type} {remainingPoints : Capacity} {work : List AgentWorkItem} {capacity : Dict (Option ℚ)}
    (hcapacity : capacityByLimit remainingPoints work = .ok capacity) (g : String → LimitPlan) (f : LimitPlan → α)
    (none_ : α) {limitId : String} (hmem : limitId ∈ capacity.keys) :
    (planField remainingPoints ((capacity.keys.insertionSort textLe).map fun k => (k,g k)) f none_).at limitId =
      some (f (g limitId)) := by
  cases remainingPoints with
  | scalar points =>
    obtain ⟨k,hk⟩ := keys_of_capacity hcapacity
    rw [hk,List.mem_singleton] at hmem
    simp [planField,PlanField.at,hk,hmem]
  | byLimit d =>
    have hsorted : (capacity.keys.insertionSort textLe).Nodup := (List.perm_insertionSort _ _).nodup_iff.mpr capacity.nodup
    simp only [planField,PlanField.at,List.map_map]
    refine Dict.get?_merge_of_mem _ ?_ ?_
    · rw [List.map_map]
      simpa [Function.comp_def] using hsorted
    · refine List.mem_map.mpr ⟨limitId,?_,rfl⟩
      simpa using hmem

/-- A plan made of the plans of its limits. -/
structure PlanOf (remainingPoints : Capacity) (capacity : Dict (Option ℚ)) (g : String → LimitPlan) (plan : QuarkWorkPlan) :
    Prop where
  allocations : plan.allocations = (capacity.keys.insertionSort textLe).flatMap (fun k => (g k).allocations)
  remainingBeforePlan : plan.remainingBeforePlan = match remainingPoints with
    | .scalar points => .scalar (some points)
    | .byLimit _ => .byLimit capacity
  activeReservations : plan.activeReservations =
    planField remainingPoints ((capacity.keys.insertionSort textLe).map fun k => (k,g k)) (·.active) 0
  spendableCapacity : plan.spendableCapacity =
    planField remainingPoints ((capacity.keys.insertionSort textLe).map fun k => (k,g k)) (·.spendable) 0
  remainingAfterPlan : plan.remainingAfterPlan =
    planField remainingPoints ((capacity.keys.insertionSort textLe).map fun k => (k,g k)) (·.remainingAfter) none

theorem planQuarkWork_eq {policy : QuarkUsagePolicy} {remainingPoints : Capacity} {work : List AgentWorkItem}
    {capacity : Dict (Option ℚ)} (hcapacity : capacityByLimit remainingPoints work = .ok capacity) {g : String → LimitPlan}
    (hrun : ∀ k, planLimit policy ((capacity.get? k).getD none) (work.filter (·.limitId = k)) = pure (g k)) :
    ∃ plan, planQuarkWork policy remainingPoints work = pure plan ∧ PlanOf remainingPoints capacity g plan := by
  let keys := capacity.keys.insertionSort textLe
  have hmapM : (keys.mapM fun limitId => do
      return (limitId,← planLimit policy ((capacity.get? limitId).getD none) (work.filter (·.limitId = limitId)))) =
      (pure (keys.map fun k => (k,g k)) : ExceptT PlanError Option _) := by
    refine mapM_pure fun k _ => ?_
    rw [hrun k]
    rfl
  simp only [planQuarkWork,planQuarkWork.liftExcept,hcapacity]
  change ∃ plan, (keys.mapM _ >>= _ : ExceptT PlanError Option _) = pure plan ∧ _
  rw [hmapM]
  refine ⟨_,rfl,?_,rfl,rfl,rfl,rfl⟩
  simp [keys,List.flatMap_map]

theorem PlanOf.of_limit {remainingPoints : Capacity} {capacity : Dict (Option ℚ)} {g : String → LimitPlan} {plan : QuarkWorkPlan}
    (h : PlanOf remainingPoints capacity g plan) (hown : ∀ k, ∀ a ∈ (g k).allocations, a.limitId = k) (limitId : String) :
    plan.allocations.filter (·.limitId = limitId) = if limitId ∈ capacity.keys then (g limitId).allocations else [] := by
  have hkeys : (capacity.keys.insertionSort textLe).Nodup := (List.perm_insertionSort _ _).nodup_iff.mpr capacity.nodup
  have hothers : ∀ k ∈ capacity.keys.insertionSort textLe, k ≠ limitId → (g k).allocations.filter (·.limitId = limitId) = [] := by
    intro k _ hk
    refine List.filter_eq_nil_iff.mpr fun a ha hl => hk ?_
    rw [← hown k a ha]
    exact of_decide_eq_true hl
  have hself : (g limitId).allocations.filter (·.limitId = limitId) = (g limitId).allocations :=
    List.filter_eq_self.mpr fun a ha => decide_eq_true (hown limitId a ha)
  rw [h.allocations,List.filter_flatMap,flatMap_one hkeys hothers,hself]
  simp

/-- The plan of a work list without repeated ids. -/
theorem planQuarkWork_limits (policy : QuarkUsagePolicy) {remainingPoints : Capacity} {work : List AgentWorkItem}
    (hids : (work.map (·.id)).Nodup) {capacity : Dict (Option ℚ)} (hcapacity : capacityByLimit remainingPoints work = .ok capacity) :
    ∃ g : String → LimitPlan, ∃ plan, (∀ k, planLimit policy ((capacity.get? k).getD none) (work.filter (·.limitId = k)) = pure (g k)) ∧
      (∀ k, LimitOk policy ((capacity.get? k).getD none) (work.filter (·.limitId = k)) (g k)) ∧
      planQuarkWork policy remainingPoints work = pure plan ∧ PlanOf remainingPoints capacity g plan := by
  have hlimit : ∀ limitId, ∃ l, planLimit policy ((capacity.get? limitId).getD none)
      (work.filter (·.limitId = limitId)) = pure l ∧
      LimitOk policy ((capacity.get? limitId).getD none) (work.filter (·.limitId = limitId)) l := fun limitId =>
    planLimit_ok policy _ (hids.sublist (List.filter_sublist.map _))
  choose g hrun hok using hlimit
  obtain ⟨plan,hplan,hof⟩ := planQuarkWork_eq hcapacity hrun
  exact ⟨g,plan,hrun,hok,hplan,hof⟩

/-- What a plan gives out: positive slices of a limit whose capacity is known, to items that can be served. -/
theorem planQuarkWork_slices (policy : QuarkUsagePolicy) {remainingPoints : Capacity} {work : List AgentWorkItem}
    (hids : (work.map (·.id)).Nodup) {plan : QuarkWorkPlan}
    (hplan : planQuarkWork policy remainingPoints work = pure plan) :
    ∃ capacity, capacityByLimit remainingPoints work = .ok capacity ∧ ∀ a ∈ plan.allocations, 0 < a.allocatedUnits ∧
      a.allocatedUnits ≤ policy.maxSlicePoints ∧ (∃ c, capacity.get? a.limitId = some (some c)) ∧
      ∃ item ∈ work, item.id = a.workId ∧ item.limitId = a.limitId ∧ item.state ∈ eligibleStates := by
  cases hcapacity : capacityByLimit remainingPoints work with
  | error e =>
    simp only [planQuarkWork,planQuarkWork.liftExcept,hcapacity] at hplan
    cases hplan
  | ok capacity =>
    obtain ⟨g,plan',-,hok,hplan',hof⟩ := planQuarkWork_limits policy hids hcapacity
    rw [hplan] at hplan'
    cases hplan'
    refine ⟨capacity,rfl,fun a ha => ?_⟩
    rw [hof.allocations,List.mem_flatMap] at ha
    obtain ⟨k,-,ha⟩ := ha
    obtain ⟨hpos,hle,item,hmem,heq⟩ := (hok k).slices a ha
    simp only [eligibleWork,List.mem_filter,decide_eq_true_eq] at hmem
    have hak : a.limitId = k := by
      rw [heq]
      exact hmem.1.2
    have hid : item.id = a.workId := by
      rw [heq]
      rfl
    refine ⟨hpos,hle,?_,item,hmem.1.1,hid,hmem.1.2.trans hak.symm,hmem.2⟩
    rw [hak]
    cases hrow : capacity.get? k with
    | none => simp [(hok k).unknown (by rw [hrow]; rfl)] at ha
    | some known =>
      cases known with
      | none => simp [(hok k).unknown (by rw [hrow]; rfl)] at ha
      | some c => exact ⟨c,rfl⟩

/-- The capacity guardrail: a plan is refused only for its capacity argument; otherwise it
is made, within the reserve of every limit and the estimate of every item. -/
theorem capacity_guardrail (policy : QuarkUsagePolicy) (remainingPoints : Capacity) (work : List AgentWorkItem)
    (hids : (work.map (·.id)).Nodup) :
    (∃ e, capacityByLimit remainingPoints work = .error e ∧ planQuarkWork policy remainingPoints work = throw e) ∨
    ∃ capacity plan, capacityByLimit remainingPoints work = .ok capacity ∧
      planQuarkWork policy remainingPoints work = pure plan ∧
      (∀ limitId c, capacity.get? limitId = some (some c) → LimitGuarded policy work plan limitId c) ∧
      (∀ a ∈ plan.allocations, 0 < a.allocatedUnits ∧ a.allocatedUnits ≤ policy.maxSlicePoints ∧
        (∃ c, capacity.get? a.limitId = some (some c)) ∧
        ∃ item ∈ work, item.id = a.workId ∧ item.limitId = a.limitId ∧ item.state ∈ eligibleStates) ∧
      ∀ item ∈ work, unitsOf plan.allocations item.id ≤ item.estimatedUnits := by
  cases hcapacity : capacityByLimit remainingPoints work with
  | error e =>
    refine .inl ⟨e,rfl,?_⟩
    simp only [planQuarkWork,planQuarkWork.liftExcept,hcapacity]
    rfl
  | ok capacity =>
    right
    obtain ⟨g,plan,-,hok,hplan,hof⟩ := planQuarkWork_limits policy hids hcapacity
    have halloc := hof.allocations
    let keys := capacity.keys.insertionSort textLe
    have hkeys : keys.Nodup := (List.perm_insertionSort _ _).nodup_iff.mpr capacity.nodup
    -- the item an allocation of a limit is for
    have hitem : ∀ k, ∀ a ∈ (g k).allocations, ∃ item ∈ work, item.limitId = k ∧ item.state ∈ eligibleStates ∧
        a = workAllocation item a.allocatedUnits := by
      intro k a ha
      obtain ⟨-,-,item,hmem,heq⟩ := (hok k).slices a ha
      simp only [eligibleWork,List.mem_filter,decide_eq_true_eq] at hmem
      exact ⟨item,hmem.1.1,hmem.1.2,hmem.2,heq⟩
    refine ⟨capacity,plan,rfl,hplan,?_,?_,?_⟩
    · intro limitId c hc
      have hmem : limitId ∈ capacity.keys := (Dict.mem_keys_iff _ _).mpr ⟨_,hc⟩
      have hget : (capacity.get? limitId).getD none = some c := by rw [hc]; rfl
      have hlimit := (hok limitId).spendable c hget
      refine ⟨?_,?_,fun hpos => ?_⟩
      · rw [halloc,List.filter_flatMap,flatMap_one (k := limitId) hkeys fun k _ hk => ?_,if_pos (by simpa [keys] using hmem)]
        · have hall : (g limitId).allocations.filter (·.limitId = limitId) = (g limitId).allocations := by
            refine List.filter_eq_self.mpr fun a ha => ?_
            obtain ⟨item,-,hl,-,heq⟩ := hitem limitId a ha
            refine decide_eq_true ?_
            rw [heq]
            exact hl
          have htotal := (hok limitId).total
          rw [hlimit] at htotal
          rw [hall]
          exact htotal
        · refine List.filter_eq_nil_iff.mpr fun a ha hl => hk ?_
          obtain ⟨item,-,hk',-,heq⟩ := hitem k a ha
          have hl' := of_decide_eq_true hl
          rw [heq] at hl'
          exact hk'.symm.trans hl'
      · rw [hof.spendableCapacity,planField_at hcapacity g _ _ hmem,hlimit]
      · obtain ⟨rest,hrest,hle⟩ := (hok limitId).remaining c hget (hlimit ▸ hpos)
        exact ⟨rest,by rw [hof.remainingAfterPlan,planField_at hcapacity g _ _ hmem,hrest],hle⟩
    · obtain ⟨capacity',hcapacity',hslices⟩ := planQuarkWork_slices policy hids hplan
      rw [hcapacity] at hcapacity'
      cases hcapacity'
      exact hslices
    · intro item hmem
      unfold unitsOf
      rw [halloc,List.filter_flatMap,flatMap_one (k := item.limitId) hkeys fun k _ hk => ?_]
      · split
        · exact (hok item.limitId).estimates item (List.mem_filter.mpr ⟨hmem,by simp⟩)
        · simpa using item.estimate_pos.le
      · refine List.filter_eq_nil_iff.mpr fun a ha hid => hk ?_
        obtain ⟨other,hother,hl,-,heq⟩ := hitem k a ha
        have hid' := of_decide_eq_true hid
        rw [heq] at hid'
        rw [← List.inj_on_of_nodup_map hids hother hmem hid']
        exact hl.symm

/-- Two projects that share the forty points of one limit. -/
def sharedWork : List AgentWorkItem :=
  [{ id := "w1", projectId := "p1", estimatedUnits := 10 },
   { id := "w2", projectId := "p2", estimatedUnits := 3, state := .running, reservedUnits := 2 }]

theorem capacity_guardrail_shared : ∃ plan, planQuarkWork .standard (.scalar 40) sharedWork = pure plan ∧
    LimitGuarded .standard sharedWork plan "codex" 40 := by
  have hlimits : (sharedWork.map (·.limitId)).dedup = ["codex"] := by decide
  have hcapacity : capacityByLimit (.scalar 40) sharedWork = .ok (Dict.empty.set "codex" (some 40)) := by
    simp only [capacityByLimit,hlimits]
    norm_num
  rcases capacity_guardrail .standard (.scalar 40) sharedWork (by decide) with ⟨e,he,-⟩ | ⟨capacity,plan,hc,hplan,hlimit,-,-⟩
  · rw [hcapacity] at he
    cases he
  · rw [hcapacity] at hc
    cases hc
    exact ⟨plan,hplan,hlimit "codex" 40 (by simp)⟩

end Overseer.Quark
