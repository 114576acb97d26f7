import Overseer.Quark.Conservation

/-! # The figures of a plan

What a plan reports of a limit comes from the capacity and the work of that limit alone, in
whatever order they are given. At its floor a limit is reported with all of its capacity left,
as if nothing were running there; and what the code reports is rounded at each step.
-/
namespace Overseer.Quark
open Overseer.Library Overseer.Agent

variable {policy : QuarkUsagePolicy} {remainingPoints : Capacity} {work : List AgentWorkItem} {capacity : Dict (Option ℚ)}

/-! ### One limit -/

theorem spendableUnits_pos {c active : ℚ} : 0 < spendableUnits policy c active ↔ policy.guardrail + active < c := by
  unfold spendableUnits
  rw [lt_max_iff,sub_sub,sub_pos]
  simp

/-- What the plan of one limit reports, of items that may share an id. -/
structure LimitFigures (policy : QuarkUsagePolicy) (capacity : Option ℚ) (limitWork : List AgentWorkItem) (l : LimitPlan) :
    Prop where
  active : l.active = activeUnits limitWork
  items : ∀ a ∈ l.allocations, ∃ item ∈ limitWork, a = workAllocation item a.allocatedUnits
  above : ∀ c, capacity = some c → policy.guardrail + activeUnits limitWork < c →
    l.remainingAfter = some (c - activeUnits limitWork - totalUnits l.allocations)
  floor : ∀ c, capacity = some c → ¬ policy.guardrail + activeUnits limitWork < c → l.remainingAfter = some c ∧ l.allocations = []

theorem planLimit_figures (policy : QuarkUsagePolicy) (capacity : Option ℚ) (limitWork : List AgentWorkItem) :
    ∃ l, planLimit policy capacity limitWork = pure l ∧ LimitFigures policy capacity limitWork l := by
  cases capacity with
  | none =>
    refine ⟨_,rfl,rfl,fun a ha => ?_,fun c hc => ?_,fun c hc => ?_⟩
    · cases ha
    · cases hc
    · cases hc
  | some c =>
    let spendable := spendableUnits policy c (activeUnits limitWork)
    by_cases hspend : 0 < spendable
    · have hstart : RoundOk policy.maxSlicePoints spendable (eligibleWork limitWork) (startRound spendable (eligibleWork limitWork)) :=
        startRound_ok hspend.le _
      obtain ⟨last,hloop,hlast,-⟩ := whileLoop_total (fun r hr => allocateNext_kept policy.slice_pos hr) hstart.kept
        (Nat.lt_succ_self ((startRound spendable (eligibleWork limitWork)).size policy.maxSlicePoints))
      refine ⟨{ active := activeUnits limitWork, spendable
                remainingAfter := some (c - activeUnits limitWork - (spendable - last.available))
                allocations := last.allocations, unused := decide (0 < last.available) },?_,rfl,fun a ha => ?_,?_,?_⟩
      · simp only [planLimit]
        rw [if_neg (not_le.mpr hspend),hloop]
        rfl
      · obtain ⟨-,-,item,hitem,heq⟩ := hlast.slices a ha
        exact ⟨item,(List.mem_filter.mp hitem).1,heq⟩
      · intro c' hc _
        cases hc
        have hbalance := hlast.balance
        have hgiven : spendable - last.available = totalUnits last.allocations := by linarith
        change some (c - activeUnits limitWork - (spendable - last.available)) = _
        rw [hgiven]
      · intro c' hc hle
        cases hc
        exact absurd (spendableUnits_pos.mp hspend) hle
    · refine ⟨{ active := activeUnits limitWork, spendable, remainingAfter := some c, exhausted := true },
        if_pos (not_lt.mp hspend),rfl,fun a ha => ?_,?_,?_⟩
      · cases ha
      · intro c' hc hlt
        cases hc
        exact absurd (spendableUnits_pos.mpr hlt) hspend
      · intro c' hc _
        cases hc
        exact ⟨rfl,rfl⟩

/-! ### What is left -/

theorem capacity_of_scalar {points : ℚ} (h : capacityByLimit (.scalar points) work = .ok capacity) {limitId : String}
    {v : Option ℚ} (hv : capacity.get? limitId = some v) : v = some points := by
  have hone : ∀ k, (Dict.empty.set k (some points)).get? limitId = some v → v = some points := by
    intro k hk
    rw [Dict.get?_set] at hk
    split at hk
    · exact (Option.some.inj hk).symm
    · cases hk
  simp only [capacityByLimit] at h
  split at h
  · cases h
  · split at h
    · cases h
      exact hone _ hv
    · cases h
      exact hone _ hv
    · cases h

/-- What is left is what there was, less what is reserved and what is allocated. -/
def QuarkWorkPlan.Consistent (plan : QuarkWorkPlan) (limitId : String) : Prop :=
  ∃ before active after, plan.remainingBeforePlan.at limitId = some (some before) ∧
    plan.activeReservations.at limitId = some active ∧ plan.remainingAfterPlan.at limitId = some (some after) ∧
    after = before - active - totalUnits (plan.allocations.filter (·.limitId = limitId))

theorem planQuarkWork_figures (policy : QuarkUsagePolicy) (hcapacity : capacityByLimit remainingPoints work = .ok capacity) :
    ∃ g plan, (∀ k, LimitFigures policy ((capacity.get? k).getD none) (work.filter (·.limitId = k)) (g k)) ∧
      planQuarkWork policy remainingPoints work = pure plan ∧ PlanOf remainingPoints capacity g plan := by
  choose g hrun hfigures using fun k =>
    planLimit_figures policy ((capacity.get? k).getD none) (work.filter (·.limitId = k))
  obtain ⟨plan,hplan,hof⟩ := planQuarkWork_eq hcapacity hrun
  exact ⟨g,plan,hfigures,hplan,hof⟩

theorem PlanOf.consistent_iff {g : String → LimitPlan} {plan : QuarkWorkPlan} (hof : PlanOf remainingPoints capacity g plan)
    (hfigures : ∀ k, LimitFigures policy ((capacity.get? k).getD none) (work.filter (·.limitId = k)) (g k))
    (hcapacity : capacityByLimit remainingPoints work = .ok capacity) {limitId : String} {c : ℚ}
    (hc : capacity.get? limitId = some (some c)) :
    plan.Consistent limitId ↔ policy.guardrail + activeUnits (work.filter (·.limitId = limitId)) < c ∨
      activeUnits (work.filter (·.limitId = limitId)) = 0 := by
  have hmem : limitId ∈ capacity.keys := (Dict.mem_keys_iff _ _).mpr ⟨_,hc⟩
  have hget : (capacity.get? limitId).getD none = some c := by rw [hc]; rfl
  have hbefore : plan.remainingBeforePlan.at limitId = some (some c) := by
    rw [hof.remainingBeforePlan]
    cases remainingPoints with
    | scalar points =>
      have hpoints := capacity_of_scalar hcapacity hc
      exact congrArg some hpoints.symm
    | byLimit d => exact hc
  have hactive : plan.activeReservations.at limitId = some (activeUnits (work.filter (·.limitId = limitId))) := by
    rw [hof.activeReservations,planField_at hcapacity g _ _ hmem,(hfigures limitId).active]
  have hafter : plan.remainingAfterPlan.at limitId = some (g limitId).remainingAfter := by
    rw [hof.remainingAfterPlan,planField_at hcapacity g _ _ hmem]
  have hallocations : plan.allocations.filter (·.limitId = limitId) = (g limitId).allocations := by
    rw [hof.of_limit (fun k a ha => ?_),if_pos hmem]
    obtain ⟨item,hitem,heq⟩ := (hfigures k).items a ha
    have hlimit := of_decide_eq_true (List.mem_filter.mp hitem).2
    rw [heq]
    exact hlimit
  unfold QuarkWorkPlan.Consistent
  rw [hbefore,hactive,hafter,hallocations]
  by_cases habove : policy.guardrail + activeUnits (work.filter (·.limitId = limitId)) < c
  · rw [(hfigures limitId).above c hget habove]
    exact ⟨fun _ => .inl habove,fun _ => ⟨_,_,_,rfl,rfl,rfl,rfl⟩⟩
  · obtain ⟨hleft,hnone⟩ := (hfigures limitId).floor c hget habove
    rw [hleft,hnone]
    constructor
    · rintro ⟨_,_,_,⟨⟩,⟨⟩,⟨⟩,hsum⟩
      right
      simp only [totalUnits,List.map_nil,List.sum_nil] at hsum
      linarith
    · rintro (hlt | hzero)
      · exact absurd hlt habove
      · refine ⟨_,_,_,rfl,rfl,rfl,?_⟩
        simp [totalUnits,hzero]

/-- The remaining capacity of a plan adds up for the limits that have something to spend and for those where nothing runs. -/
theorem remaining_consistent (policy : QuarkUsagePolicy) (remainingPoints : Capacity) (work : List AgentWorkItem)
    {capacity : Dict (Option ℚ)} (hcapacity : capacityByLimit remainingPoints work = .ok capacity) :
    ∃ plan, planQuarkWork policy remainingPoints work = pure plan ∧ ∀ limitId c, capacity.get? limitId = some (some c) →
      policy.hardReservePoints + policy.uncertaintyPoints + activeUnits (work.filter (·.limitId = limitId)) < c ∨
        activeUnits (work.filter (·.limitId = limitId)) = 0 → plan.Consistent limitId := by
  obtain ⟨g,plan,hfigures,hplan,hof⟩ := planQuarkWork_figures policy hcapacity
  exact ⟨plan,hplan,fun limitId c hc hcondition => (hof.consistent_iff hfigures hcapacity hc).mpr hcondition⟩

theorem sharedWork_capacity : capacityByLimit (.scalar 40) sharedWork = .ok (Dict.empty.set "codex" (some 40)) := by
  have hlimits : (sharedWork.map (·.limitId)).dedup = ["codex"] := by decide
  simp only [capacityByLimit,hlimits]
  norm_num

theorem remaining_consistent_shared : ∃ plan, planQuarkWork .standard (.scalar 40) sharedWork = pure plan ∧ plan.Consistent "codex" := by
  obtain ⟨plan,hplan,hconsistent⟩ := remaining_consistent .standard (.scalar 40) sharedWork sharedWork_capacity
  refine ⟨plan,hplan,hconsistent "codex" 40 (by simp) (.inl ?_)⟩
  have hactive : activeUnits (sharedWork.filter (·.limitId = "codex")) = 2 := by decide +kernel
  rw [hactive]
  norm_num [QuarkUsagePolicy.standard]

/-! ### Rounded arithmetic -/

/-- The nearest double of a rational below the largest ones, ties to even. -/
def nearestDouble (q : ℚ) : ℚ :=
  let magnitude : ℤ := (Nat.log2 q.num.natAbs : ℤ) - (Nat.log2 q.den : ℤ)
  let exponent : ℤ := max (-1074) ((if |q| < 2 ^ magnitude then magnitude - 1 else magnitude) - 52)
  let scaled : ℚ := q / 2 ^ exponent
  let below : ℤ := scaled.floor
  let up : Bool := 1 / 2 < scaled - below ∨ (scaled - below = 1 / 2 ∧ below % 2 = 1)
  (if up then below + 1 else below) * 2 ^ exponent

section Rounded
variable (fl : ℚ → ℚ)

/-- `Round.give`, each figure rounded. -/
def Round.giveIn (r : Round) (item : AgentWorkItem) (units : ℚ) : Round :=
  if 0 < units then { r with
    available := fl (r.available - units)
    allocatedByWork := r.allocatedByWork.set item.id (fl (r.allocated item.id + units))
    allocations := r.allocations ++ [workAllocation item units] }
  else r

/-- `allocateNext`, each figure rounded. -/
def allocateNextIn (maxSlicePoints : ℚ) (r : Round) : Except PlanError Round :=
  match r.projectOrder with
  | [] => .error .index
  | projectId :: rest =>
    match r.byProject.get? projectId with
    | none => .error (.key projectId)
    | some [] => .error .index
    | some (item :: waiting) =>
      let remainingEstimate := fl (item.estimatedUnits - r.allocated item.id)
      let given := r.giveIn fl item (min maxSlicePoints (min remainingEstimate r.available))
      let queue := if item.estimatedUnits ≤ given.allocated item.id then waiting else item :: waiting
      .ok { given with
        byProject := r.byProject.set projectId queue
        projectOrder := if queue = [] then rest else rest ++ [projectId] }

/-- `planLimit`, each figure rounded, in `passes` of the loop. -/
def planLimitIn (policy : QuarkUsagePolicy) (capacity : ℚ) (limitWork : List AgentWorkItem) (passes : ℕ) :
    ExceptT PlanError Option LimitPlan :=
  let active := ((limitWork.filter (·.state = .running)).map (·.reservedUnits)).foldl (fun sum units => fl (sum + units)) 0
  let spendable := max 0 (fl (fl (capacity - fl policy.guardrail) - active))
  if spendable ≤ 0 then pure { active, spendable, remainingAfter := some capacity, exhausted := true }
  else do
    let last ← whileLoop Round.more (allocateNextIn fl policy.maxSlicePoints) passes (startRound spendable (eligibleWork limitWork))
    return {
      active, spendable, remainingAfter := some (fl (fl (capacity - active) - fl (spendable - last.available)))
      allocations := last.allocations, unused := decide (0 < last.available) }

end Rounded

theorem planLimitIn_id (policy : QuarkUsagePolicy) (c : ℚ) (limitWork : List AgentWorkItem) :
    planLimitIn id policy c limitWork ((startRound (spendableUnits policy c (activeUnits limitWork)) (eligibleWork limitWork)).size
      policy.maxSlicePoints + 1) = planLimit policy (some c) limitWork := by
  have hactive : ((limitWork.filter (·.state = .running)).map (·.reservedUnits)).foldl (fun sum units => id (sum + units)) 0 =
      activeUnits limitWork := List.sum_eq_foldl.symm
  unfold planLimitIn planLimit
  simp only [hactive]
  rfl

/-- Three items of a tenth, as a double has it. -/
def tenthsWork : List AgentWorkItem := ["w1","w2","w3"].map fun id =>
  { AgentWorkItem.small id "p1" with estimatedUnits := 3602879701896397 / 36028797018963968, estimate_pos := by norm_num }

/-- What is left of the points, when the figures of the plan are taken together in rounded arithmetic. -/
def LimitPlan.leftIn (fl : ℚ → ℚ) (l : LimitPlan) (points : ℚ) : ℚ :=
  fl (fl (points - l.active) - (l.allocations.map (·.allocatedUnits)).foldl (fun sum units => fl (sum + units)) 0)

/-- Of twenty points a running item has reserved four. -/
def floorWork : List AgentWorkItem := [{ AgentWorkItem.small "w1" "p1" with state := .running, reservedUnits := 4 }]

/-- In doubles the figures of the plan do not add up, exactly or rounded; at the floor they do not either way. -/
theorem figures_not_consistent :
    (∃ l, planLimitIn nearestDouble .standard 30 tenthsWork 20 = pure l ∧
      l.remainingAfter ≠ some (30 - l.active - totalUnits l.allocations) ∧ l.remainingAfter ≠ some (l.leftIn nearestDouble 30)) ∧
    ∃ plan, planQuarkWork .standard (.scalar 20) floorWork = pure plan ∧ ¬ plan.Consistent "codex" := by
  constructor
  · exact exists_of_run (by decide +kernel)
  · have hlimits : (floorWork.map (·.limitId)).dedup = ["codex"] := by decide
    have hcapacity : capacityByLimit (.scalar 20) floorWork = .ok (Dict.empty.set "codex" (some 20)) := by
      simp only [capacityByLimit,hlimits]
      norm_num
    have hactive : activeUnits (floorWork.filter (·.limitId = "codex")) = 4 := by decide +kernel
    obtain ⟨g,plan,hfigures,hplan,hof⟩ := planQuarkWork_figures .standard hcapacity
    have hcodex : (Dict.empty.set "codex" (some (20 : ℚ))).get? "codex" = some (some 20) := by simp
    have hiff := hof.consistent_iff hfigures hcapacity hcodex
    refine ⟨plan,hplan,fun hconsistent => ?_⟩
    rw [hiff,hactive] at hconsistent
    norm_num [QuarkUsagePolicy.guardrail,QuarkUsagePolicy.standard] at hconsistent

/-! ### A limit among others -/

theorem higherPriority_sort {l l' : List AgentWorkItem} (hids : (l.map (·.id)).Nodup) (h : l.Perm l') :
    l.insertionSort higherPriority = l'.insertionSort higherPriority := by
  have hperm : (l.insertionSort higherPriority).Perm (l'.insertionSort higherPriority) :=
    (List.perm_insertionSort _ l).trans (h.trans (List.perm_insertionSort _ l').symm)
  refine hperm.eq_of_pairwise ?_ (List.pairwise_insertionSort _ l) (List.pairwise_insertionSort _ l')
  intro a b ha hb hab hba
  have ha' : a ∈ l := (List.mem_insertionSort _).mp ha
  have hb' : b ∈ l := h.mem_iff.mpr ((List.mem_insertionSort _).mp hb)
  exact List.inj_on_of_nodup_map hids ha' hb' (higherPriority_antisymm hab hba)

theorem planLimit_perm (capacity : Option ℚ) {l l' : List AgentWorkItem} (hids : (l.map (·.id)).Nodup) (h : l.Perm l') :
    planLimit policy capacity l = planLimit policy capacity l' := by
  have hactive : activeUnits l = activeUnits l' := ((h.filter _).map _).sum_eq
  have heligible : (eligibleWork l).Perm (eligibleWork l') := h.filter _
  have hsort : (eligibleWork l).insertionSort higherPriority = (eligibleWork l').insertionSort higherPriority :=
    higherPriority_sort (hids.sublist (List.filter_sublist.map _)) heligible
  have hstart : ∀ spendable, startRound spendable (eligibleWork l) = startRound spendable (eligibleWork l') := by
    intro spendable
    unfold startRound
    rw [hsort]
  cases capacity with
  | none => simp only [planLimit,hactive]
  | some c => simp only [planLimit,hactive,hstart]

/-- A capacity that the planner accepts, of every limit the map names. -/
def Accepted (d : Dict (Option ℚ)) : Prop := ∀ k c, d.get? k = some (some c) → 0 ≤ c

theorem capacityByLimit_accepted {d : Dict (Option ℚ)} (h : Accepted d) (work : List AgentWorkItem) :
    capacityByLimit (.byLimit d) work =
      .ok (work.foldl (fun d item => if (d.get? item.limitId).isSome then d else d.set item.limitId none) d) := by
  have hvalues : (d.values.any fun v => v.any (· < 0)) = false := by
    rw [List.any_eq_false]
    intro v hv
    obtain ⟨k,hk⟩ := (d.mem_values_iff v).mp hv
    cases v with
    | none => simp
    | some c => simpa using h k c hk
  simp only [capacityByLimit,hvalues]
  rfl

theorem foldl_limits_get? (k : String) (work : List AgentWorkItem) (d : Dict (Option ℚ)) :
    (work.foldl (fun d item => if (d.get? item.limitId).isSome then d else d.set item.limitId none) d).get? k =
      (d.get? k).or (if work.filter (·.limitId = k) = [] then none else some none) := by
  induction work generalizing d with
  | nil => simp
  | cons item rest ih =>
    rw [List.foldl_cons,ih]
    by_cases hk : item.limitId = k
    · subst hk
      cases hd : d.get? item.limitId with
      | none => simp
      | some v => simp [hd]
    · have hk' : ¬ k = item.limitId := fun h => hk h.symm
      rw [List.filter_cons_of_neg (by simpa using hk)]
      cases d.get? item.limitId with
      | none => simp [hk']
      | some v => simp

/-- Two plans say the same of a limit, whatever they say of others. -/
structure AgreeOn (plan plan' : QuarkWorkPlan) (limitId : String) : Prop where
  allocations : plan.allocations.filter (·.limitId = limitId) = plan'.allocations.filter (·.limitId = limitId)
  remainingBeforePlan : plan.remainingBeforePlan.at limitId = plan'.remainingBeforePlan.at limitId
  activeReservations : plan.activeReservations.at limitId = plan'.activeReservations.at limitId
  spendableCapacity : plan.spendableCapacity.at limitId = plan'.spendableCapacity.at limitId
  remainingAfterPlan : plan.remainingAfterPlan.at limitId = plan'.remainingAfterPlan.at limitId

theorem planField_at_notMem {α : Type} {d : Dict (Option ℚ)} {g : String → LimitPlan} {f : LimitPlan → α} {none_ : α} {limitId : String}
    (hmem : limitId ∉ capacity.keys) :
    (planField (.byLimit d) ((capacity.keys.insertionSort textLe).map fun k => (k,g k)) f none_).at limitId = none := by
  simp only [planField,PlanField.at]
  rw [Dict.get?_merge_of_notMem]
  · simp
  · simpa [Function.comp_def] using hmem

theorem PlanOf.agreeOn {d d' capacity' : Dict (Option ℚ)} {g g' : String → LimitPlan} {plan plan' : QuarkWorkPlan} {limitId : String}
    (h : PlanOf (.byLimit d) capacity g plan) (h' : PlanOf (.byLimit d') capacity' g' plan')
    (hown : ∀ k, ∀ a ∈ (g k).allocations, a.limitId = k) (hown' : ∀ k, ∀ a ∈ (g' k).allocations, a.limitId = k)
    (hcapacity : capacity.get? limitId = capacity'.get? limitId) (hg : g limitId = g' limitId)
    (hd : capacityByLimit (.byLimit d) work = .ok capacity) {work' : List AgentWorkItem}
    (hd' : capacityByLimit (.byLimit d') work' = .ok capacity') : AgreeOn plan plan' limitId := by
  have hmem : limitId ∈ capacity.keys ↔ limitId ∈ capacity'.keys := by
    rw [Dict.mem_keys_iff,Dict.mem_keys_iff,hcapacity]
  have hfield : ∀ {α : Type} (f : LimitPlan → α) (none_ : α),
      (planField (.byLimit d) ((capacity.keys.insertionSort textLe).map fun k => (k,g k)) f none_).at limitId =
        (planField (.byLimit d') ((capacity'.keys.insertionSort textLe).map fun k => (k,g' k)) f none_).at limitId := by
    intro α f none_
    by_cases hin : limitId ∈ capacity.keys
    · rw [planField_at hd g f none_ hin,planField_at hd' g' f none_ (hmem.mp hin),hg]
    · rw [planField_at_notMem hin,planField_at_notMem fun hin' => hin (hmem.mpr hin')]
  constructor
  · rw [h.of_limit hown,h'.of_limit hown',hg]
    simp only [hmem]
  · rw [h.remainingBeforePlan,h'.remainingBeforePlan]
    exact hcapacity
  · rw [h.activeReservations,h'.activeReservations]
    exact hfield _ _
  · rw [h.spendableCapacity,h'.spendableCapacity]
    exact hfield _ _
  · rw [h.remainingAfterPlan,h'.remainingAfterPlan]
    exact hfield _ _

/-- What a plan says of a limit comes from the capacity of that limit and the collection of its
items: other limits, and the order of the items, make no difference. -/
theorem limits_isolated (policy : QuarkUsagePolicy) (limitId : String) {d d' : Dict (Option ℚ)} {work work' : List AgentWorkItem}
    (hids : (work.map (·.id)).Nodup) (hids' : (work'.map (·.id)).Nodup) (hd : Accepted d) (hd' : Accepted d')
    (hcapacity : d.get? limitId = d'.get? limitId)
    (hwork : (work.filter (·.limitId = limitId)).Perm (work'.filter (·.limitId = limitId))) :
    ∃ plan plan', planQuarkWork policy (.byLimit d) work = pure plan ∧ planQuarkWork policy (.byLimit d') work' = pure plan' ∧
      AgreeOn plan plan' limitId := by
  have haccepted := capacityByLimit_accepted hd work
  have haccepted' := capacityByLimit_accepted hd' work'
  obtain ⟨g,plan,hrun,hok,hplan,hof⟩ := planQuarkWork_limits policy hids haccepted
  obtain ⟨g',plan',hrun',hok',hplan',hof'⟩ := planQuarkWork_limits policy hids' haccepted'
  have hsame : (work.foldl (fun d item => if (d.get? item.limitId).isSome then d else d.set item.limitId none) d).get? limitId =
      (work'.foldl (fun d item => if (d.get? item.limitId).isSome then d else d.set item.limitId none) d').get? limitId := by
    have hnil : work.filter (·.limitId = limitId) = [] ↔ work'.filter (·.limitId = limitId) = [] := by
      rw [← List.length_eq_zero_iff,hwork.length_eq,List.length_eq_zero_iff]
    rw [foldl_limits_get?,foldl_limits_get?,hcapacity]
    simp only [hnil]
  have hg : g limitId = g' limitId := by
    have hids₁ : ((work.filter (·.limitId = limitId)).map (·.id)).Nodup := hids.sublist (List.filter_sublist.map _)
    have hone := hrun limitId
    rw [hsame,planLimit_perm _ hids₁ hwork,hrun' limitId] at hone
    exact (Except.ok.inj (Option.some.inj hone)).symm
  exact ⟨plan,plan',hplan,hplan',hof.agreeOn hof' (fun k a ha => (hok k).own ha) (fun k a ha => (hok' k).own ha) hsame hg
    haccepted haccepted'⟩

/-- The shared work the other way round, with an item of another limit. -/
def crowdedWork : List AgentWorkItem := { AgentWorkItem.small "x1" "p1" with limitId := "claude" } :: sharedWork.reverse

theorem limits_isolated_crowded : ∃ plan plan',
    planQuarkWork .standard (.byLimit (Dict.empty.set "codex" (some 40))) sharedWork = pure plan ∧
    planQuarkWork .standard (.byLimit ((Dict.empty.set "codex" (some 40)).set "claude" (some 90))) crowdedWork = pure plan' ∧
    AgreeOn plan plan' "codex" := by
  have haccepted : Accepted (Dict.empty.set "codex" (some 40)) := by
    intro k c hc
    rw [Dict.get?_set] at hc
    split at hc
    · cases hc
      norm_num
    · cases hc
  have haccepted' : Accepted ((Dict.empty.set "codex" (some 40)).set "claude" (some 90)) := by
    intro k c hc
    rw [Dict.get?_set] at hc
    split at hc
    · cases hc
      norm_num
    · exact haccepted k c hc
  refine limits_isolated .standard "codex" (by decide) (by decide) haccepted haccepted' (by simp) ?_
  have hfilter : crowdedWork.filter (·.limitId = "codex") = (sharedWork.filter (·.limitId = "codex")).reverse := by decide
  rw [hfilter]
  exact (List.reverse_perm _).symm

end Overseer.Quark
