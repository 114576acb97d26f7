import Overseer.Quark.Rotation
import Mathlib.Data.List.Dedup

/-! # Work conservation and fairness of a plan

A plan hands out all that a limit has to give or all that its items want, in turns over the
projects; and a capacity given as a number is planned as the one limit it is of.
-/
namespace Overseer.Quark
open Overseer.Library Overseer.Agent

variable {policy : QuarkUsagePolicy} {remainingPoints : Capacity} {work : List AgentWorkItem} {capacity : Dict (Option ℚ)}

/-- The allocations of a plan for one limit are those of the limit's own plan. -/
theorem planQuarkWork_of_limit (policy : QuarkUsagePolicy) (hids : (work.map (·.id)).Nodup)
    (hcapacity : capacityByLimit remainingPoints work = .ok capacity) :
    ∃ plan, planQuarkWork policy remainingPoints work = pure plan ∧ ∀ limitId ∈ capacity.keys,
      ∃ l, planLimit policy ((capacity.get? limitId).getD none) (work.filter (·.limitId = limitId)) = pure l ∧
        plan.allocations.filter (·.limitId = limitId) = l.allocations := by
  obtain ⟨g,plan,hrun,hok,hplan,hof⟩ := planQuarkWork_limits policy hids hcapacity
  refine ⟨plan,hplan,fun limitId hmem => ⟨g limitId,hrun limitId,?_⟩⟩
  rw [hof.of_limit (fun k a ha => (hok k).own ha),if_pos hmem]

/-! ### One number for the one limit -/

theorem planLimit_known {c : ℚ} {limitWork : List AgentWorkItem} {l : LimitPlan} (hids : (limitWork.map (·.id)).Nodup)
    (h : planLimit policy (some c) limitWork = pure l) : l.unknown = false := by
  by_cases hspend : 0 < spendableUnits policy c (activeUnits limitWork)
  · obtain ⟨last,hloop,-⟩ := whileLoop_total
      (fun r hr => allocateNext_step policy.slice_pos (hids.sublist (List.filter_sublist.map _)) hr)
      (startRound_ok hspend.le (eligibleWork limitWork))
      (Nat.lt_succ_self ((startRound (spendableUnits policy c (activeUnits limitWork)) (eligibleWork limitWork)).size
        policy.maxSlicePoints))
    simp only [planLimit] at h
    rw [if_neg (not_le.mpr hspend),hloop] at h
    cases h
    rfl
  · simp only [planLimit] at h
    rw [if_pos (not_lt.mp hspend)] at h
    cases h
    rfl

/-- Two plans say the same of a limit. -/
structure SameFigures (plan plan' : QuarkWorkPlan) (limitId : String) : Prop where
  allocations : plan.allocations = plan'.allocations
  remainingBeforePlan : plan.remainingBeforePlan.at limitId = plan'.remainingBeforePlan.at limitId
  activeReservations : plan.activeReservations.at limitId = plan'.activeReservations.at limitId
  guardrailFloor : plan.guardrailFloor.at limitId = plan'.guardrailFloor.at limitId
  spendableCapacity : plan.spendableCapacity.at limitId = plan'.spendableCapacity.at limitId
  remainingAfterPlan : plan.remainingAfterPlan.at limitId = plan'.remainingAfterPlan.at limitId
  reason : plan.reason = plan'.reason

/-- The plan of a single limit, its figures being those of the limit. -/
structure OneLimit (policy : QuarkUsagePolicy) (plan : QuarkWorkPlan) (limitId : String) (c : ℚ) (l : LimitPlan) : Prop where
  allocations : plan.allocations = l.allocations
  remainingBeforePlan : plan.remainingBeforePlan.at limitId = some (some c)
  activeReservations : plan.activeReservations.at limitId = some l.active
  guardrailFloor : plan.guardrailFloor.at limitId = some policy.guardrail
  spendableCapacity : plan.spendableCapacity.at limitId = some l.spendable
  remainingAfterPlan : plan.remainingAfterPlan.at limitId = some l.remainingAfter
  reason : plan.reason = planReason [("",l)]

theorem OneLimit.same {plan plan' : QuarkWorkPlan} {limitId : String} {c : ℚ} {l : LimitPlan} (h : OneLimit policy plan limitId c l)
    (h' : OneLimit policy plan' limitId c l) : SameFigures plan plan' limitId where
  allocations := h.allocations.trans h'.allocations.symm
  remainingBeforePlan := h.remainingBeforePlan.trans h'.remainingBeforePlan.symm
  activeReservations := h.activeReservations.trans h'.activeReservations.symm
  guardrailFloor := h.guardrailFloor.trans h'.guardrailFloor.symm
  spendableCapacity := h.spendableCapacity.trans h'.spendableCapacity.symm
  remainingAfterPlan := h.remainingAfterPlan.trans h'.remainingAfterPlan.symm
  reason := h.reason.trans h'.reason.symm

theorem planReason_known {k : String} {l : LimitPlan} (h : l.unknown = false) : planReason [(k,l)] = planReason [("",l)] := by
  simp [planReason,h]

theorem planQuarkWork_scalar {k : String} {c : ℚ} {l : LimitPlan}
    (hcapacity : capacityByLimit (.scalar c) work = .ok (Dict.empty.set k (some c)))
    (hlimit : planLimit policy (some c) (work.filter (·.limitId = k)) = pure l) (hknown : l.unknown = false) (limitId : String) :
    ∃ plan, planQuarkWork policy (.scalar c) work = pure plan ∧ OneLimit policy plan limitId c l := by
  have hkeys : (Dict.empty.set k (some c)).keys.insertionSort textLe = [k] := rfl
  have hget : ((Dict.empty.set k (some c)).get? k).getD none = some c := by simp
  simp only [planQuarkWork,planQuarkWork.liftExcept,hcapacity]
  change ∃ plan, (List.mapM _ ((Dict.empty.set k (some c)).keys.insertionSort textLe) >>= _ : ExceptT PlanError Option _) = pure plan ∧ _
  rw [hkeys,List.mapM_cons,List.mapM_nil,hget,hlimit]
  exact ⟨_,rfl,⟨List.append_nil _,rfl,rfl,rfl,rfl,rfl,planReason_known hknown⟩⟩

theorem planQuarkWork_byLimit {k : String} {c : ℚ} {l : LimitPlan}
    (hcapacity : capacityByLimit (.byLimit (Dict.empty.set k (some c))) work = .ok (Dict.empty.set k (some c)))
    (hlimit : planLimit policy (some c) (work.filter (·.limitId = k)) = pure l) (hknown : l.unknown = false) :
    ∃ plan, planQuarkWork policy (.byLimit (Dict.empty.set k (some c))) work = pure plan ∧ OneLimit policy plan k c l := by
  have hkeys : (Dict.empty.set k (some c)).keys.insertionSort textLe = [k] := rfl
  have hget : ((Dict.empty.set k (some c)).get? k).getD none = some c := by simp
  have hat : ∀ {α : Type} (a : α), ((Dict.empty.merge [(k,a)]).get? k) = some a := by
    intro α a
    simp [Dict.merge]
  simp only [planQuarkWork,planQuarkWork.liftExcept,hcapacity]
  change ∃ plan, (List.mapM _ ((Dict.empty.set k (some c)).keys.insertionSort textLe) >>= _ : ExceptT PlanError Option _) = pure plan ∧ _
  rw [hkeys,List.mapM_cons,List.mapM_nil,hget,hlimit]
  exact ⟨_,rfl,⟨List.append_nil _,by simp [PlanField.at],hat _,hat _,hat _,hat _,planReason_known hknown⟩⟩

/-- Every limit of known capacity gives out the smaller of what it has to spend and what its
eligible items want; a number is planned as the one-entry map of the limit the work is of. -/
theorem work_conserved (policy : QuarkUsagePolicy) (work : List AgentWorkItem) (hids : (work.map (·.id)).Nodup) :
    (∀ remainingPoints capacity, capacityByLimit remainingPoints work = .ok capacity →
      ∃ plan, planQuarkWork policy remainingPoints work = pure plan ∧ ∀ limitId c, capacity.get? limitId = some (some c) →
        totalUnits (plan.allocations.filter (·.limitId = limitId)) =
          min (spendableUnits policy c (activeUnits (work.filter (·.limitId = limitId))))
            ((eligibleWork (work.filter (·.limitId = limitId))).map (·.estimatedUnits)).sum) ∧
    ∀ c limitId, 0 ≤ c → c ≤ 100 → (∀ item ∈ work, item.limitId = limitId) →
      ∃ plan plan', planQuarkWork policy (.scalar c) work = pure plan ∧
        planQuarkWork policy (.byLimit (Dict.empty.set limitId (some c))) work = pure plan' ∧ SameFigures plan plan' limitId := by
  constructor
  · intro remainingPoints capacity hcapacity
    obtain ⟨plan,hplan,hlimits⟩ := planQuarkWork_of_limit policy hids hcapacity
    refine ⟨plan,hplan,fun limitId c hc => ?_⟩
    obtain ⟨l,hlimit,hallocations⟩ := hlimits limitId ((Dict.mem_keys_iff _ _).mpr ⟨_,hc⟩)
    rw [hc] at hlimit
    rw [hallocations]
    exact planLimit_total (hids.sublist (List.filter_sublist.map _)) hlimit
  · intro c limitId hnonneg hle hwork
    have hall : work.filter (·.limitId = limitId) = work := List.filter_eq_self.mpr fun item hitem => decide_eq_true (hwork item hitem)
    obtain ⟨l,hlimit,-⟩ := planLimit_ok policy (some c) hids
    have hknown := planLimit_known hids hlimit
    have hby : capacityByLimit (.byLimit (Dict.empty.set limitId (some c))) work = .ok (Dict.empty.set limitId (some c)) := by
      have hfold : ∀ items : List AgentWorkItem, (∀ item ∈ items, item.limitId = limitId) → items.foldl
          (fun d item => if (d.get? item.limitId).isSome then d else d.set item.limitId none) (Dict.empty.set limitId (some c)) =
          Dict.empty.set limitId (some c) := by
        intro items
        induction items with
        | nil => exact fun _ => rfl
        | cons item rest ih =>
          intro hitems
          have hseen : ((Dict.empty.set limitId (some c)).get? item.limitId).isSome = true := by
            rw [hitems item List.mem_cons_self]
            simp
          rw [List.foldl_cons,if_pos hseen]
          exact ih fun i hi => hitems i (List.mem_cons_of_mem _ hi)
      have hvalues : (Dict.empty.set limitId (some c)).values = [some c] := rfl
      simp only [capacityByLimit,hvalues,hfold work hwork]
      simp [not_lt.mpr hnonneg]
    obtain ⟨k,hscalar,hfilter⟩ : ∃ k, capacityByLimit (.scalar c) work = .ok (Dict.empty.set k (some c)) ∧
        work.filter (·.limitId = k) = work := by
      have hrange : ¬ (c < 0 ∨ 100 < c) := by
        rintro (h | h) <;> linarith
      cases hwork' : work with
      | nil =>
        refine ⟨"codex",?_,rfl⟩
        simp only [capacityByLimit,if_neg hrange]
        rfl
      | cons item rest =>
        have hmap : work.map (·.limitId) = List.replicate work.length limitId :=
          List.eq_replicate_iff.mpr ⟨List.length_map _,fun x hx => by
            obtain ⟨i,hi,rfl⟩ := List.mem_map.mp hx
            exact hwork i hi⟩
        have hone : (work.map (·.limitId)).dedup = [limitId] := by
          rw [hmap]
          exact List.replicate_dedup (by rw [hwork']; exact Nat.succ_ne_zero _)
        rw [← hwork']
        refine ⟨limitId,?_,hall⟩
        simp only [capacityByLimit,if_neg hrange,hone]
    obtain ⟨plan,hplan,hone⟩ := planQuarkWork_scalar hscalar (by rw [hfilter]; exact hlimit) hknown limitId
    obtain ⟨plan',hplan',hone'⟩ := planQuarkWork_byLimit hby (by rw [hall]; exact hlimit) hknown
    exact ⟨plan,plan',hplan,hplan',hone.same hone'⟩

/-- Of `sharedWork` ten points are wanted, of twenty-one to spend. -/
theorem work_conserved_shared : ∃ plan, planQuarkWork .standard (.scalar 40) sharedWork = pure plan ∧
    totalUnits (plan.allocations.filter (·.limitId = "codex")) =
      min (spendableUnits .standard 40 (activeUnits (sharedWork.filter (·.limitId = "codex"))))
        ((eligibleWork (sharedWork.filter (·.limitId = "codex"))).map (·.estimatedUnits)).sum := by
  have hlimits : (sharedWork.map (·.limitId)).dedup = ["codex"] := by decide
  have hcapacity : capacityByLimit (.scalar 40) sharedWork = .ok (Dict.empty.set "codex" (some 40)) := by
    simp only [capacityByLimit,hlimits]
    norm_num
  obtain ⟨plan,hplan,htotal⟩ := (work_conserved .standard sharedWork (by decide)).1 _ _ hcapacity
  exact ⟨plan,hplan,htotal "codex" 40 (by simp)⟩

/-! ### Turns -/

/-- The items of a limit that can be served. -/
def limitItems (work : List AgentWorkItem) (limitId : String) : List AgentWorkItem := eligibleWork (work.filter (·.limitId = limitId))

/-- In every prefix of the allocations of a limit: two projects that still lack something are at
most one slice apart, and a slice goes to an item only once the items before it, by priority and
then by id, have all of their estimate. -/
theorem rotation_fair (policy : QuarkUsagePolicy) (remainingPoints : Capacity) (work : List AgentWorkItem)
    (hids : (work.map (·.id)).Nodup) {plan : QuarkWorkPlan} (hplan : planQuarkWork policy remainingPoints work = pure plan)
    (limitId : String) :
    (∀ pre, pre <+: plan.allocations.filter (·.limitId = limitId) → ∀ p q, Unfinished (limitItems work limitId) pre p →
      Unfinished (limitItems work limitId) pre q → slicesOf pre p ≤ slicesOf pre q + 1) ∧
    ∀ pre a, pre ++ [a] <+: plan.allocations.filter (·.limitId = limitId) → ∀ item ∈ limitItems work limitId, item.id = a.workId →
      ∀ earlier ∈ limitItems work limitId, earlier.projectId = item.projectId → earlier.id ≠ item.id → higherPriority earlier item →
      unitsOf pre earlier.id = earlier.estimatedUnits := by
  have hscheduled : Scheduled (servedOrder (work.filter (·.limitId = limitId))) (plan.allocations.filter (·.limitId = limitId)) := by
    cases hcapacity : capacityByLimit remainingPoints work with
    | error e =>
      simp only [planQuarkWork,planQuarkWork.liftExcept,hcapacity] at hplan
      cases hplan
    | ok capacity =>
      obtain ⟨plan',hplan',hlimits⟩ := planQuarkWork_of_limit policy hids hcapacity
      rw [hplan] at hplan'
      cases hplan'
      have hids' : ((work.filter (·.limitId = limitId)).map (·.id)).Nodup := hids.sublist (List.filter_sublist.map _)
      by_cases hmem : limitId ∈ capacity.keys
      · obtain ⟨l,hlimit,hallocations⟩ := hlimits limitId hmem
        rw [hallocations]
        exact planLimit_scheduled hids' hlimit
      · -- a limit that no capacity is known of is given nothing
        have hnone : plan.allocations.filter (·.limitId = limitId) = [] := by
          refine List.filter_eq_nil_iff.mpr fun a ha hl => hmem ?_
          obtain ⟨capacity',hcapacity',hslices⟩ := planQuarkWork_slices policy hids hplan
          rw [hcapacity] at hcapacity'
          cases hcapacity'
          obtain ⟨-,-,⟨c,hc⟩,-⟩ := hslices a ha
          rw [of_decide_eq_true hl] at hc
          exact (Dict.mem_keys_iff _ _).mpr ⟨_,hc⟩
        obtain ⟨l,hlimit,-⟩ := planLimit_ok policy none hids'
        have hl : l.allocations = [] := by
          cases hlimit
          rfl
        rw [hnone,← hl]
        exact planLimit_scheduled hids' hlimit
  have hitems : ∀ {item}, item ∈ limitItems work limitId → item ∈ servedOrder (work.filter (·.limitId = limitId)) :=
    fun h => (servedOrder_perm _).mem_iff.mpr h
  have hunfinished : ∀ {pre p}, Unfinished (limitItems work limitId) pre p →
      Unfinished (servedOrder (work.filter (·.limitId = limitId))) pre p := by
    rintro pre p ⟨item,hitem,hproject,hlt⟩
    exact ⟨item,hitems hitem,hproject,hlt⟩
  constructor
  · exact fun pre hpre p q hp hq => hscheduled.fair pre hpre p q (hunfinished hp) (hunfinished hq)
  · exact fun pre a hpre item hitem hid earlier hearlier => hscheduled.inOrder pre a hpre item (hitems hitem) hid earlier (hitems hearlier)

theorem exists_of_run {α : Type} {P : α → Prop} [DecidablePred P] {plan : ExceptT PlanError Option α}
    (h : (plan.run.bind Except.toOption).any (fun a => decide (P a)) = true) : ∃ a, plan = pure a ∧ P a := by
  obtain ⟨a,ha,hP⟩ := (Option.any_eq_true _ _).mp h
  obtain ⟨result,hresult,hok⟩ := Option.bind_eq_some_iff.mp ha
  cases result with
  | error e => cases hok
  | ok a' =>
    cases hok
    exact ⟨a,hresult,of_decide_eq_true hP⟩

theorem ten_units_pos : (0 : ℚ) < 10 := by norm_num

/-- Two items of one project, and a long one of another. -/
def turnsWork : List AgentWorkItem := [AgentWorkItem.small "a1" "p1",AgentWorkItem.small "a2" "p1",
  { AgentWorkItem.small "b1" "p2" with estimatedUnits := 10, estimate_pos := ten_units_pos }]

theorem rotation_fair_shared : ∃ plan, planQuarkWork .standard (.scalar 40) turnsWork = pure plan ∧
    plan.allocations.map (fun a => a.workId) = ["a1","b1","a2","b1"] ∧
    (∀ pre, pre <+: plan.allocations.filter (·.limitId = "codex") → ∀ p q, Unfinished (limitItems turnsWork "codex") pre p →
      Unfinished (limitItems turnsWork "codex") pre q → slicesOf pre p ≤ slicesOf pre q + 1) ∧
    ∀ pre a, pre ++ [a] <+: plan.allocations.filter (·.limitId = "codex") → ∀ item ∈ limitItems turnsWork "codex", item.id = a.workId →
      ∀ earlier ∈ limitItems turnsWork "codex", earlier.projectId = item.projectId → earlier.id ≠ item.id → higherPriority earlier item →
      unitsOf pre earlier.id = earlier.estimatedUnits := by
  obtain ⟨plan,hplan,hturns⟩ : ∃ plan, planQuarkWork .standard (.scalar 40) turnsWork = pure plan ∧
      plan.allocations.map (fun a => a.workId) = ["a1","b1","a2","b1"] := exists_of_run (by decide +kernel)
  exact ⟨plan,hplan,hturns,rotation_fair .standard (.scalar 40) turnsWork (by decide) hplan "codex"⟩
end Overseer.Quark
