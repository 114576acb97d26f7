import Overseer.Quark.PlanBounds
import Overseer.Quark.Cycle
import Mathlib.Data.List.Dedup

/-! # The plan of a cycle

The work of a cycle is all of one limit, and so is its plan.
-/
namespace Overseer.Quark
open Overseer.Library Overseer.Agent

/-- The planner is handed a scalar, which it takes for a percentage. -/
def CodexOnly (limitId : String) (work : List AgentWorkItem) : Prop :=
  limitId = "codex" ∧ ∀ item ∈ work, item.providerId = "codex" ∧ item.usageUnit = "quota_points"

section Capacity
variable {limitId : String} {work : List AgentWorkItem} {c : ℚ}

theorem foldl_capacity (hlimit : ∀ item ∈ work, item.limitId = limitId) {d : Dict (Option ℚ)} (hd : (d.get? limitId).isSome = true) :
    work.foldl (fun d item => if (d.get? item.limitId).isSome then d else d.set item.limitId none) d = d := by
  induction work with
  | nil => rfl
  | cons item rest ih =>
    have hitem : item.limitId = limitId := hlimit item List.mem_cons_self
    rw [List.foldl_cons,hitem,if_pos hd]
    exact ih fun i hi => hlimit i (List.mem_cons_of_mem _ hi)

theorem dedup_limits (hlimit : ∀ item ∈ work, item.limitId = limitId) (hne : work ≠ []) : (work.map (·.limitId)).dedup = [limitId] := by
  have hmap : work.map (·.limitId) = List.replicate work.length limitId := by
    rw [List.eq_replicate_iff]
    refine ⟨by simp,fun l hl => ?_⟩
    obtain ⟨item,hitem,rfl⟩ := List.mem_map.mp hl
    exact hlimit item hitem
  have hlength : work.length ≠ 0 := fun h => hne (List.length_eq_zero_iff.mp h)
  rw [hmap]
  exact List.replicate_dedup hlength

theorem capacityByLimit_cycle (hlimit : ∀ item ∈ work, item.limitId = limitId) (hc : 0 ≤ c) (hscalar : CodexOnly limitId work → c ≤ 100) :
    capacityByLimit (capacityArgument limitId (some c) work) work = .ok (Dict.empty.set limitId (some c)) := by
  unfold capacityArgument
  dsimp only
  by_cases hcodex : limitId = "codex" ∧ ∀ item ∈ work, item.providerId = "codex" ∧ item.usageUnit = "quota_points"
  · rw [if_pos hcodex]
    have hrange : ¬ (c < 0 ∨ 100 < c) := by
      have hle := hscalar hcodex
      rintro (h | h) <;> linarith
    simp only [capacityByLimit]
    rw [if_neg hrange]
    by_cases hne : work = []
    · subst hne
      rw [hcodex.1]
      rfl
    · rw [dedup_limits hlimit hne]
  · rw [if_neg hcodex]
    have hvalues : ((Dict.empty.set limitId (some c)).values.any fun v => v.any (· < 0)) = false := by
      simpa [Dict.set,Dict.values,Dict.empty,Dict.assign] using hc
    simp only [capacityByLimit]
    rw [hvalues]
    simp only [Bool.false_eq_true,↓reduceIte]
    rw [foldl_capacity hlimit (by simp)]

theorem capacityByLimit_refused (h : c < 0 ∨ CodexOnly limitId work ∧ 100 < c) :
    ∃ e, capacityByLimit (capacityArgument limitId (some c) work) work = .error e := by
  unfold capacityArgument
  dsimp only
  by_cases hcodex : limitId = "codex" ∧ ∀ item ∈ work, item.providerId = "codex" ∧ item.usageUnit = "quota_points"
  · rw [if_pos hcodex]
    simp only [capacityByLimit]
    rw [if_pos (h.imp_right And.right)]
    exact ⟨_,rfl⟩
  · rw [if_neg hcodex]
    have hneg : c < 0 := h.resolve_right fun hscalar => hcodex hscalar.1
    have hvalues : ((Dict.empty.set limitId (some c)).values.any fun v => v.any (· < 0)) = true := by
      simpa [Dict.set,Dict.values,Dict.empty,Dict.assign] using hneg
    simp only [capacityByLimit]
    rw [if_pos hvalues]
    exact ⟨_,rfl⟩

end Capacity

section Plan
variable {p : Planning} {work : List AgentWorkItem} {c : ℚ}

/-- The plan of a cycle is the plan of its limit. -/
theorem plan_limit (hlimit : ∀ item ∈ work, item.limitId = p.limitId) (hids : (work.map (·.id)).Nodup)
    (hc : windowRemainingCapacity p.window = some c) (hnonneg : 0 ≤ c) (hscalar : CodexOnly p.limitId work → c ≤ 100) :
    ∃ l plan, planLimit p.service.policy (some c) work = pure l ∧ LimitOk p.service.policy (some c) work l ∧
      p.plan work = pure plan ∧ plan.allocations = l.allocations := by
  have hcapacity := capacityByLimit_cycle hlimit hnonneg hscalar
  obtain ⟨g,plan,hrun,hok,hplan,hof⟩ := planQuarkWork_limits p.service.policy hids hcapacity
  have hall : work.filter (·.limitId = p.limitId) = work := List.filter_eq_self.mpr fun item hitem => decide_eq_true (hlimit item hitem)
  have hone := hrun p.limitId
  have hgood := hok p.limitId
  rw [hall,Dict.get?_set,if_pos rfl] at hone hgood
  refine ⟨g p.limitId,plan,hone,hgood,?_,?_⟩
  · unfold Planning.plan
    rw [hc,hplan]
  · rw [hof.allocations]
    simp [Dict.keys,Dict.set,Dict.empty,Dict.assign]

/-- What the plan of a cycle allocates is for its eligible work and within what is left of the capacity. -/
structure PlanOk (p : Planning) (work : List AgentWorkItem) (c : ℚ) (plan : QuarkWorkPlan) : Prop where
  slices : ∀ a ∈ plan.allocations, 0 < a.allocatedUnits ∧ ∃ item ∈ work, item.state ∈ eligibleStates ∧
    a = workAllocation item a.allocatedUnits
  total : totalUnits plan.allocations ≤ max 0 (c - p.service.policy.guardrail - activeUnits work)
  scalar : CodexOnly p.limitId work → c ≤ 100

theorem plan_ok (hlimit : ∀ item ∈ work, item.limitId = p.limitId) (hids : (work.map (·.id)).Nodup)
    (hc : windowRemainingCapacity p.window = some c) {plan : QuarkWorkPlan} (h : p.plan work = pure plan) : PlanOk p work c plan := by
  have hrange : ¬ (c < 0 ∨ CodexOnly p.limitId work ∧ 100 < c) := by
    intro hout
    obtain ⟨e,he⟩ := capacityByLimit_refused hout
    simp only [Planning.plan,hc,planQuarkWork,planQuarkWork.liftExcept,he] at h
    cases h
  rw [not_or,not_lt] at hrange
  have hscalar : CodexOnly p.limitId work → c ≤ 100 := fun hcodex => not_lt.mp fun hlt => hrange.2 ⟨hcodex,hlt⟩
  obtain ⟨l,plan',-,hok,hplan,halloc⟩ := plan_limit hlimit hids hc hrange.1 hscalar
  rw [hplan] at h
  cases h
  refine ⟨fun a ha => ?_,?_,hscalar⟩
  · rw [halloc] at ha
    obtain ⟨hpos,-,item,hitem,heq⟩ := hok.slices a ha
    simp only [eligibleWork,List.mem_filter,decide_eq_true_eq] at hitem
    exact ⟨hpos,item,hitem.1,hitem.2,heq⟩
  · have htotal := hok.total
    rw [hok.spendable c rfl] at htotal
    rw [halloc]
    exact htotal

theorem plan_gives (hlimit : ∀ item ∈ work, item.limitId = p.limitId) (hids : (work.map (·.id)).Nodup)
    (hc : windowRemainingCapacity p.window = some c) (hnonneg : 0 ≤ c) (hscalar : CodexOnly p.limitId work → c ≤ 100)
    (hspend : 0 < c - p.service.policy.guardrail - activeUnits work) (heligible : eligibleWork work ≠ []) :
    ∃ plan, p.plan work = pure plan ∧ plan.allocations ≠ [] := by
  obtain ⟨l,plan,hl,-,hplan,halloc⟩ := plan_limit hlimit hids hc hnonneg hscalar
  refine ⟨plan,hplan,?_⟩
  rw [halloc]
  exact planLimit_gives hids (lt_max_of_lt_right hspend) heligible hl

end Plan
end Overseer.Quark
