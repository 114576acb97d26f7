import Overseer.Quark.Stranded
import Overseer.Quark.Figures

/-! # The dry run

A cycle that does not execute asks for the usage and plans. When there is nothing to hand out
it still marks its eligible work as waiting for capacity; otherwise it writes nothing.
-/
namespace Overseer.Quark
open Overseer.Library Overseer.Agent

/-- The work items and the slices are what they were. -/
structure Unchanged (s s' : QuarkStore) : Prop where
  work : ∀ workId, s'.work.get? workId = s.work.get? workId
  slices : s'.slices = s.slices

theorem Unchanged.refl (s : QuarkStore) : Unchanged s s := ⟨fun _ => rfl,rfl⟩

/-! ### The sweep -/

section Sweep
variable {resumeAt : Option String} {reason : String} {answers : ∀ q, QuarkAnswer q}

/-- The store after the items have been marked. -/
def swept (resumeAt : Option String) (reason : String) (s : QuarkStore) (items : List AgentWorkItem) : QuarkStore :=
  items.foldl (fun s item => s.putWork (item.waitingCapacity resumeAt reason)) s

theorem swept_slices (s : QuarkStore) (items : List AgentWorkItem) : (swept resumeAt reason s items).slices = s.slices := by
  induction items generalizing s with
  | nil => rfl
  | cons item rest ih => exact ih _

theorem swept_other (s : QuarkStore) {items : List AgentWorkItem} {workId : String} (h : workId ∉ items.map (·.id)) :
    (swept resumeAt reason s items).work.get? workId = s.work.get? workId := by
  induction items generalizing s with
  | nil => rfl
  | cons item rest ih =>
    rw [List.map_cons,List.mem_cons,not_or] at h
    have hput : (s.putWork (item.waitingCapacity resumeAt reason)).work.get? workId = s.work.get? workId := by
      rw [QuarkStore.putWork_work]
      exact if_neg h.1
    exact (ih _ h.2).trans hput

theorem swept_item (s : QuarkStore) {items : List AgentWorkItem} (hids : (items.map (·.id)).Nodup) {item : AgentWorkItem}
    (hitem : item ∈ items) : (swept resumeAt reason s items).work.get? item.id = some (item.waitingCapacity resumeAt reason) := by
  induction items generalizing s with
  | nil => cases hitem
  | cons first rest ih =>
    rw [List.map_cons,List.nodup_cons] at hids
    rcases List.mem_cons.mp hitem with rfl | hrest
    · refine (swept_other _ hids.1).trans ?_
      rw [QuarkStore.putWork_work]
      exact if_pos rfl
    · exact ih _ hids.2 hrest

theorem sweepAll_perform {t : QuarkStore} {items : List AgentWorkItem} (hids : (items.map (·.id)).Nodup)
    (hrows : ∀ item ∈ items, t.work.get? item.id = some item) :
    (Cycle.sweepAll resumeAt reason items).perform answers t = (.ok (),swept resumeAt reason t items) := by
  induction items generalizing t with
  | nil => rfl
  | cons item rest ih =>
    rw [List.map_cons,List.nodup_cons] at hids
    have hmark : ((markWaitingCapacity item.id resumeAt reason : QuarkProg Unit).holding (.sweeping item.id)).perform answers t =
        (.ok (),t.putWork (item.waitingCapacity resumeAt reason)) := by
      rw [Prog.perform_holding]
      refine Prog.perform_transaction ?_
      unfold QuarkTx.markWaitingCapacity
      rw [Tx.bind_of_ok (Cycle.loadWork_run (hrows item List.mem_cons_self))]
      rfl
    refine (Prog.perform_bind hmark).trans (ih hids.2 fun other hother => ?_)
    have hne : other.id ≠ item.id := fun heq => hids.1 (List.mem_map.mpr ⟨other,hother,heq⟩)
    rw [QuarkStore.putWork_work]
    exact (if_neg hne).trans (hrows other (List.mem_cons_of_mem _ hother))

theorem unchanged_swept_iff {s : QuarkStore} {items : List AgentWorkItem} (hids : (items.map (·.id)).Nodup)
    (hrows : ∀ item ∈ items, s.work.get? item.id = some item) :
    Unchanged s (swept resumeAt reason s items) ↔ ∀ item ∈ items, item.waitingCapacity resumeAt reason = item := by
  constructor
  · intro h item hitem
    have hrow := h.work item.id
    rw [swept_item s hids hitem,hrows item hitem] at hrow
    exact Option.some.inj hrow
  · intro h
    refine ⟨fun workId => ?_,swept_slices s items⟩
    by_cases hmem : workId ∈ items.map (·.id)
    · obtain ⟨item,hitem,rfl⟩ := List.mem_map.mp hmem
      rw [swept_item s hids hitem,h item hitem,hrows item hitem]
    · exact swept_other s hmem

end Sweep

/-! ### A plan without allocations -/

section Plan
variable {p : Planning} {work : List AgentWorkItem} {limitId : String}

/-- There is nothing to hand out, for this reason. -/
def NothingToSpend (policy : QuarkUsagePolicy) (limitId : String) (remaining : Option ℚ) (work : List AgentWorkItem) (reason : String) :
    Prop :=
  remaining = none ∧ reason = "unknown capacity blocks provider work for " ++ limitId ∨
  ∃ c, remaining = some c ∧ 0 ≤ c ∧ (CodexOnly limitId work → c ≤ 100) ∧ c ≤ policy.guardrail + activeUnits work ∧
    reason = "capacity is at the reserve and uncertainty floor"

theorem planQuarkWork_one {policy : QuarkUsagePolicy} {remainingPoints : Capacity} {k : String} {v : Option ℚ} {l : LimitPlan}
    (hcapacity : capacityByLimit remainingPoints work = .ok (Dict.empty.set k v))
    (hlimit : planLimit policy v (work.filter (·.limitId = k)) = pure l) :
    ∃ plan, planQuarkWork policy remainingPoints work = pure plan ∧ plan.allocations = l.allocations ∧ plan.reason = planReason [(k,l)] := by
  have hkeys : (Dict.empty.set k v).keys.insertionSort textLe = [k] := rfl
  have hget : ((Dict.empty.set k v).get? k).getD none = v := by simp
  simp only [planQuarkWork,planQuarkWork.liftExcept,hcapacity]
  change ∃ plan, (List.mapM _ ((Dict.empty.set k v).keys.insertionSort textLe) >>= _ : ExceptT PlanError Option _) = pure plan ∧ _
  rw [hkeys,List.mapM_cons,List.mapM_nil,hget,hlimit]
  exact ⟨_,rfl,List.append_nil _,rfl⟩

theorem capacityByLimit_unknown (hlimit : ∀ item ∈ work, item.limitId = limitId) :
    capacityByLimit (.byLimit (Dict.empty.set limitId none)) work = .ok (Dict.empty.set limitId none) := by
  have hvalues : ((Dict.empty.set limitId none).values.any fun v : Option ℚ => v.any (· < 0)) = false := rfl
  simp only [capacityByLimit,hvalues]
  simp only [Bool.false_eq_true,↓reduceIte]
  rw [foldl_capacity hlimit (by simp)]

/-- The plan where there is nothing to hand out. -/
theorem plan_nothing (hlimit : ∀ item ∈ work, item.limitId = p.limitId) {reason : String}
    (h : NothingToSpend p.service.policy p.limitId (windowRemainingCapacity p.window) work reason) :
    ∃ plan, p.plan work = pure plan ∧ plan.allocations = [] ∧ plan.reason = reason := by
  have hall : work.filter (·.limitId = p.limitId) = work := List.filter_eq_self.mpr fun item hitem => decide_eq_true (hlimit item hitem)
  rcases h with ⟨hnone,rfl⟩ | ⟨c,hc,hnonneg,hscalar,hfloor,rfl⟩
  · have hplan : planLimit p.service.policy none (work.filter (·.limitId = p.limitId)) =
        pure { active := activeUnits (work.filter (·.limitId = p.limitId)), remainingAfter := none, unknown := true } := rfl
    obtain ⟨plan,hrun,halloc,hreason⟩ := planQuarkWork_one (capacityByLimit_unknown hlimit) hplan
    refine ⟨plan,?_,halloc,hreason.trans ?_⟩
    · unfold Planning.plan
      rw [hnone]
      exact hrun
    · simp [planReason]
  · have hspend : spendableUnits p.service.policy c (activeUnits work) ≤ 0 :=
      not_lt.mp fun hlt => absurd (spendableUnits_pos.mp hlt) (not_lt.mpr hfloor)
    have hplan : planLimit p.service.policy (some c) (work.filter (·.limitId = p.limitId)) =
        pure { active := activeUnits work, spendable := spendableUnits p.service.policy c (activeUnits work), remainingAfter := some c, exhausted := true } := by
      rw [hall]
      exact if_pos hspend
    obtain ⟨plan,hrun,halloc,hreason⟩ := planQuarkWork_one (capacityByLimit_cycle hlimit hnonneg hscalar) hplan
    refine ⟨plan,?_,halloc,hreason.trans ?_⟩
    · unfold Planning.plan
      rw [hc]
      exact hrun
    · simp [planReason]

/-- A plan without allocations for eligible work has nothing to hand out. -/
theorem nothing_of_plan (hlimit : ∀ item ∈ work, item.limitId = p.limitId) (hids : (work.map (·.id)).Nodup) {plan : QuarkWorkPlan}
    (hplan : p.plan work = pure plan) (hnone : plan.allocations = []) (heligible : eligibleWork work ≠ []) :
    NothingToSpend p.service.policy p.limitId (windowRemainingCapacity p.window) work plan.reason := by
  have hreason : ∀ reason, NothingToSpend p.service.policy p.limitId (windowRemainingCapacity p.window) work reason →
      NothingToSpend p.service.policy p.limitId (windowRemainingCapacity p.window) work plan.reason := by
    intro reason h
    obtain ⟨plan',hplan',-,hreason'⟩ := plan_nothing hlimit h
    rw [hplan] at hplan'
    have hsame : plan = plan' := Except.ok.inj (Option.some.inj hplan')
    rw [hsame,hreason']
    exact h
  cases hc : windowRemainingCapacity p.window with
  | none => exact hc ▸ hreason _ (.inl ⟨hc,rfl⟩)
  | some c =>
    have hok := plan_ok hlimit hids hc hplan
    have hnonneg : 0 ≤ c := by
      by_contra hneg
      have hout : c < 0 ∨ CodexOnly p.limitId work ∧ 100 < c := .inl (not_le.mp hneg)
      obtain ⟨e,he⟩ := capacityByLimit_refused hout
      simp only [Planning.plan,hc,planQuarkWork,planQuarkWork.liftExcept,he] at hplan
      cases hplan
    have hfloor : c ≤ p.service.policy.guardrail + activeUnits work := by
      by_contra hspend
      obtain ⟨plan',hplan',hne⟩ := plan_gives hlimit hids hc hnonneg hok.scalar (by linarith) heligible
      rw [hplan] at hplan'
      have hsame : plan = plan' := Except.ok.inj (Option.some.inj hplan')
      exact hne (hsame ▸ hnone)
    exact hc ▸ hreason _ (.inr ⟨c,hc,hnonneg,hok.scalar,hfloor,rfl⟩)

end Plan

/-! ### The cycle -/

/-- The cycle marks some item that does not already wait like this. -/
def PutsOff (service : QuarkSchedulerService) (limitId : String) (before : UsageSnapshot) (s : QuarkStore) : Prop :=
  ∃ window reason, usageWindow before limitId = some window ∧
    usageUnitMismatchReason window (service.workForLimit limitId s) limitId = none ∧
    NothingToSpend service.policy limitId (windowRemainingCapacity window) (service.workForLimit limitId s) reason ∧
    ∃ item ∈ service.workForLimit limitId s, item.state ∈ eligibleStates ∧ item.waitingCapacity window.resetsAt reason ≠ item

section Cycle
variable {service : QuarkSchedulerService} {limitId : String} {before : UsageSnapshot} {window : UsageWindow} {s : QuarkStore}
  {answers : ∀ q, QuarkAnswer q}

theorem refresh_perform (hbefore : answers .refresh = some before) : Cycle.refresh.perform answers s = (.ok before,s) := by
  have hask : (Prog.ask QuarkQuery.refresh : QuarkProg (Option UsageSnapshot)).perform answers s = (.ok (some before),s) := by
    rw [← hbefore]
    rfl
  exact (Prog.perform_bind hask).trans rfl

theorem dryRun_listed (hbefore : answers .refresh = some before) (hwindow : usageWindow before limitId = some window) :
    (Cycle.runCycle service false limitId).perform answers s =
      (Cycle.listedCycle false ⟨service,limitId,window,true⟩ before (service.workForLimit limitId s)).perform answers s := by
  refine (Prog.perform_bind (refresh_perform hbefore)).trans ?_
  refine (Prog.perform_bind (Cycle.window_perform hwindow)).trans ?_
  exact Prog.perform_bind (Cycle.workForLimit_perform service _)

theorem dryRun_mismatch (hbefore : answers .refresh = some before) (hwindow : usageWindow before limitId = some window) {reason : String}
    (hmismatch : usageUnitMismatchReason window (service.workForLimit limitId s) limitId = some reason) :
    ((Cycle.runCycle service false limitId).perform answers s).2 = s := by
  rw [dryRun_listed hbefore hwindow]
  unfold Cycle.listedCycle
  rw [hmismatch]
  unfold Cycle.blockedCycle
  rcases planQuarkWork service.policy (.byLimit (Dict.empty.set limitId none)) (service.workForLimit limitId s) with _ | (e | plan)
  · rfl
  · rfl
  · rfl

/-- A dry run from the window on: its plan, and the sweep where it allocates nothing. -/
theorem dryRun_planned (hbefore : answers .refresh = some before) (hwindow : usageWindow before limitId = some window)
    (hmatch : usageUnitMismatchReason window (service.workForLimit limitId s) limitId = none) :
    ((Cycle.runCycle service false limitId).perform answers s).2 =
      match (⟨service,limitId,window,true⟩ : Planning).plan (service.workForLimit limitId s) with
      | some (.ok plan) => if plan.allocations = [] then
          swept window.resetsAt plan.reason s (eligibleWork (service.workForLimit limitId s)) else s
      | _ => s := by
  let p : Planning := ⟨service,limitId,window,true⟩
  let work := service.workForLimit limitId s
  have hcycle : (Cycle.runCycle service false limitId).perform answers s = (Cycle.planCycle false p before work []).perform answers s := by
    rw [dryRun_listed hbefore hwindow]
    unfold Cycle.listedCycle
    rw [hmatch]
    rfl
  rw [hcycle]
  change _ = match p.plan work with
    | some (.ok plan) => if plan.allocations = [] then swept window.resetsAt plan.reason s (eligibleWork work) else s
    | _ => s
  unfold Cycle.planCycle
  rcases p.plan work with _ | (e | plan)
  · rfl
  · rfl
  · have hlift : (Cycle.liftPlan (some (.ok plan))).perform answers s = (.ok plan,s) := rfl
    refine (congrArg Prod.snd (Prog.perform_bind hlift)).trans ?_
    by_cases hnone : plan.allocations = []
    · have hids : ((eligibleWork work).map (·.id)).Nodup := (workForLimit_ids service limitId s).sublist (List.filter_sublist.map _)
      have hrows : ∀ item ∈ eligibleWork work, s.work.get? item.id = some item :=
        fun item hitem => (mem_workForLimit.mp (List.mem_filter.mp hitem).1).1
      simp only [if_pos hnone]
      unfold Cycle.sweepCycle
      exact (congrArg Prod.snd (Prog.perform_bind (sweepAll_perform hids hrows))).trans rfl
    · simp only [if_neg hnone]
      rfl

/-- A dry run that puts nothing off changes nothing. -/
theorem dryRun_unchanged (h : ∀ before, answers .refresh = some before → ¬ PutsOff service limitId before s) :
    Unchanged s ((Cycle.runCycle service false limitId).perform answers s).2 := by
  suffices hmove : ((Cycle.runCycle service false limitId).perform answers s).2 = s ∨
      Unchanged s ((Cycle.runCycle service false limitId).perform answers s).2 by
    rcases hmove with hsame | hkept
    · rw [hsame]
      exact .refl s
    · exact hkept
  cases hbefore : answers .refresh with
  | none =>
    left
    have hask : (Prog.ask QuarkQuery.refresh : QuarkProg (Option UsageSnapshot)).perform answers s = (.ok none,s) := by
      rw [← hbefore]
      rfl
    have hrefresh : Cycle.refresh.perform answers s = (.error .outside,s) := (Prog.perform_bind hask).trans rfl
    exact congrArg Prod.snd (Prog.perform_bind_error hrefresh)
  | some before =>
  cases hwindow : usageWindow before limitId with
  | none =>
    left
    have hmissing : ∃ e, (Cycle.window before limitId).perform answers s = (.error e,s) := by
      unfold Cycle.window
      rw [hwindow]
      exact ⟨_,rfl⟩
    obtain ⟨e,hmissing⟩ := hmissing
    have hrun : (Cycle.runCycle service false limitId).perform answers s = (.error e,s) :=
      (Prog.perform_bind (refresh_perform hbefore)).trans (Prog.perform_bind_error hmissing)
    rw [hrun]
  | some window =>
  cases hmatch : usageUnitMismatchReason window (service.workForLimit limitId s) limitId with
  | some reason => exact .inl (dryRun_mismatch hbefore hwindow hmatch)
  | none =>
    rw [dryRun_planned hbefore hwindow hmatch]
    rcases hplan : (⟨service,limitId,window,true⟩ : Planning).plan (service.workForLimit limitId s) with _ | (e | plan)
    · exact .inl rfl
    · exact .inl rfl
    · dsimp only
      by_cases hnone : plan.allocations = []
      · right
        rw [if_pos hnone]
        have hids : ((eligibleWork (service.workForLimit limitId s)).map (·.id)).Nodup :=
          (workForLimit_ids service limitId s).sublist (List.filter_sublist.map _)
        refine (unchanged_swept_iff hids fun item hitem => (mem_workForLimit.mp (List.mem_filter.mp hitem).1).1).mpr fun item hitem => ?_
        by_contra hne
        obtain ⟨hmem,hstate⟩ := mem_eligibleWork.mp hitem
        have hnothing := nothing_of_plan (workForLimit_limit service limitId s) (workForLimit_ids service limitId s) hplan hnone
          (List.ne_nil_of_mem hitem)
        exact h before hbefore ⟨window,plan.reason,hwindow,hmatch,hnothing,item,hmem,hstate,hne⟩
      · left
        rw [if_neg hnone]

theorem dryRun_puts_off (hbefore : answers .refresh = some before) (h : PutsOff service limitId before s) :
    ¬ Unchanged s ((Cycle.runCycle service false limitId).perform answers s).2 := by
  obtain ⟨window,reason,hwindow,hmatch,hnothing,item,hmem,hstate,hne⟩ := h
  obtain ⟨plan,hplan,hnone,rfl⟩ := plan_nothing (p := ⟨service,limitId,window,true⟩) (workForLimit_limit service limitId s) hnothing
  have hplan' : (⟨service,limitId,window,true⟩ : Planning).plan (service.workForLimit limitId s) = some (.ok plan) := hplan
  rw [dryRun_planned hbefore hwindow hmatch,hplan']
  dsimp only
  rw [if_pos hnone]
  have hids : ((eligibleWork (service.workForLimit limitId s)).map (·.id)).Nodup :=
    (workForLimit_ids service limitId s).sublist (List.filter_sublist.map _)
  intro hsame
  refine hne ((unchanged_swept_iff hids fun other hother => ?_).mp hsame item (mem_eligibleWork.mpr ⟨hmem,hstate⟩))
  exact (mem_workForLimit.mp (List.mem_filter.mp hother).1).1

end Cycle

/-- A dry run leaves the work items and the slices as they were exactly when it puts nothing off. -/
theorem dry_run_changes_nothing (service : QuarkSchedulerService) (limitId : String) (answers : ∀ q, QuarkAnswer q) (s : QuarkStore) :
    Unchanged s ((Cycle.runCycle service false limitId).perform answers s).2 ↔
      ∀ before, answers .refresh = some before → ¬ PutsOff service limitId before s :=
  ⟨fun h _ hbefore hoff => dryRun_puts_off hbefore hoff h,dryRun_unchanged⟩

/-- Five points are left, and an item waits for them. -/
theorem dry_run_marks_queued : ∃ (before : UsageSnapshot) (s : QuarkStore),
    ¬ Unchanged s ((Cycle.runCycle {} false "codex").perform (stalling before) s).2 := by
  refine ⟨fullUsage "codex" 5 "quota_points",QuarkStore.empty.putWork (AgentWorkItem.small "w1" "p1"),dryRun_puts_off rfl ?_⟩
  have hwork : (QuarkSchedulerService.workForLimit {} "codex" (QuarkStore.empty.putWork (AgentWorkItem.small "w1" "p1"))) =
      [AgentWorkItem.small "w1" "p1"] := by decide +kernel
  refine ⟨_,_,usageWindow_full "codex" 5 "quota_points",?_,.inr ⟨5,rfl,by norm_num,fun _ => by norm_num,?_,rfl⟩,AgentWorkItem.small "w1" "p1",?_,?_,?_⟩
  · rw [hwork]
    decide +kernel
  · rw [hwork]
    have hactive : activeUnits [AgentWorkItem.small "w1" "p1"] = 0 := by decide +kernel
    rw [hactive]
    norm_num [QuarkUsagePolicy.guardrail,QuarkUsagePolicy.standard]
  · rw [hwork]
    exact List.mem_singleton.mpr rfl
  · decide
  · intro h
    have hstate := congrArg AgentWorkItem.state h
    cases hstate

end Overseer.Quark
