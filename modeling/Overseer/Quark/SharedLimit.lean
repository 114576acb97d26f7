import Overseer.Quark.Reservations

/-! # Work that shares a limit

A cycle keeps the reservations of a limit within the capacity it observes, whatever they are
of, as long as it lists all of the running items that have reserved something or cannot start
any work. Where it misses some, there is a capacity under which it goes too far.
-/
namespace Overseer.Quark
open Overseer.Library Overseer.Agent

/-! ### A run that starts what it can -/

def stillRunning : SliceResult := { persistenceAllowed := some false, terminal := some false }

/-- The executor leaves everything as it is, and the usage stays the same. -/
def stalling (before : UsageSnapshot) : ∀ q, QuarkAnswer q
  | .refresh => some before
  | .timestamp => ""
  | .runSlice _ _ _ => some stillRunning
  | .reconcileSlice _ _ => some stillRunning

namespace Cycle
section Perform
variable {limitId : String} {t : QuarkStore} {before : UsageSnapshot} {answers : ∀ q, QuarkAnswer q}

theorem loadWork_perform {workId : String} {row : AgentWorkItem} (hrow : t.work.get? workId = some row) :
    (loadWork workId : QuarkProg _).perform answers t = (.ok row,t) := Prog.perform_transaction (loadWork_run hrow)

theorem observedAt_perform (answers : ∀ q, QuarkAnswer q) (t : QuarkStore) (snapshot : UsageSnapshot) :
    ∃ clock, (observedAt snapshot).perform answers t = (.ok clock,t) := by
  unfold observedAt
  split
  · split
    · exact ⟨_,rfl⟩
    · exact ⟨_,rfl⟩
  · exact ⟨_,rfl⟩

theorem rejectResult_perform (answers : ∀ q, QuarkAnswer q) {item row : AgentWorkItem} (result : SliceResult) (hrow : t.work.get? item.id = some row) :
    ∃ payload, (rejectResult item result).perform answers t = (.ok payload,t) := by
  have hload : ∀ h, (rescue (loadWork item.id : QuarkProg AgentWorkItem) h).perform answers t = (.ok row,t) :=
    fun h => Prog.perform_handle (loadWork_perform hrow)
  exact ⟨_,(Prog.perform_bind (hload _)).trans rfl⟩

theorem window_perform {window : UsageWindow} (h : usageWindow before limitId = some window) :
    (Cycle.window before limitId).perform answers t = (.ok window,t) := by
  unfold Cycle.window
  rw [h]
  rfl

theorem workForLimit_perform (service : QuarkSchedulerService) (held : Held) :
    (workForLimit service limitId held).perform answers t = (.ok (service.workForLimit limitId t),t) := by
  unfold workForLimit
  refine Prog.perform_bind (a := t.listed) ?_
  rw [Prog.perform_holding]
  rfl

theorem reconcileAll_perform (before : UsageSnapshot) (remainingCapacity : Option ℚ) (items : List AgentWorkItem)
    (hitems : ∀ item ∈ items, t.work.get? item.id = some item) :
    ∃ payloads, (reconcileAll remainingCapacity before items).perform (stalling before) t = (.ok payloads,t) := by
  induction items with
  | nil => exact ⟨[],rfl⟩
  | cons item rest ih =>
    obtain ⟨payloads,hrest⟩ := ih fun other hother => hitems other (List.mem_cons_of_mem _ hother)
    obtain ⟨payload,hreject⟩ := rejectResult_perform (stalling before) stillRunning (hitems item List.mem_cons_self)
    refine ⟨payload :: payloads,?_⟩
    have hask : (reconcileSlice item).perform (stalling before) t = (.ok stillRunning,t) := rfl
    refine (Prog.perform_bind hask).trans ?_
    refine (Prog.perform_bind hreject).trans ?_
    exact Prog.perform_bind hrest

/-- A slice is started and left running. -/
theorem executeSlice_perform {window : UsageWindow} (hwindow : usageWindow before limitId = some window) (remainingCapacity : Option ℚ)
    {a : WorkAllocation} {item : AgentWorkItem} (hrow : t.work.get? a.workId = some item) :
    ∃ payload t' startedAt, (executeSlice limitId remainingCapacity before a).perform (stalling before) t = (.ok payload,t') ∧
      Alike (t.putWork (reserved item a startedAt)) t' := by
  obtain ⟨startedAt,hclock⟩ := observedAt_perform (stalling before) t before
  have hrow' : (t.putWork (reserved item a startedAt)).work.get? item.id = some (reserved item a startedAt) := by
    rw [QuarkStore.putWork_work]
    exact if_pos rfl
  obtain ⟨t',hstart,halike⟩ := recordSliceStart_alike a.generation remainingCapacity before.lifetimeTokens startedAt
    hrow' rfl
  obtain ⟨current,hcurrent,-⟩ := halike.get hrow'
  have hid : current.id = item.id := t'.keyed _ _ hcurrent
  have hcurrent' : t'.work.get? current.id = some current := by
    rw [hid]
    exact hcurrent
  obtain ⟨payload,hreject⟩ := rejectResult_perform (stalling before) stillRunning hcurrent'
  refine ⟨payload,t',startedAt,?_,halike⟩
  refine (Prog.perform_bind (loadWork_perform hrow)).trans ?_
  refine (Prog.perform_bind hclock).trans ?_
  have hsave : ((saveWork (reserved item a startedAt) : QuarkProg Unit).holding (.reserving a)).perform (stalling before) t =
      (.ok (),t.putWork (reserved item a startedAt)) := by
    rw [Prog.perform_holding]
    rfl
  refine (Prog.perform_bind hsave).trans ?_
  refine (Prog.perform_bind (Prog.perform_transaction hstart)).trans ?_
  have hrun : (runSlice item a).perform (stalling before) t' = (.ok stillRunning,t') := rfl
  refine (Prog.perform_bind hrun).trans ?_
  have hrefresh : refresh.perform (stalling before) t' = (.ok before,t') := rfl
  refine (Prog.perform_bind hrefresh).trans ?_
  refine (Prog.perform_bind (window_perform hwindow)).trans ?_
  exact (Prog.perform_bind (loadWork_perform hcurrent)).trans hreject

theorem keys_of_alike {s t : QuarkStore} (h : Alike s t) : t.work.keys = s.work.keys := by
  have hkeys : ∀ u : QuarkStore, u.work.keys = (outlines u).map Prod.fst := by
    intro u
    simp only [outlines,Dict.keys,List.map_map]
    rfl
  rw [hkeys,hkeys,h]

/-- Every allocation ends up reserved, and the other rows add what they did. -/
theorem executeAll_perform {window : UsageWindow} (hwindow : usageWindow before limitId = some window) (remainingCapacity : Option ℚ)
    (allocations : List WorkAllocation) (hallocations : ∀ a ∈ allocations, 0 < a.allocatedUnits ∧
      ∃ row, t.work.get? a.workId = some row ∧ row.limitId = limitId) :
    ∃ payloads t', (executeAll limitId remainingCapacity before allocations).perform (stalling before) t = (.ok payloads,t') ∧
      t'.work.keys = t.work.keys ∧ ∀ k, (k ∈ allocations.map (·.workId) → 0 < unitsAt limitId t' k) ∧
        (k ∉ allocations.map (·.workId) → unitsAt limitId t' k = unitsAt limitId t k) := by
  induction allocations generalizing t with
  | nil => exact ⟨[],t,rfl,rfl,fun k => ⟨fun h => (by cases h),fun _ => rfl⟩⟩
  | cons a rest ih =>
    obtain ⟨hpos,item,hrow,hlimit⟩ := hallocations a List.mem_cons_self
    have hid : item.id = a.workId := t.keyed _ _ hrow
    obtain ⟨payload,t₁,startedAt,hslice,halike⟩ := executeSlice_perform hwindow remainingCapacity hrow
    have hput : ∀ k, (t.putWork (reserved item a startedAt)).work.get? k =
        if k = a.workId then some (reserved item a startedAt) else t.work.get? k := by
      intro k
      rw [QuarkStore.putWork_work]
      change (if k = item.id then _ else _) = _
      rw [hid]
    have hunits : ∀ k, unitsAt limitId t₁ k = if k = a.workId then a.allocatedUnits else unitsAt limitId t k := by
      intro k
      have hreserved : unitsFor limitId (reserved item a startedAt) = a.allocatedUnits := if_pos ⟨rfl,hlimit⟩
      rw [halike.unitsAt,unitsAt_putWork,hreserved]
      change (if k = item.id then _ else _) = _
      rw [hid]
    have hkeys : t₁.work.keys = t.work.keys := by
      rw [keys_of_alike halike]
      have hmem : item.id ∈ t.work.entries.map Prod.fst := (Dict.mem_keys_iff t.work item.id).mpr ⟨item,by rw [hid]; exact hrow⟩
      change (Dict.assign item.id (reserved item a startedAt) t.work.entries).map Prod.fst = t.work.entries.map Prod.fst
      rw [Dict.assign_keys,if_pos hmem]
    obtain ⟨payloads,t',hrest,hkeys',hunits'⟩ := ih (t := t₁) (by
      intro b hb
      obtain ⟨hbpos,row,hbrow,hblimit⟩ := hallocations b (List.mem_cons_of_mem _ hb)
      have hthere : ∃ row', (t.putWork (reserved item a startedAt)).work.get? b.workId = some row' ∧ row'.limitId = limitId := by
        rw [hput]
        split
        · exact ⟨_,rfl,hlimit⟩
        · exact ⟨row,hbrow,hblimit⟩
      obtain ⟨row',hrow',hlimit'⟩ := hthere
      obtain ⟨row'',hrow'',houtline⟩ := halike.get hrow'
      exact ⟨hbpos,row'',hrow'',(congrArg Outline.limitId houtline).trans hlimit'⟩)
    refine ⟨payload :: payloads,t',?_,hkeys'.trans hkeys,fun k => ⟨fun hk => ?_,fun hk => ?_⟩⟩
    · refine (Prog.perform_bind hslice).trans ?_
      exact Prog.perform_bind hrest
    · by_cases hrestk : k ∈ rest.map (·.workId)
      · exact (hunits' k).1 hrestk
      · rw [List.map_cons,List.mem_cons] at hk
        rw [(hunits' k).2 hrestk,hunits,if_pos (hk.resolve_right hrestk)]
        exact hpos
    · rw [List.map_cons,List.mem_cons,not_or] at hk
      rw [(hunits' k).2 hk.2,hunits,if_neg hk.1]

end Perform
end Cycle

/-! ### The sum over the rows -/

theorem runningUnits_keys (limitId : String) (s : QuarkStore) :
    runningUnits limitId s = (s.work.keys.map (unitsAt limitId s)).sum := by
  rw [runningUnits_eq]
  unfold Dict.values Dict.keys
  rw [List.map_map,List.map_map]
  congr 1
  refine List.map_congr_left fun e he => ?_
  have hrow := (s.work.mem_entries_iff e.1 e.2).mp he
  simp [unitsAt,hrow]

theorem runningUnits_lt {limitId : String} {s t : QuarkStore} (hkeys : t.work.keys = s.work.keys)
    (hle : ∀ k, unitsAt limitId s k ≤ unitsAt limitId t k) {k : String} (hk : k ∈ s.work.keys)
    (hlt : unitsAt limitId s k < unitsAt limitId t k) : runningUnits limitId s < runningUnits limitId t := by
  rw [runningUnits_keys,runningUnits_keys,hkeys]
  exact List.sum_lt_sum _ _ (fun k _ => hle k) ⟨k,hk,hlt⟩

/-! ### The claim on a limit -/

/-- The capacity of the limit in the first snapshot of a cycle. -/
def Observed (limitId : String) (log : List (Σ q, QuarkAnswer q)) (c : ℚ) : Prop :=
  ∃ before rest window, log = ⟨.refresh,some before⟩ :: rest ∧ usageWindow before limitId = some window ∧
    windowRemainingCapacity window = some c

/-- Every executing cycle from this store with an executor that leaves its slices running keeps the
reservations of the limit within the capacity it observes. -/
def Respects (service : QuarkSchedulerService) (limitId : String) (s : QuarkStore) : Prop :=
  ∀ log r s' c, (Cycle.runCycle service true limitId).Solo s log r s' → (∀ e ∈ log, LeavesRunning e.1 e.2) →
    Observed limitId log c → runningUnits limitId s + service.policy.guardrail ≤ c →
      runningUnits limitId s' + service.policy.guardrail ≤ c

/-- Running items outside the listing have reserved something, and the cycle can start work. -/
structure Overlooked (service : QuarkSchedulerService) (limitId : String) (s : QuarkStore) : Prop extends
    Exposed service limitId s where
  unit : OneUnit (service.workForLimit limitId s)

def EntryPoint.service (entry : EntryPoint) (policy : QuarkUsagePolicy) (canReconcile : Bool) : QuarkSchedulerService where
  policy := policy
  workFilter := entry.workFilter
  canReconcile := canReconcile

section Claim
variable {entry : EntryPoint} {policy : QuarkUsagePolicy} {canReconcile : Bool} {limitId : String} {s : QuarkStore}

theorem respects_of_not_overlooked (h : ¬ Overlooked (entry.service policy canReconcile) limitId s) :
    Respects (entry.service policy canReconcile) limitId s := by
  rintro log r s' c hrun hlog ⟨before,rest,window,rfl,hwindow,hcapacity⟩ hbound
  rw [Cycle.runCycle_call] at hrun
  cases hrun with
  | call _ _ _ hrest =>
    have hwp : (Cycle.cycleFrom (entry.service policy canReconcile) true limitId before).Wp LeavesRunning
        (fun t => runningUnits limitId t + policy.guardrail ≤ c) (fun _ _ => True) s := cycleFrom_wp (e := entry) rfl
      (fun window' hwindow' => by rw [hwindow] at hwindow'; cases hwindow'; exact hcapacity)
      (fun hunit hexposed => h ⟨hexposed,hunit⟩) hbound
    exact hwp.cut hrest.cut fun e he => hlog e (List.mem_cons_of_mem _ he)

/-- The usage that leaves the work no more than is reserved. -/
def fullUsage (limitId : String) (c : ℚ) (unit : String) : UsageSnapshot where
  rateLimits := [⟨limitId,[{ name := "primary", remainingUnits := some c, usageUnit := some unit }]⟩]
  observedAt := some "now"

theorem usageWindow_full (limitId : String) (c : ℚ) (unit : String) : usageWindow (fullUsage limitId c unit) limitId =
    some { name := "primary", remainingUnits := some c, usageUnit := some unit } := by
  simp [usageWindow,fullUsage]

theorem match_of_oneUnit {work : List AgentWorkItem} {unit : String} {window : UsageWindow} (hwindow : window.usageUnit = some unit)
    (hunit : ∀ item ∈ work, item.state ∈ WorkState.running :: eligibleStates → item.usageUnit = unit) {item : AgentWorkItem}
    (hitem : item ∈ work) (hstate : item.state ∈ WorkState.running :: eligibleStates) :
    usageUnitMismatchReason window work limitId = none := by
  have hrelevant : item ∈ work.filter (·.state ∈ WorkState.running :: eligibleStates) :=
    List.mem_filter.mpr ⟨hitem,decide_eq_true hstate⟩
  have hlength : (work.filter (·.state ∈ WorkState.running :: eligibleStates)).length ≠ 0 :=
    fun h => List.ne_nil_of_mem hrelevant (List.length_eq_zero_iff.mp h)
  have hmap : (work.filter (·.state ∈ WorkState.running :: eligibleStates)).map (·.usageUnit) =
      List.replicate (work.filter (·.state ∈ WorkState.running :: eligibleStates)).length unit := by
    rw [List.eq_replicate_iff]
    refine ⟨by simp,fun u hu => ?_⟩
    obtain ⟨other,hother,rfl⟩ := List.mem_map.mp hu
    obtain ⟨hmem,hrel⟩ := List.mem_filter.mp hother
    exact hunit other hmem (of_decide_eq_true hrel)
  unfold usageUnitMismatchReason
  dsimp only
  rw [if_neg (List.ne_nil_of_mem hrelevant),hmap,List.replicate_dedup hlength]
  simp [windowUnit,hwindow]

/-- The cycle plans on the store it began with and starts every slice it selects. -/
theorem runCycle_perform {service : QuarkSchedulerService} {before : UsageSnapshot} {window : UsageWindow} {plan : QuarkWorkPlan}
    {payloads : List ExecutionPayload} {s' : QuarkStore} (hwindow : usageWindow before limitId = some window)
    (hmatch : usageUnitMismatchReason window (service.workForLimit limitId s) limitId = none)
    (hplan : (⟨service,limitId,window,true⟩ : Planning).plan (service.workForLimit limitId s) = pure plan) (hne : plan.allocations ≠ [])
    (hexecute : (Cycle.executeAll limitId (windowRemainingCapacity window) before
      ((⟨service,limitId,window,true⟩ : Planning).selection plan)).perform (stalling before) s = (.ok payloads,s')) :
    ∃ result, (Cycle.runCycle service true limitId).perform (stalling before) s = (.ok result,s') := by
  have hplanned : ∀ payloads', ∃ result, (Cycle.planCycle true ⟨service,limitId,window,true⟩ before (service.workForLimit limitId s)
      payloads').perform (stalling before) s = (.ok result,s') := by
    intro payloads'
    have hlift : (Cycle.liftPlan ((⟨service,limitId,window,true⟩ : Planning).plan (service.workForLimit limitId s))).perform
        (stalling before) s = (.ok plan,s) := by
      rw [hplan]
      rfl
    have hcycle : ∃ result, (Cycle.executeCycle ⟨service,limitId,window,true⟩ before plan payloads').perform (stalling before) s =
        (.ok result,s') := ⟨_,(Prog.perform_bind hexecute).trans rfl⟩
    obtain ⟨result,hcycle⟩ := hcycle
    refine ⟨result,(Prog.perform_bind hlift).trans ?_⟩
    rw [if_neg hne,if_pos rfl]
    exact hcycle
  have hlisted : ∃ result, (Cycle.listedCycle true ⟨service,limitId,window,true⟩ before (service.workForLimit limitId s)).perform
      (stalling before) s = (.ok result,s') := by
    unfold Cycle.listedCycle
    rw [hmatch]
    dsimp only
    split
    · obtain ⟨payloads',hreconcile⟩ := Cycle.reconcileAll_perform (t := s) before (windowRemainingCapacity window)
        ((service.workForLimit limitId s).filter Cycle.reconcilable)
        fun item hitem => (mem_workForLimit.mp (List.mem_filter.mp hitem).1).1
      obtain ⟨result,hresult⟩ := hplanned payloads'
      refine ⟨result,(Prog.perform_bind hreconcile).trans ?_⟩
      exact (Prog.perform_bind (Cycle.workForLimit_perform service _)).trans hresult
    · exact hplanned []
  obtain ⟨result,hresult⟩ := hlisted
  refine ⟨result,?_⟩
  rw [Cycle.runCycle_call]
  change (Cycle.cycleFrom service true limitId before).perform (stalling before) s = _
  refine (Prog.perform_bind (Cycle.window_perform hwindow)).trans ?_
  exact (Prog.perform_bind (Cycle.workForLimit_perform service _)).trans hresult

theorem leavesRunning_stalling (before : UsageSnapshot) (q : QuarkQuery) : LeavesRunning q (stalling before q) := by
  cases q with
  | refresh => trivial
  | timestamp => trivial
  | runSlice item allocation prompt =>
    intro result h
    cases h
    rfl
  | reconcileSlice item prompt =>
    intro result h
    cases h
    rfl

/-- The cycle sees the usage that it is told. -/
theorem observed_stalling {service : QuarkSchedulerService} {before : UsageSnapshot} {window : UsageWindow} {c : ℚ}
    {log : List (Σ q, QuarkAnswer q)} {r : Except QuarkError Cycle.CycleResult} {s' : QuarkStore}
    (hwindow : usageWindow before limitId = some window) (hc : windowRemainingCapacity window = some c)
    (hrun : (Cycle.runCycle service true limitId).Solo s log r s') (hlog : ∀ e ∈ log, e.2 = stalling before e.1) :
    Observed limitId log c := by
  rw [Cycle.runCycle_call] at hrun
  cases hrun with
  | @call _ _ a _ _ rest _ hrest =>
    have ha : a = some before := hlog _ List.mem_cons_self
    subst ha
    exact ⟨before,rest,window,rfl,hwindow,hc⟩

/-- Where running items are overlooked there is a capacity that the cycle goes over. -/
theorem overlooked_not_respected (hnonneg : 0 ≤ runningUnits limitId s + policy.guardrail)
    (h : Overlooked (entry.service policy canReconcile) limitId s) : ¬ Respects (entry.service policy canReconcile) limitId s := by
  obtain ⟨unit,hunit⟩ := h.unit
  let service := entry.service policy canReconcile
  let c := runningUnits limitId s + policy.guardrail
  let before := fullUsage limitId c unit
  let window : UsageWindow := { name := "primary", remainingUnits := some c, usageUnit := some unit }
  let p : Planning := ⟨service,limitId,window,true⟩
  have hwindow : usageWindow before limitId = some window := usageWindow_full limitId c unit
  have hmatch : usageUnitMismatchReason window (service.workForLimit limitId s) limitId = none := by
    obtain ⟨item,hitem⟩ := List.exists_mem_of_ne_nil _ h.eligible
    obtain ⟨hwork,hstate⟩ := mem_eligibleWork.mp hitem
    exact match_of_oneUnit rfl hunit hwork (List.mem_cons_of_mem _ hstate)
  have hspend : 0 < c - policy.guardrail - activeUnits (service.workForLimit limitId s) := by
    have hhidden : activeUnits (service.workForLimit limitId s) < runningUnits limitId s := h.hidden
    change 0 < runningUnits limitId s + policy.guardrail - policy.guardrail - _
    linarith
  obtain ⟨plan,hplan,hne⟩ := plan_gives (p := p) (workForLimit_limit _ _ s) (workForLimit_ids _ _ s) rfl hnonneg h.scalar hspend h.eligible
  have hok := plan_ok (p := p) (workForLimit_limit _ _ s) (workForLimit_ids _ _ s) rfl hplan
  have hitem : ∀ a ∈ p.selection plan, 0 < a.allocatedUnits ∧ unitsAt limitId s a.workId = 0 ∧
      ∃ row, s.work.get? a.workId = some row ∧ row.limitId = limitId := by
    intro a ha
    obtain ⟨hpos,item,hwork,hstate,heq⟩ := hok.slices a ((List.take_sublist _ _).subset ha)
    obtain ⟨hrow,hlimit,-⟩ := mem_workForLimit.mp hwork
    refine ⟨hpos,?_⟩
    rw [heq]
    exact ⟨unitsAt_eligible hwork hstate,item,hrow,hlimit⟩
  obtain ⟨payloads,s',hexecute,hkeys,hunits⟩ := Cycle.executeAll_perform (t := s) hwindow
    (windowRemainingCapacity window) (p.selection plan) fun a ha => ⟨(hitem a ha).1,(hitem a ha).2.2⟩
  obtain ⟨result,hrun⟩ := runCycle_perform hwindow hmatch hplan hne hexecute
  obtain ⟨log,hsolo,hlog⟩ := Prog.perform_solo (stalling before) (Cycle.runCycle service true limitId) s
  rw [hrun] at hsolo
  have hleaves : ∀ e ∈ log, LeavesRunning e.1 e.2 := by
    intro e he
    rw [hlog e he]
    exact leavesRunning_stalling before e.1
  -- the first of the selected items adds to the reservations and none takes away
  obtain ⟨a,ha⟩ : ∃ a, a ∈ p.selection plan := by
    obtain ⟨a,rest,hcons⟩ := List.exists_cons_of_ne_nil hne
    obtain ⟨n,hn⟩ := Nat.exists_eq_add_of_le' policy.concurrent_pos
    refine ⟨a,?_⟩
    change a ∈ plan.allocations.take policy.maxConcurrentWork
    rw [hcons,hn,List.take_succ_cons]
    exact List.mem_cons_self
  obtain ⟨-,hzero,row,hrow,-⟩ := hitem a ha
  have hmore : runningUnits limitId s < runningUnits limitId s' := by
    refine runningUnits_lt hkeys (fun k => ?_) ((Dict.mem_keys_iff _ _).mpr ⟨row,hrow⟩) ?_
    · by_cases hk : k ∈ (p.selection plan).map (·.workId)
      · obtain ⟨b,hb,rfl⟩ := List.mem_map.mp hk
        rw [(hitem b hb).2.1]
        exact ((hunits b.workId).1 hk).le
      · exact ((hunits k).2 hk).ge
    · rw [hzero]
      exact (hunits a.workId).1 (List.mem_map_of_mem ha)
  intro hrespects
  have hafter := hrespects log _ s' c hsolo hleaves (observed_stalling hwindow rfl hsolo hlog) le_rfl
  change runningUnits limitId s' + policy.guardrail ≤ runningUnits limitId s + policy.guardrail at hafter
  linarith

end Claim

/-- A cycle keeps to the capacity it observes from every store in which it overlooks nothing, and
from no other in which the reservations and the guardrail are not negative together. -/
theorem shared_reservations_respected (entry : EntryPoint) (policy : QuarkUsagePolicy) (canReconcile : Bool) (limitId : String)
    (s : QuarkStore) :
    (¬ Overlooked (entry.service policy canReconcile) limitId s → Respects (entry.service policy canReconcile) limitId s) ∧
    (0 ≤ runningUnits limitId s + policy.guardrail → Respects (entry.service policy canReconcile) limitId s →
      ¬ Overlooked (entry.service policy canReconcile) limitId s) :=
  ⟨respects_of_not_overlooked,fun hnonneg hrespects hoverlooked => overlooked_not_respected hnonneg hoverlooked hrespects⟩

/-- A slice of a provider-native session has reserved 80 points, and legacy work waits for 5. -/
def mixedStore : QuarkStore :=
  (QuarkStore.empty.putWork { id := "native", projectId := "p", agentSessionId := some "session", estimatedUnits := 80,
                              state := .running, reservedUnits := 80, generation := 1 }).putWork
    { AgentWorkItem.small "legacy" "q" with ownerThread := some "thread" }

theorem legacy_cycle_overlooks_native : ¬ Respects (EntryPoint.legacy.service .standard true) "codex" mixedStore := by
  have hunits : runningUnits "codex" mixedStore = 80 := by decide +kernel
  have hwork : (EntryPoint.legacy.service .standard true).workForLimit "codex" mixedStore =
      [{ AgentWorkItem.small "legacy" "q" with ownerThread := some "thread" }] := by decide +kernel
  refine overlooked_not_respected ?_ ⟨⟨?_,?_,?_⟩,?_⟩
  · rw [hunits]
    norm_num [QuarkUsagePolicy.guardrail,QuarkUsagePolicy.standard]
  · rw [hwork,hunits]
    decide +kernel
  · rw [hwork]
    decide
  · intro _
    rw [hunits]
    norm_num [QuarkUsagePolicy.guardrail,QuarkUsagePolicy.standard,EntryPoint.service]
  · refine ⟨"quota_points",fun item hitem _ => ?_⟩
    rw [hwork,List.mem_singleton] at hitem
    rw [hitem]
    rfl

end Overseer.Quark
