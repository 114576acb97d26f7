import Overseer.Quark.OneLimit
import Overseer.Quark.ResultCas
import Overseer.Library.Sequential

/-! # Reservations of a shared limit

The commands and tools for legacy work and those for provider-native work run cycles on one
table and share its limits, but each cycle reads only the rows of its own kind.
-/
namespace Overseer.Quark
open Overseer.Library Overseer.Agent

inductive EntryPoint where
  | legacy | providerNative
  deriving DecidableEq

/-- The `work_filter` of the command line and of the tools. -/
def EntryPoint.workFilter : EntryPoint → AgentWorkItem → Bool
  | .legacy, item => legacyCodexWork [item]
  | .providerNative, item => item.agentSessionId ≠ none

/-- The `reserved_units` of all running items of a limit. -/
def runningUnits (limitId : String) (s : QuarkStore) : ℚ := activeUnits (s.work.values.filter (·.limitId = limitId))

/-- The answers of an executor that leaves its slices running. -/
def LeavesRunning : (q : QuarkQuery) → QuarkAnswer q → Prop
  | .runSlice _ _ _, answer => ∀ result, answer = some result → result.isTerminal = false
  | .reconcileSlice _ _, answer => ∀ result, answer = some result → result.isTerminal = false
  | _, _ => True

/-! ### What a row adds -/

def unitsFor (limitId : String) (item : AgentWorkItem) : ℚ :=
  if item.state = .running ∧ item.limitId = limitId then item.reservedUnits else 0

def unitsAt (limitId : String) (s : QuarkStore) (workId : String) : ℚ := ((s.work.get? workId).map (unitsFor limitId)).getD 0

theorem activeUnits_cons (item : AgentWorkItem) (rest : List AgentWorkItem) :
    activeUnits (item :: rest) = (if item.state = .running then item.reservedUnits else 0) + activeUnits rest := by
  unfold activeUnits
  rw [List.filter_cons]
  by_cases h : item.state = .running <;> simp [h]

theorem activeUnits_eq (limitId : String) (items : List AgentWorkItem) :
    activeUnits (items.filter (·.limitId = limitId)) = (items.map (unitsFor limitId)).sum := by
  induction items with
  | nil => rfl
  | cons item rest ih =>
    rw [List.filter_cons,List.map_cons,List.sum_cons,← ih]
    by_cases hlimit : item.limitId = limitId
    · simp [hlimit,activeUnits_cons,unitsFor]
    · simp [hlimit,unitsFor]

theorem runningUnits_eq (limitId : String) (s : QuarkStore) : runningUnits limitId s = (s.work.values.map (unitsFor limitId)).sum :=
  activeUnits_eq limitId _

theorem runningUnits_putWork (limitId : String) (s : QuarkStore) (item : AgentWorkItem) :
    runningUnits limitId (s.putWork item) = runningUnits limitId s - unitsAt limitId s item.id + unitsFor limitId item := by
  rw [runningUnits_eq,runningUnits_eq]
  exact Dict.sum_values_set _ _ _ _

theorem unitsAt_putWork (limitId : String) (s : QuarkStore) (item : AgentWorkItem) (workId : String) :
    unitsAt limitId (s.putWork item) workId = if workId = item.id then unitsFor limitId item else unitsAt limitId s workId := by
  unfold unitsAt
  rw [QuarkStore.putWork_work]
  split <;> rfl

/-! ### Rows that plan alike -/

/-- What the filters, the planner and the reservations read of a row. -/
structure Outline where
  agentSessionId : Option String
  providerId : String
  limitId : String
  usageUnit : String
  state : WorkState
  reservedUnits : ℚ
  deriving DecidableEq

def AgentWorkItem.outline (item : AgentWorkItem) : Outline :=
  ⟨item.agentSessionId,item.providerId,item.limitId,item.usageUnit,item.state,item.reservedUnits⟩

def outlines (s : QuarkStore) : List (String × Outline) := s.work.entries.map fun e => (e.1,e.2.outline)

/-- The rows are the same but for what a result writes. -/
def Alike (s t : QuarkStore) : Prop := outlines t = outlines s

theorem Alike.refl (s : QuarkStore) : Alike s s := rfl

theorem Alike.trans {s t u : QuarkStore} (h : Alike s t) (h' : Alike t u) : Alike s u := Eq.trans h' h

theorem Alike.of_work {s t : QuarkStore} (h : t.work = s.work) : Alike s t := by
  unfold Alike outlines
  rw [h]

theorem alike_putWork {s : QuarkStore} {item row : AgentWorkItem} (hrow : s.work.get? item.id = some row) (h : item.outline = row.outline) :
    Alike s (s.putWork item) := Dict.map_entries_set hrow h

theorem Alike.row {s t : QuarkStore} (h : Alike s t) (workId : String) :
    (t.work.get? workId).map AgentWorkItem.outline = (s.work.get? workId).map AgentWorkItem.outline := by
  have hfind : ∀ u : QuarkStore, (u.work.get? workId).map AgentWorkItem.outline = Dict.find workId (outlines u) :=
    fun u => Dict.map_find _ _ _
  rw [hfind,hfind,h]

theorem Alike.get {s t : QuarkStore} (h : Alike s t) {workId : String} {row : AgentWorkItem} (hrow : s.work.get? workId = some row) :
    ∃ row', t.work.get? workId = some row' ∧ row'.outline = row.outline := by
  have hsame := h.row workId
  rw [hrow,Option.map_some,Option.map_eq_some_iff] at hsame
  exact hsame

theorem Alike.unitsAt {s t : QuarkStore} (h : Alike s t) (limitId workId : String) : unitsAt limitId t workId = unitsAt limitId s workId := by
  have hfactor : ∀ u : QuarkStore, Overseer.Quark.unitsAt limitId u workId =
      (((u.work.get? workId).map AgentWorkItem.outline).map fun o : Outline =>
        if o.state = .running ∧ o.limitId = limitId then o.reservedUnits else 0).getD 0 := by
    intro u
    unfold Overseer.Quark.unitsAt
    rw [Option.map_map]
    rfl
  rw [hfactor,hfactor,h.row]

theorem Alike.runningUnits {s t : QuarkStore} (h : Alike s t) (limitId : String) : runningUnits limitId t = runningUnits limitId s := by
  have hfactor : ∀ u : QuarkStore, Overseer.Quark.runningUnits limitId u = ((outlines u).map fun e =>
      if e.2.state = .running ∧ e.2.limitId = limitId then e.2.reservedUnits else 0).sum := by
    intro u
    rw [runningUnits_eq]
    simp only [outlines,Dict.values,List.map_map]
    rfl
  rw [hfactor,hfactor,h]

/-! ### The listing of a cycle -/

def EntryPoint.passes : EntryPoint → Outline → Bool
  | .legacy, o => o.agentSessionId = none ∧ o.providerId = "codex" ∧ o.usageUnit = "quota_points"
  | .providerNative, o => o.agentSessionId ≠ none

theorem EntryPoint.workFilter_eq (e : EntryPoint) (item : AgentWorkItem) : e.workFilter item = e.passes item.outline := by
  cases e with
  | legacy =>
    simp only [EntryPoint.workFilter,EntryPoint.passes,legacyCodexWork,AgentWorkItem.outline,List.all_cons,List.all_nil,Bool.and_true]
    exact decide_eq_decide.mpr Iff.rfl
  | providerNative => rfl

theorem mem_workForLimit {service : QuarkSchedulerService} {limitId : String} {s : QuarkStore} {item : AgentWorkItem} :
    item ∈ service.workForLimit limitId s ↔
      s.work.get? item.id = some item ∧ item.limitId = limitId ∧ service.workFilter item = true := by
  unfold QuarkSchedulerService.workForLimit QuarkStore.listed
  rw [List.mem_filter,List.mem_insertionSort,Dict.mem_values_iff,decide_eq_true_eq]
  refine and_congr_left fun _ => ⟨?_,fun h => ⟨_,h⟩⟩
  rintro ⟨k,hk⟩
  rw [s.keyed k item hk]
  exact hk

theorem workForLimit_limit (service : QuarkSchedulerService) (limitId : String) (s : QuarkStore) :
    ∀ item ∈ service.workForLimit limitId s, item.limitId = limitId := fun _ hitem => (mem_workForLimit.mp hitem).2.1

theorem workForLimit_ids (service : QuarkSchedulerService) (limitId : String) (s : QuarkStore) :
    ((service.workForLimit limitId s).map (·.id)).Nodup := by
  have hvalues : s.work.values.map (·.id) = s.work.keys := by
    unfold Dict.values Dict.keys
    rw [List.map_map]
    refine List.map_congr_left fun e he => ?_
    exact s.keyed e.1 e.2 ((s.work.mem_entries_iff e.1 e.2).mp he)
  have hlisted : (s.listed.map (·.id)).Nodup := by
    refine ((List.perm_insertionSort listedBefore s.work.values).map (·.id)).nodup_iff.mpr ?_
    rw [hvalues]
    exact s.work.nodup
  exact hlisted.sublist (List.filter_sublist.map _)

section Listing
variable {service : QuarkSchedulerService} {entry : EntryPoint} {limitId : String} {s t : QuarkStore}

theorem Alike.workForLimit (h : Alike s t) (hservice : service.workFilter = entry.workFilter) :
    ((service.workForLimit limitId t).map AgentWorkItem.outline).Perm ((service.workForLimit limitId s).map AgentWorkItem.outline) := by
  have hlist : ∀ u : QuarkStore, ((service.workForLimit limitId u).map AgentWorkItem.outline).Perm
      (((outlines u).map Prod.snd).filter fun o => o.limitId = limitId ∧ entry.passes o = true) := by
    intro u
    have hfilter : service.workForLimit limitId u = u.listed.filter ((fun o : Outline => decide (o.limitId = limitId ∧ entry.passes o = true)) ∘
        AgentWorkItem.outline) := by
      unfold QuarkSchedulerService.workForLimit
      refine List.filter_congr fun item _ => ?_
      rw [hservice,entry.workFilter_eq]
      rfl
    have hvalues : (outlines u).map Prod.snd = u.work.values.map AgentWorkItem.outline := by
      simp only [outlines,Dict.values,List.map_map]
      rfl
    rw [hfilter,← List.filter_map,hvalues]
    exact ((List.perm_insertionSort listedBefore u.work.values).map _).filter _
  have hs := hlist s
  have ht := hlist t
  rw [h] at ht
  exact ht.trans hs.symm

theorem activeUnits_outline (items : List AgentWorkItem) : activeUnits items =
    ((items.map AgentWorkItem.outline).map fun o => if o.state = .running then o.reservedUnits else 0).sum := by
  induction items with
  | nil => rfl
  | cons item rest ih =>
    rw [activeUnits_cons,ih]
    rfl

theorem Alike.activeUnits (h : Alike s t) (hservice : service.workFilter = entry.workFilter) :
    activeUnits (service.workForLimit limitId t) = activeUnits (service.workForLimit limitId s) := by
  rw [activeUnits_outline,activeUnits_outline]
  exact ((h.workForLimit hservice).map _).sum_eq

theorem Alike.listed (h : Alike s t) (hservice : service.workFilter = entry.workFilter) {item : AgentWorkItem}
    (hitem : item ∈ service.workForLimit limitId t) : ∃ item' ∈ service.workForLimit limitId s, item'.outline = item.outline := by
  have hmem := (h.workForLimit hservice).subset (List.mem_map_of_mem hitem)
  obtain ⟨item',hitem',heq⟩ := List.mem_map.mp hmem
  exact ⟨item',hitem',heq⟩

end Listing

/-! ### A result that leaves its slice running -/

namespace Cycle
section Result
variable {s t : QuarkStore} {item : AgentWorkItem} {result : SliceResult} {capacityAfter : Option ℚ} {lifetimeTokens : Option ℤ}
  {observedAt : String}

theorem recordSliceObservation_work (workId : String) (generation : ℕ) (o : Observation) (t : QuarkStore) :
    (QuarkTx.recordSliceObservation workId generation o).Post t fun _ t' => t'.work = t.work := by
  unfold QuarkTx.recordSliceObservation QuarkTx.loadSlice
  simp only [Tx.post_bind,Tx.post_read,Tx.post_orRaise]
  intro row _
  unfold liftTx
  cases row.usedIfKnown o.capacityAfter with
  | error e => trivial
  | ok units => rfl

theorem recordedWork_outline (hrunning : item.state = .running) (hresult : result.isTerminal = false) :
    (recordedWork item result capacityAfter observedAt).outline = item.outline := by
  unfold recordedWork
  simp [hresult,withResult,AgentWorkItem.outline,hrunning]

theorem recordedWork_id : (recordedWork item result capacityAfter observedAt).id = item.id := by
  unfold recordedWork
  dsimp only
  split
  · rfl
  · split
    · split <;> rfl
    · rfl

theorem checkpointOf_none (hresult : result.isTerminal = false) : checkpointOf result capacityAfter lifetimeTokens observedAt = none := by
  simp [checkpointOf,hresult]

theorem alike_recorded (hrow : ∃ row, t.work.get? item.id = some row ∧ row.outline = item.outline) (hrunning : item.state = .running)
    (hresult : result.isTerminal = false) : Alike t (t.putWork (recordedWork item result capacityAfter observedAt)) := by
  obtain ⟨row,hrow,hsame⟩ := hrow
  have hrow' : t.work.get? (recordedWork item result capacityAfter observedAt).id = some row := by
    rw [recordedWork_id]
    exact hrow
  refine alike_putWork hrow' ?_
  rw [recordedWork_outline hrunning hresult,hsame]

theorem recordResult_tx (hrow : ∃ row, t.work.get? item.id = some row ∧ row.outline = item.outline) (hrunning : item.state = .running)
    (hresult : result.isTerminal = false) :
    (recordResult item result capacityAfter lifetimeTokens observedAt : QuarkTx _).Post t fun _ t' => Alike t t' := by
  unfold recordResult
  rw [checkpointOf_none hresult]
  simp only [Tx.post_bind]
  refine (recordSliceObservation_work _ _ _ t).mono fun _ t₁ hwork => ?_
  have halike : Alike t₁ (t₁.putWork (recordedWork item result capacityAfter observedAt)) :=
    alike_recorded (by rw [hwork]; exact hrow) hrunning hresult
  exact (Alike.of_work hwork).trans halike

theorem recordResult_wp {valid : (q : QuarkQuery) → QuarkAnswer q → Prop} (hst : Alike s t)
    (hrow : ∃ row, t.work.get? item.id = some row ∧ row.outline = item.outline) (hrunning : item.state = .running)
    (hresult : result.isTerminal = false) :
    (recordResult item result capacityAfter lifetimeTokens observedAt : QuarkProg _).Wp valid (Alike s) (fun _ _ => True) t := by
  unfold recordResult
  rw [checkpointOf_none hresult]
  apply Prog.Wp.bind
  refine Prog.wp_transaction hst (fun _ t₁ hok => ?_) fun _ _ => trivial
  have hwork := (recordSliceObservation_work _ _ _ t).of_ok hok
  have hst₁ : Alike s t₁ := hst.trans (Alike.of_work hwork)
  refine ⟨hst₁,?_⟩
  apply Prog.Wp.bind
  refine Prog.wp_transaction hst₁ (fun _ t₂ hok => ?_) fun _ _ => trivial
  cases hok
  have halike : Alike t₁ (t₁.putWork (recordedWork item result capacityAfter observedAt)) :=
    alike_recorded (by rw [hwork]; exact hrow) hrunning hresult
  exact ⟨hst₁.trans halike,hst₁.trans halike,trivial⟩

theorem rejectResult_wp {valid : (q : QuarkQuery) → QuarkAnswer q → Prop} {I : QuarkStore → Prop} (ht : I t) :
    (rejectResult item result).Wp valid I (fun _ t' => t' = t) t := by
  refine Prog.wp_of_same ?_ ht
  refine Prog.steps_bind (Prog.steps_rescue (loadWork_same item.id) fun e => ?_) fun _ => trivial
  cases e <;> trivial

theorem observedAt_wp {valid : (q : QuarkQuery) → QuarkAnswer q → Prop} {I : QuarkStore → Prop} (ht : I t) (snapshot : UsageSnapshot) :
    (Cycle.observedAt snapshot).Wp valid I (fun _ t' => t' = t) t :=
  Prog.wp_of_same ((observedAt_asks snapshot).mono fun _ _ _ h => h.elim) ht

/-- A result that leaves its slice running changes nothing that a plan reads. -/
theorem persist_wp {valid : (q : QuarkQuery) → QuarkAnswer q → Prop} (hst : Alike s t)
    (hrow : ∃ row, t.work.get? item.id = some row ∧ row.outline = item.outline) (hrunning : item.state = .running)
    (hresult : result.isTerminal = false) (held : Held) (snapshot : UsageSnapshot) :
    (persistExecutionResult held item result capacityAfter snapshot).Wp valid (Alike s) (fun _ _ => True) t := by
  unfold persistExecutionResult
  split
  · exact (rejectResult_wp hst).mono (fun _ h => h) fun _ _ _ _ => trivial
  apply Prog.Wp.bind
  refine (observedAt_wp hst snapshot).mono (fun _ h => h) fun r t' _ heq => ?_
  subst heq
  cases r with
  | error e => trivial
  | ok clock =>
    unfold Prog.After
    dsimp only
    split
    · exact (recordResult_wp hst hrow hrunning hresult).holding
    · next expected _ =>
      apply Prog.Wp.bind
      refine Prog.wp_transaction hst (fun outcome t'' hok => ?_) fun _ _ => trivial
      rcases underWorkBinding_cases item.id expected
          (recordResult item result capacityAfter snapshot.lifetimeTokens clock) t' with ⟨e,hrun⟩ | ⟨current,hrun⟩ | ⟨row,payload,s',hrun,-,-,hbody⟩
      · rw [hrun] at hok
        cases hok
      · rw [hrun] at hok
        cases hok
        exact ⟨hst,(rejectResult_wp hst).mono (fun _ h => h) fun _ _ _ _ => trivial⟩
      · rw [hrun] at hok
        cases hok
        have halike := (recordResult_tx hrow hrunning hresult).of_ok hbody
        exact ⟨hst.trans halike,hst.trans halike,trivial⟩

end Result

/-! ### The phases of a cycle -/

section Phases
variable {limitId : String} {s t : QuarkStore} {remainingCapacity : Option ℚ} {before : UsageSnapshot}

theorem orRaise_wp {α : Type} {valid : (q : QuarkQuery) → QuarkAnswer q → Prop} {I : QuarkStore → Prop} (ht : I t) (o : Option α)
    (e : QuarkError) : (orRaise o e : QuarkProg α).Wp valid I (fun r t' => t' = t ∧ ∀ a, r = .ok a → o = some a) t := by
  cases o with
  | none => exact ⟨ht,rfl,fun _ h => (by cases h)⟩
  | some a => exact ⟨ht,rfl,fun _ h => (by cases h; rfl)⟩

/-- Asking about running items changes nothing that a plan reads. -/
theorem reconcileAll_wp (items : List AgentWorkItem)
    (hitems : ∀ item ∈ items, s.work.get? item.id = some item ∧ item.state = .running) (hst : Alike s t) :
    (reconcileAll remainingCapacity before items).Wp LeavesRunning (Alike s) (fun _ _ => True) t := by
  induction items generalizing t with
  | nil => exact ⟨hst,trivial⟩
  | cons running rest ih =>
    obtain ⟨hrow,hrunning⟩ := hitems running List.mem_cons_self
    apply Prog.Wp.bind
    apply Prog.Wp.bind
    refine Prog.wp_ask hst fun answer hanswer => ?_
    refine (orRaise_wp hst answer .outside).mono (fun _ h => h) fun r t' _ hr => ?_
    obtain ⟨rfl,hr⟩ := hr
    cases r with
    | error e => trivial
    | ok result =>
      have hresult := hanswer result (hr result rfl)
      apply Prog.Wp.bind
      refine (persist_wp hst (hst.get hrow) hrunning hresult _ before).mono (fun _ h => h) fun r t₁ hst₁ _ => ?_
      cases r with
      | error e => trivial
      | ok payload =>
        apply Prog.Wp.bind
        refine (ih (fun item hitem => hitems item (List.mem_cons_of_mem _ hitem)) hst₁).mono (fun _ h => h) fun r t₂ hst₂ _ => ?_
        cases r with
        | error e => trivial
        | ok payloads => exact ⟨hst₂,trivial⟩

/-- Items that add nothing are put off. -/
theorem sweepAll_wp {valid : (q : QuarkQuery) → QuarkAnswer q → Prop} {resumeAt : Option String} {reason : String} {u : ℚ}
    (items : List AgentWorkItem) (hitems : ∀ item ∈ items, unitsAt limitId t item.id = 0) (ht : runningUnits limitId t = u) :
    (sweepAll resumeAt reason items).Wp valid (fun t' => runningUnits limitId t' = u) (fun _ _ => True) t := by
  induction items generalizing t with
  | nil => exact ⟨ht,trivial⟩
  | cons item rest ih =>
    apply Prog.Wp.bind
    apply Prog.Wp.holding
    refine Prog.wp_transaction ht (fun _ t' hok => ?_) fun _ _ => trivial
    have hpost : (QuarkTx.markWaitingCapacity item.id resumeAt reason).Post t fun _ t' =>
        ∃ row, t.work.get? item.id = some row ∧ t' = t.putWork (row.waitingCapacity resumeAt reason) := by
      unfold QuarkTx.markWaitingCapacity QuarkTx.loadWork QuarkTx.saveWork
      simp only [Tx.post_bind,Tx.post_read,Tx.post_orRaise,Tx.post_write]
      exact fun row hrow => ⟨row,hrow,rfl⟩
    obtain ⟨row,hrow,rfl⟩ := hpost.of_ok hok
    have hid : row.id = item.id := t.keyed _ _ hrow
    have hid' : (row.waitingCapacity resumeAt reason).id = item.id := hid
    have hzero : unitsFor limitId (row.waitingCapacity resumeAt reason) = 0 := by
      unfold unitsFor
      rw [if_neg]
      rintro ⟨h,-⟩
      cases h
    have hsum : runningUnits limitId (t.putWork (row.waitingCapacity resumeAt reason)) = u := by
      rw [runningUnits_putWork,hid',hitems item List.mem_cons_self,hzero,ht,sub_zero,add_zero]
    refine ⟨hsum,ih (fun other hother => ?_) hsum⟩
    rw [unitsAt_putWork,hzero]
    split
    · rfl
    · exact hitems other (List.mem_cons_of_mem _ hother)

theorem loadWork_wp {valid : (q : QuarkQuery) → QuarkAnswer q → Prop} {I : QuarkStore → Prop} (ht : I t) (workId : String) :
    (loadWork workId : QuarkProg _).Wp valid I (fun r t' => t' = t ∧ ∀ item, r = .ok item → t.work.get? workId = some item) t := by
  have hpost : (QuarkTx.loadWork workId).Post t fun item t' => t' = t ∧ t.work.get? workId = some item := by
    unfold QuarkTx.loadWork
    simp only [Tx.post_bind,Tx.post_read,Tx.post_orRaise]
    exact fun item hrow => ⟨trivial,hrow⟩
  refine Prog.wp_transaction ht (fun item t' hok => ?_) fun _ _ => ⟨rfl,fun _ h => (by cases h)⟩
  obtain ⟨rfl,hrow⟩ := hpost.of_ok hok
  refine ⟨ht,rfl,fun other h => ?_⟩
  cases h
  exact hrow

theorem loadWork_run {workId : String} {row : AgentWorkItem} (hrow : t.work.get? workId = some row) :
    QuarkTx.loadWork workId t = .ok (row,t) := by
  have hread : (Tx.read (fun s => s.work.get? workId) : QuarkTx _) t = .ok (some row,t) := by rw [← hrow]; rfl
  unfold QuarkTx.loadWork
  rw [Tx.bind_of_ok hread]
  rfl

theorem recordSliceStart_alike {workId : String} (generation : ℕ) (quotaBefore : Option ℚ) (lifetimeTokens : Option ℤ) (startedAt : String)
    {row : AgentWorkItem} (hrow : t.work.get? workId = some row) (hrunning : row.state = .running) :
    ∃ t', QuarkTx.recordSliceStart workId generation quotaBefore lifetimeTokens startedAt t = .ok ((),t') ∧ Alike t t' := by
  have hid : row.id = workId := t.keyed _ _ hrow
  unfold QuarkTx.recordSliceStart
  rw [Tx.bind_of_ok (loadWork_run hrow)]
  refine ⟨_,rfl,?_⟩
  have hrow' : t.work.get? row.id = some row := by
    rw [hid]
    exact hrow
  refine (Alike.of_work (s := t) rfl).trans (alike_putWork hrow' ?_)
  unfold AgentWorkItem.outline
  rw [hrunning]

/-- What a slice that is started and left running adds. -/
def Started (limitId : String) (a : WorkAllocation) (t t' : QuarkStore) : Prop :=
  runningUnits limitId t' ≤ runningUnits limitId t + a.allocatedUnits ∧ ∀ k, 0 ≤ unitsAt limitId t k → 0 ≤ unitsAt limitId t' k

theorem unitsFor_reserved (limitId : String) (item : AgentWorkItem) {a : WorkAllocation} (ha : 0 < a.allocatedUnits) (startedAt : String) :
    0 ≤ unitsFor limitId (reserved item a startedAt) ∧ unitsFor limitId (reserved item a startedAt) ≤ a.allocatedUnits := by
  unfold unitsFor
  split
  · exact ⟨ha.le,le_rfl⟩
  · exact ⟨le_rfl,ha.le⟩

theorem started_of_alike {item : AgentWorkItem} {a : WorkAllocation} {startedAt : String} (ha : 0 < a.allocatedUnits)
    (hzero : 0 ≤ unitsAt limitId t item.id) {t' : QuarkStore} (h : Alike (t.putWork (reserved item a startedAt)) t') : Started limitId a t t' := by
  obtain ⟨hnonneg,hle⟩ := unitsFor_reserved limitId item ha startedAt
  refine ⟨?_,fun k hk => ?_⟩
  · rw [h.runningUnits,runningUnits_putWork]
    change _ - unitsAt limitId t item.id + _ ≤ _
    linarith
  · rw [h.unitsAt,unitsAt_putWork]
    split
    · exact hnonneg
    · exact hk

/-- One pass over an allocation. -/
theorem executeSlice_wp {a : WorkAllocation} (ha : 0 < a.allocatedUnits) (hzero : 0 ≤ unitsAt limitId t a.workId) :
    (executeSlice limitId remainingCapacity before a).Wp LeavesRunning
      (fun t' => runningUnits limitId t' ≤ runningUnits limitId t + a.allocatedUnits)
      (fun r t' => r.isOk = true → Started limitId a t t') t := by
  have hnow : runningUnits limitId t ≤ runningUnits limitId t + a.allocatedUnits := by linarith
  apply Prog.Wp.bind
  refine (loadWork_wp hnow a.workId).mono (fun _ h => h) fun r t₀ _ hr => ?_
  obtain ⟨rfl,hload⟩ := hr
  cases r with
  | error e => exact fun h => (by cases h)
  | ok item =>
  have hitem := hload item rfl
  have hid : item.id = a.workId := t₀.keyed _ _ hitem
  apply Prog.Wp.bind
  refine (observedAt_wp hnow before).mono (fun _ h => h) fun r t₁ _ heq => ?_
  subst heq
  cases r with
  | error e => exact fun h => (by cases h)
  | ok startedAt =>
  have hstarted : ∀ {t'}, Alike (t₁.putWork (reserved item a startedAt)) t' → Started limitId a t₁ t' :=
    fun halike => started_of_alike ha (by rw [hid]; exact hzero) halike
  apply Prog.Wp.bind
  apply Prog.Wp.holding
  refine Prog.wp_transaction hnow (fun _ t₂ hok => ?_) fun _ h => (by cases h)
  cases hok
  refine ⟨(hstarted (.refl _)).1,?_⟩
  -- from here on the store stays alike, so everything is bounded by what was reserved
  suffices hrest : Prog.Wp LeavesRunning (Alike (t₁.putWork (reserved item a startedAt))) (fun _ _ => True) _ _ from
    hrest.mono (fun t' halike => (hstarted halike).1) fun _ t' halike _ _ => hstarted halike
  have hrow : (t₁.putWork (reserved item a startedAt)).work.get? item.id = some (reserved item a startedAt) := by
    rw [QuarkStore.putWork_work]
    exact if_pos rfl
  apply Prog.Wp.bind
  refine Prog.wp_transaction (.refl _) (fun _ t₃ hok => ?_) fun _ _ => trivial
  obtain ⟨t',hrun,halike⟩ := recordSliceStart_alike a.generation remainingCapacity before.lifetimeTokens startedAt
    hrow rfl
  rw [hrun] at hok
  cases hok
  refine ⟨halike,?_⟩
  apply Prog.Wp.bind
  apply Prog.Wp.bind
  refine Prog.wp_ask halike fun answer hanswer => ?_
  refine (orRaise_wp halike answer .outside).mono (fun _ h => h) fun r t₄ _ hr => ?_
  obtain ⟨rfl,hr⟩ := hr
  cases r with
  | error e => trivial
  | ok result =>
  have hresult := hanswer result (hr result rfl)
  apply Prog.Wp.bind
  apply Prog.Wp.bind
  refine Prog.wp_ask halike fun after _ => ?_
  refine (orRaise_wp halike after .outside).mono (fun _ h => h) fun r t₅ _ hr => ?_
  obtain ⟨rfl,-⟩ := hr
  cases r with
  | error e => trivial
  | ok after =>
  apply Prog.Wp.bind
  refine (orRaise_wp halike (usageWindow after limitId) _).mono (fun _ h => h) fun r t₆ _ hr => ?_
  obtain ⟨rfl,-⟩ := hr
  cases r with
  | error e => trivial
  | ok afterWindow =>
  apply Prog.Wp.bind
  refine (loadWork_wp halike item.id).mono (fun _ h => h) fun r t₇ _ hr => ?_
  obtain ⟨rfl,hload⟩ := hr
  cases r with
  | error e => trivial
  | ok current =>
  have hcurrent := hload current rfl
  obtain ⟨row,hrow',houtline⟩ := halike.get hrow
  rw [hcurrent] at hrow'
  cases hrow'
  have hrunning : current.state = .running := congrArg Outline.state houtline
  have hcurrentId : current.id = item.id := t₇.keyed _ _ hcurrent
  refine persist_wp halike ⟨current,?_,rfl⟩ hrunning hresult _ after
  rw [hcurrentId]
  exact hcurrent

/-- All passes together stay within what the allocations add up to. -/
theorem executeAll_wp {bound : ℚ} (allocations : List WorkAllocation)
    (hallocations : ∀ a ∈ allocations, 0 < a.allocatedUnits ∧ 0 ≤ unitsAt limitId t a.workId)
    (hbound : runningUnits limitId t + totalUnits allocations ≤ bound) :
    (executeAll limitId remainingCapacity before allocations).Wp LeavesRunning (fun t' => runningUnits limitId t' ≤ bound)
      (fun _ _ => True) t := by
  induction allocations generalizing t with
  | nil =>
    have hnow : runningUnits limitId t ≤ bound := by simpa [totalUnits] using hbound
    exact ⟨hnow,trivial⟩
  | cons a rest ih =>
    obtain ⟨ha,hzero⟩ := hallocations a List.mem_cons_self
    have hrest : 0 ≤ totalUnits rest := by
      refine List.sum_nonneg fun x hx => ?_
      obtain ⟨b,hb,rfl⟩ := List.mem_map.mp hx
      exact (hallocations b (List.mem_cons_of_mem _ hb)).1.le
    have hcons : totalUnits (a :: rest) = a.allocatedUnits + totalUnits rest := rfl
    rw [hcons] at hbound
    apply Prog.Wp.bind
    refine (executeSlice_wp ha hzero).mono (fun t' h => by linarith) fun r t' _ hstarted => ?_
    cases r with
    | error e => trivial
    | ok payload =>
      obtain ⟨hle,hkeep⟩ := hstarted rfl
      apply Prog.Wp.bind
      refine (ih (fun b hb => ?_) (by linarith)).mono (fun _ h => h) fun r t'' hnow _ => ?_
      · obtain ⟨hb,hbzero⟩ := hallocations b (List.mem_cons_of_mem _ hb)
        exact ⟨hb,hkeep _ hbzero⟩
      · cases r with
        | error e => trivial
        | ok payloads => exact ⟨hnow,trivial⟩

theorem liftPlan_wp {valid : (q : QuarkQuery) → QuarkAnswer q → Prop} {I : QuarkStore → Prop} (ht : I t)
    (plan : ExceptT PlanError Option QuarkWorkPlan) :
    (liftPlan plan).Wp valid I (fun r t' => t' = t ∧ ∀ a, r = .ok a → plan = pure a) t := by
  unfold liftPlan
  split
  · exact ⟨ht,rfl,fun _ h => (by cases h; rfl)⟩
  · exact ⟨ht,rfl,fun _ h => (by cases h)⟩
  · exact ⟨ht,rfl,fun _ h => (by cases h)⟩

end Phases

/-- The rest of `run_cycle` after the first `refresh`. -/
def cycleFrom (service : QuarkSchedulerService) (execute : Bool) (limitId : String) (before : UsageSnapshot) : QuarkProg CycleResult := do
  let window ← window before limitId
  let p : Planning := ⟨service,limitId,window,true⟩
  let work ← workForLimit service limitId (firstListing execute p)
  listedCycle execute p before work

theorem runCycle_call (service : QuarkSchedulerService) (execute : Bool) (limitId : String) :
    runCycle service execute limitId = .call .refresh fun snapshot =>
      ((orRaise snapshot .outside : QuarkProg UsageSnapshot).bind (cycleFrom service execute limitId)) := rfl

end Cycle

/-! ### One cycle -/

/-- The work that could be given capacity which running items outside the listing have reserved. -/
structure Exposed (service : QuarkSchedulerService) (limitId : String) (s : QuarkStore) : Prop where
  hidden : activeUnits (service.workForLimit limitId s) < runningUnits limitId s
  eligible : eligibleWork (service.workForLimit limitId s) ≠ []
  scalar : CodexOnly limitId (service.workForLimit limitId s) → runningUnits limitId s + service.policy.guardrail ≤ 100

theorem mem_eligibleWork {work : List AgentWorkItem} {item : AgentWorkItem} :
    item ∈ eligibleWork work ↔ item ∈ work ∧ item.state ∈ eligibleStates := by
  simp [eligibleWork]

theorem Exposed.of_alike {service : QuarkSchedulerService} {entry : EntryPoint} {limitId : String} {s t : QuarkStore} (h : Alike s t)
    (hservice : service.workFilter = entry.workFilter) (ht : Exposed service limitId t) : Exposed service limitId s := by
  refine ⟨?_,?_,fun hcodex => ?_⟩
  · have hhidden := ht.hidden
    rw [h.activeUnits hservice,h.runningUnits] at hhidden
    exact hhidden
  · obtain ⟨item,hitem⟩ := List.exists_mem_of_ne_nil _ ht.eligible
    obtain ⟨hwork,hstate⟩ := mem_eligibleWork.mp hitem
    obtain ⟨item',hwork',houtline⟩ := h.listed hservice hwork
    refine List.ne_nil_of_mem (mem_eligibleWork.mpr ⟨hwork',?_⟩)
    rw [show item'.state = item.state from congrArg Outline.state houtline]
    exact hstate
  · rw [← h.runningUnits]
    refine ht.scalar ⟨hcodex.1,fun item hitem => ?_⟩
    obtain ⟨item',hwork',houtline⟩ := h.listed hservice hitem
    rw [← show item'.providerId = item.providerId from congrArg Outline.providerId houtline,
      ← show item'.usageUnit = item.usageUnit from congrArg Outline.usageUnit houtline]
    exact hcodex.2 item' hwork'

section Cycles
variable {limitId : String} {s t : QuarkStore} {before : UsageSnapshot} {c : ℚ}

theorem unitsAt_eligible {service : QuarkSchedulerService} {item : AgentWorkItem} (hitem : item ∈ service.workForLimit limitId t)
    (hstate : item.state ∈ eligibleStates) : unitsAt limitId t item.id = 0 := by
  have hrow := (mem_workForLimit.mp hitem).1
  have hrunning : item.state ≠ .running := by
    intro h
    rw [h] at hstate
    simp [eligibleStates] at hstate
  simp [unitsAt,hrow,unitsFor,hrunning]

/-- The plan and its execution stay within the capacity when nothing is exposed. -/
theorem planCycle_wp {p : Planning} {reconcileResults : List ExecutionPayload} (hc : windowRemainingCapacity p.window = some c)
    (hexposed : ¬ Exposed p.service p.limitId t) (hbound : runningUnits p.limitId t + p.service.policy.guardrail ≤ c) :
    (Cycle.planCycle true p before (p.service.workForLimit p.limitId t) reconcileResults).Wp LeavesRunning
      (fun t' => runningUnits p.limitId t' + p.service.policy.guardrail ≤ c) (fun _ _ => True) t := by
  apply Prog.Wp.bind
  refine (Cycle.liftPlan_wp hbound _).mono (fun _ h => h) fun r t' _ hr => ?_
  obtain ⟨rfl,hr⟩ := hr
  cases r with
  | error e => trivial
  | ok plan =>
  have hplan := plan_ok (workForLimit_limit _ _ _) (workForLimit_ids _ _ _) hc (hr plan rfl)
  have hzero : ∀ a ∈ plan.allocations, 0 < a.allocatedUnits ∧ 0 ≤ unitsAt p.limitId t' a.workId := by
    intro a ha
    obtain ⟨hpos,item,hitem,hstate,heq⟩ := hplan.slices a ha
    refine ⟨hpos,?_⟩
    rw [heq]
    exact (unitsAt_eligible hitem hstate).ge
  change Prog.Wp _ _ _ (if plan.allocations = [] then _ else if true = true then _ else _) t'
  by_cases hnone : plan.allocations = []
  · rw [if_pos hnone]
    have hitems : ∀ item ∈ (p.service.workForLimit p.limitId t').filter (·.state ∈ eligibleStates), unitsAt p.limitId t' item.id = 0 := by
      intro item hitem
      simp only [List.mem_filter,decide_eq_true_eq] at hitem
      exact unitsAt_eligible hitem.1 hitem.2
    apply Prog.Wp.bind
    refine (Cycle.sweepAll_wp _ hitems rfl).mono (fun t'' h => ?_) fun r t'' h _ => ?_
    · rw [h]
      exact hbound
    · cases r with
      | error e => trivial
      | ok _ =>
        have hnow : runningUnits p.limitId t'' + p.service.policy.guardrail ≤ c := by
          rw [h]
          exact hbound
        exact ⟨hnow,trivial⟩
  · rw [if_neg hnone,if_pos rfl]
    have hsub : (p.selection plan).Sublist plan.allocations := List.take_sublist _ _
    have htake : totalUnits (p.selection plan) ≤ totalUnits plan.allocations := by
      refine (hsub.map _).sum_le_sum fun x hx => ?_
      obtain ⟨a,ha,rfl⟩ := List.mem_map.mp hx
      exact (hzero a ha).1.le
    have hopen : runningUnits p.limitId t' ≤ activeUnits (p.service.workForLimit p.limitId t') := by
      by_contra hlt
      refine hexposed ⟨not_le.mp hlt,?_,fun hcodex => hbound.trans (hplan.scalar hcodex)⟩
      obtain ⟨a,ha⟩ := List.exists_mem_of_ne_nil _ hnone
      obtain ⟨-,item,hitem,hstate,-⟩ := hplan.slices a ha
      exact List.ne_nil_of_mem (mem_eligibleWork.mpr ⟨hitem,hstate⟩)
    have htotal := hplan.total
    have hroom : runningUnits p.limitId t' + totalUnits (p.selection plan) ≤ c - p.service.policy.guardrail := by
      rcases max_choice 0 (c - p.service.policy.guardrail - activeUnits (p.service.workForLimit p.limitId t')) with h | h
      · rw [h] at htotal
        linarith
      · rw [h] at htotal
        linarith
    apply Prog.Wp.bind
    refine (Cycle.executeAll_wp _ (fun a ha => hzero a (hsub.subset ha)) hroom).mono (fun t'' h => by linarith) fun r t'' h _ => ?_
    cases r with
    | error e => trivial
    | ok _ => exact ⟨by linarith,trivial⟩

/-- Listed work of one unit, or none that matters. -/
def OneUnit (work : List AgentWorkItem) : Prop :=
  ∃ unit, ∀ item ∈ work, item.state ∈ WorkState.running :: eligibleStates → item.usageUnit = unit

theorem oneUnit_of_match {window : UsageWindow} {work : List AgentWorkItem} (h : usageUnitMismatchReason window work limitId = none) :
    OneUnit work := by
  unfold usageUnitMismatchReason at h
  dsimp only at h
  split at h
  · next hnil =>
    refine ⟨"",fun item hitem hstate => ?_⟩
    have hmem : item ∈ work.filter (·.state ∈ WorkState.running :: eligibleStates) := List.mem_filter.mpr ⟨hitem,decide_eq_true hstate⟩
    rw [hnil] at hmem
    cases hmem
  · split at h
    · cases h
    · next hunits =>
      rw [not_or,not_ne_iff] at hunits
      obtain ⟨unit,hunit⟩ := List.length_eq_one_iff.mp hunits.1
      refine ⟨unit,fun item hitem hstate => ?_⟩
      have hmem : item.usageUnit ∈ ((work.filter (·.state ∈ WorkState.running :: eligibleStates)).map (·.usageUnit)).dedup :=
        List.mem_dedup.mpr (List.mem_map_of_mem (List.mem_filter.mpr ⟨hitem,decide_eq_true hstate⟩))
      rw [hunit] at hmem
      exact List.mem_singleton.mp hmem

/-- A cycle stays within the capacity it observes when its listing is exposed to nothing or is not of one unit. -/
theorem cycleFrom_wp {service : QuarkSchedulerService} {e : EntryPoint} (hservice : service.workFilter = e.workFilter)
    (hc : ∀ window, usageWindow before limitId = some window → windowRemainingCapacity window = some c)
    (hexposed : OneUnit (service.workForLimit limitId s) → ¬ Exposed service limitId s)
    (hbound : runningUnits limitId s + service.policy.guardrail ≤ c) :
    (Cycle.cycleFrom service true limitId before).Wp LeavesRunning (fun t => runningUnits limitId t + service.policy.guardrail ≤ c)
      (fun _ _ => True) s := by
  apply Prog.Wp.bind
  refine (Cycle.orRaise_wp hbound (usageWindow before limitId) _).mono (fun _ h => h) fun r s' _ hr => ?_
  obtain ⟨rfl,hr⟩ := hr
  cases r with
  | error e => trivial
  | ok window =>
  have hcapacity := hc window (hr window rfl)
  apply Prog.Wp.bind
  apply Prog.Wp.bind
  apply Prog.Wp.holding
  refine Prog.wp_transaction hbound (fun rows s'' hok => ?_) fun _ h => (by cases h)
  cases hok
  refine ⟨hbound,hbound,?_⟩
  change (Cycle.listedCycle true ⟨service,limitId,window,true⟩ before (service.workForLimit limitId s')).Wp _ _ _ s'
  unfold Cycle.listedCycle
  split
  · apply Prog.Wp.bind
    refine (Cycle.liftPlan_wp hbound _).mono (fun _ h => h) fun r t _ hr => ?_
    obtain ⟨rfl,-⟩ := hr
    cases r with
    | error e => trivial
    | ok plan => exact ⟨hbound,trivial⟩
  · next hmatch =>
    have hnot := hexposed (oneUnit_of_match hmatch)
    split
    · apply Prog.Wp.bind
      refine (Cycle.reconcileAll_wp _ (fun item hitem => ?_) (.refl s')).mono (fun t halike => ?_) fun r t halike _ => ?_
      · simp only [List.mem_filter,Cycle.reconcilable,decide_eq_true_eq] at hitem
        exact ⟨(mem_workForLimit.mp hitem.1).1,hitem.2.1⟩
      · rw [halike.runningUnits]
        exact hbound
      · cases r with
        | error e => trivial
        | ok payloads =>
          have hbound' : runningUnits limitId t + service.policy.guardrail ≤ c := by
            rw [halike.runningUnits]
            exact hbound
          apply Prog.Wp.bind
          apply Prog.Wp.bind
          apply Prog.Wp.holding
          refine Prog.wp_transaction hbound' (fun rows t' hok => ?_) fun _ h => (by cases h)
          cases hok
          exact ⟨hbound',hbound',planCycle_wp (p := ⟨service,limitId,window,true⟩) hcapacity
            (fun hexp => hnot (hexp.of_alike halike hservice)) hbound'⟩
    · exact planCycle_wp (p := ⟨service,limitId,window,true⟩) hcapacity hnot hbound

end Cycles
end Overseer.Quark
