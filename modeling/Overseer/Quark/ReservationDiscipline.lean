import Overseer.Quark.Reservations
import Overseer.Quark.WorkCodec
import Overseer.Library.Continued

/-! # Reservations follow the state

An item holds units while it runs or waits to be reconciled and at no other time, whatever
is registered, planned, executed or reconciled, and wherever a cycle breaks off. The points
of Codex are a second copy of its units.
-/
namespace Overseer.Quark
open Overseer.Library Overseer.Agent

namespace ReservationDiscipline
open Overseer.Quark.Cycle

/-- An item holds units only while it runs or waits to be reconciled, and never less than none. -/
def Disciplined (item : AgentWorkItem) : Prop :=
  0 ≤ item.reservedUnits ∧ (0 < item.reservedUnits → item.state ∈ [WorkState.running,.reconcileRequired])

def AllDisciplined (s : QuarkStore) : Prop := ∀ workId item, s.work.get? workId = some item → Disciplined item

theorem disciplined_of_zero {item : AgentWorkItem} (h : item.reservedUnits = 0) : Disciplined item :=
  ⟨h.ge,fun hpos => absurd h hpos.ne'⟩

theorem allDisciplined_putWork {s : QuarkStore} {item : AgentWorkItem} (hs : AllDisciplined s) (hitem : Disciplined item) :
    AllDisciplined (s.putWork item) := by
  intro workId row hrow
  rw [QuarkStore.putWork_work] at hrow
  split at hrow
  · cases hrow
    exact hitem
  · exact hs workId row hrow

/-! ### Statements of the store -/

theorem recordSliceStart_disciplined (workId : String) (generation : ℕ) (quotaBefore : Option ℚ) (lifetimeTokens : Option ℤ)
    (observedAt : String) {s : QuarkStore} (hs : AllDisciplined s) :
    (QuarkTx.recordSliceStart workId generation quotaBefore lifetimeTokens observedAt).Post s fun _ s' => AllDisciplined s' := by
  unfold QuarkTx.recordSliceStart QuarkTx.loadWork QuarkTx.saveWork
  simp only [Tx.post_bind,Tx.post_read,Tx.post_orRaise,Tx.post_write]
  intro item hitem
  exact allDisciplined_putWork hs ⟨(hs _ _ hitem).1,fun _ => List.mem_cons_self⟩

theorem recordSliceObservation_disciplined (workId : String) (generation : ℕ) (o : Observation) {s : QuarkStore} (hs : AllDisciplined s) :
    (QuarkTx.recordSliceObservation workId generation o).Post s fun _ s' => AllDisciplined s' := by
  unfold QuarkTx.recordSliceObservation QuarkTx.loadSlice liftTx
  simp only [Tx.post_bind,Tx.post_read,Tx.post_orRaise]
  intro row _
  cases row.usedIfKnown o.capacityAfter with
  | error e => trivial
  | ok units => exact hs

theorem recordSliceCheckpoint_disciplined (workId : String) (generation : ℕ) (c : Checkpoint) {s : QuarkStore} (hs : AllDisciplined s) :
    (QuarkTx.recordSliceCheckpoint workId generation c).Post s fun _ s' => AllDisciplined s' := by
  unfold QuarkTx.recordSliceCheckpoint QuarkTx.loadSlice liftTx
  simp only [Tx.post_bind,Tx.post_read,Tx.post_orRaise]
  intro row _
  cases row.used c.quotaAfter with
  | error e => trivial
  | ok units =>
    simp only [Tx.post_pure,Tx.post_write,QuarkTx.loadWork,Tx.post_bind,Tx.post_read,Tx.post_orRaise,QuarkTx.saveWork]
    intro item _
    exact allDisciplined_putWork hs (disciplined_of_zero rfl)

theorem markWaitingCapacity_disciplined (workId : String) (resumeAt : Option String) (reason : String) {s : QuarkStore}
    (hs : AllDisciplined s) : (QuarkTx.markWaitingCapacity workId resumeAt reason).Post s fun _ s' => AllDisciplined s' := by
  unfold QuarkTx.markWaitingCapacity QuarkTx.loadWork QuarkTx.saveWork
  simp only [Tx.post_bind,Tx.post_read,Tx.post_orRaise,Tx.post_write]
  intro item _
  exact allDisciplined_putWork hs (disciplined_of_zero rfl)

theorem recordedWork_disciplined {item : AgentWorkItem} (hitem : Disciplined item) (result : SliceResult) (capacityAfter : Option ℚ)
    (observedAt : String) : Disciplined (recordedWork item result capacityAfter observedAt) := by
  unfold recordedWork
  split
  · exact ⟨hitem.1,fun _ => List.mem_cons_self⟩
  · split
    · split
      · exact hitem
      · exact ⟨hitem.1,fun _ => List.mem_cons_of_mem _ List.mem_cons_self⟩
    · exact disciplined_of_zero rfl

theorem recordResult_disciplined {item : AgentWorkItem} (hitem : Disciplined item) (result : SliceResult) (capacityAfter : Option ℚ)
    (lifetimeTokens : Option ℤ) (observedAt : String) {s : QuarkStore} (hs : AllDisciplined s) :
    (recordResult item result capacityAfter lifetimeTokens observedAt : QuarkTx ExecutionPayload).Post s fun _ s' => AllDisciplined s' := by
  unfold recordResult
  rw [Tx.post_bind]
  refine (recordSliceObservation_disciplined item.id item.generation _ hs).mono fun _ s₁ h₁ => ?_
  rw [Tx.post_bind]
  have h₂ : AllDisciplined (s₁.putWork (recordedWork item result capacityAfter observedAt)) :=
    allDisciplined_putWork h₁ (recordedWork_disciplined hitem result capacityAfter observedAt)
  refine Tx.Post.mono (P := fun _ s₂ => AllDisciplined s₂) h₂ fun _ s₂ h₂ => ?_
  rw [Tx.post_bind]
  unfold checkpointIfAny
  split
  · exact (recordSliceCheckpoint_disciplined _ _ _ h₂).mono fun _ _ h₃ => h₃
  · exact h₂

theorem underWorkBinding_disciplined {α : Type} (workId : String) (expected : ExpectedBinding) {body : QuarkTx α} {s : QuarkStore}
    (hs : AllDisciplined s) (hbody : body.Post s fun _ s' => AllDisciplined s') :
    (underWorkBinding workId expected body).Post s fun _ s' => AllDisciplined s' := by
  unfold Tx.Post
  rcases underWorkBinding_cases workId expected body s with ⟨e,hrun⟩ | ⟨current,hrun⟩ | ⟨row,a,s',hrun,-,-,hok⟩
  · rw [hrun]
    trivial
  · rw [hrun]
    exact hs
  · rw [hrun]
    exact hbody.of_ok hok

/-! ### Programs -/

section Programs
variable {R : Type} {sys : System QuarkStore Held QuarkAnswer QuarkError R} {u : QuarkStore}

/-- Every commit leaves every row disciplined. -/
def discipline (sys : System QuarkStore Held QuarkAnswer QuarkError R) : Discipline QuarkStore Held QuarkAnswer QuarkError R where
  sys := sys
  ok := AllDisciplined
  step _ _ := True
  idle _ := trivial

theorem from_disciplined {α : Type} {held : Held} {t : QuarkTx α} (h : ∀ s, AllDisciplined s → t.Post s fun _ s' => AllDisciplined s') :
    (discipline sys).From (fun _ _ => True) (Prog.transaction held t) u :=
  Discipline.from_transaction fun s _ hok _ _ hrun _ => ⟨trivial,(h s hok).of_ok hrun,trivial⟩

theorem from_saveWork {held : Held} {item : AgentWorkItem} (hitem : Disciplined item) :
    (discipline sys).From (fun _ _ => True) (Prog.transaction held (QuarkTx.saveWork item)) u :=
  from_disciplined fun _ hs => allDisciplined_putWork hs hitem

theorem from_loadWork (workId : String) :
    (discipline sys).From (fun item _ => Disciplined item) (loadWork workId : QuarkProg AgentWorkItem) u := by
  refine Discipline.from_transaction fun s _ hok item s' hrun _ => ?_
  have hpost : (QuarkTx.loadWork workId).Post s fun item s' => s' = s ∧ Disciplined item := by
    unfold QuarkTx.loadWork
    simp only [Tx.post_bind,Tx.post_read,Tx.post_orRaise]
    exact fun item hitem => ⟨trivial,hok workId item hitem⟩
  obtain ⟨rfl,hitem⟩ := hpost.of_ok hrun
  exact ⟨trivial,hok,hitem⟩

/-- A listing: disciplined items of different ids. -/
def Listed (work : List AgentWorkItem) : Prop := (∀ item ∈ work, Disciplined item) ∧ (work.map (·.id)).Nodup

theorem from_workForLimit (service : QuarkSchedulerService) (limitId : String) (held : Held) :
    (discipline sys).From (fun work _ => Listed work) (workForLimit service limitId held) u := by
  have hread : (discipline sys).From (fun rows s => AllDisciplined s ∧ rows = s.listed)
      ((listWork : QuarkProg (List AgentWorkItem)).holding held) u :=
    Discipline.from_holding_atomically (Discipline.from_read fun s _ hok => ⟨hok,rfl⟩)
  refine Discipline.from_bind hread ?_
  rintro rows s - ⟨hok,rfl⟩
  refine ⟨fun item hitem => ?_,workForLimit_ids service limitId s⟩
  obtain ⟨hrow,-,-⟩ := mem_workForLimit.mp hitem
  exact hok _ _ hrow

theorem from_rejectResult (item : AgentWorkItem) (result : SliceResult) :
    (discipline sys).From (fun _ _ => True) (rejectResult item result) u := by
  unfold rejectResult
  refine Discipline.from_bind (M := fun _ _ => True) (Discipline.from_rescue ((from_loadWork item.id).mono fun _ _ _ _ => trivial) ?_) fun _ _ _ _ => trivial
  intro e u' _
  cases e <;> trivial

theorem from_observedAt (snapshot : UsageSnapshot) : (discipline sys).From (fun _ _ => True) (observedAt snapshot) u := by
  unfold observedAt
  split
  · split
    · exact fun _ => trivial
    · trivial
  · exact fun _ => trivial

theorem from_persistExecutionResult {held : Held} {item : AgentWorkItem} (hitem : Disciplined item) (result : SliceResult)
    (capacityAfter : Option ℚ) (snapshot : UsageSnapshot) :
    (discipline sys).From (fun _ _ => True) (persistExecutionResult held item result capacityAfter snapshot) u := by
  unfold persistExecutionResult
  split
  · exact from_rejectResult item result
  · refine Discipline.from_bind (from_observedAt snapshot) fun observedAt u₁ _ _ => ?_
    split
    · -- the writes one by one
      unfold recordResult
      refine Discipline.from_holding_bind (M := fun _ _ => True) (Discipline.from_holding_atomically
        (from_disciplined fun s hs => recordSliceObservation_disciplined _ _ _ hs)) fun _ u₂ _ _ => ?_
      refine Discipline.from_holding_bind (M := fun _ _ => True) (Discipline.from_holding_atomically
        (from_saveWork (recordedWork_disciplined hitem _ _ _))) fun _ u₃ _ _ => ?_
      refine Discipline.from_holding_bind (M := fun _ _ => True) ?_ fun _ u₄ _ _ => trivial
      unfold checkpointIfAny
      split
      · exact Discipline.from_holding_atomically (from_disciplined fun s hs => recordSliceCheckpoint_disciplined _ _ _ hs)
      · trivial
    · -- the writes under the binding
      refine Discipline.from_bind (M := fun _ _ => True) (from_disciplined fun s hs => ?_) fun outcome u₂ _ _ => ?_
      · exact underWorkBinding_disciplined _ _ hs (recordResult_disciplined hitem result capacityAfter _ _ hs)
      · split
        · trivial
        · exact from_rejectResult _ _

theorem from_answered {α : Type} (o : Option α) (e : QuarkError) :
    (discipline sys).From (fun _ _ => True) (orRaise o e : QuarkProg α) u :=
  (Discipline.from_orRaise o e).mono fun _ _ _ _ => trivial

theorem from_reconcileAll (remainingCapacity : Option ℚ) (before : UsageSnapshot) {items : List AgentWorkItem}
    (hitems : ∀ item ∈ items, Disciplined item) :
    (discipline sys).From (fun _ _ => True) (reconcileAll remainingCapacity before items) u := by
  induction items generalizing u with
  | nil => trivial
  | cons item items ih =>
    refine Discipline.from_bind (M := fun _ _ => True) ?_ fun result u₁ _ _ => ?_
    · exact Discipline.from_ask_bind fun answer => from_answered answer _
    · refine Discipline.from_bind (from_persistExecutionResult (hitems item List.mem_cons_self) result _ _) fun payload u₂ _ _ => ?_
      exact Discipline.from_bind (ih fun other hother => hitems other (List.mem_cons_of_mem _ hother)) fun _ _ _ _ => trivial

theorem from_executeSlice {limitId : String} {remainingCapacity : Option ℚ} {before : UsageSnapshot} {allocation : WorkAllocation}
    (hpos : 0 < allocation.allocatedUnits) :
    (discipline sys).From (fun _ _ => True) (executeSlice limitId remainingCapacity before allocation) u := by
  refine Discipline.from_bind (from_loadWork allocation.workId) fun item u₁ _ _ => ?_
  refine Discipline.from_bind (from_observedAt before) fun startedAt u₂ _ _ => ?_
  have hreserved : Disciplined (reserved item allocation startedAt) := ⟨hpos.le,fun _ => List.mem_cons_self⟩
  refine Discipline.from_bind (Discipline.from_holding_atomically (from_saveWork hreserved)) fun _ u₃ _ _ => ?_
  refine Discipline.from_bind (M := fun _ _ => True) (from_disciplined fun s hs => recordSliceStart_disciplined _ _ _ _ _ hs) fun _ u₄ _ _ => ?_
  refine Discipline.from_bind (M := fun _ _ => True) (Discipline.from_ask_bind fun answer => from_answered answer _) fun result u₅ _ _ => ?_
  refine Discipline.from_bind (M := fun _ _ => True) (Discipline.from_ask_bind fun answer => from_answered answer _) fun after u₆ _ _ => ?_
  refine Discipline.from_bind (from_answered _ _) fun afterWindow u₇ _ _ => ?_
  exact Discipline.from_bind (from_loadWork item.id) fun current u₈ _ hcurrent => from_persistExecutionResult hcurrent result _ _

theorem from_executeAll {limitId : String} {remainingCapacity : Option ℚ} {before : UsageSnapshot} {allocations : List WorkAllocation}
    (hpos : ∀ a ∈ allocations, 0 < a.allocatedUnits) :
    (discipline sys).From (fun _ _ => True) (executeAll limitId remainingCapacity before allocations) u := by
  induction allocations generalizing u with
  | nil => trivial
  | cons a rest ih =>
    refine Discipline.from_bind (from_executeSlice (hpos a List.mem_cons_self)) fun payload u₁ _ _ => ?_
    exact Discipline.from_bind (ih fun b hb => hpos b (List.mem_cons_of_mem _ hb)) fun _ _ _ _ => trivial

theorem from_sweepAll (resumeAt : Option String) (reason : String) (items : List AgentWorkItem) :
    (discipline sys).From (fun _ _ => True) (sweepAll resumeAt reason items) u := by
  induction items generalizing u with
  | nil => trivial
  | cons item items ih =>
    exact Discipline.from_bind (Discipline.from_holding_atomically (from_disciplined fun s hs => markWaitingCapacity_disciplined _ _ _ hs))
      fun _ _ _ _ => ih

theorem from_liftPlan (plan : ExceptT PlanError Option QuarkWorkPlan) :
    (discipline sys).From (fun a _ => plan = pure a) (liftPlan plan) u := by
  unfold liftPlan
  split
  · rfl
  · trivial
  · trivial

theorem from_planCycle {execute : Bool} {p : Planning} {before : UsageSnapshot} {work : List AgentWorkItem} {payloads : List ExecutionPayload}
    (hwork : Listed work) : (discipline sys).From (fun _ _ => True) (planCycle execute p before work payloads) u := by
  refine Discipline.from_bind (from_liftPlan (p.plan work)) fun plan u₁ _ hplan => ?_
  have hpos : ∀ a ∈ p.selection plan, 0 < a.allocatedUnits := by
    intro a ha
    obtain ⟨_,-,hslices⟩ := planQuarkWork_slices p.service.policy hwork.2 hplan
    exact (hslices a ((List.take_sublist _ _).subset ha)).1
  split
  · exact Discipline.from_bind (from_sweepAll _ _ _) fun _ _ _ _ => trivial
  · split
    · exact Discipline.from_bind (from_executeAll hpos) fun _ _ _ _ => trivial
    · trivial

theorem from_runCycle (service : QuarkSchedulerService) (execute : Bool) (limitId : String) :
    (discipline sys).From (fun _ _ => True) (runCycle service execute limitId) u := by
  refine Discipline.from_bind (M := fun _ _ => True) (Discipline.from_ask_bind fun answer => from_answered answer _) fun before u₁ _ _ => ?_
  refine Discipline.from_bind (from_answered _ _) fun window u₂ _ _ => ?_
  refine Discipline.from_bind (from_workForLimit service limitId _) fun work u₃ _ hwork => ?_
  unfold listedCycle
  split
  · exact Discipline.from_bind (from_liftPlan _) fun _ _ _ _ => trivial
  · split
    · refine Discipline.from_bind (from_reconcileAll _ before fun item hitem => hwork.1 item (List.mem_of_mem_filter hitem)) fun payloads u₄ _ _ => ?_
      exact Discipline.from_bind (from_workForLimit service limitId _) fun work' u₅ _ hwork' => from_planCycle hwork'
    · exact from_planCycle hwork

theorem from_registerWork (f : WorkFields) : (discipline sys).From (fun _ _ => True) (registerWork f) u := by
  unfold registerWork
  split
  · next item hitem =>
    exact Discipline.from_holding_atomically (from_saveWork (disciplined_of_zero (agentWorkItem_fresh hitem).2.2.2))
  · trivial

theorem from_registerAgentWork (f : WorkFields) (usageUnit : Option String) :
    (discipline sys).From (fun _ _ => True) (registerAgentWork f usageUnit) u := by
  unfold registerAgentWork
  split
  · trivial
  · exact from_registerWork _

end Programs

/-! ### Runs -/

/-- The operations on the store. -/
inductive Operation : QuarkProg Unit → Prop
  | registerWork (f : WorkFields) : Operation (registerWork f)
  | registerAgentWork (f : WorkFields) (usageUnit : Option String) : Operation (registerAgentWork f usageUnit)
  | runCycle (service : QuarkSchedulerService) (execute : Bool) (limitId : String) :
      Operation (runCycle service execute limitId >>= fun _ => pure ())

/-- The operations in any order and overlap, with any answers. -/
def operations : QuarkSystem := ⟨Operation,fun _ _ _ => True,fun _ _ _ => True⟩

theorem from_operation {p : QuarkProg Unit} (h : Operation p) (u : QuarkStore) : (discipline operations).From (fun _ _ => True) p u := by
  cases h with
  | registerWork f => exact from_registerWork f
  | registerAgentWork f usageUnit => exact from_registerAgentWork f usageUnit
  | runCycle service execute limitId => exact Discipline.from_bind (from_runCycle service execute limitId) fun _ _ _ _ => trivial

/-- In every state of a run an item holds units only while it runs or waits to be reconciled; and an item is made by its
constructor, when it is registered, read back from its row or changed, which gives it the points of Codex as it has its units. -/
theorem reservations_disciplined (host : WorkCodec.FloatHost) {w : QuarkWorld} (h : World.Reachable operations (World.init .empty) w) :
    (∀ s ∈ w.trace.history, AllDisciplined s) ∧
      ∀ (p : Payload) (x : WorkCodec.CodexWorkItem host), WorkCodec.agentWorkItem p = .ok x → WorkCodec.negative x.reservedUnits.val = false ∧
        (x.providerId = "codex" → x.usageUnit = "quota_points" →
          x.reservedQuotaPoints = some (.float x.reservedUnits) ∧ x.estimatedQuotaPoints = some (.float x.estimatedUnits)) := by
  constructor
  · have hstart : ∀ p, operations.start p → (discipline operations).Sound p :=
      fun p hp => Discipline.Sound.of_from fun u => from_operation hp u
    exact (World.Reachable.disciplined (discipline operations) hstart (fun _ _ hrow => by cases hrow) h).1
  · intro p x hx
    obtain ⟨a,-,hinit⟩ := except_bind_ok hx
    obtain ⟨-,-,-,-,haccepted⟩ := WorkCodec.init_ok hinit
    exact ⟨haccepted.reserved,fun hprovider hunit =>
      ⟨(haccepted.mirrored ⟨hprovider,hunit⟩).2,(haccepted.mirrored ⟨hprovider,hunit⟩).1⟩⟩

def fivePointsWork : WorkFields where
  id := "w"
  projectId := "p"
  ownerThread := some "thread"
  intent := "tidy"
  estimatedUnits := 5

def noAnswers : ∀ q, QuarkAnswer q
  | .refresh => none
  | .timestamp => "now"
  | .runSlice _ _ _ | .reconcileSlice _ _ => none

/-- There is capacity for the item, whose slice does not answer. -/
def capacityAnswers : ∀ q, QuarkAnswer q
  | .refresh => some {
      rateLimits := [⟨"codex",[{ name := "primary", remainingUnits := some 40, usageUnit := some "quota_points" }]⟩]
      observedAt := some "now" }
  | .timestamp => "now"
  | .runSlice _ _ _ | .reconcileSlice _ _ => none

/-- The item is registered, and a cycle starts it. -/
def reservingMoves : List (Move QuarkStore Held QuarkAnswer QuarkError Unit) :=
  (.start (registerWork fivePointsWork) :: World.steps 0 1 noAnswers) ++
    (.start (runCycle {} true "codex" >>= fun _ => pure ()) :: World.steps 1 6 capacityAnswers)

/-- The row of the started item, as its constructor reads it. -/
def runningPayload : Payload :=
  .ofList [("id",.str "w"),("project_id",.str "p"),("owner_thread",.str "thread"),("state",.str "running"),
    ("estimated_quota_points",.int 5),("reserved_quota_points",.int 5)]

def runningPoints : WorkCodec.CodexWorkItem WorkCodec.plainHost :=
  { WorkCodec.fivePoints with
    id := "w"
    projectId := "p"
    ownerThread := some "thread"
    state := .running
    reservedUnits := WorkCodec.fivePoints.estimatedUnits
    reservedQuotaPoints := WorkCodec.fivePoints.estimatedQuotaPoints }

theorem reservations_disciplined_registered : ∃ w item, World.Reachable operations (World.init .empty) w ∧
    (w.trace.store.work.get? "w" = some item ∧ item.state = .running ∧ item.reservedUnits = 5) ∧ (∀ s ∈ w.trace.history, AllDisciplined s) ∧
    (runningPoints.id = item.id ∧ runningPoints.state = item.state) ∧
    runningPoints.reservedQuotaPoints = some (.float runningPoints.reservedUnits) := by
  obtain ⟨w,hw,hcheck⟩ : ∃ w, World.Reachable operations (World.init .empty) w ∧
      decide ((w.trace.store.work.get? "w").map (fun item => (item.id,item.state,item.reservedUnits)) = some ("w",.running,5)) = true :=
    World.exists_reachable _ reservingMoves _
      (fun _ _ _ (_ : true = true) => trivial) (fun _ _ _ (_ : true = true) => trivial)
      (List.forall_mem_append.mpr ⟨List.forall_mem_cons.mpr ⟨Operation.registerWork fivePointsWork,World.allowed_steps _ _ _⟩,
        List.forall_mem_cons.mpr ⟨Operation.runCycle {} true "codex",World.allowed_steps _ _ _⟩⟩) (by decide +kernel)
  obtain ⟨item,hitem,hrow⟩ := Option.map_eq_some_iff.mp (of_decide_eq_true hcheck)
  obtain ⟨hid,hstate,hreserved⟩ : item.id = "w" ∧ item.state = .running ∧ item.reservedUnits = 5 := by simpa using hrow
  obtain ⟨hdisciplined,hmirrored⟩ := reservations_disciplined WorkCodec.plainHost hw
  have hmade : WorkCodec.agentWorkItem runningPayload = .ok runningPoints := by decide +kernel
  exact ⟨w,item,hw,⟨hitem,hstate,hreserved⟩,hdisciplined,⟨hid.symm,hstate.symm⟩,((hmirrored _ _ hmade).2 rfl rfl).1⟩

end ReservationDiscipline
end Overseer.Quark
