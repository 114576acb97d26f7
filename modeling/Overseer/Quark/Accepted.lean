import Overseer.Quark.Executor
import Overseer.Quark.Attribution
import Overseer.Quark.DryRun

/-! # Results that are accepted

The executor predicts the binding of a slice from the item as it was before the start. What is
shown here of each step carries the prediction to the row that the result is compared with,
after any history of the store.
-/
namespace Overseer.Quark
open Overseer.Library Overseer.Agent

/-! ### What every history keeps -/

/-- The item is running in a slice that was started at a known capacity, is owned by a session or a
thread, and has a key for its dispatch. -/
structure RowKept (s : QuarkStore) (item : AgentWorkItem) : Prop where
  started : item.state = .running → ∃ r₀, Cycle.StartedAt r₀ item.id item.generation s
  owned : item.agentSessionId = none → item.ownerThread.getD "" ≠ ""
  keyed : item.providerDispatchId ≠ none → item.providerIdempotencyKey.getD "" ≠ ""

def WellKept (s : QuarkStore) : Prop := ∀ workId item, s.work.get? workId = some item → RowKept s item

theorem WellKept.only {workId : String} {s t : QuarkStore} (hs : WellKept s) (honly : OnlyAt workId s t)
    (hrow : ∀ item, t.work.get? workId = some item → RowKept t item) : WellKept t := by
  intro k item hk
  by_cases hkey : k = workId
  · subst hkey
    exact hrow item hk
  · rw [honly.work k hkey] at hk
    have hid : item.id = k := s.keyed k item hk
    have hkept := hs k item hk
    refine ⟨fun hrunning => ?_,hkept.owned,hkept.keyed⟩
    obtain ⟨r₀,row,hslice,hquota⟩ := hkept.started hrunning
    refine ⟨r₀,row,?_,hquota⟩
    rw [honly.slices item.id item.generation (by rw [hid]; exact hkey)]
    exact hslice

/-! ### What the executor says -/

/-- The call raised. -/
def Raises : (q : ExecutorQuery) → ExecutorAnswer q → Prop
  | .refresh,a => a = none
  | .timestamp,_ | .managerStore,_ => False
  | .loadAgentSession _,a => a.isNone = true
  | .recover _ _,a => a = none
  | .dispatch _ _ _ _,a => a = none
  | .run _,a => a = none

/-- The error came from a call to the outside. -/
def Outside (valid : (q : ExecutorQuery) → ExecutorAnswer q → Prop) (e : QuarkError) : Prop :=
  e = .outside ∧ ∃ q a, valid q a ∧ Raises q a

/-- The result may be stored over a row of this binding. -/
structure Told (expected : WorkBinding) (result : SliceResult) : Prop where
  allowed : result.persistenceAllowed ≠ some false
  binding : ∀ b, result.expectedWorkBinding = some b → b = .binding expected

/-- A result that names a dispatch has the key of the dispatch. -/
def SliceResult.Keyed (result : SliceResult) : Prop := result.providerDispatchId ≠ none → result.idempotencyKey.getD "" ≠ ""

section Executor
variable {valid : (q : ExecutorQuery) → ExecutorAnswer q → Prop} {executor : ProviderWorkExecutor} {item : AgentWorkItem} {s : QuarkStore}
  {expected : WorkBinding} {sessionId prompt : String} {W : Prop}

theorem policyBlock_told (item : AgentWorkItem) (reason : String) : Told expected ((policyBlock item reason).expecting expected) :=
  ⟨fun h => (by cases h),fun b hb => (Option.some.inj hb).symm⟩

theorem loadWork_missing {workId : String} (hrow : s.work.get? workId = none) : QuarkTx.loadWork workId s = .error (.key workId) := by
  have hread : (Tx.read (fun s => s.work.get? workId) : QuarkTx _) s = .ok (none,s) := by rw [← hrow]; rfl
  unfold QuarkTx.loadWork
  rw [Tx.bind_of_ok hread]
  rfl

/-- What the stored item is checked for stops the slice or lets it go on. -/
theorem validateWork_settle (executor : ProviderWorkExecutor) (item : AgentWorkItem) (mismatches : AgentWorkItem → List String)
    (what scope : String) (s : QuarkStore) :
    ∃ b, (executor.validateWork item mismatches what scope).settle s = some (.ok b,s) ∧
      (∀ blocked, b = some blocked → ∃ reason scope, blocked = policyRefusal item reason scope) ∧
      (∀ persisted, s.work.get? item.id = some persisted → mismatches persisted = [] → b = none) := by
  unfold ProviderWorkExecutor.validateWork ProviderWorkExecutor.loadPersistedWork
  by_cases hstore : executor.workStore = false
  · refine ⟨none,?_,fun _ h => (by cases h),fun _ _ _ => rfl⟩
    simp only [if_pos hstore]
    rfl
  simp only [if_neg hstore]
  cases hrow : s.work.get? item.id with
  | none =>
    have hload : (loadWork item.id : ExecutorProg AgentWorkItem).settle s = some (.error (.key item.id),s) :=
      Prog.settle_transaction_error (loadWork_missing hrow)
    have hloaded := Prog.settle_bind_error (f := fun persisted => (pure (.inl (some persisted)) : ExecutorProg (Option AgentWorkItem ⊕ SliceResult))) hload
    refine ⟨some (policyRefusal item ("persisted work could not be loaded: " ++ reprText item.id) "persisted_work_load"),?_,
      fun blocked h => ⟨_,_,(Option.some.inj h).symm⟩,fun _ h => (by cases h)⟩
    rw [Prog.settle_bind ((Prog.settle_rescue_error hloaded).trans Prog.settle_pure)]
    rfl
  | some persisted =>
    have hload : (loadWork item.id : ExecutorProg AgentWorkItem).settle s = some (.ok persisted,s) :=
      Prog.settle_transaction (Cycle.loadWork_run hrow)
    have hloaded := Prog.settle_bind (f := fun persisted => (pure (.inl (some persisted)) : ExecutorProg (Option AgentWorkItem ⊕ SliceResult))) hload
    by_cases hsame : mismatches persisted = []
    · refine ⟨none,?_,fun _ h => (by cases h),fun _ _ _ => rfl⟩
      rw [Prog.settle_bind (Prog.settle_rescue (hloaded.trans Prog.settle_pure))]
      simp only [if_pos hsame]
      rfl
    · refine ⟨some (policyRefusal item (what ++ joinedFields (mismatches persisted)) scope),?_,
        fun blocked h => ⟨_,_,(Option.some.inj h).symm⟩,fun other h hnone => absurd (by cases h; exact hnone) hsame⟩
      rw [Prog.settle_bind (Prog.settle_rescue (hloaded.trans Prog.settle_pure))]
      simp only [if_neg hsame]
      rfl

/-- The session is found as it should be, or the slice is blocked. -/
theorem validatePersistedSession_wp (item : AgentWorkItem) (sessionId : String) (s : QuarkStore) :
    (ProviderWorkExecutor.validatePersistedSession item sessionId).Wp valid (fun _ => True) (fun r s' => s' = s ∧ match r with
      | .ok b => ∀ blocked, b = some blocked → ∃ reason, blocked = policyBlock item reason
      | .error e => Outside valid e) s := by
  unfold ProviderWorkExecutor.validatePersistedSession
  refine Prog.wp_ask_bind trivial fun hasStore _ => ?_
  split
  · exact ⟨trivial,rfl,fun blocked h => ⟨_,(Option.some.inj h).symm⟩⟩
  refine Prog.wp_ask_bind trivial fun loaded hloaded => ?_
  refine Prog.wp_orRaise_bind trivial (fun hnone => ⟨rfl,rfl,_,_,hloaded,by rw [hnone]; rfl⟩) fun session _ => ?_
  cases session with
  | error text => exact ⟨trivial,rfl,fun blocked h => ⟨_,(Option.some.inj h).symm⟩⟩
  | ok session =>
    dsimp only
    split
    · exact ⟨trivial,rfl,fun blocked h => ⟨_,(Option.some.inj h).symm⟩⟩
    · split
      · exact ⟨trivial,rfl,fun blocked h => ⟨_,(Option.some.inj h).symm⟩⟩
      · exact ⟨trivial,rfl,fun _ h => (by cases h)⟩

theorem validateEpoch_blocks {epoch : RecoveredEpoch} {blocked : SliceResult} (h : validateEpoch item sessionId epoch = some blocked) :
    ∃ reason, blocked = policyBlock item reason := by
  unfold validateEpoch at h
  split_ifs at h <;> exact ⟨_,(Option.some.inj h).symm⟩

/-- A result of the provider, or one that says why it is none, may be stored over the expected row. -/
theorem providerResult_told {epoch : RecoveredEpoch} {result : DispatchResult} {allocatedUnits : ℚ} {idempotencyKey : String}
    {expectedDispatchId : Option String} (hkeyed : W → item.providerDispatchId ≠ none → item.providerIdempotencyKey.getD "" ≠ "")
    (hkey : idempotencyKey ≠ "") :
    Told expected (providerResult item sessionId epoch result allocatedUnits idempotencyKey expectedDispatchId expected) ∧
      (W → (providerResult item sessionId epoch result allocatedUnits idempotencyKey expectedDispatchId expected).Keyed) := by
  unfold providerResult
  dsimp only
  split
  · exact ⟨policyBlock_told item _,hkeyed⟩
  · exact ⟨⟨fun h => (by cases h),fun b hb => (Option.some.inj hb).symm⟩,fun _ _ => hkey⟩

/-- What a slice comes to once its stored item was found as it should be. -/
theorem dispatchSlice_wp {allocatedUnits : ℚ} {idempotencyKey : String} {expectedDispatchId : Option String}
    (hkeyed : W → item.providerDispatchId ≠ none → item.providerIdempotencyKey.getD "" ≠ "") (hkey : idempotencyKey ≠ "") :
    (ProviderWorkExecutor.dispatchSlice item sessionId prompt allocatedUnits idempotencyKey expectedDispatchId expected).Wp valid
      (fun _ => True) (fun r s' => s' = s ∧ match r with
        | .ok result => Told expected result ∧ (W → result.Keyed)
        | .error e => Outside valid e) s := by
  unfold ProviderWorkExecutor.dispatchSlice
  refine Prog.Wp.bind ((validatePersistedSession_wp item sessionId s).mono (fun _ h => h) fun r s' _ hr => ?_)
  obtain ⟨rfl,hr⟩ := hr
  cases r with
  | error e => exact ⟨rfl,hr⟩
  | ok b =>
    cases b with
    | some blocked =>
      obtain ⟨reason,rfl⟩ := hr blocked rfl
      exact ⟨trivial,rfl,policyBlock_told item reason,hkeyed⟩
    | none =>
      unfold Prog.After
      dsimp only
      refine Prog.wp_ask_bind trivial fun recovered hrecovered => ?_
      refine Prog.wp_orRaise_bind trivial (fun hnone => ⟨rfl,rfl,_,_,hrecovered,hnone⟩) fun epoch _ => ?_
      cases hepoch : validateEpoch item sessionId epoch with
      | some blocked =>
        obtain ⟨reason,rfl⟩ := validateEpoch_blocks hepoch
        exact ⟨trivial,rfl,policyBlock_told item reason,hkeyed⟩
      | none =>
        refine Prog.wp_ask_bind trivial fun dispatched hdispatched => ?_
        refine Prog.wp_orRaise_bind trivial (fun hnone => ⟨rfl,rfl,_,_,hdispatched,hnone⟩) fun result _ => ?_
        exact ⟨trivial,rfl,providerResult_told hkeyed hkey⟩

theorem runCodex_wp (executor : ProviderWorkExecutor) (item : AgentWorkItem) (prompt : String) (s : QuarkStore) :
    (executor.runCodex item prompt).Wp valid (fun _ => True) (fun r s' => s' = s ∧ match r with
      | .ok result => Told expected result ∧ result.Keyed
      | .error e => item.ownerThread.getD "" ≠ "" → Outside valid e) s := by
  unfold ProviderWorkExecutor.runCodex
  refine Prog.wp_orRaise_bind trivial (fun hnone => ⟨rfl,fun howner => ?_⟩) fun ownerThread _ => ?_
  · cases hthread : item.ownerThread with
    | none => simp [hthread] at howner
    | some thread => simp_all
  refine Prog.wp_ask_bind trivial fun ran hran => ?_
  refine Prog.wp_orRaise_bind trivial (fun hnone => ⟨rfl,fun _ => ⟨rfl,_,_,hran,hnone⟩⟩) fun completed _ => ?_
  exact ⟨trivial,rfl,⟨fun h => (by cases h),fun b hb => (by cases hb)⟩,fun h => absurd rfl h⟩

/-- A started slice: the stored item is the one the start left, or the result may not be stored. -/
theorem runSlice_wp {allocatedUnits : ℚ} (howned : W → item.agentSessionId = none → item.ownerThread.getD "" ≠ "")
    (hkeyed : W → item.providerDispatchId ≠ none → item.providerIdempotencyKey.getD "" ≠ "") :
    (executor.runSlice item allocatedUnits prompt).Wp valid (fun _ => True) (fun r s' => s' = s ∧ match r with
      | .ok result => (W → result.Keyed) ∧ ∀ persisted, s.work.get? item.id = some persisted →
          initialMismatches persisted item allocatedUnits = [] → Told (startedBinding item allocatedUnits) result
      | .error e => W → executor.agentManager = true → Outside valid e) s := by
  have hlegacy : ∀ expected, (executor.agentManager = true → item.agentSessionId = none) →
      (executor.runCodex item prompt).Wp valid (fun _ => True) (fun r s' => s' = s ∧ match r with
        | .ok result => (W → result.Keyed) ∧ ∀ persisted, s.work.get? item.id = some persisted →
            initialMismatches persisted item allocatedUnits = [] → Told expected result
        | .error e => W → executor.agentManager = true → Outside valid e) s := by
    intro expected hnone
    refine (@runCodex_wp valid expected executor item prompt s).mono (fun _ h => h) fun r s' _ hr => ⟨hr.1,?_⟩
    cases r with
    | ok result => exact ⟨fun _ => hr.2.2,fun _ _ _ => hr.2.1⟩
    | error e => exact fun hW hmanager => hr.2 (howned hW (hnone hmanager))
  unfold ProviderWorkExecutor.runSlice
  split
  · next sessionId hmanager hsession =>
    obtain ⟨b,hsettle,hblocks,hgoes⟩ := validateWork_settle executor item (initialMismatches · item allocatedUnits)
      "persisted work transition mismatch: " "initial_transition" s
    refine Prog.Wp.bind (Prog.wp_settled (fun _ => trivial) hsettle ?_)
    cases b with
    | some blocked =>
      obtain ⟨reason,scope,rfl⟩ := hblocks blocked rfl
      exact ⟨trivial,rfl,hkeyed,fun persisted hrow hsame => (by cases hgoes persisted hrow hsame)⟩
    | none =>
      have hkey : s!"quark:{item.id}:{item.generation + 1}" ≠ "" := by simp
      refine (dispatchSlice_wp hkeyed hkey).mono (fun _ h => h) fun r s' _ hr => ⟨hr.1,?_⟩
      cases r with
      | ok result => exact ⟨hr.2.2,fun _ _ _ => hr.2.1⟩
      | error e => exact fun _ _ => hr.2
  · next hnot => exact hlegacy _ fun hmanager => Option.eq_none_iff_forall_ne_some.mpr fun sessionId hsession => hnot sessionId hmanager hsession

/-- A reconciled slice: the stored item is the one that was listed, or the result may not be stored. -/
theorem reconcileSlice_wp (hkeyed : W → item.providerDispatchId ≠ none → item.providerIdempotencyKey.getD "" ≠ "")
    (hsession : item.agentSessionId ≠ none) (hdispatch : item.providerDispatchId ≠ none) :
    (executor.reconcileSlice item prompt).Wp valid (fun _ => True) (fun r s' => s' = s ∧ match r with
      | .ok result => (W → result.Keyed) ∧ (s.work.get? item.id = some item → item.state = .running → Told item.durableBinding result)
      | .error e => W → executor.agentManager = true → Outside valid e) s := by
  unfold ProviderWorkExecutor.reconcileSlice
  split
  · next sessionId hmanager _ =>
    refine Prog.wp_orRaise_bind trivial (fun hnone => ⟨rfl,fun hW => ?_⟩) fun idempotencyKey hsome => ?_
    · have hkey := hkeyed hW hdispatch
      cases hstored : item.providerIdempotencyKey with
      | none => simp [hstored] at hkey
      | some key => simp_all
    obtain ⟨b,hsettle,hblocks,hgoes⟩ := validateWork_settle executor item (reconcileMismatches · item)
      "persisted work binding mismatch: " "reconcile_binding" s
    refine Prog.Wp.bind (Prog.wp_settled (fun _ => trivial) hsettle ?_)
    cases b with
    | some blocked =>
      obtain ⟨reason,scope,rfl⟩ := hblocks blocked rfl
      refine ⟨trivial,rfl,hkeyed,fun hrow hrunning => ?_⟩
      have hsame : reconcileMismatches item item = [] := by simp [reconcileMismatches,differing,hrunning]
      cases hgoes item hrow hsame
    | none =>
      have hne : idempotencyKey ≠ "" := by
        have hfilter := Option.filter_eq_some_iff.mp hsome
        simpa using hfilter.2
      refine (dispatchSlice_wp hkeyed hne).mono (fun _ h => h) fun r s' _ hr => ⟨hr.1,?_⟩
      cases r with
      | ok result => exact ⟨hr.2.2,fun _ _ => hr.2.1⟩
      | error e => exact fun _ _ => hr.2
  · next hnot =>
    refine ⟨trivial,rfl,fun _ hmanager => absurd ?_ hsession⟩
    exact Option.eq_none_iff_forall_ne_some.mpr fun sessionId hsome => hnot sessionId hmanager hsome

end Executor

namespace Cycle

/-! ### Storing a result -/

section Store
variable {s : QuarkStore} {item : AgentWorkItem} {result : SliceResult} {capacityAfter : Option ℚ} {r₀ : ℚ}

theorem loadSlice_run {workId : String} {generation : ℕ} {row : SliceRow} (hrow : s.slices workId generation = some row) :
    QuarkTx.loadSlice workId generation s = .ok (row,s) := by
  have hread : (Tx.read (fun s => s.slices workId generation) : QuarkTx _) s = .ok (some row,s) := by rw [← hrow]; rfl
  unfold QuarkTx.loadSlice
  rw [Tx.bind_of_ok hread]
  rfl

theorem recordSliceObservation_run {workId : String} {generation : ℕ} (o : Observation) (hstarted : StartedAt r₀ workId generation s) :
    ∃ row, QuarkTx.recordSliceObservation workId generation o s = .ok ((),s.putSlice workId generation row) ∧ row.quotaBefore = some r₀ := by
  obtain ⟨row,hrow,hquota⟩ := hstarted
  have hused : ∃ units, row.usedIfKnown o.capacityAfter = .ok units := by
    cases hafter : o.capacityAfter with
    | none => exact ⟨none,rfl⟩
    | some after => exact ⟨_,usedIfKnown_some hquota⟩
  obtain ⟨units,hunits⟩ := hused
  refine ⟨row.observed o units,?_,hquota⟩
  unfold QuarkTx.recordSliceObservation
  rw [Tx.bind_of_ok (loadSlice_run hrow),hunits]
  rfl

/-- And it can be checkpointed. -/
theorem recordSliceCheckpoint_run {workId : String} {generation : ℕ} (c : Checkpoint) (hstarted : StartedAt r₀ workId generation s)
    {item : AgentWorkItem} (hitem : s.work.get? workId = some item) :
    ∃ row, QuarkTx.recordSliceCheckpoint workId generation c s =
      .ok ((),(s.putSlice workId generation row).putWork (item.checkpointed c)) ∧ row.quotaBefore = some r₀ := by
  obtain ⟨row,hrow,hquota⟩ := hstarted
  have hused : row.used c.quotaAfter = .ok (max 0 (r₀ - c.quotaAfter)) := by
    unfold SliceRow.used
    rw [hquota]
  refine ⟨row.checkpointed c (max 0 (r₀ - c.quotaAfter)),?_,hquota⟩
  have hload : QuarkTx.loadWork workId (s.putSlice workId generation (row.checkpointed c (max 0 (r₀ - c.quotaAfter)))) = .ok (item,_) :=
    loadWork_run hitem
  unfold QuarkTx.recordSliceCheckpoint
  rw [Tx.bind_of_ok (loadSlice_run hrow),hused]
  exact Tx.bind_of_ok hload

/-- What a stored result leaves of its item. -/
structure Recorded (item : AgentWorkItem) (result : SliceResult) (row : AgentWorkItem) : Prop where
  id : row.id = item.id
  generation : row.generation = item.generation
  agentSessionId : row.agentSessionId = item.agentSessionId
  ownerThread : row.ownerThread = item.ownerThread
  providerDispatchId : row.providerDispatchId = result.providerDispatchId
  providerIdempotencyKey : row.providerIdempotencyKey = result.idempotencyKey

theorem recordedWork_recorded (item : AgentWorkItem) (result : SliceResult) (capacityAfter : Option ℚ) (observedAt : String) :
    Recorded item result (recordedWork item result capacityAfter observedAt) := by
  unfold recordedWork
  dsimp only
  split
  · exact ⟨rfl,rfl,rfl,rfl,rfl,rfl⟩
  · split
    · split <;> exact ⟨rfl,rfl,rfl,rfl,rfl,rfl⟩
    · exact ⟨rfl,rfl,rfl,rfl,rfl,rfl⟩

theorem Recorded.kept {row : AgentWorkItem} (h : Recorded item result row) (hitem : RowKept s item) (hresult : result.Keyed)
    {t : QuarkStore} (hstarted : StartedAt r₀ item.id item.generation t) : RowKept t row := by
  refine ⟨fun _ => ⟨r₀,?_⟩,?_,?_⟩
  · rw [h.id,h.generation]
    exact hstarted
  · rw [h.agentSessionId,h.ownerThread]
    exact hitem.owned
  · rw [h.providerDispatchId,h.providerIdempotencyKey]
    exact hresult

/-- A result of a started slice is stored, in one transaction or in several. -/
theorem recordResult_run (hitem : RowKept s item) (hresult : result.Keyed) (hstarted : StartedAt r₀ item.id item.generation s)
    (capacityAfter : Option ℚ) (lifetimeTokens : Option ℤ) (observedAt : String) :
    ∃ t row, (recordResult item result capacityAfter lifetimeTokens observedAt : QuarkTx _) s = .ok (recordedPayload item result capacityAfter,t) ∧
      (recordResult item result capacityAfter lifetimeTokens observedAt : QuarkProg _).settle s =
        some (.ok (recordedPayload item result capacityAfter),t) ∧
      t.work.get? item.id = some row ∧ RowKept t row := by
  obtain ⟨slice,hobserve,hquota⟩ := recordSliceObservation_run (observation result capacityAfter lifetimeTokens observedAt) hstarted
  let t₁ := s.putSlice item.id item.generation slice
  let row := recordedWork item result capacityAfter observedAt
  let t₂ := t₁.putWork row
  have hrow : Recorded item result row := recordedWork_recorded item result capacityAfter observedAt
  have hstarted₂ : StartedAt r₀ item.id item.generation t₂ := ⟨slice,by simp [t₂,t₁],hquota⟩
  have hget : t₂.work.get? item.id = some row := by
    rw [QuarkStore.putWork_work,hrow.id]
    exact if_pos rfl
  have hsave : QuarkTx.saveWork row t₁ = .ok ((),t₂) := rfl
  unfold recordResult
  rw [Tx.bind_of_ok (show (recordSliceObservation item.id item.generation _ : QuarkTx _) s = _ from hobserve),
    Tx.bind_of_ok (show (saveWork row : QuarkTx _) t₁ = _ from hsave),
    Prog.settle_bind (show (recordSliceObservation item.id item.generation _ : QuarkProg _).settle s = _ from Prog.settle_transaction hobserve),
    Prog.settle_bind (show (saveWork row : QuarkProg _).settle t₁ = _ from Prog.settle_transaction hsave)]
  unfold checkpointIfAny
  cases checkpointOf result capacityAfter lifetimeTokens observedAt with
  | none => exact ⟨t₂,row,rfl,rfl,hget,hrow.kept hitem hresult hstarted₂⟩
  | some c =>
    obtain ⟨slice₃,hcheckpoint,hquota₃⟩ := recordSliceCheckpoint_run c hstarted₂ hget
    let t₃ := (t₂.putSlice item.id item.generation slice₃).putWork (row.checkpointed c)
    have hrow₃ : Recorded item result (row.checkpointed c) :=
      ⟨hrow.id,hrow.generation,hrow.agentSessionId,hrow.ownerThread,hrow.providerDispatchId,hrow.providerIdempotencyKey⟩
    refine ⟨t₃,row.checkpointed c,?_,?_,?_,hrow₃.kept hitem hresult ⟨slice₃,by simp [t₃],hquota₃⟩⟩
    · exact Tx.bind_of_ok (show (recordSliceCheckpoint item.id item.generation c : QuarkTx _) t₂ = _ from hcheckpoint)
    · exact Prog.settle_bind (show (recordSliceCheckpoint item.id item.generation c : QuarkProg _).settle t₂ = _ from
        Prog.settle_transaction hcheckpoint)
    · rw [QuarkStore.putWork_work,hrow₃.id]
      exact if_pos rfl

end Store
/-! ### The parts of a cycle -/

/-- A cycle may raise when the outside does, for a window that is missing or for a capacity that the
planner refuses. -/
def Excused (limitId : String) (valid : (q : ExecutorQuery) → ExecutorAnswer q → Prop) (e : QuarkError) : Prop :=
  Outside valid e ∨ e = .value s!"usage snapshot does not include a primary window for {limitId}" ∨ ∃ p, e = .plan p

section Parts
variable {limitId : String} {valid : (q : ExecutorQuery) → ExecutorAnswer q → Prop} {executor : ProviderWorkExecutor} {s : QuarkStore}
  {α β : Type} {W c : Prop}

/-- Where `W` has the store well kept, a part of a cycle leaves it so, and under `c` it raises for nothing else. -/
def Kept (limitId : String) (valid : (q : ExecutorQuery) → ExecutorAnswer q → Prop) (W c : Prop) (P : α → QuarkStore → Prop) :
    Except QuarkError α → QuarkStore → Prop
  | .ok a, s => (W → WellKept s) ∧ P a s
  | .error e, s => (W → WellKept s) ∧ (W → c → Excused limitId valid e)

theorem Kept.wellKept {P : α → QuarkStore → Prop} {r : Except QuarkError α} (h : Kept limitId valid W c P r s) : W → WellKept s := by
  cases r with
  | ok a => exact h.1
  | error e => exact h.1

theorem kept_bind {P : α → QuarkStore → Prop} {Q : β → QuarkStore → Prop} {p : QuarkProg α} {f : α → QuarkProg β}
    (hp : p.Served (Prog.Answered valid executor.serve) (Kept limitId valid W c P) s)
    (hf : ∀ a t, (W → WellKept t) → P a t → (f a).Served (Prog.Answered valid executor.serve) (Kept limitId valid W c Q) t) :
    (p.bind f).Served (Prog.Answered valid executor.serve) (Kept limitId valid W c Q) s := by
  refine Prog.Served.bind (hp.mono fun r t hr => ?_)
  cases r with
  | ok a => exact hf a t hr.1 hr.2
  | error e => exact hr

theorem kept_mono {c' : Prop} {P P' : α → QuarkStore → Prop} {p : QuarkProg α}
    (hp : p.Served (Prog.Answered valid executor.serve) (Kept limitId valid W c P) s) (hc : c' → c) (hP : ∀ a t, P a t → P' a t) :
    p.Served (Prog.Answered valid executor.serve) (Kept limitId valid W c' P') s := by
  refine hp.mono fun r t hr => ?_
  cases r with
  | ok a => exact ⟨hr.1,hP a t hr.2⟩
  | error e => exact ⟨hr.1,fun hW h => hr.2 hW (hc h)⟩

theorem refresh_kept (hs : W → WellKept s) :
    refresh.Served (Prog.Answered valid executor.serve) (Kept limitId valid W c fun _ t => t = s) s := by
  unfold refresh
  refine Prog.Served.bind (Prog.served_ask fun r t hr => ?_)
  obtain ⟨log,hrun,hlog⟩ := hr
  cases hrun with
  | call _ _ answer hrun =>
    cases hrun
    cases answer with
    | some snapshot => exact ⟨hs,rfl⟩
    | none => exact ⟨hs,fun _ _ => .inl ⟨rfl,.refresh,none,hlog _ List.mem_cons_self,rfl⟩⟩

theorem observedAt_kept (hs : W → WellKept s) (snapshot : UsageSnapshot) :
    (observedAt snapshot).Served (Prog.Answered valid executor.serve) (Kept limitId valid W c fun _ t => t = s) s := by
  have hask : (Prog.ask QuarkQuery.timestamp : QuarkProg String).Served (Prog.Answered valid executor.serve)
      (Kept limitId valid W c fun _ t => t = s) s := by
    refine Prog.served_ask fun r t hr => ?_
    obtain ⟨log,hrun,-⟩ := hr
    cases hrun with
    | call _ _ answer hrun =>
      cases hrun
      exact ⟨hs,rfl⟩
  unfold observedAt
  split
  · split
    · exact hask
    · exact ⟨hs,rfl⟩
  · exact hask

theorem window_kept (hs : W → WellKept s) (snapshot : UsageSnapshot) :
    (window snapshot limitId).Served (Prog.Answered valid executor.serve) (Kept limitId valid W c fun _ t => t = s) s := by
  unfold window
  cases usageWindow snapshot limitId with
  | none => exact ⟨hs,fun _ _ => .inr (.inl rfl)⟩
  | some w => exact ⟨hs,rfl⟩

theorem workForLimit_kept (hs : W → WellKept s) (service : QuarkSchedulerService) (held : Held) :
    (workForLimit service limitId held).Served (Prog.Answered valid executor.serve)
      (Kept limitId valid W c fun work t => t = s ∧ work = service.workForLimit limitId s) s := ⟨hs,rfl,rfl⟩

theorem rejectResult_kept (hs : W → WellKept s) {item row : AgentWorkItem} (hrow : s.work.get? item.id = some row) (result : SliceResult)
    {P : ExecutionPayload → QuarkStore → Prop} (hP : ∀ payload, P payload s) :
    (rejectResult item result).Served (Prog.Answered valid executor.serve) (Kept limitId valid W c P) s := by
  have hload : (loadWork item.id : QuarkProg AgentWorkItem).settle s = some (.ok row,s) := Prog.settle_transaction (loadWork_run hrow)
  exact Prog.served_settled_bind (Prog.settle_rescue hload) ⟨hs,hP _⟩

/-- A result for the row of its item is dealt with; it is stored where it was told the binding of the row. -/
theorem persist_kept (hs : W → WellKept s) {item : AgentWorkItem} (hrow : s.work.get? item.id = some item)
    (hstarted : W → ∃ r₀, StartedAt r₀ item.id item.generation s) {result : SliceResult} (hresult : W → result.Keyed) (held : Held)
    (capacityAfter : Option ℚ) (snapshot : UsageSnapshot) :
    (persistExecutionResult held item result capacityAfter snapshot).Served (Prog.Answered valid executor.serve)
      (Kept limitId valid W c fun payload t => OnlyAt item.id s t ∧
        (Told item.durableBinding result → payload.persistencePerformed = true)) s := by
  have hreject : ∀ rejected, ¬ Told item.durableBinding result → (rejectResult item rejected).Served (Prog.Answered valid executor.serve)
      (Kept limitId valid W c fun payload t => OnlyAt item.id s t ∧ (Told item.durableBinding result → payload.persistencePerformed = true)) s :=
    fun rejected hnot => rejectResult_kept hs hrow rejected fun _ => ⟨.refl _ _,fun htold => absurd htold hnot⟩
  unfold persistExecutionResult
  split
  · next hnot => exact hreject result fun htold => htold.allowed hnot
  refine kept_bind (observedAt_kept hs snapshot) fun clock t _ ht => ?_
  subst ht
  have hgood : W → ∃ t' row, (recordResult item result capacityAfter snapshot.lifetimeTokens clock : QuarkTx _) t =
        .ok (recordedPayload item result capacityAfter,t') ∧
      (recordResult item result capacityAfter snapshot.lifetimeTokens clock : QuarkProg _).settle t =
        some (.ok (recordedPayload item result capacityAfter),t') ∧ t'.work.get? item.id = some row ∧ RowKept t' row := by
    intro hW
    obtain ⟨r₀,hslice⟩ := hstarted hW
    exact recordResult_run (hs hW item.id item hrow) (hresult hW) hslice capacityAfter snapshot.lifetimeTokens clock
  have hdone : ∀ payload t', (recordResult item result capacityAfter snapshot.lifetimeTokens clock : QuarkTx _) t = .ok (payload,t') →
      Kept limitId valid W c (fun payload t' => OnlyAt item.id t t' ∧ (Told item.durableBinding result → payload.persistencePerformed = true))
        (.ok payload) t' := by
    intro payload t' htx
    have honly : OnlyAt item.id t t' := (recordResult_only item result capacityAfter snapshot.lifetimeTokens clock t).of_ok htx
    refine ⟨fun hW => (hs hW).only honly fun other hother => ?_,honly,fun _ => (recordResult_performed t).of_ok htx⟩
    obtain ⟨t₁,row,htx₁,-,hrow',hkept⟩ := hgood hW
    rw [htx] at htx₁
    cases htx₁
    rw [hrow'] at hother
    cases hother
    exact hkept
  split
  · obtain ⟨⟨r,t'⟩,hsettle⟩ := Prog.settle_total
      (recordResult_silent (fun _ => True) item result capacityAfter snapshot.lifetimeTokens clock).asks (fun _ => trivial) t
    refine Prog.served_settled ((Prog.settle_holding held _ t).trans hsettle) ?_
    cases r with
    | ok payload => exact hdone payload t' (recordResult_solo (Prog.settle_solo hsettle))
    | error e =>
      have hnot : ¬ W := by
        intro hW
        obtain ⟨t₁,row,-,hprog,-⟩ := hgood hW
        rw [hsettle] at hprog
        cases hprog
      exact ⟨fun hW => absurd hW hnot,fun hW => absurd hW hnot⟩
  · next expected hexpected =>
    have hcas := Connection.underWorkBinding_some hrow expected
      (recordResult item result capacityAfter snapshot.lifetimeTokens clock : QuarkTx ExecutionPayload)
    by_cases hbinding : .binding item.durableBinding = expected
    · rw [if_pos hbinding] at hcas
      cases htx : (recordResult item result capacityAfter snapshot.lifetimeTokens clock : QuarkTx ExecutionPayload) t with
      | ok r => exact Prog.served_settled_bind (Prog.settle_transaction (hcas.trans (Tx.bind_of_ok htx))) (hdone r.1 r.2 htx)
      | error e =>
        have hnot : ¬ W := by
          intro hW
          obtain ⟨t₁,row,htx₁,-⟩ := hgood hW
          rw [htx] at htx₁
          cases htx₁
        exact Prog.Served.bind (Prog.served_settled (Prog.settle_transaction_error (hcas.trans (Tx.bind_of_error htx)))
          ⟨fun hW => absurd hW hnot,fun hW => absurd hW hnot⟩)
    · rw [if_neg hbinding] at hcas
      refine Prog.served_settled_bind (Prog.settle_transaction hcas) (hreject (conflictResult result expected) fun htold => ?_)
      exact hbinding (htold.binding expected hexpected).symm

/-- The executor's answer about a running item. -/
theorem reconcileSlice_kept (hs : W → WellKept s) {item : AgentWorkItem} (hrow : s.work.get? item.id = some item)
    (hreconcilable : reconcilable item = true) :
    (reconcileSlice item).Served (Prog.Answered valid executor.serve)
      (Kept limitId valid W (executor.agentManager = true) fun result t => t = s ∧ (W → result.Keyed) ∧ Told item.durableBinding result) s := by
  have hkeyed := fun hW => (hs hW item.id item hrow).keyed
  obtain ⟨hrunning,hsession,hdispatch⟩ := of_decide_eq_true hreconcilable
  unfold reconcileSlice
  refine Prog.Served.bind (Prog.served_ask fun r t hr => ?_)
  obtain ⟨log,hrun,hlog⟩ := hr
  rcases Prog.Solo.bind_cases hrun with ⟨result,t₁,l₁,l₂,hanswer,hrest,rfl⟩ | ⟨e,rfl,hanswer⟩
  · obtain ⟨rfl,hresult,htold⟩ := (reconcileSlice_wp hkeyed hsession hdispatch).solo hanswer fun e he => hlog e (List.mem_append_left _ he)
    cases hrest
    exact ⟨hs,rfl,hresult,htold hrow hrunning⟩
  · obtain ⟨rfl,herror⟩ := (reconcileSlice_wp hkeyed hsession hdispatch).solo hanswer hlog
    exact ⟨hs,fun hW hmanager => .inl (herror hW hmanager)⟩

/-- Every running item that is asked about has its result stored. -/
theorem reconcileAll_kept (hs : W → WellKept s) (remainingCapacity : Option ℚ) (before : UsageSnapshot) (items : List AgentWorkItem)
    (hids : (items.map (·.id)).Nodup) (hrows : ∀ item ∈ items, s.work.get? item.id = some item ∧ reconcilable item = true) :
    (reconcileAll remainingCapacity before items).Served (Prog.Answered valid executor.serve)
      (Kept limitId valid W (executor.agentManager = true) fun payloads _ => ∀ payload ∈ payloads, payload.persistencePerformed = true) s := by
  induction items generalizing s with
  | nil => exact ⟨hs,fun _ h => (by cases h)⟩
  | cons item rest ih =>
    rw [List.map_cons,List.nodup_cons] at hids
    obtain ⟨hrow,hreconcilable⟩ := hrows item List.mem_cons_self
    unfold reconcileAll
    refine kept_bind (reconcileSlice_kept hs hrow hreconcilable) fun result t _ h₁ => ?_
    obtain ⟨rfl,hkeyed,htold⟩ := h₁
    have hstarted := fun hW => (hs hW item.id item hrow).started (of_decide_eq_true hreconcilable).1
    refine kept_bind (persist_kept hs hrow hstarted hkeyed _ remainingCapacity before) fun payload t₁ ht₁ h₂ => ?_
    have hrest : ∀ other ∈ rest, t₁.work.get? other.id = some other ∧ reconcilable other = true := by
      intro other hother
      have hne : other.id ≠ item.id := fun h => hids.1 (h ▸ List.mem_map_of_mem hother)
      obtain ⟨hother',hreconcilable'⟩ := hrows other (List.mem_cons_of_mem _ hother)
      exact ⟨(h₂.1.work _ hne).trans hother',hreconcilable'⟩
    refine kept_bind (ih ht₁ hids.2 hrest) fun payloads t₂ ht₂ h₃ => ⟨ht₂,fun other hother => ?_⟩
    rcases List.mem_cons.mp hother with rfl | hother
    · exact h₂.2 htold
    · exact h₃ other hother

/-- The allocation was planned from the row of its item. -/
def Planned (s : QuarkStore) (a : WorkAllocation) : Prop :=
  ∃ item, s.work.get? a.workId = some item ∧ item.state ∈ eligibleStates ∧ a = workAllocation item a.allocatedUnits

/-- The row that a start leaves: reserved, and then started. -/
def startedRow (item : AgentWorkItem) (a : WorkAllocation) (startedAt : String) : AgentWorkItem := { reserved item a startedAt with
  state := .running
  generation := a.generation
  updatedAt := some startedAt }

theorem startedRow_predicted {item : AgentWorkItem} {a : WorkAllocation} (hstate : item.state ∈ eligibleStates)
    (ha : a = workAllocation item a.allocatedUnits) (startedAt : String) :
    initialMismatches (startedRow item a startedAt) item a.allocatedUnits = [] ∧
      (startedRow item a startedAt).durableBinding = startedBinding item a.allocatedUnits := by
  have hgeneration : a.generation = item.generation + 1 := congrArg WorkAllocation.generation ha
  constructor
  · simp [initialMismatches,differing,startedRow,reserved,hgeneration,hstate]
  · simp [startedRow,reserved,startedBinding,AgentWorkItem.durableBinding,hgeneration]

/-- The executor's answer about a slice that was started. -/
theorem runSlice_kept (hs : W → WellKept s) {item : AgentWorkItem} {a : WorkAllocation}
    (howned : W → item.agentSessionId = none → item.ownerThread.getD "" ≠ "")
    (hkeyed : W → item.providerDispatchId ≠ none → item.providerIdempotencyKey.getD "" ≠ "") :
    (runSlice item a).Served (Prog.Answered valid executor.serve)
      (Kept limitId valid W (executor.agentManager = true) fun result t => t = s ∧ (W → result.Keyed) ∧ ∀ persisted,
        s.work.get? item.id = some persisted → initialMismatches persisted item a.allocatedUnits = [] →
          Told (startedBinding item a.allocatedUnits) result) s := by
  unfold runSlice
  refine Prog.Served.bind (Prog.served_ask fun r t hr => ?_)
  obtain ⟨log,hrun,hlog⟩ := hr
  rcases Prog.Solo.bind_cases hrun with ⟨result,t₁,l₁,l₂,hanswer,hrest,rfl⟩ | ⟨e,rfl,hanswer⟩
  · obtain ⟨rfl,hresult,htold⟩ := (runSlice_wp howned hkeyed).solo hanswer fun e he => hlog e (List.mem_append_left _ he)
    cases hrest
    exact ⟨hs,rfl,hresult,htold⟩
  · obtain ⟨rfl,herror⟩ := (runSlice_wp howned hkeyed).solo hanswer hlog
    exact ⟨hs,fun hW hmanager => .inl (herror hW hmanager)⟩

theorem recordSliceStart_run {item : AgentWorkItem} {a : WorkAllocation} {startedAt : String} {c₀ : ℚ} (lifetimeTokens : Option ℤ)
    (hid : item.id = a.workId) : ∃ t, QuarkTx.recordSliceStart item.id a.generation (some c₀) lifetimeTokens startedAt
      (s.putWork (reserved item a startedAt)) = .ok ((),t) ∧ OnlyAt a.workId s t ∧ StartedAt c₀ item.id a.generation t ∧
      t.work.get? item.id = some (startedRow item a startedAt) := by
  have hreserved : (s.putWork (reserved item a startedAt)).work.get? item.id = some (reserved item a startedAt) := by
    rw [QuarkStore.putWork_work]
    exact if_pos rfl
  let slice := startedSlice (reserved item a startedAt) a.generation (some c₀) lifetimeTokens startedAt
  let t₁ := (s.putWork (reserved item a startedAt)).putSlice item.id a.generation slice
  refine ⟨t₁.putWork (startedRow item a startedAt),?_,?_,⟨slice,by simp [t₁],rfl⟩,?_⟩
  · unfold QuarkTx.recordSliceStart
    rw [Tx.bind_of_ok (loadWork_run hreserved)]
    rfl
  · have h₁ : OnlyAt a.workId s (s.putWork (reserved item a startedAt)) := onlyAt_putWork s hid
    have h₂ : OnlyAt a.workId (s.putWork (reserved item a startedAt)) t₁ := hid ▸ onlyAt_putSlice item.id _ a.generation slice
    exact (h₁.trans h₂).trans (onlyAt_putWork t₁ hid)
  · rw [QuarkStore.putWork_work]
    exact if_pos rfl

/-- A slice that was planned from its row has its result stored. -/
theorem executeSlice_kept (hs : W → WellKept s) {c₀ : ℚ} (before : UsageSnapshot) (a : WorkAllocation) :
    (executeSlice limitId (some c₀) before a).Served (Prog.Answered valid executor.serve)
      (Kept limitId valid W (executor.agentManager = true ∧ Planned s a) fun payload _ => Planned s a → payload.persistencePerformed = true) s := by
  unfold executeSlice
  cases hrow : s.work.get? a.workId with
  | none =>
    have hmissing : ¬ Planned s a := by
      rintro ⟨item,hitem,-⟩
      rw [hrow] at hitem
      cases hitem
    have hload : (loadWork a.workId : QuarkProg AgentWorkItem).settle s = some (.error (.key a.workId),s) :=
      Prog.settle_transaction_error (loadWork_missing hrow)
    exact Prog.Served.bind (Prog.served_settled hload ⟨hs,fun _ hc => absurd hc.2 hmissing⟩)
  | some item =>
  have hid : item.id = a.workId := s.keyed _ _ hrow
  have hitem := fun hW => hs hW _ item hrow
  refine Prog.served_settled_bind (Prog.settle_transaction (loadWork_run hrow)) ?_
  refine kept_bind (observedAt_kept hs before) fun startedAt t _ ht => ?_
  subst ht
  have hsave : ((saveWork (reserved item a startedAt) : QuarkProg Unit).holding (.reserving a)).settle t =
      some (.ok (),t.putWork (reserved item a startedAt)) := (Prog.settle_holding _ _ t).trans rfl
  obtain ⟨t₁,hstart,honly,hstarted,hcurrent⟩ := @recordSliceStart_run t item a startedAt c₀ before.lifetimeTokens hid
  have ht₁ : W → WellKept t₁ := by
    refine fun hW => (hs hW).only honly fun other hother => ?_
    rw [← hid,hcurrent] at hother
    cases hother
    exact ⟨fun _ => ⟨c₀,hstarted⟩,(hitem hW).owned,(hitem hW).keyed⟩
  refine Prog.served_settled_bind hsave ?_
  refine Prog.served_settled_bind (Prog.settle_transaction hstart) ?_
  have hpredicted : Planned t a → initialMismatches (startedRow item a startedAt) item a.allocatedUnits = [] ∧
      (startedRow item a startedAt).durableBinding = startedBinding item a.allocatedUnits := by
    rintro ⟨other,hother,hstate,ha⟩
    rw [hrow] at hother
    cases hother
    exact startedRow_predicted hstate ha startedAt
  refine kept_bind (kept_mono (runSlice_kept ht₁ (fun hW => (hitem hW).owned) fun hW => (hitem hW).keyed) And.left fun _ _ h => h) fun result t₂ _ h₂ => ?_
  obtain ⟨rfl,hkeyed,htold⟩ := h₂
  refine kept_bind (refresh_kept ht₁) fun after t₃ _ ht₃ => ?_
  subst ht₃
  refine kept_bind (window_kept ht₁ after) fun afterWindow t₄ _ ht₄ => ?_
  subst ht₄
  refine Prog.served_settled_bind (Prog.settle_transaction (loadWork_run hcurrent)) ?_
  have hpersist := @persist_kept limitId valid executor _ W (executor.agentManager = true ∧ Planned t a) ht₁ (startedRow item a startedAt)
    hcurrent (fun _ => ⟨c₀,hstarted⟩) result hkeyed .plain (windowRemainingCapacity afterWindow) after
  refine kept_mono hpersist (fun h => h) fun payload t₅ h₅ hplanned => h₅.2 ?_
  obtain ⟨hsame,hbinding⟩ := hpredicted hplanned
  rw [hbinding]
  exact htold _ hcurrent hsame

/-- At most one slice is started, and from the row that it was planned from. -/
structure Single (s : QuarkStore) (allocations : List WorkAllocation) : Prop where
  one : allocations.length ≤ 1
  planned : ∀ a ∈ allocations, Planned s a

theorem executeAll_kept (hs : W → WellKept s) {c₀ : ℚ} (before : UsageSnapshot) (allocations : List WorkAllocation) :
    (executeAll limitId (some c₀) before allocations).Served (Prog.Answered valid executor.serve)
      (Kept limitId valid W (executor.agentManager = true ∧ Single s allocations) fun payloads _ =>
        Single s allocations → ∀ payload ∈ payloads, payload.persistencePerformed = true) s := by
  induction allocations generalizing s with
  | nil => exact ⟨hs,fun _ _ h => (by cases h)⟩
  | cons a rest ih =>
    have hnone : Single s (a :: rest) → rest = [] := fun h => List.eq_nil_of_length_eq_zero (by have := h.one; simpa using this)
    have hplanned : Single s (a :: rest) → Planned s a := fun h => h.planned a List.mem_cons_self
    unfold executeAll
    refine kept_bind (kept_mono (executeSlice_kept hs before a) (fun hc => ⟨hc.1,hplanned hc.2⟩) fun _ _ h => h) fun payload t ht h₁ => ?_
    have hsingle : Single s (a :: rest) → Single t rest := by
      intro h
      rw [hnone h]
      exact ⟨Nat.zero_le 1,fun _ h => (by cases h)⟩
    refine kept_bind (kept_mono (ih ht) (fun hc => ⟨hc.1,hsingle hc.2⟩) fun _ _ h => h) fun payloads t₁ ht₁ h₂ => ⟨ht₁,fun h other hother => ?_⟩
    rcases List.mem_cons.mp hother with rfl | hother
    · exact h₁ (hplanned h)
    · exact h₂ (hsingle h) other hother

/-- Putting off items that are there raises nothing. -/
theorem sweepAll_kept (hs : W → WellKept s) (resumeAt : Option String) (reason : String) (items : List AgentWorkItem)
    (hrows : ∀ item ∈ items, (s.work.get? item.id).isSome = true) :
    (sweepAll resumeAt reason items).Served (Prog.Answered valid executor.serve) (Kept limitId valid W c fun _ _ => True) s := by
  induction items generalizing s with
  | nil => exact ⟨hs,trivial⟩
  | cons item rest ih =>
    obtain ⟨row,hrow⟩ := Option.isSome_iff_exists.mp (hrows item List.mem_cons_self)
    have hid : row.id = item.id := s.keyed _ _ hrow
    have hkept := fun hW => hs hW _ row hrow
    let t := s.putWork (row.waitingCapacity resumeAt reason)
    have hmark : QuarkTx.markWaitingCapacity item.id resumeAt reason s = .ok ((),t) := by
      unfold QuarkTx.markWaitingCapacity
      rw [Tx.bind_of_ok (loadWork_run hrow)]
      rfl
    have hget : t.work.get? item.id = some (row.waitingCapacity resumeAt reason) := by
      rw [QuarkStore.putWork_work]
      exact if_pos hid.symm
    have ht : W → WellKept t := by
      refine fun hW => (hs hW).only (onlyAt_putWork s hid) fun other hother => ?_
      rw [hget] at hother
      cases hother
      exact ⟨fun h => (by cases h),(hkept hW).owned,(hkept hW).keyed⟩
    unfold sweepAll
    refine Prog.served_settled_bind ((Prog.settle_holding _ _ s).trans (Prog.settle_transaction hmark)) (ih ht fun other hother => ?_)
    rw [QuarkStore.putWork_work]
    split
    · rfl
    · exact hrows other (List.mem_cons_of_mem _ hother)

theorem planQuarkWork_ends (policy : QuarkUsagePolicy) (remainingPoints : Capacity) {work : List AgentWorkItem}
    (hids : (work.map (·.id)).Nodup) : planQuarkWork policy remainingPoints work ≠ none := by
  cases hcapacity : capacityByLimit remainingPoints work with
  | error e =>
    simp only [planQuarkWork,planQuarkWork.liftExcept,hcapacity]
    exact fun h => (by cases h)
  | ok capacity =>
    obtain ⟨g,plan,-,-,hplan,-⟩ := planQuarkWork_limits policy hids hcapacity
    rw [hplan]
    exact fun h => (by cases h)

theorem liftPlan_kept (hs : W → WellKept s) {plan : ExceptT PlanError Option QuarkWorkPlan} (hends : plan ≠ none) :
    (liftPlan plan).Served (Prog.Answered valid executor.serve) (Kept limitId valid W c fun made t => t = s ∧ plan = pure made) s := by
  unfold liftPlan
  split
  · exact ⟨hs,rfl,rfl⟩
  · exact ⟨hs,fun _ _ => .inr (.inr ⟨_,rfl⟩)⟩
  · exact absurd rfl hends

end Parts

/-! ### One cycle -/

section Cycle
variable {valid : (q : ExecutorQuery) → ExecutorAnswer q → Prop} {executor : ProviderWorkExecutor} {s : QuarkStore} {p : Planning} {W : Prop}

theorem plan_planned {plan : QuarkWorkPlan} (h : p.plan (p.service.workForLimit p.limitId s) = pure plan) :
    (∀ a ∈ plan.allocations, Planned s a) ∧ (plan.allocations ≠ [] → ∃ c₀, windowRemainingCapacity p.window = some c₀) := by
  have hlimit := workForLimit_limit p.service p.limitId s
  have hids := workForLimit_ids p.service p.limitId s
  cases hc : windowRemainingCapacity p.window with
  | none =>
    obtain ⟨plan',hplan',halloc,-⟩ := plan_nothing hlimit (.inl ⟨hc,rfl⟩)
    rw [h] at hplan'
    have hsame : plan = plan' := Except.ok.inj (Option.some.inj hplan')
    rw [← hsame] at halloc
    refine ⟨fun a ha => ?_,fun hne => absurd halloc hne⟩
    rw [halloc] at ha
    cases ha
  | some c₀ =>
    refine ⟨fun a ha => ?_,fun _ => ⟨c₀,rfl⟩⟩
    obtain ⟨-,item,hitem,hstate,heq⟩ := (plan_ok hlimit hids hc h).slices a ha
    refine ⟨item,?_,hstate,heq⟩
    rw [show a.workId = item.id from congrArg WorkAllocation.workId heq]
    exact (mem_workForLimit.mp hitem).1

/-- The results of the cycle were stored, those of reconciled slices and those of started ones. -/
def Stored (result : CycleResult) : Prop := ∀ payload ∈ result.reconcileResults ++ result.results, payload.persistencePerformed = true

/-- The executor has an agent manager and the policy starts one slice at a time. -/
def OneAtATime (executor : ProviderWorkExecutor) (service : QuarkSchedulerService) : Prop :=
  executor.agentManager = true ∧ service.policy.maxConcurrentWork = 1

theorem planCycle_kept (hs : W → WellKept s) (execute : Bool) (before : UsageSnapshot) {reconciled : List ExecutionPayload}
    (hreconciled : ∀ payload ∈ reconciled, payload.persistencePerformed = true) :
    (planCycle execute p before (p.service.workForLimit p.limitId s) reconciled).Served (Prog.Answered valid executor.serve)
      (Kept p.limitId valid W (OneAtATime executor p.service) fun result _ => OneAtATime executor p.service → Stored result) s := by
  have hnothing : ∀ result : CycleResult, result.reconcileResults = reconciled → result.results = [] → Stored result := by
    intro result h₁ h₂
    unfold Stored
    rw [h₁,h₂,List.append_nil]
    exact hreconciled
  unfold planCycle
  refine kept_bind (liftPlan_kept hs (planQuarkWork_ends _ _ (workForLimit_ids p.service p.limitId s))) fun plan t _ h₁ => ?_
  obtain ⟨rfl,hplan⟩ := h₁
  obtain ⟨hplanned,hcapacity⟩ := plan_planned hplan
  split
  · refine kept_bind (sweepAll_kept hs _ _ _ fun item hitem => ?_) fun _ t₁ ht₁ _ => ⟨ht₁,fun _ => hnothing _ rfl rfl⟩
    rw [(mem_workForLimit.mp (List.mem_filter.mp hitem).1).1]
    rfl
  · next hne =>
    split
    · obtain ⟨c₀,hc₀⟩ := hcapacity hne
      have hsingle : OneAtATime executor p.service → executor.agentManager = true ∧ Single t (p.selection plan) := by
        rintro ⟨hmanager,hone⟩
        refine ⟨hmanager,?_,fun a ha => hplanned a (List.mem_of_mem_take ha)⟩
        simp [Planning.selection,hone]
      unfold executeCycle
      rw [hc₀]
      refine kept_bind (kept_mono (executeAll_kept hs before _) hsingle fun _ _ h => h) fun results t₁ ht₁ h₂ => ⟨ht₁,fun hc payload hpayload => ?_⟩
      rcases List.mem_append.mp hpayload with hpayload | hpayload
      · exact hreconciled payload hpayload
      · exact h₂ (hsingle hc).2 payload hpayload
    · exact ⟨hs,fun _ => hnothing _ rfl rfl⟩

theorem listedCycle_kept (hs : W → WellKept s) (execute : Bool) (before : UsageSnapshot) :
    (listedCycle execute p before (p.service.workForLimit p.limitId s)).Served (Prog.Answered valid executor.serve)
      (Kept p.limitId valid W (OneAtATime executor p.service) fun result _ => OneAtATime executor p.service → Stored result) s := by
  have hids := workForLimit_ids p.service p.limitId s
  unfold listedCycle
  split
  · refine kept_bind (liftPlan_kept hs (planQuarkWork_ends _ _ hids)) fun plan t ht _ => ⟨ht,fun _ payload hpayload => ?_⟩
    cases hpayload
  · split
    · have hrows : ∀ item ∈ (p.service.workForLimit p.limitId s).filter reconcilable,
          s.work.get? item.id = some item ∧ reconcilable item = true := by
        intro item hitem
        obtain ⟨hlisted,hreconcilable⟩ := List.mem_filter.mp hitem
        exact ⟨(mem_workForLimit.mp hlisted).1,hreconcilable⟩
      unfold reconcileCycle
      refine kept_bind (kept_mono (reconcileAll_kept hs _ before _ (hids.sublist (List.filter_sublist.map _)) hrows)
        And.left fun _ _ h => h) fun reconciled t ht hreconciled => ?_
      refine kept_bind (workForLimit_kept ht p.service _) fun work t₁ _ h₂ => ?_
      obtain ⟨rfl,rfl⟩ := h₂
      exact planCycle_kept ht true before hreconciled
    · exact planCycle_kept hs execute before fun _ h => (by cases h)

theorem runCycle_kept (hs : W → WellKept s) (service : QuarkSchedulerService) (execute : Bool) (limitId : String) :
    (runCycle service execute limitId).Served (Prog.Answered valid executor.serve)
      (Kept limitId valid W (OneAtATime executor service) fun result _ => OneAtATime executor service → Stored result) s := by
  unfold runCycle
  refine kept_bind (refresh_kept hs) fun before t _ h₁ => ?_
  subst h₁
  refine kept_bind (window_kept hs before) fun window t₁ _ h₂ => ?_
  subst h₂
  refine kept_bind (workForLimit_kept hs service _) fun work t₂ _ h₃ => ?_
  obtain ⟨rfl,rfl⟩ := h₃
  exact @listedCycle_kept valid executor t₂ ⟨service,limitId,window,true⟩ W hs execute before

end Cycle
end Cycle

/-! ### Any history -/

/-- The stores that commands leave which came to their end one after the other, returned or raised. -/
inductive Operated : QuarkStore → Prop where
  | empty : Operated .empty
  | registered {s s' : QuarkStore} {log : List (Σ q, QuarkAnswer q)} {r : Except QuarkError Unit} (f : WorkFields) (hs : Operated s)
      (hrun : (registerWork f).Solo s log r s') : Operated s'
  | registeredAgent {s s' : QuarkStore} {log : List (Σ q, QuarkAnswer q)} {r : Except QuarkError Unit} (f : WorkFields)
      (usageUnit : Option String) (hs : Operated s) (hrun : (registerAgentWork f usageUnit).Solo s log r s') : Operated s'
  | cycled {s s' : QuarkStore} {log : List (Σ q, ExecutorAnswer q)} {r : Except QuarkError Cycle.CycleResult}
      (service : QuarkSchedulerService) (executor : ProviderWorkExecutor) (execute : Bool) (limitId : String) (hs : Operated s)
      (hrun : ((Cycle.runCycle service execute limitId).answering executor.serve).Solo s log r s') : Operated s'

theorem agentWorkItem_kept {f : WorkFields} {item : AgentWorkItem} (h : agentWorkItem f = .ok item) (s : QuarkStore) : RowKept s item := by
  unfold agentWorkItem at h
  split at h <;> try contradiction
  split at h <;> try contradiction
  split at h <;> try contradiction
  split at h <;> try contradiction
  next howner =>
  split at h <;> try contradiction
  split at h <;> try contradiction
  cases h
  refine ⟨fun h => (by cases h),fun hsession hthread => howner ⟨?_,hthread⟩,fun h => absurd rfl h⟩
  dsimp only at hsession
  rw [hsession]
  rfl

theorem registerWork_kept {s s' : QuarkStore} {log : List (Σ q, QuarkAnswer q)} {r : Except QuarkError Unit} {f : WorkFields}
    (hs : WellKept s) (hrun : (registerWork f).Solo s log r s') : WellKept s' := by
  unfold registerWork at hrun
  split at hrun
  · next item hitem =>
    have hsave : ((saveWork item : QuarkProg Unit).holding (.registering item.id)).settle s = some (.ok (),s.putWork item) :=
      (Prog.settle_holding _ _ s).trans rfl
    obtain ⟨hsame,-⟩ := hrun.settled hsave
    cases hsame
    refine hs.only (onlyAt_putWork s rfl) fun other hother => ?_
    rw [QuarkStore.putWork_work,if_pos rfl] at hother
    cases hother
    exact agentWorkItem_kept hitem _
  · cases hrun
    exact hs

theorem Operated.wellKept {s : QuarkStore} (h : Operated s) : WellKept s := by
  induction h with
  | empty => exact fun _ _ h => (by cases h)
  | registered f _ hrun ih => exact registerWork_kept ih hrun
  | registeredAgent f usageUnit _ hrun ih =>
    unfold registerAgentWork at hrun
    split at hrun
    · cases hrun
      exact ih
    · exact registerWork_kept ih hrun
  | cycled service executor execute limitId _ hrun ih =>
    exact ((@Cycle.runCycle_kept (fun _ _ => True) executor _ True (fun _ => ih) service execute limitId).solo hrun fun _ _ => trivial).wellKept
      trivial

/-- In a cycle that starts one slice at a time with an executor of an agent manager, whatever the store is
like and whatever the manager answers, the result of every reconciled slice and of the started one is
accepted and stored. After any history such a cycle raises only where a call to the outside raised,
for a window that is missing or for a capacity that is refused. -/
theorem results_persisted {executor : ProviderWorkExecutor} (hmanager : executor.agentManager = true) {service : QuarkSchedulerService}
    (hone : service.policy.maxConcurrentWork = 1) {limitId : String} {s s' : QuarkStore} {log : List (Σ q, ExecutorAnswer q)}
    {r : Except QuarkError Cycle.CycleResult} (hrun : ((Cycle.runCycle service true limitId).answering executor.serve).Solo s log r s') :
    (∀ result, r = .ok result → ∀ payload ∈ result.reconcileResults ++ result.results, payload.persistencePerformed = true) ∧
    (Operated s → ∀ e, r = .error e → Cycle.Excused limitId (fun q a => ⟨q,a⟩ ∈ log) e) := by
  have hkept := (@Cycle.runCycle_kept (fun q a => ⟨q,a⟩ ∈ log) executor s (Operated s) Operated.wellKept service true limitId).solo hrun
    fun _ h => h
  constructor
  · rintro result rfl
    exact hkept.2 ⟨hmanager,hone⟩
  · rintro hs e rfl
    exact hkept.2 hs ⟨hmanager,hone⟩

/-! ### A slice that is left running and comes to its end -/

def nativeWork : WorkFields where
  id := "w1"
  projectId := "p1"
  agentSessionId := some "s1"
  intent := "tidy up"
  estimatedUnits := 5

/-- A manager of one session and one epoch, whose dispatch is in this state. -/
def managerAnswers (state : AgentOperationState) : ∀ q, ExecutorAnswer q
  | .refresh => some (fullUsage "codex" 40 "quota_points")
  | .timestamp => "now"
  | .managerStore => true
  | .loadAgentSession sessionId => some (.ok ⟨sessionId,"codex"⟩)
  | .recover sessionId _ => some ⟨"e1","i1",sessionId,"codex"⟩
  | .dispatch _ _ _ _ => some ⟨"r1","d1","s1","e1","codex",state,none⟩
  | .run _ => none

def nativeExecutor : ProviderWorkExecutor := {}

/-- A cycle in which the dispatch of the manager is in this state. -/
def nativeCycle (state : AgentOperationState) (s : QuarkStore) : Except QuarkError Cycle.CycleResult × QuarkStore :=
  ((Cycle.runCycle (startsUpTo 1 le_rfl) true "codex").answering nativeExecutor.serve).perform (managerAnswers state) s

def nativeStore : QuarkStore := ((registerWork nativeWork).perform (fallingAnswers [] 0) .empty).2

/-- How many slices were reconciled and how many were started. -/
def countedSlices : Except QuarkError Cycle.CycleResult → ℕ × ℕ
  | .ok result => (result.reconcileResults.length,result.results.length)
  | .error _ => (0,0)

/-- The first cycle starts a slice and leaves it running; the second finds that it succeeded. -/
theorem results_persisted_reconciled : Operated (nativeCycle .running nativeStore).2 ∧
    ∃ result s', nativeCycle .succeeded (nativeCycle .running nativeStore).2 = (.ok result,s') ∧
    result.reconcileResults.length = 1 ∧ (s'.work.get? "w1").map (·.state) = some .completed ∧
    ∀ payload ∈ result.reconcileResults ++ result.results, payload.persistencePerformed = true := by
  obtain ⟨log₀,hregister,-⟩ := Prog.perform_solo (fallingAnswers [] 0) (registerWork nativeWork) .empty
  obtain ⟨log₁,hstart,-⟩ := Prog.perform_solo (managerAnswers .running)
    ((Cycle.runCycle (startsUpTo 1 le_rfl) true "codex").answering nativeExecutor.serve) nativeStore
  have hoperated : Operated (nativeCycle .running nativeStore).2 :=
    .cycled (startsUpTo 1 le_rfl) nativeExecutor true "codex" (.registered nativeWork .empty hregister) hstart
  refine ⟨hoperated,?_⟩
  obtain ⟨log₂,hreconcile,-⟩ := Prog.perform_solo (managerAnswers .succeeded)
    ((Cycle.runCycle (startsUpTo 1 le_rfl) true "codex").answering nativeExecutor.serve) (nativeCycle .running nativeStore).2
  have hcount : countedSlices (nativeCycle .succeeded (nativeCycle .running nativeStore).2).1 = (1,0) := by decide +kernel
  have hstate : ((nativeCycle .succeeded (nativeCycle .running nativeStore).2).2.work.get? "w1").map (·.state) = some .completed := by
    decide +kernel
  have hstored := (results_persisted rfl rfl hreconcile).1
  cases hok : nativeCycle .succeeded (nativeCycle .running nativeStore).2 with
  | mk outcome s' =>
    rw [hok] at hcount hstate
    cases outcome with
    | error e => cases hcount
    | ok result =>
      refine ⟨result,s',rfl,(Prod.ext_iff.mp hcount).1,hstate,hstored result ?_⟩
      exact congrArg Prod.fst hok

end Overseer.Quark
