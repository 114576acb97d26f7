import Overseer.Agent.HandoffGuarantees

/-! # Failover decisions are used once

Executing a failover evaluates the decision again, takes the fence, records the
execution and consumes the decision in one transaction. Whatever managers execute the
same decision at the same time, one of them gets its execution.
-/
namespace Overseer.Agent
open Overseer.Library
open Discipline

/-- The immutable fields of an execution. -/
structure SameExecution (e e' : FailoverExecution) : Prop where
  id : e.id = e'.id
  decisionId : e.decisionId = e'.decisionId
  instanceId : e.instanceId = e'.instanceId
  operationGeneration : e.operationGeneration = e'.operationGeneration
  operationOwnerRef : e.operationOwnerRef = e'.operationOwnerRef

theorem SameExecution.refl (e : FailoverExecution) : SameExecution e e := ⟨rfl,rfl,rfl,rfl,rfl⟩
theorem SameExecution.trans {e e' e'' : FailoverExecution} (h : SameExecution e e') (h' : SameExecution e' e'') :
    SameExecution e e'' := ⟨h.1.trans h'.1,h.2.trans h'.2,h.3.trans h'.3,h.4.trans h'.4,h.5.trans h'.5⟩

theorem SameExecution.symm {e e' : FailoverExecution} (h : SameExecution e e') : SameExecution e' e :=
  ⟨h.1.symm,h.2.symm,h.3.symm,h.4.symm,h.5.symm⟩

/-- Decisions are as they were, executions keep their identity and none is new. -/
structure FailoverKept (s s' : AgentStore) : Prop where
  decisions : s'.decisions = s.decisions
  executions : RowsKept SameExecution s.executions s'.executions
  noneNew : ∀ k, s.executions.get? k = none → s'.executions.get? k = none
  executionsFiled : Dict.Filed FailoverExecution.id s.executions → Dict.Filed FailoverExecution.id s'.executions
  fence : FenceOk s → FenceOk s'

instance : IsPreorder AgentStore FailoverKept where
  refl _ := ⟨rfl,.refl SameExecution.refl _,fun _ h => h,id,id⟩
  trans _ _ _ h h' := ⟨h'.1.trans h.1,h.2.trans SameExecution.trans h'.2,fun k hk => h'.3 k (h.3 k hk),
    fun hf => h'.4 (h.4 hf),fun hf => h'.5 (h.5 hf)⟩

structure FailoverOk (s : AgentStore) : Prop where
  fence : FenceOk s
  decisions : Dict.Filed FailoverDecision.id s.decisions
  executions : Dict.Filed FailoverExecution.id s.executions
  unique : ∀ k k' e e', s.executions.get? k = some e → s.executions.get? k' = some e' →
    e.decisionId = e'.decisionId → k = k'
  consumed : ∀ id d, s.decisions.get? id = some d →
    (d.consumedAt ≠ none ↔ ∃ k e, s.executions.get? k = some e ∧ e.decisionId = id)

/-- The fence of the execution was open in `s` and is its own in `s'`. -/
def FenceReserved (s s' : AgentStore) (e : FailoverExecution) : Prop :=
  (∀ row, s.operations.get? e.instanceId = some row → row.state = .opened) ∧
  ∃ row, s'.operations.get? e.instanceId = some row ∧ row.state = .fenced ∧
    row.generation = e.operationGeneration ∧ row.ownerToken = some e.operationOwnerRef

/-- Executions keep their identity; a new one comes with the fence reserved for it. -/
structure FailoverStep (s s' : AgentStore) : Prop where
  executions : RowsKept SameExecution s.executions s'.executions
  fence : ∀ k e, s'.executions.get? k = some e → s.executions.get? k = none → FenceReserved s s' e

/-- The calls that execute a failover. -/
def ManagerCall.executesFailover : ManagerCall → Prop
  | .executeFailover _ _ _ _ => True
  | _ => False

def failoverSystem : System AgentStore Held Answer AgentError Unit :=
  managerSystem ManagerCall.executesFailover fun _ _ _ => True

def failoverDiscipline : Discipline AgentStore Held Answer AgentError Unit where
  sys := failoverSystem
  ok := FailoverOk
  step := FailoverStep
  idle s := ⟨.refl SameExecution.refl _,fun k e h hn => by simp [hn] at h⟩

instance : Admits failoverDiscipline FailoverKept where
  admits s s' (hs : FailoverOk s) h := by
    have hback : ∀ k e', s'.executions.get? k = some e' →
        ∃ e, s.executions.get? k = some e ∧ SameExecution e e' := by
      intro k e' he'
      cases he : s.executions.get? k with
      | none =>
        rw [h.noneNew k he] at he'
        cases he'
      | some e =>
        obtain ⟨e'',he'',hsame⟩ := h.executions k e he
        rw [he'] at he''
        cases he''
        exact ⟨e,rfl,hsame⟩
    refine ⟨⟨h.executions,fun k e' he' hn => ?_⟩,h.fence hs.fence,h.decisions ▸ hs.decisions,h.executionsFiled hs.executions,
      fun k k' e e' he he' hd => ?_,fun id d hd => ?_⟩
    · rw [h.noneNew k hn] at he'
      cases he'
    · obtain ⟨e₁,he₁,hsame⟩ := hback k e he
      obtain ⟨e₂,he₂,hsame'⟩ := hback k' e' he'
      exact hs.unique k k' e₁ e₂ he₁ he₂ (hsame.decisionId.trans (hd.trans hsame'.decisionId.symm))
    · rw [h.decisions] at hd
      rw [hs.consumed id d hd]
      constructor
      · rintro ⟨k,e,he,hid⟩
        obtain ⟨e',he',hsame⟩ := h.executions k e he
        exact ⟨k,e',he',hsame.decisionId ▸ hid⟩
      · rintro ⟨k,e',he',hid⟩
        obtain ⟨e,he,hsame⟩ := hback k e' he'
        exact ⟨k,e,he,hsame.decisionId ▸ hid⟩

/-! ### The transactions of the handoff -/

theorem FailoverKept.of_eq {s s' : AgentStore} (hd : s'.decisions = s.decisions) (he : s'.executions = s.executions)
    (hf : FenceOk s → FenceOk s') : FailoverKept s s' :=
  ⟨hd,he ▸ .refl SameExecution.refl _,fun _ h => he ▸ h,fun h => he ▸ h,hf⟩

section Transactions
variable (cfg : Config) (p : AgentHandoffPackage) (t : AgentInstanceTransition) (outgoing incoming : DriverEpoch)
  (result : AgentDispatchResult)

instance (d : AgentDispatchRequest) : Tx.Keeps FailoverKept (saveAgentDispatch d : AgentTx Unit) := by
  refine ⟨fun s => (post_saveAgentDispatch d s).mono ?_⟩
  rintro _ _ ⟨rfl,-⟩
  exact .of_eq rfl rfl id

instance (ds : List AgentDispatchRequest) : Tx.Keeps FailoverKept (cancelEach ds : AgentTx Unit) := by
  induction ds with
  | nil => unfold cancelEach; infer_instance
  | cons d rest ih => unfold cancelEach; infer_instance

instance (r : AgentOperationReservation) : Tx.Keeps FailoverKept (cancelUnclaimed r : AgentTx Unit) := by
  unfold cancelUnclaimed inflight listAgentDispatches
  infer_instance

instance (r : AgentOperationReservation) : Tx.Keeps FailoverKept (cancelInflight r : AgentTx Unit) := by
  unfold cancelInflight inflight listAgentDispatches
  infer_instance

instance (failure : AgentErrorCategory) (invalid : InvalidState) (a b : Timestamp) :
    Tx.Keeps FailoverKept (failHandoffTx cfg p incoming result failure invalid a b) := by
  refine ⟨fun s => (post_failHandoffTx cfg p incoming result s failure invalid a b).mono ?_⟩
  rintro _ _ ⟨current,p',rfl,-,-,-,-,-,-,rfl⟩
  exact .of_eq rfl rfl id

instance (external : String) (a b : Timestamp) :
    Tx.Keeps FailoverKept (persistAcknowledgementTx cfg p incoming result external a b) := by
  refine ⟨fun s => (post_persistAcknowledgementTx cfg p incoming result s external a b).mono ?_⟩
  rintro _ _ ⟨current,session,-,-,-,-,-,-,-,rfl⟩
  exact .of_eq rfl rfl id

instance (a b c : Timestamp) : Tx.Keeps FailoverKept (promoteTx cfg p t outgoing incoming a b c) := by
  refine ⟨fun s => (post_promoteTx cfg p t outgoing incoming s a b c).mono ?_⟩
  rintro _ _ ⟨row,p',-,-,-,-,-,-,-,rfl⟩
  exact .of_eq rfl rfl fun hs => FenceOk.put (fun x row hx => hs x row hx) (by simp [released])

instance (x incomingProviderId reason by_ : String) (checkpoint : AgentCheckpoint) (incomingProvider : AgentProvider)
    (operation : AgentOperationReservation) (draws : HandoffDraws) : Tx.Keeps FailoverKept
      (beginHandoffTx cfg x outgoing checkpoint incomingProvider incomingProviderId reason by_ operation draws) := by
  refine ⟨fun s => (post_beginHandoffTx cfg x incomingProviderId outgoing checkpoint s incomingProvider reason by_
    operation draws).mono ?_⟩
  rintro r _ ⟨s₁,s₂,built,-,-,-,-,-,-,-,-,rfl,hsession,-,-,-,rfl⟩
  obtain ⟨d,rfl,-⟩ := hsession.sessions
  exact .of_eq rfl rfl id

end Transactions

/-- Moving an execution keeps its identity. -/
theorem post_transitionFailoverExecution (id : String) (expected state : FailoverExecutionState) (at_ : Timestamp)
    (reason ref : Option String) (s : AgentStore) :
    Tx.Post (transitionFailoverExecution id expected state at_ reason ref : AgentTx _) s fun updated s' =>
      ∃ current, s.executions.get? id = some current ∧ current.state = expected ∧ state ∈ expected.allowed ∧
        updated = { current with state, updatedAt := at_, reason, resumeResultRef := ref } ∧
        s' = { s with executions := s.executions.set id updated } := by
  simp only [transitionFailoverExecution,loadFailoverExecution,Tx.post_bind,post_loadAgentRecord,Tx.post_require,
    Tx.post_atomically,Tx.post_pure]
  intro current hrow hstate hallowed
  have hrow' : s.executions.get? id = some current := hrow
  simp only [Tx.Post,updateFailoverExecution,hrow',hstate,↓reduceIte]
  exact ⟨current,rfl,hstate,hallowed,rfl,trivial⟩

/-! ### The consuming transaction -/

theorem post_consumeFailoverDecision (id : String) (g : ℕ) (at_ : Timestamp) (s : AgentStore) :
    Tx.Post (consumeFailoverDecision id g at_ : AgentTx _) s fun _ s' =>
      ∃ current, s.decisions.get? id = some current ∧ current.consumedAt = none ∧
        s' = { s with decisions := s.decisions.set id { current with consumedAt := some at_ } } := by
  simp only [consumeFailoverDecision,loadFailoverDecision,Tx.post_bind,post_loadAgentRecord,Tx.post_require,
    Tx.post_atomically,Tx.post_pure]
  intro current hrow hnone _
  have hrow' : s.decisions.get? id = some current := hrow
  simp only [Tx.Post,updateFailoverDecision,hrow',hnone,↓reduceIte]
  exact ⟨current,rfl,hnone,rfl⟩

/-- The fence, the execution and the consumption of one decision, committed together. -/
structure Consumes (s s' : AgentStore) (d : FailoverDecision) (e : FailoverExecution) : Prop where
  row : s.decisions.get? d.id = some d
  unconsumed : d.consumedAt = none
  decisions : ∃ at_, s'.decisions = s.decisions.set d.id { d with consumedAt := some at_ }
  executions : s'.executions = s.executions.set e.id e
  saves : executionTable.Saves s e
  decisionId : e.decisionId = d.id
  fence : FenceReserved s s' e
  fenceOk : FenceOk s'

theorem post_reserveFailoverTx (cfg : Config) (x : String) (original : FailoverDecision) (draws : FailoverDraws)
    (s : AgentStore) (hs : FenceOk s) : Tx.Post (reserveFailoverTx cfg x original draws) s fun r s' =>
      Consumes s s' original r.2 := by
  simp only [reserveFailoverTx,loadFailoverDecision,saveFailoverExecution,Tx.post_bind,post_loadAgentRecord,
    Tx.post_require]
  rintro current hrow rfl
  refine Tx.Reads.post fun reevaluated _ => Tx.post_rescue ?_ fun e => ?_
  · refine (post_reserve x draws.ownerToken draws.ensuredAt draws.reservedAt s hs).mono ?_
    obtain ⟨operations,hop⟩ := ensureOperation_eq x s draws.ensuredAt
    rw [hop]
    rintro o s₁ ⟨hx,hstate,htoken,rfl,hok,hopen,-⟩ _
    refine Tx.Reads.post fun epoch => Tx.Reads.post fun _ => ?_
    refine (post_saveAgentRecord executionTable _ _).mono ?_
    rintro _ _ ⟨rfl,hsaves⟩
    refine (post_consumeFailoverDecision _ _ _ _).mono ?_
    rintro _ _ ⟨current',hrow',hnone,rfl⟩
    obtain rfl : current' = current := Option.some.inj (hrow'.symm.trans hrow)
    exact {
      row := hrow, unconsumed := hnone, decisions := ⟨_,rfl⟩, executions := rfl
      saves := ⟨hsaves.1,hsaves.2,hsaves.3⟩, decisionId := rfl
      fence := ⟨fun row h => (hopen row h).1,_,(Dict.get?_set ..).trans (if_pos hx.symm),hstate,rfl,htoken⟩
      fenceOk := hok }
  · split <;> trivial

/-- The first execution of a decision keeps the records. -/
theorem Consumes.step {s s' : AgentStore} {d : FailoverDecision} {e : FailoverExecution} (h : Consumes s s' d e)
    (hs : FailoverOk s) : FailoverStep s s' ∧ FailoverOk s' := by
  have hfirst : ∀ k e', s.executions.get? k = some e' → e'.decisionId ≠ d.id := by
    intro k e' he' hid
    exact (hs.consumed d.id d h.row).mpr ⟨k,e',he',hid⟩ h.unconsumed
  -- the id is new: a row under it would have to be of this decision
  have hfree : s.executions.get? e.id = none := by
    by_contra hne
    obtain ⟨e',he'⟩ := Option.ne_none_iff_exists'.mp hne
    have hid := h.saves.identity e' he'
    simp only [executionTable,decide_eq_true_eq] at hid
    exact hfirst _ e' he' (hid.2.1.trans h.decisionId)
  have hget : ∀ k e', s'.executions.get? k = some e' → k = e.id ∧ e' = e ∨ k ≠ e.id ∧ s.executions.get? k = some e' := by
    intro k e' he'
    rw [h.executions,Dict.get?_set] at he'
    split at he'
    · next hk => exact .inl ⟨hk,(Option.some.inj he').symm⟩
    · next hk => exact .inr ⟨hk,he'⟩
  obtain ⟨at_,hdecisions⟩ := h.decisions
  refine ⟨⟨?_,fun k e' he' hn => ?_⟩,h.fenceOk,?_,h.executions ▸ hs.executions.set e,fun k k' e₁ e₂ h₁ h₂ hid => ?_,
    fun id d' hd' => ?_⟩
  · rw [h.executions]
    refine .set SameExecution.refl fun e' he' => ?_
    rw [hfree] at he'
    cases he'
  · rcases hget k e' he' with ⟨-,rfl⟩ | ⟨-,he'⟩
    · exact h.fence
    · rw [hn] at he'
      cases he'
  · rw [hdecisions]
    exact hs.decisions.set { d with consumedAt := some at_ }
  · rcases hget k e₁ h₁ with ⟨rfl,rfl⟩ | ⟨-,h₁⟩ <;> rcases hget k' e₂ h₂ with ⟨rfl,rfl⟩ | ⟨-,h₂⟩
    · rfl
    · exact absurd (hid.symm.trans h.decisionId) (hfirst k' e₂ h₂)
    · exact absurd (hid.trans h.decisionId) (hfirst k e₁ h₁)
    · exact hs.unique k k' e₁ e₂ h₁ h₂ hid
  · have hown : s'.executions.get? e.id = some e := by rw [h.executions,Dict.get?_set,if_pos rfl]
    rw [hdecisions,Dict.get?_set] at hd'
    split at hd'
    · next hid =>
      cases hd'
      exact ⟨fun _ => ⟨e.id,e,hown,h.decisionId.trans hid.symm⟩,fun _ => Option.some_ne_none at_⟩
    · next hid =>
      rw [hs.consumed id d' hd']
      constructor
      · rintro ⟨k,e',he',hdid⟩
        refine ⟨k,e',?_,hdid⟩
        rw [h.executions,Dict.get?_set,if_neg]
        · exact he'
        · rintro rfl
          rw [hfree] at he'
          cases he'
      · rintro ⟨k,e',he',hdid⟩
        rcases hget k e' he' with ⟨-,rfl⟩ | ⟨-,he'⟩
        · exact absurd (hdid.symm.trans h.decisionId) hid
        · exact ⟨k,e',he',hdid⟩

/-! ### The programs -/

section Programs
variable (cfg : Config) {u : AgentStore}

theorem after_executions {s : AgentStore} (h : failoverDiscipline.After u s) :
    RowsKept SameExecution u.executions s.executions := by
  refine h.lift (L := fun s s' => RowsKept SameExecution s.executions s'.executions)
    (fun _ => .refl SameExecution.refl _) ?_ fun _ _ _ h => h.executions
  intro a b c h₁ h₂
  exact RowsKept.trans SameExecution.trans h₁ h₂

instance (r : AgentOperationReservation) : failoverDiscipline.Sound (cancelUnclaimed r) :=
  inferInstanceAs (failoverDiscipline.Sound (Prog.transaction default (cancelUnclaimed r : AgentTx Unit)))

instance (r : AgentOperationReservation) : failoverDiscipline.Sound (cancelInflight r) :=
  inferInstanceAs (failoverDiscipline.Sound (Prog.transaction default (cancelInflight r : AgentTx Unit)))

instance (r : AgentOperationReservation) (driver : AgentProvider) (session : AgentSession) :
    failoverDiscipline.Sound (cancelAndVerify r driver session) := by
  unfold cancelAndVerify
  infer_instance

instance (r : AgentOperationReservation) (driver : AgentProvider) (session : AgentSession) :
    failoverDiscipline.Sound (drain r driver session) := by
  unfold drain
  infer_instance

/-- The update of an execution that was loaded before. -/
instance (id : String) (expected state : FailoverExecutionState) (at_ : Timestamp) (reason ref : Option String) :
    failoverDiscipline.Sound (transitionFailoverExecution id expected state at_ reason ref) := by
  refine ⟨fun u => from_load_bind executionTable fun s₁ current _ (hok₁ : FailoverOk s₁) hcurrent => ?_⟩
  refine from_require_bind fun _ => from_require_bind fun _ => ?_
  refine from_bind (M := fun _ _ => True) (from_transaction fun s hs (hok : FailoverOk s) a s' hrun _ => ?_)
    fun _ _ _ _ => trivial
  obtain ⟨row,hrow,hsame⟩ := after_executions hs _ _ hcurrent
  have hid : current.id = id := hok₁.executions _ _ hcurrent
  have hkept : FailoverKept s s' := by
    unfold updateFailoverExecution at hrun
    rw [show s.executions.get? id = some row from hrow] at hrun
    dsimp only at hrun
    split at hrun
    · cases hrun
      refine ⟨rfl,.set SameExecution.refl fun v hv => ?_,fun k hk => ?_,fun hfiled => ?_,fun h => h⟩
      · obtain rfl : row = v := Option.some.inj (hrow.symm.trans hv)
        exact ⟨hsame.id.symm,hsame.decisionId.symm,hsame.instanceId.symm,hsame.operationGeneration.symm,
          hsame.operationOwnerRef.symm⟩
      · refine (Dict.get?_set ..).trans ((if_neg ?_).trans hk)
        rintro rfl
        rw [hrow] at hk
        cases hk
      · intro k v hv
        have hv' := (Dict.get?_set ..).symm.trans hv
        split at hv'
        · next hk =>
          cases hv'
          exact hid.trans hk.symm
        · exact hfiled k v hv'
    · cases hrun
  obtain ⟨hstep,hok'⟩ := (inferInstance : Admits failoverDiscipline FailoverKept).admits s s' hok hkept
  exact ⟨hstep,hok',trivial⟩

instance (failover : Option FailoverContext) (a b : FailoverExecutionState) (reason : Option String) :
    failoverDiscipline.Sound (moveExecution failover a b reason) := by
  unfold moveExecution
  cases failover with
  | none => infer_instance
  | some failover => infer_instance

instance (x : String) (epoch : DriverEpoch) : failoverDiscipline.Sound (collectCheckpoint cfg x epoch) := by
  unfold collectCheckpoint
  infer_instance

instance (x : String) (outgoing : DriverEpoch) (failover : Option FailoverContext) :
    failoverDiscipline.Sound (checkpointForHandoff cfg x outgoing failover) := by
  unfold checkpointForHandoff loadAgentCheckpoint
  cases failover with
  | none => infer_instance
  | some failover => infer_instance

instance (p : AgentHandoffPackage) (incoming : DriverEpoch) (providerId : String)
    (answer : Option AgentDispatchResult) : failoverDiscipline.Sound (importAnswer p incoming providerId answer) := by
  unfold importAnswer
  cases answer with
  | none => infer_instance
  | some answer => infer_instance

instance : failoverDiscipline.Sound drawHandoff := by
  unfold drawHandoff drawEpoch
  infer_instance

instance : failoverDiscipline.Sound drawFailover := by
  unfold drawFailover
  infer_instance

instance (packageId : String) : failoverDiscipline.Sound (promoteAcknowledgedHandoff cfg packageId) := by
  unfold promoteAcknowledgedHandoff loadAgentHandoff loadAgentDispatchResult
  refine .bind inferInstance fun package => .bind inferInstance fun _ => .bind inferInstance fun transition => ?_
  refine .bind inferInstance fun _ => .bind inferInstance fun incoming => .bind inferInstance fun outgoing => ?_
  refine .bind inferInstance fun session => .bind inferInstance fun external => .bind inferInstance fun resultId => ?_
  infer_instance

instance (p : AgentHandoffPackage) (outgoing incoming : DriverEpoch) (result : AgentDispatchResult)
    (invalid : InvalidState) : failoverDiscipline.Sound (completeHandoff cfg p outgoing incoming result invalid) := by
  unfold completeHandoff
  cases handoffFailure p incoming result with
  | none => infer_instance
  | some failure => infer_instance

instance {α : Type} (p : AgentProg α) (kind : ErrorKind) (as : String → AgentError) [failoverDiscipline.Sound p] :
    failoverDiscipline.Sound (reraise kind as p) := by
  unfold reraise
  infer_instance

instance (x incomingProviderId by_ reason : String) (outgoing : DriverEpoch) (operation : AgentOperationReservation)
    (failover : Option FailoverContext) : failoverDiscipline.Sound
      (handoffBehindFence cfg x incomingProviderId by_ reason outgoing operation failover) := by
  unfold handoffBehindFence
  refine ⟨fun u => from_sound_bind fun outgoingDriver u₁ _ => from_sound_bind fun _ u₂ _ => ?_⟩
  refine from_sound_bind fun _ u₃ _ => from_sound_bind fun checkpoint u₄ _ => ?_
  refine from_sound_bind fun incomingDriver u₅ _ => from_sound_bind fun incomingProfile u₆ _ => ?_
  refine from_sound_bind fun _ u₇ _ => from_sound_bind fun draws u₈ _ => from_sound_bind fun r u₉ _ => ?_
  obtain ⟨p,incoming⟩ := r
  exact (inferInstance : failoverDiscipline.Sound _).sound u₉

/-- A failover comes with its fence reserved. -/
instance (x incomingProviderId by_ approvalId operation reason : String) (context : FailoverContext) :
    failoverDiscipline.Sound
      (performHandoff cfg x incomingProviderId by_ approvalId operation reason (some context)) := by
  unfold performHandoff
  refine .bind inferInstance fun _ => .bind inferInstance fun _ => .bind inferInstance fun outgoing => ?_
  infer_instance

instance (x decisionId by_ approvalId : String) :
    failoverDiscipline.Sound (executeFailover cfg x decisionId by_ approvalId) := by
  unfold executeFailover loadFailoverDecision loadFailoverPolicy loadAgentCheckpoint
  refine ⟨fun u => from_require_bind fun _ => from_sound_bind fun original u₁ _ => ?_⟩
  refine from_require_bind fun _ => from_require_bind fun _ => from_sound_bind fun now u₂ _ => ?_
  refine from_require_bind fun _ => from_sound_bind fun _ u₃ _ => from_sound_bind fun draws u₄ _ => ?_
  refine from_bind (M := fun _ _ => True) (from_transaction fun s _ (hok : FailoverOk s) r s' hrun _ => ?_) ?_
  · obtain ⟨hstep,hok'⟩ := ((post_reserveFailoverTx cfg x original draws s hok.fence).of_ok hrun).step hok
    exact ⟨hstep,hok',trivial⟩
  · rintro ⟨reservation,execution⟩ u₅ - -
    exact (inferInstance : failoverDiscipline.Sound _).sound u₅

theorem untilFirst_executeFailover (x decisionId by_ approvalId : String) :
    (executeFailover cfg x decisionId by_ approvalId).UntilFirst fun s s' =>
      FenceOk s → ∃ d e, Consumes s s' d e := by
  have hreads : ∀ {α : Type} (p : AgentProg α) [Reads p], p.Steps fun s _ s' => s' = s := fun p hp => hp.idles
  have hdraws : drawFailover.Steps fun s _ s' => s' = s := fun _ _ _ _ _ _ _ _ _ _ => trivial
  unfold executeFailover loadFailoverDecision
  refine Prog.untilFirst_bind (hreads _) fun _ => Prog.untilFirst_bind (hreads _) fun original => ?_
  refine Prog.untilFirst_bind (hreads _) fun _ => Prog.untilFirst_bind (hreads _) fun _ => ?_
  refine Prog.untilFirst_bind (hreads _) fun now => Prog.untilFirst_bind (hreads _) fun _ => ?_
  refine Prog.untilFirst_bind (hreads _) fun _ => Prog.untilFirst_bind hdraws fun draws => ?_
  refine Prog.untilFirst_transaction_bind fun s => ?_
  by_cases hs : FenceOk s
  · exact (post_reserveFailoverTx cfg x original draws s hs).mono fun r s' h _ => ⟨original,r.2,h⟩
  · unfold Tx.Post
    split
    · exact fun h => absurd h hs
    · trivial

end Programs

/-! ### The runs -/

/-- Failover decisions are used once, whatever managers execute them. One execution ever
exists for a decision, the decision is consumed iff it exists, it comes with the fence
reserved in the same commit, whose generation and owner it keeps, and a call that has not
consumed its decision has written nothing. -/
theorem failover_single_use {s₀ : AgentStore} (h₀ : FailoverOk s₀) {w : ManagerWorld}
    (h : World.Reachable failoverSystem (World.init s₀) w) :
    (∀ s ∈ w.trace.history, ∀ s' ∈ w.trace.history, ∀ k k' e e', s.executions.get? k = some e →
      s'.executions.get? k' = some e' → e.decisionId = e'.decisionId → k = k' ∧ SameExecution e e') ∧
    (∀ s ∈ w.trace.history, ∀ id d, s.decisions.get? id = some d →
      (d.consumedAt ≠ none ↔ ∃ k e, s.executions.get? k = some e ∧ e.decisionId = id)) ∧
    List.IsChain (fun s' s => ∀ k e, s'.executions.get? k = some e → s.executions.get? k = none →
      FenceReserved s s' e) w.trace.history ∧
    (∀ s ∈ w.trace.history, FenceOk s) ∧
    (∀ cfg x decisionId by_ approvalId, (executeFailover cfg x decisionId by_ approvalId).UntilFirst fun s s' =>
      FenceOk s → ∃ d e, Consumes s s' d e) := by
  have hstart : ∀ p, failoverDiscipline.sys.start p → failoverDiscipline.Sound p := by
    rintro p ⟨cfg,c,hc,rfl⟩
    cases c with
    | executeFailover x decisionId by_ approvalId =>
      unfold ManagerCall.program dropResult
      infer_instance
    | _ => cases hc
  obtain ⟨hok,hchain⟩ := h.disciplined failoverDiscipline hstart h₀
  refine ⟨?_,fun s hs => (hok s hs).consumed,hchain.imp fun _ _ hstep => hstep.fence,fun s hs => (hok s hs).fence,
    untilFirst_executeFailover⟩
  have hkept : w.trace.history.Pairwise fun s' s => RowsKept SameExecution s.executions s'.executions := by
    refine World.pairwise_of_chain hchain (fun _ _ hstep => hstep.executions) ?_
    intro a b c h₁ h₂
    exact RowsKept.trans SameExecution.trans h₁ h₂
  let OneExecution (s s' : AgentStore) : Prop := FailoverOk s → FailoverOk s' → ∀ k k' e e',
    s.executions.get? k = some e → s'.executions.get? k' = some e' → e.decisionId = e'.decisionId →
      k = k' ∧ SameExecution e e'
  have hsymm : Std.Symm OneExecution := by
    refine ⟨fun s s' hone hs' hs k k' e e' he he' hd => ?_⟩
    obtain ⟨hk,hsame⟩ := hone hs hs' k' k e' e he' he hd.symm
    exact ⟨hk.symm,hsame.symm⟩
  have hone : w.trace.history.Pairwise OneExecution := by
    refine hkept.imp fun {s' s} hrows hs' _ k k' e e' he he' hd => ?_
    obtain ⟨e'',he'',hsame⟩ := hrows k' e' he'
    obtain rfl := hs'.unique k k' e e'' he he'' (hd.trans hsame.decisionId)
    obtain rfl : e = e'' := Option.some.inj (he.symm.trans he'')
    exact ⟨rfl,hsame.symm⟩
  intro s hs s' hs'
  refine hone.forall_of_forall (fun s _ hs _ k k' e e' he he' hd => ?_) hs hs' (hok s hs) (hok s' hs')
  obtain rfl := hs.unique k k' e e' he he' hd
  rw [he] at he'
  cases he'
  exact ⟨rfl,.refl e⟩

/-! ### Two managers and one decision -/

def failoverConfig : Config := { relayConfig with
  providers := dockConfig.providers.set "claude" { relayProvider with executableAllowlist := ["claude"] } }

def failoverDecision : FailoverDecision where
  id := "decision.1"
  instanceId := "dock"
  outgoingEpochId := "epoch.1"
  outgoingProviderId := "codex"
  operationGeneration := 1
  policyId := some "policy.1"
  incomingProviderId := some "claude"
  allowed := true
  blockers := []
  healthEvidenceIds := ["health.1","health.2"]
  riskEvidenceIds := []
  evidenceTimestamps := [.instant 0,.instant 1,.instant 1,.instant 1]
  readinessEvidenceRefs := ["readiness.claude./bin/claude"]
  checkpointId := some "checkpoint.1"
  evaluatedAt := 2
  expiresAt := 60000002

/-- The first provider has failed, the second is healthy, and the decision is allowed. -/
def failoverStore : AgentStore := { dockStore with
  policies := Dict.empty.set "policy.1" ⟨"policy.1","dock",true,some "approval.1",some 0,1,300,["claude"],60⟩
  healthObservations := (Dict.empty.set "health.1" ⟨"health.1","dock","codex",.failed,1,"outage"⟩).set
    "health.2" ⟨"health.2","dock","claude",.healthy,1,"probe"⟩
  checkpoints := Dict.empty.set "checkpoint.1" {
    id := "checkpoint.1", instanceId := "dock", sessionId := "session.1", driverEpochId := "epoch.1"
    createdAt := some (.instant 1), evidence := Dict.empty.set "status" (.str "ready") }
  decisions := Dict.empty.set "decision.1" failoverDecision }

theorem failoverStore_ok : FailoverOk failoverStore where
  fence x row hx := by simp [failoverStore,dockStore] at hx
  decisions := (Dict.Filed.empty FailoverDecision.id).set failoverDecision
  executions := Dict.Filed.empty _
  unique k k' e e' he := by simp [failoverStore,dockStore] at he
  consumed id d hd := by
    simp only [failoverStore,Dict.get?_set] at hd
    split at hd
    · cases hd
      simp [failoverDecision,failoverStore,dockStore]
    · simp at hd

def failoverAnswers (now : Timestamp) (suffix : String) : (q : AgentQuery) → Answer q
  | .readiness => fun name => some ("/bin/" ++ name)
  | q => plainAnswers now suffix q

def failoverCall : ManagerCall := .executeFailover "dock" "decision.1" "operator" "approval.2"

/-- Both managers have loaded the decision; the second consumes it, the first is refused. -/
def failoverRace : List (Move AgentStore Held Answer AgentError Unit) :=
  [.start (failoverCall.program failoverConfig)] ++ World.steps 0 13 (failoverAnswers 3 "a") ++
  [.start (failoverCall.program failoverConfig)] ++ World.steps 1 14 (failoverAnswers 3 "b") ++
  World.steps 0 1 (failoverAnswers 4 "c")

theorem failover_single_use_race : ∃ w : ManagerWorld,
    w.trace.store.executions.keys = ["failover-execution.b"] ∧
    ∀ s ∈ w.trace.history, ∀ s' ∈ w.trace.history, ∀ k k' e e', s.executions.get? k = some e →
      s'.executions.get? k' = some e' → e.decisionId = e'.decisionId → k = k' ∧ SameExecution e e' := by
  have hcall : ∀ mv ∈ [Move.start (failoverCall.program failoverConfig)], mv.Allowed failoverSystem :=
    World.allowed_start failoverSystem ⟨failoverConfig,failoverCall,trivial,rfl⟩
  have hallowed : ∀ mv ∈ failoverRace, mv.Allowed failoverSystem := by
    simp only [failoverRace,List.forall_mem_append]
    exact ⟨⟨⟨⟨hcall,World.allowed_steps _ _ _⟩,hcall⟩,World.allowed_steps _ _ _⟩,World.allowed_steps _ _ _⟩
  have hplay : ((World.init failoverStore).play validAnswer idsFresh failoverRace).any (fun w =>
      decide (w.trace.store.executions.keys = ["failover-execution.b"])) = true := by decide +kernel
  obtain ⟨w,hw,hc⟩ := World.exists_reachable _ _ _ (fun _ _ _ h => h) freshIds_of_idsFresh hallowed hplay
  exact ⟨w,of_decide_eq_true hc,(failover_single_use failoverStore_ok hw).1⟩

end Overseer.Agent
