import Overseer.Agent.Manager
import Overseer.Agent.Fence
import Overseer.Agent.Tables

/-! # What the transactions of a handoff write

One lemma per transaction: the store a commit leaves, and what the statements
checked on the way.
-/
namespace Overseer.Agent
open Overseer.Library

/-- The row of the handoff of `t` may move to `t`. -/
structure TransitionMoves (s : AgentStore) (t : AgentInstanceTransition) : Prop where
  row : ∃ current, s.transitions.get? t.instanceId = some current ∧ current.handoffId = t.handoffId ∧
    current.outgoingEpochId = t.outgoingEpochId ∧ current.incomingEpochId = t.incomingEpochId ∧
    t.state ∈ current.state.successors

theorem post_transitionMoves (t : AgentInstanceTransition) (s : AgentStore) :
    Tx.Post (saveAgentTransition t : AgentTx Unit) s fun _ s' => s' = s.putTransition t ∧ TransitionMoves s t := by
  rw [post_saveAgentTransition]
  exact fun current hrow hid hout hin hsucc => ⟨rfl,⟨current,hrow,hid,hout,hin,hsucc⟩⟩

/-- An epoch as `_close_epoch` stores it. -/
def closedEpoch (e : DriverEpoch) (replacementEpochId : String) (closedAt : Timestamp) : DriverEpoch :=
  { e with state := .succeeded, closedAt := some closedAt, replacementEpochId := some replacementEpochId }

theorem post_closeEpoch (e : DriverEpoch) (replacement : String) (at_ : Timestamp) (s : AgentStore) :
    Tx.Post (closeEpoch e replacement at_ : AgentTx _) s fun _ s' =>
      s' = epochTable.put s (closedEpoch e replacement at_) ∧ epochTable.Saves s (closedEpoch e replacement at_) := by
  simp only [closeEpoch,Tx.post_bind,Tx.post_pure]
  exact post_saveDriverEpoch _ s

@[simp] theorem post_operationForPackage (p : AgentHandoffPackage) (s : AgentStore)
    (Q : AgentOperationReservation → AgentStore → Prop) : Tx.Post (operationForPackage p : AgentTx _) s Q ↔
      ∀ row, s.operations.get? p.instanceId = some row → row.payload.state = .fenced →
        evidenceValue p.evidence "operation_generation" = some (.int row.payload.generation) →
        evidenceValue p.evidence "operation_owner_ref" = row.payload.ownerToken.map .str → Q row.payload s := by
  simp [operationForPackage]

section Specs
variable (cfg : Config) (p : AgentHandoffPackage) (t : AgentInstanceTransition) (outgoing incoming : DriverEpoch)
  (result : AgentDispatchResult) (s : AgentStore)

/-- The package with evidence added. -/
def AgentHandoffPackage.noted (p : AgentHandoffPackage) (status : String) (more : List (String × Json) := []) :
    AgentHandoffPackage := { p with evidence := (p.evidence.set "status" (.str status)).merge more }

theorem post_failHandoffTx (failure : AgentErrorCategory) (invalid : InvalidState) (closedAt updatedAt : Timestamp) :
    Tx.Post (failHandoffTx cfg p incoming result failure invalid closedAt updatedAt) s fun failed s' =>
      ∃ current p', p' = signedPackage cfg.hmac (p.noted invalid.value [("reason",.str failure.value)]) ∧
        failed = failedEpoch incoming failure closedAt invalid ∧
        resultTable.Saves s (durableResult result) ∧ epochTable.Saves s failed ∧ handoffTable.Saves s p' ∧
        s.transitions.get? p.instanceId = some current ∧
        TransitionMoves s { current with state := .failed, updatedAt, reason := some failure.value } ∧
        s' = (handoffTable.put (epochTable.put (resultTable.put s (durableResult result)) failed) p').putTransition
          { current with state := .failed, updatedAt, reason := some failure.value } := by
  simp only [failHandoffTx,saveAgentDispatchResult,Tx.post_bind]
  refine (post_saveAgentRecord resultTable _ s).mono ?_
  rintro _ _ ⟨rfl,hresult⟩
  refine (post_saveDriverEpoch _ _).mono ?_
  rintro _ _ ⟨rfl,hepoch⟩
  refine (post_signAndSaveAgentHandoff _ _ _).mono ?_
  rintro _ _ ⟨rfl,rfl,hpackage⟩
  rw [post_loadAgentTransition]
  intro current hcurrent
  refine (post_transitionMoves _ _).mono ?_
  rintro _ _ ⟨rfl,hmove⟩
  exact ⟨current,_,rfl,rfl,hresult,⟨hepoch.1,hepoch.2,hepoch.3⟩,⟨hpackage.1,hpackage.2,hpackage.3⟩,hcurrent,
    ⟨hmove.1⟩,rfl⟩

theorem post_persistAcknowledgementTx (external : String) (observedAt updatedAt : Timestamp) :
    Tx.Post (persistAcknowledgementTx cfg p incoming result external observedAt updatedAt) s fun p' s' =>
      ∃ current session, p' = signedPackage cfg.hmac (p.noted "import_acknowledged"
          [("import_result_id",.str result.id),("incoming_external_session_id",.str external)]) ∧
        resultTable.Saves s (durableResult result) ∧
        s.sessions.get? incoming.sessionId = some session ∧
        (∀ e, s.sessions.get? session.id = some e → e.externalSessionId ≠ none →
          e.externalSessionId = some external) ∧ handoffTable.Saves s p' ∧
        s.transitions.get? p.instanceId = some current ∧
        TransitionMoves s { current with state := .importAcknowledged, updatedAt, reason := none } ∧
        s' = (handoffTable.put (sessionTable.put (resultTable.put s (durableResult result))
          { session with externalSessionId := some external, lastObservedAt := some (.instant observedAt) })
          p').putTransition { current with state := .importAcknowledged, updatedAt, reason := none } := by
  simp only [persistAcknowledgementTx,saveAgentDispatchResult,loadAgentSession,Tx.post_bind]
  refine (post_saveAgentRecord resultTable _ s).mono ?_
  rintro _ _ ⟨rfl,hresult⟩
  rw [post_loadAgentRecord]
  intro session hsession
  refine (post_saveAgentSession _ _).mono ?_
  rintro _ _ ⟨rfl,-,hext⟩
  refine (post_signAndSaveAgentHandoff _ _ _).mono ?_
  rintro _ _ ⟨rfl,rfl,hpackage⟩
  rw [post_loadAgentTransition]
  intro current hcurrent
  refine (post_transitionMoves _ _).mono ?_
  rintro _ _ ⟨rfl,hmove⟩
  exact ⟨current,session,rfl,hresult,hsession,fun e he hne => (hext e he hne).symm,
    ⟨hpackage.1,hpackage.2,hpackage.3⟩,hcurrent,⟨hmove.1⟩,rfl⟩

theorem post_promoteTx (closedAt updatedAt releasedAt : Timestamp) :
    Tx.Post (promoteTx cfg p t outgoing incoming closedAt updatedAt releasedAt) s fun running s' =>
      ∃ row p', p' = signedPackage cfg.hmac (p.noted "acknowledged") ∧ running = { incoming with state := .running } ∧
        handoffTable.Saves s p' ∧ epochTable.Saves s (closedEpoch outgoing incoming.id closedAt) ∧
        epochTable.Saves (epochTable.put s (closedEpoch outgoing incoming.id closedAt)) running ∧
        TransitionMoves s { t with state := .completed, updatedAt, reason := none } ∧
        s.operations.get? p.instanceId = some row ∧
        s' = ((epochTable.put (epochTable.put (handoffTable.put s p') (closedEpoch outgoing incoming.id closedAt))
          running).putTransition { t with state := .completed, updatedAt, reason := none }).putOperation
            (released row.payload releasedAt) := by
  simp only [promoteTx,Tx.post_bind]
  refine (post_signAndSaveAgentHandoff _ _ _).mono ?_
  rintro _ _ ⟨rfl,rfl,hpackage⟩
  refine (post_closeEpoch _ _ _ _).mono ?_
  rintro _ _ ⟨rfl,hout⟩
  refine (post_saveDriverEpoch _ _).mono ?_
  rintro _ _ ⟨rfl,hin⟩
  refine (post_transitionMoves _ _).mono ?_
  rintro _ _ ⟨rfl,hmove⟩
  rw [post_operationForPackage]
  intro row hrow _ _ _
  refine (post_release _ _ _).mono ?_
  rintro _ _ ⟨-,-,rfl⟩
  exact ⟨row,_,rfl,rfl,hpackage,⟨hout.1,hout.2,hout.3⟩,⟨hin.1,hin.2,hin.3⟩,⟨hmove.1⟩,hrow,rfl⟩

theorem post_reconcileTx (updatedAt : Timestamp) :
    Tx.Post (reconcileTx cfg p t updatedAt) s fun p' s' =>
      p' = signedPackage cfg.hmac (p.noted "reconciling") ∧ handoffTable.Saves s p' ∧
        TransitionMoves s { t with state := .reconciling, updatedAt, reason := none } ∧
        s' = handoffTable.put (s.putTransition { t with state := .reconciling, updatedAt, reason := none }) p' := by
  simp only [reconcileTx,Tx.post_bind]
  refine (post_transitionMoves _ _).mono ?_
  rintro _ _ ⟨rfl,hmove⟩
  refine (post_signAndSaveAgentHandoff _ _ _).mono ?_
  rintro _ _ ⟨rfl,rfl,hpackage⟩
  exact ⟨rfl,⟨hpackage.1,hpackage.2,hpackage.3⟩,hmove,rfl⟩

/-- An incoming epoch whose cancellation was not verified. -/
def blockedEpoch (incoming : DriverEpoch) : DriverEpoch :=
  { incoming with state := .blocked, reason := some "rollback_cancel_unverified" }

theorem post_blockRollbackTx (updatedAt : Timestamp) :
    Tx.Post (blockRollbackTx cfg p t incoming updatedAt) s fun _ s' =>
      ∃ p', p' = signedPackage cfg.hmac (p.noted "rollback_blocked" [("reason",.str "incoming_cancel_unverified")]) ∧
        handoffTable.Saves s p' ∧ epochTable.Saves s (blockedEpoch incoming) ∧
        (t.state = .failed ∧ s' = handoffTable.put (epochTable.put s (blockedEpoch incoming)) p' ∨
          TransitionMoves s { t with state := .failed, updatedAt, reason := some "incoming_cancel_unverified" } ∧
          s' = (handoffTable.put (epochTable.put s (blockedEpoch incoming)) p').putTransition
            { t with state := .failed, updatedAt, reason := some "incoming_cancel_unverified" }) := by
  simp only [blockRollbackTx,Tx.post_bind]
  refine (post_saveDriverEpoch _ _).mono ?_
  rintro _ _ ⟨rfl,hepoch⟩
  refine (post_signAndSaveAgentHandoff _ _ _).mono ?_
  rintro _ _ ⟨rfl,rfl,hpackage⟩
  rw [Tx.post_ite,Tx.post_bind]
  constructor
  · intro _
    refine (post_transitionMoves _ _).mono ?_
    rintro _ _ ⟨rfl,hmove⟩
    exact ⟨_,rfl,⟨hpackage.1,hpackage.2,hpackage.3⟩,hepoch,.inr ⟨⟨hmove.1⟩,rfl⟩⟩
  · intro hfailed
    exact ⟨_,rfl,⟨hpackage.1,hpackage.2,hpackage.3⟩,hepoch,.inl ⟨not_not.mp hfailed,rfl⟩⟩

/-- The epochs a rollback leaves: the incoming one cancelled, unless it is closed already. -/
def cancelledEpoch (incoming : DriverEpoch) (closedAt : Timestamp) : DriverEpoch :=
  { incoming with state := .cancelled, closedAt := some closedAt, reason := some "handoff_rolled_back" }

def resumedEpoch (outgoing : DriverEpoch) : DriverEpoch :=
  { outgoing with state := .running, reason := some "handoff_rolled_back" }

/-- The part of a rollback after the incoming epoch. -/
theorem post_rollbackTx_resume (operation : AgentOperationReservation) (updatedAt releasedAt : Timestamp) :
    Tx.Post (do
      saveDriverEpoch (resumedEpoch outgoing)
      let _ ← signAndSaveAgentHandoff cfg.hmac (p.noted "rolled_back")
      saveAgentTransition { t with state := .rolledBack, updatedAt, reason := some "operator_rollback" }
      let _ ← release operation releasedAt
      return resumedEpoch outgoing : AgentTx DriverEpoch) s fun resumed s' =>
      ∃ p', p' = signedPackage cfg.hmac (p.noted "rolled_back") ∧ resumed = resumedEpoch outgoing ∧
        epochTable.Saves s resumed ∧ handoffTable.Saves s p' ∧
        TransitionMoves s { t with state := .rolledBack, updatedAt, reason := some "operator_rollback" } ∧
        s' = ((handoffTable.put (epochTable.put s resumed) p').putTransition
          { t with state := .rolledBack, updatedAt, reason := some "operator_rollback" }).putOperation
            (released operation releasedAt) := by
  simp only [Tx.post_bind]
  refine (post_saveDriverEpoch _ _).mono ?_
  rintro _ _ ⟨rfl,hepoch⟩
  refine (post_signAndSaveAgentHandoff _ _ _).mono ?_
  rintro _ _ ⟨rfl,rfl,hpackage⟩
  refine (post_transitionMoves _ _).mono ?_
  rintro _ _ ⟨rfl,hmove⟩
  refine (post_release _ _ _).mono ?_
  rintro _ _ ⟨-,-,rfl⟩
  exact ⟨_,rfl,rfl,hepoch,⟨hpackage.1,hpackage.2,hpackage.3⟩,⟨hmove.1⟩,rfl⟩

theorem post_rollbackTx (operation : AgentOperationReservation) (closedAt updatedAt releasedAt : Timestamp) :
    Tx.Post (rollbackTx cfg p t outgoing incoming operation closedAt updatedAt releasedAt) s fun resumed s' =>
      ∃ s₁ p', (incoming.closedAt = none ∧ epochTable.Saves s (cancelledEpoch incoming closedAt) ∧
          s₁ = epochTable.put s (cancelledEpoch incoming closedAt) ∨ incoming.closedAt ≠ none ∧ s₁ = s) ∧
        p' = signedPackage cfg.hmac (p.noted "rolled_back") ∧ resumed = resumedEpoch outgoing ∧
        epochTable.Saves s₁ resumed ∧ handoffTable.Saves s₁ p' ∧
        TransitionMoves s₁ { t with state := .rolledBack, updatedAt, reason := some "operator_rollback" } ∧
        s' = ((handoffTable.put (epochTable.put s₁ resumed) p').putTransition
          { t with state := .rolledBack, updatedAt, reason := some "operator_rollback" }).putOperation
            (released operation releasedAt) := by
  rw [rollbackTx,Tx.post_ite,Tx.post_bind]
  constructor
  · intro hopen
    refine (post_saveDriverEpoch _ _).mono ?_
    rintro _ _ ⟨rfl,hepoch⟩
    refine (post_rollbackTx_resume cfg p t outgoing _ operation updatedAt releasedAt).mono ?_
    rintro resumed s' ⟨p',h⟩
    exact ⟨_,p',.inl ⟨hopen,hepoch,rfl⟩,h⟩
  · intro hclosed
    refine (post_rollbackTx_resume cfg p t outgoing _ operation updatedAt releasedAt).mono ?_
    rintro resumed s' ⟨p',h⟩
    exact ⟨_,p',.inr ⟨hclosed,rfl⟩,h⟩

end Specs

/-! ### Opening epochs -/

theorem lt_nextOrdinal {epochs : List DriverEpoch} {x : String} {e : DriverEpoch} (he : e ∈ epochs)
    (hx : e.instanceId = x) : e.ordinal < nextOrdinal epochs x := by
  have hfold : ∀ (l : List ℕ) (a n : ℕ), n ∈ l ∨ n ≤ a → n ≤ l.foldl max a := by
    intro l
    induction l with
    | nil => simp
    | cons b l ih =>
      intro a n hn
      rw [List.foldl_cons]
      apply ih
      rcases hn with hn | hn
      · rcases List.mem_cons.mp hn with rfl | hn
        · exact .inr (le_max_right _ _)
        · exact .inl hn
      · exact .inr (hn.trans (le_max_left _ _))
  have hmem : e.ordinal ∈ (epochs.filter (·.instanceId = x)).map (·.ordinal) :=
    List.mem_map_of_mem (List.mem_filter.mpr ⟨he,by simpa using hx⟩)
  have hle := hfold _ 0 _ (.inl hmem)
  simp only [nextOrdinal]
  omega

/-- The epoch is a new one of the instance: its ordinal is beyond those stored. -/
structure Opens (s : AgentStore) (x providerId : String) (state : AgentOperationState) (id : String)
    (e : DriverEpoch) : Prop where
  id : e.id = id
  instanceId : e.instanceId = x
  providerId : e.providerId = providerId
  state : e.state = state
  isOpen : e.closedAt = none
  ordinal : ∀ k e', s.epochs.get? k = some e' → e'.instanceId = x → e'.ordinal < e.ordinal

/-- Sessions are left alone, or one that was missing is inserted. -/
def OpensSession (s s' : AgentStore) : Prop :=
  s' = s ∨ ∃ session, s.sessions.get? session.id = none ∧ s' = sessionTable.put s session

section Opening
variable (cfg : Config) (x providerId reason by_ : String) (external : Option String)
  (state : AgentOperationState) (draws : EpochDraws) (s : AgentStore)

theorem post_profileForProvider {Q : AgentInstanceProfile → AgentStore → Prop} (h : ∀ profile, Q profile s) :
    Tx.Post (cfg.profileForProvider x providerId : AgentTx _) s Q := by
  simp only [Config.profileForProvider,Config.profile,Config.provider,Tx.post_bind,Tx.post_orRaise,Tx.post_require,
    Tx.post_pure]
  exact fun _ _ _ _ _ _ _ => h _

theorem post_ensureEpochSession (profile : AgentInstanceProfile) (selected : String) :
    Tx.Post (ensureEpochSession cfg profile x providerId selected external reason by_ state draws : AgentTx Unit) s
      fun _ s' => OpensSession s s' := by
  rw [ensureEpochSession,Tx.post_bind]
  refine (post_unlessMissing_load sessionTable selected s _).mpr ?_
  cases hrow : (sessionTable.rows s).get? selected with
  | some session => exact .inl rfl
  | none =>
    simp only [Config.provider,Tx.post_bind,Tx.post_orRaise]
    intro provider _
    refine (post_saveAgentSession _ s).mono ?_
    rintro _ _ ⟨rfl,-,-⟩
    refine .inr ⟨_,?_,rfl⟩
    exact hrow

/-- No epoch of the instance is open. -/
def NoneOpen (s : AgentStore) (x : String) : Prop :=
  ∀ k e, s.epochs.get? k = some e → e.instanceId = x → e.closedAt ≠ none

theorem post_persistOpened (e : DriverEpoch) : Tx.Post (persistOpened e : AgentTx _) s fun e' s' =>
    e' = e ∧ NoneOpen s e.instanceId ∧ epochTable.Saves s e ∧ s' = epochTable.put s e := by
  simp only [persistOpened,openEpochs,listDriverEpochs,Tx.post_bind,post_listAgentRecords,Tx.post_pure,Tx.post_require]
  intro hnone
  refine (post_saveDriverEpoch e s).mono ?_
  rintro _ _ ⟨rfl,hsaves⟩
  refine ⟨trivial,fun k e' hk hx hopen => ?_,hsaves,rfl⟩
  have := List.filter_eq_nil_iff.mp hnone e' ((mem_sorted epochTable s e').mpr ⟨k,hk⟩)
  simp [hx,hopen] at this

theorem post_openEpoch (sessionId : Option String) (persist : Bool) :
    Tx.Post (openEpoch cfg x providerId sessionId external reason by_ state persist draws : AgentTx _) s fun e s' =>
      Opens s x providerId state draws.id e ∧ ∃ s₁, OpensSession s s₁ ∧ (persist = false ∧ s' = s₁ ∨
        persist = true ∧ NoneOpen s₁ x ∧ epochTable.Saves s₁ e ∧ s' = epochTable.put s₁ e) := by
  rw [openEpoch,Tx.post_bind]
  refine post_profileForProvider cfg x providerId s fun profile => ?_
  simp only [listDriverEpochs,Tx.post_bind,post_listAgentRecords]
  refine (post_ensureEpochSession cfg x providerId reason by_ external state draws s profile _).mono ?_
  intro _ s₁ hs₁
  have hopens : ∀ selected, Opens s x providerId state draws.id
      { id := draws.id, instanceId := x, sessionId := selected, providerId
        ordinal := nextOrdinal (epochTable.sorted s) x, state
        openedAt := some draws.openedAt, reason := some reason } := fun selected =>
    ⟨rfl,rfl,rfl,rfl,rfl,fun k e' hk hx => lt_nextOrdinal ((mem_sorted epochTable s e').mpr ⟨k,hk⟩) hx⟩
  rw [Tx.post_ite]
  constructor
  · intro hpersist
    refine (post_persistOpened s₁ _).mono ?_
    rintro e s' ⟨rfl,hnone,hsaves,rfl⟩
    exact ⟨hopens _,s₁,hs₁,.inr ⟨hpersist,hnone,hsaves,rfl⟩⟩
  · intro hpersist
    exact ⟨hopens _,s₁,hs₁,.inl ⟨by simpa using hpersist,rfl⟩⟩

theorem post_finishAgentActivation (reservationId ownerId : String) (generation : ℕ) (state : ActivationState)
    (epochId reason : Option String) :
    Tx.Post (finishAgentActivation x reservationId ownerId generation state epochId reason : AgentTx Unit) s
      fun _ s' => ∃ a, s' = s.putActivation a := by
  rw [finishAgentActivation,Tx.post_atomically]
  simp only [Tx.Post,updateAgentActivation]
  cases s.activations.get? x with
  | none => trivial
  | some current =>
    dsimp only
    split
    · next h =>
      split at h
      · cases h
        exact ⟨_,rfl⟩
      · cases h
    · trivial

theorem ensureOperation_eq (at_ : Timestamp) :
    ∃ operations, s.ensureOperation x at_ = { s with operations := operations } := by
  unfold AgentStore.ensureOperation
  split
  · exact ⟨s.operations,rfl⟩
  · exact ⟨_,rfl⟩

theorem post_activateTx (externalSessionId reservationId : String) (generation : ℕ) (updatedAt : Timestamp) :
    Tx.Post (activateTx cfg x by_ providerId externalSessionId reservationId generation updatedAt draws) s
      fun e s' => ∃ operations s₁ a, Opens s x providerId .running draws.id e ∧ NoneOpen s x ∧
        OpensSession { s with operations := operations } s₁ ∧ epochTable.Saves s₁ e ∧
        s' = (epochTable.put s₁ e).putActivation a := by
  simp only [activateTx,ensureAgentOperation,Tx.post_bind,Tx.post_atomically,Tx.post_write,Tx.post_read,
    Tx.post_orRaise,Tx.post_pure]
  intro _ _
  refine (post_openEpoch ..).mono ?_
  rintro e _ ⟨hopens,s₁,hs₁,⟨hfalse,-⟩ | ⟨-,hnone,hsaves,rfl⟩⟩
  · cases hfalse
  · refine (post_finishAgentActivation ..).mono ?_
    rintro _ _ ⟨a,rfl⟩
    obtain ⟨operations,hop⟩ := ensureOperation_eq x s updatedAt
    rw [hop] at hopens hs₁
    refine ⟨operations,s₁,a,⟨hopens.1,hopens.2,hopens.3,hopens.4,hopens.5,hopens.6⟩,?_,hs₁,hsaves,rfl⟩
    rcases hs₁ with rfl | ⟨session,-,rfl⟩ <;> exact hnone

end Opening
/-! ### Beginning a handoff -/

section Checks
variable {R : AgentStore → AgentStore → Prop} [IsPreorder AgentStore R] (cfg : Config)

instance (fault : Option String) : Tx.Keeps R (refuse fault : AgentTx Unit) := by
  cases fault <;> unfold refuse <;> infer_instance

instance (objective : String) (evidence : Evidence) : Tx.Keeps R (checkHandoffMaterial cfg objective evidence : AgentTx _) := by
  unfold checkHandoffMaterial
  infer_instance

instance (hmac : AgentHandoffPackage → String) (p : AgentHandoffPackage) :
    Tx.Keeps R (verifyAgentHandoffAttestation hmac p : AgentTx Bool) := by
  unfold verifyAgentHandoffAttestation loadAgentHandoff
  infer_instance

instance (p : AgentHandoffPackage) (c : AgentCapabilities) : Tx.Keeps R (validateHandoff cfg p c : AgentTx Unit) := by
  unfold validateHandoff
  infer_instance

end Checks

/-- The evidence of a package that is built from its checkpoint. -/
def checkpointEvidence (checkpoint : AgentCheckpoint) (outgoing : DriverEpoch) : Evidence :=
  ((Dict.empty.set "checkpoint_id" (.str checkpoint.id)).set "outgoing_epoch_id" (.str outgoing.id)).set
    "status" (.str "ready")

section Begin
variable (cfg : Config) (x incomingProviderId : String) (outgoing : DriverEpoch) (checkpoint : AgentCheckpoint)
  (s : AgentStore)

theorem post_buildFromStore (objective id : String) (required : AgentCapabilities) (createdAt : Timestamp) :
    Tx.Post (buildFromStore cfg x outgoing checkpoint incomingProviderId objective required id createdAt :
      AgentTx _) s fun built s' => built.id = id ∧ built.instanceId = x ∧ built.outgoingEpochId = outgoing.id ∧
        built.incomingProviderId = incomingProviderId ∧ built.evidence = checkpointEvidence checkpoint outgoing ∧
        outgoing.instanceId = x ∧ s' = handoffTable.put s built ∧ handoffTable.Saves s built := by
  simp only [buildFromStore,loadAgentCheckpoint,Tx.post_bind,Tx.post_require,post_unlessMissing_load,Tx.post_orRaise]
  rintro ⟨-,-,-,hout⟩ persisted - -
  refine Tx.Reads.post fun _ => ?_
  refine (post_signAndSaveAgentHandoff _ _ _).mono ?_
  rintro _ _ ⟨rfl,rfl,hsaves⟩
  exact ⟨rfl,rfl,rfl,rfl,rfl,hout,rfl,hsaves⟩

/-- The transition of a handoff that begins. -/
def importingTransition (x handoffId outgoingId incomingId : String) (updatedAt : Timestamp) :
    AgentInstanceTransition where
  instanceId := x
  handoffId
  outgoingEpochId := outgoingId
  incomingEpochId := incomingId
  state := .importing
  updatedAt

/-- The instance has no transition, or one that has ended. -/
def TransitionEnded (s : AgentStore) (x : String) : Prop :=
  ∀ t, s.transitions.get? x = some t → t.state = .completed ∨ t.state = .rolledBack

theorem post_beginAgentTransition (t : AgentInstanceTransition) :
    Tx.Post (beginAgentTransition t : AgentTx Bool) s fun began s' => began = true →
      TransitionEnded s t.instanceId ∧ s' = s.putTransition t := by
  simp only [beginAgentTransition,Tx.post_bind,Tx.post_require,Tx.post_atomically]
  intro _
  simp only [Tx.Post,upsertAgentTransition,TransitionEnded]
  cases hrow : s.transitions.get? t.instanceId with
  | none => simp
  | some current =>
    by_cases hend : current.state = .completed ∨ current.state = .rolledBack
    · simp [hend]
    · simp [hend]

theorem post_beginHandoffTx (incomingProvider : AgentProvider) (reason by_ : String)
    (operation : AgentOperationReservation) (draws : HandoffDraws) :
    Tx.Post (beginHandoffTx cfg x outgoing checkpoint incomingProvider incomingProviderId reason by_ operation draws)
      s fun r s' => ∃ s₁ s₂ built,
        Opens s x incomingProviderId .queued draws.epoch.id r.2 ∧ built.id = draws.handoffId ∧
        r.1 = signedPackage cfg.hmac { built with evidence := importingEvidence built.evidence r.2 operation } ∧
        built.instanceId = x ∧ built.outgoingEpochId = outgoing.id ∧ built.incomingProviderId = incomingProviderId ∧
        built.evidence = checkpointEvidence checkpoint outgoing ∧ outgoing.instanceId = x ∧
        s₁ = handoffTable.put (checkpointTable.put s checkpoint) built ∧ OpensSession s₁ s₂ ∧
        TransitionEnded s x ∧ handoffTable.Saves s₂ r.1 ∧ epochTable.Saves s₂ r.2 ∧
        s' = epochTable.put (handoffTable.put (s₂.putTransition (importingTransition x draws.handoffId outgoing.id
          r.2.id draws.updatedAt)) r.1) r.2 := by
  simp only [beginHandoffTx,saveAgentCheckpoint,Config.profile,Tx.post_bind,Tx.post_orRaise]
  refine (post_saveAgentRecord checkpointTable checkpoint s).mono ?_
  rintro _ _ ⟨rfl,-⟩ profile -
  refine (post_buildFromStore ..).mono ?_
  rintro built _ ⟨hid,hinst,hout,hprov,hev,houtx,rfl,-⟩
  refine Tx.Reads.post fun _ => ?_
  refine (post_openEpoch ..).mono ?_
  rintro incoming s₃ ⟨hopens,s₂,hs₂,⟨-,rfl⟩ | ⟨hfalse,-⟩⟩
  · refine (post_beginAgentTransition ..).mono ?_
    intro began s₄ hbegan
    rw [Tx.post_require]
    intro htrue
    obtain ⟨hended,rfl⟩ := hbegan htrue
    refine (post_signAndSaveAgentHandoff ..).mono ?_
    rintro package _ ⟨rfl,rfl,hpackage⟩
    refine (post_saveDriverEpoch ..).mono ?_
    rintro _ _ ⟨rfl,hepoch⟩
    have hended' : TransitionEnded s x := by
      rcases hs₂ with rfl | ⟨session,-,rfl⟩ <;> exact hended
    rw [← hid]
    exact ⟨_,_,built,⟨hopens.1,hopens.2,hopens.3,hopens.4,hopens.5,hopens.6⟩,rfl,rfl,hinst,hout,hprov,hev,houtx,
      rfl,hs₂,hended',⟨hpackage.1,hpackage.2,hpackage.3⟩,⟨hepoch.1,hepoch.2,hepoch.3⟩,rfl⟩
  · cases hfalse

end Begin

end Overseer.Agent
