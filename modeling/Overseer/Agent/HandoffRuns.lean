import Overseer.Agent.HandoffCommits

/-! # Runs of the managers

Every operation of the manager keeps the discipline of the handoff records, so in
every run, of any number of managers, a transition follows the protocol, completes
only under a durable acknowledgement, and, where no stale copy of an open epoch is
stored, a closed epoch stays closed.
-/
namespace Overseer.Agent
open Overseer.Library
open Discipline

/-! ### Reading -/

section Reading
variable (cfg : Config)

instance (fault : Option String) : Reads (refuse fault) := by
  cases fault <;> unfold refuse <;> infer_instance

instance (objective : String) (evidence : Evidence) : Reads (checkHandoffMaterial cfg objective evidence) := by
  unfold checkHandoffMaterial
  infer_instance

instance (hmac : AgentHandoffPackage → String) (p : AgentHandoffPackage) :
    Reads (verifyAgentHandoffAttestation hmac p) := by
  unfold verifyAgentHandoffAttestation loadAgentHandoff
  infer_instance

instance (p : AgentHandoffPackage) (c : AgentCapabilities) : Reads (validateHandoff cfg p c) := by
  unfold validateHandoff
  infer_instance

instance (p : AgentHandoffPackage) : Reads (validatePersistedHandoff cfg p) := by
  unfold validatePersistedHandoff
  infer_instance

instance (p : AgentHandoffPackage) : Reads (operationForPackage p) := by
  unfold operationForPackage
  infer_instance

instance (p : AgentHandoffPackage) (incoming : DriverEpoch) : Reads (durableIncomingSession p incoming) := by
  unfold durableIncomingSession loadAgentDispatchResult
  infer_instance

instance (c : AgentCheckpoint) (maxAge : ℕ) : Reads (validateCheckpointForHandoff c maxAge) := by
  unfold validateCheckpointForHandoff
  refine @Prog.bind_quiet _ _ _ _ _ _ _ _ _ _ _ _ fun now => ?_
  dsimp only
  split
  all_goals
    refine @Prog.bind_quiet _ _ _ _ _ _ _ _ _ _ _ _ fun createdAt => ?_
    split <;> infer_instance

end Reading

section Programs
variable {calls : ManagerCall → Prop} {guard : AgentStore → Held → AgentStore → Prop} {u : AgentStore}
  (cfg : Config)

/-! ### Activation -/

instance (x by_ : String) (retryBlocked : Bool) :
    (handoffDiscipline calls guard).Sound (activate cfg x by_ retryBlocked) := by
  unfold activate
  refine ⟨fun u => from_sound_bind fun _ u₁ _ => from_sound_bind fun _ u₂ _ => from_sound_bind fun epochs u₃ _ => ?_⟩
  rcases epochs with _ | ⟨epoch,_ | _⟩
  · refine from_sound_bind fun profile u₄ _ => from_sound_bind fun driver u₅ _ => ?_
    refine from_sound_bind fun reservationId u₆ _ => from_sound_bind fun startedAt u₇ _ => ?_
    refine from_sound_bind fun reserved u₈ _ => ?_
    split
    · exact (inferInstance : (handoffDiscipline calls guard).Sound _).sound _
    · refine from_sound_bind fun activation u₉ _ => ?_
      dsimp only
      refine from_sound_bind fun answer u₁₀ _ => ?_
      cases answer with
      | none => exact (inferInstance : (handoffDiscipline calls guard).Sound _).sound _
      | some result =>
        dsimp only
        split
        · refine from_sound_bind fun updatedAt u₁₁ _ => from_sound_bind fun draws u₁₂ _ => ?_
          refine from_transaction fun s _ hok e s' hrun hg => ?_
          obtain ⟨hstep,hok'⟩ := commit_activateTx hok (fun hne => hg.1 hne _ (by simp)) hrun
          exact ⟨hstep,hok',trivial⟩
        · exact (inferInstance : (handoffDiscipline calls guard).Sound _).sound _
  · trivial
  · trivial

/-! ### Handoffs -/

instance (packageId : String) : (handoffDiscipline calls guard).Sound (promoteAcknowledgedHandoff cfg packageId) := by
  unfold promoteAcknowledgedHandoff
  refine ⟨fun u => from_load_bind handoffTable fun s₁ p hu₁ hok₁ hp => ?_⟩
  have hcopy : Copy s₁ p := hok₁.copy hp
  refine from_sound_bind fun _ u₂ hu₂ => from_sound_bind fun t u₃ hu₃ => from_require_bind fun _ => ?_
  refine from_load_bind epochTable fun s₄ incoming hu₄ hok₄ hincoming => ?_
  refine from_load_bind epochTable fun s₅ outgoing hu₅ _ _ => ?_
  refine from_load_bind sessionTable fun s₆ session hu₆ _ hsession => ?_
  refine from_orRaise_bind fun external hexternal => from_orRaise_bind fun resultId hresultId => ?_
  refine from_unlessMissing_bind resultTable fun s₇ hu₇ _ => ?_
  refine from_orRaise_bind fun result hresult => from_require_bind fun hack => ?_
  refine from_sound_bind fun a u₈ hu₈ => from_sound_bind fun b u₉ hu₉ => from_sound_bind fun c u₁₀ hu₁₀ => ?_
  refine from_transaction fun s hs hok e s' hrun hg => ?_
  have h₇ := hu₈.trans (hu₉.trans (hu₁₀.trans hs))
  have h₆ := hu₇.trans h₇
  have h₄ := hu₅.trans (hu₆.trans h₆)
  have h₁ := hu₂.trans (hu₃.trans (hu₄.trans h₄))
  have hsame : session.externalSessionId = some external := by
    have hfilter := (Option.filter_eq_some_iff.mp hexternal).2
    simp only [Bool.and_eq_true,decide_eq_true_eq] at hfilter
    exact hfilter.2
  obtain ⟨was,hwas,hwas'⟩ := after_epochs h₄ _ _ hincoming
  obtain ⟨now,hnow,hnow'⟩ := after_sessions h₆ _ _ hsession
  obtain ⟨hstep,hok'⟩ := commit_promoteTx hok (hcopy.after h₁) (by simp) ⟨was,hwas,hwas'.symm⟩ hnow
    (hnow' external hsame) hresultId (after_results h₇ _ _ hresult) hack hg hrun
  exact ⟨hstep,hok',trivial⟩

/-- A completion from a copy of the package that names its incoming epoch. -/
theorem from_completeHandoff {p : AgentHandoffPackage} {outgoing incoming : DriverEpoch}
    {result : AgentDispatchResult} {invalid : InvalidState} (hcopy : Copy u p)
    (hincoming : p.incomingEpochId = some incoming.id) (hopen : invalid = .blocked → incoming.closedAt = none) :
    (handoffDiscipline calls guard).From (fun _ _ => True) (completeHandoff cfg p outgoing incoming result invalid)
      u := by
  unfold completeHandoff
  cases hfail : handoffFailure p incoming result with
  | some failure =>
    refine from_sound_bind fun a u₁ hu₁ => from_sound_bind fun b u₂ hu₂ => ?_
    refine from_bind (M := fun _ _ => True) (from_transaction fun s hs hok e s' hrun hg => ?_) fun _ _ _ _ => trivial
    have hcopy' := hcopy.after (hu₁.trans (hu₂.trans hs))
    obtain ⟨hstep,hok'⟩ := commit_failHandoffTx hok hcopy' (fun hb => ⟨hopen hb,by subst hb; simp⟩) hg hrun
    exact ⟨hstep,hok',trivial⟩
  | none =>
    have hdriver : result.driverEpochId = incoming.id := by
      unfold handoffFailure at hfail
      split at hfail
      · split at hfail
        · next h => exact h.2.2.2.2.1
        · cases hfail
      · cases hfail
    refine from_orRaise_bind fun external _ => from_sound_bind fun a u₁ hu₁ => from_sound_bind fun b u₂ hu₂ => ?_
    refine from_bind (M := fun _ _ => True) (from_transaction fun s hs hok e s' hrun hg => ?_) fun _ u₃ _ _ => ?_
    · have hcopy' := hcopy.after (hu₁.trans (hu₂.trans hs))
      obtain ⟨hstep,hok',-⟩ := commit_persistAcknowledgementTx hok hcopy' (hdriver ▸ hincoming) hrun
      exact ⟨hstep,hok',trivial⟩
    · exact (inferInstance : (handoffDiscipline calls guard).Sound _).sound u₃

instance (failover : Option FailoverContext) (a b : FailoverExecutionState) (reason : Option String) :
    (handoffDiscipline calls guard).Sound (moveExecution failover a b reason) := by
  unfold moveExecution
  cases failover with
  | none => infer_instance
  | some failover => infer_instance

instance (x : String) (outgoing : DriverEpoch) (failover : Option FailoverContext) :
    (handoffDiscipline calls guard).Sound (checkpointForHandoff cfg x outgoing failover) := by
  unfold checkpointForHandoff loadAgentCheckpoint
  cases failover with
  | none => infer_instance
  | some failover => infer_instance

instance (p : AgentHandoffPackage) (incoming : DriverEpoch) (providerId : String)
    (answer : Option AgentDispatchResult) :
    (handoffDiscipline calls guard).Sound (importAnswer p incoming providerId answer) := by
  unfold importAnswer
  cases answer with
  | none => infer_instance
  | some answer => infer_instance

instance : (handoffDiscipline calls guard).Sound drawHandoff := by
  unfold drawHandoff
  infer_instance

instance (x incomingProviderId by_ reason : String) (outgoing : DriverEpoch) (operation : AgentOperationReservation)
    (failover : Option FailoverContext) : (handoffDiscipline calls guard).Sound
      (handoffBehindFence cfg x incomingProviderId by_ reason outgoing operation failover) := by
  unfold handoffBehindFence
  refine ⟨fun u => from_sound_bind fun outgoingDriver u₁ _ => from_sound_bind fun _ u₂ _ => ?_⟩
  refine from_sound_bind fun _ u₃ _ => from_sound_bind fun checkpoint u₄ _ => ?_
  refine from_sound_bind fun incomingDriver u₅ _ => from_sound_bind fun incomingProfile u₆ _ => ?_
  refine from_sound_bind fun _ u₇ _ => from_sound_bind fun draws u₈ _ => ?_
  refine from_bind (M := fun r s => Copy s r.1 ∧ r.1.incomingEpochId = some r.2.id ∧ r.2.closedAt = none)
    (from_transaction fun s hs hok r s' hrun hg => ?_) ?_
  · obtain ⟨hstep,hok',hknown⟩ := commit_beginHandoffTx hok (fun hne => ⟨hg.1 hne _ (by simp),hg.1 hne _ (by simp)⟩) hrun
    exact ⟨hstep,hok',hknown⟩
  · rintro ⟨p,incoming⟩ u₉ - ⟨hcopy,hincoming,hopen⟩
    refine from_sound_bind fun _ u₁₀ hu₁₀ => from_sound_bind fun answer u₁₁ hu₁₁ => ?_
    refine from_sound_bind fun result u₁₂ hu₁₂ => ?_
    exact from_completeHandoff cfg (hcopy.after (hu₁₀.trans (hu₁₁.trans hu₁₂))) hincoming fun _ => hopen

instance (x incomingProviderId by_ approvalId operation reason : String) (failover : Option FailoverContext) :
    (handoffDiscipline calls guard).Sound
      (performHandoff cfg x incomingProviderId by_ approvalId operation reason failover) := by
  unfold performHandoff
  cases failover with
  | none =>
    refine .bind inferInstance fun _ => .bind inferInstance fun outgoing => .bind inferInstance fun _ => ?_
    refine .bind inferInstance fun _ => ?_
    infer_instance
  | some failover =>
    refine .bind inferInstance fun _ => .bind inferInstance fun _ => .bind inferInstance fun outgoing => ?_
    infer_instance

instance (x incomingProviderId by_ approvalId : String) :
    (handoffDiscipline calls guard).Sound (manualHandoff cfg x incomingProviderId by_ approvalId) := by
  unfold manualHandoff
  infer_instance

instance (x decisionId by_ approvalId : String) :
    (handoffDiscipline calls guard).Sound (executeFailover cfg x decisionId by_ approvalId) := by
  unfold executeFailover loadFailoverDecision loadFailoverPolicy loadAgentCheckpoint
  refine ⟨fun u => from_require_bind fun _ => from_sound_bind fun original u₁ _ => ?_⟩
  refine from_require_bind fun _ => from_require_bind fun _ => from_sound_bind fun now u₂ _ => ?_
  refine from_require_bind fun _ => from_sound_bind fun _ u₃ _ => from_sound_bind fun draws u₄ _ => ?_
  refine from_sound_bind fun reserved u₅ _ => ?_
  exact (inferInstance : (handoffDiscipline calls guard).Sound _).sound u₅

instance (handoffId : String) (result : Option AgentDispatchResult) (by_ : String) :
    (handoffDiscipline calls guard).Sound (reconcileHandoff cfg handoffId result by_) := by
  unfold reconcileHandoff
  refine ⟨fun u => from_sound_bind fun _ u₀ _ => from_load_bind handoffTable fun s₁ p hu₁ hok₁ hp => ?_⟩
  have hcopy : Copy s₁ p := hok₁.copy hp
  refine from_sound_bind fun _ u₂ hu₂ => from_sound_bind fun t u₃ hu₃ => from_require_bind fun _ => ?_
  refine from_orRaise_bind fun incomingId hincomingId => ?_
  refine from_load_bind epochTable fun s₄ incoming hu₄ hok₄ hincoming => ?_
  refine from_sound_bind fun outgoing u₅ hu₅ => from_require_bind fun _ => ?_
  have hnamed : p.incomingEpochId = some incoming.id := by
    obtain ⟨k,-,hk,-⟩ := hok₁.incoming _ _ hp
    have hstr : incomingId.asStr? = some k := by
      rw [← hk,AgentHandoffPackage.incomingEpochId,evidenceText,hincomingId,Option.bind_some]
    rw [hk,hok₄.epochs _ _ hincoming,Json.text_of_asStr? hstr]
  split
  · cases result with
    | none => exact (inferInstance : (handoffDiscipline calls guard).Sound _).sound u₅
    | some result =>
      unfold loadAgentDispatchResult
      refine from_sound_bind fun durable u₆ _ => ?_
      exact (inferInstance : (handoffDiscipline calls guard).Sound _).sound u₆
  · refine from_orRaise_bind fun result _ => from_sound_bind fun a u₆ hu₆ => ?_
    refine from_bind (M := fun p' s => Copy s p' ∧ p'.incomingEpochId = p.incomingEpochId)
      (from_transaction fun s hs hok p' s' hrun hg => ?_) ?_
    · have hcopy' := hcopy.after (hu₂.trans (hu₃.trans (hu₄.trans (hu₅.trans (hu₆.trans hs)))))
      obtain ⟨hstep,hok',hknown⟩ := commit_reconcileTx hok hcopy' hrun
      exact ⟨hstep,hok',hknown⟩
    · rintro p' u₇ - ⟨hcopy',hsame⟩
      exact from_completeHandoff cfg hcopy' (hsame.trans hnamed) nofun

instance (handoffId by_ : String) :
    (handoffDiscipline calls guard).Sound (rollbackHandoff cfg handoffId by_) := by
  unfold rollbackHandoff
  refine ⟨fun u => from_sound_bind fun _ u₀ _ => from_load_bind handoffTable fun s₁ p hu₁ hok₁ hp => ?_⟩
  have hcopy : Copy s₁ p := hok₁.copy hp
  refine from_sound_bind fun _ u₂ hu₂ => from_sound_bind fun t u₃ hu₃ => from_require_bind fun _ => ?_
  refine from_sound_bind fun outgoing u₄ hu₄ => from_sound_bind fun incoming u₅ hu₅ => from_require_bind fun _ => ?_
  refine from_sound_bind fun operation u₆ hu₆ => from_sound_bind fun driver u₇ hu₇ => ?_
  refine from_sound_bind fun cancelled u₈ hu₈ => ?_
  have hcopy₈ := hcopy.after (hu₂.trans (hu₃.trans (hu₄.trans (hu₅.trans (hu₆.trans (hu₇.trans hu₈))))))
  split
  · refine from_sound_bind fun a u₉ hu₉ => from_transaction fun s hs hok e s' hrun hg => ?_
    obtain ⟨hstep,hok'⟩ := commit_blockRollbackTx hok (hcopy₈.after (hu₉.trans hs)) (by simp) hg hrun
    exact ⟨hstep,hok',trivial⟩
  · refine from_sound_bind fun a u₉ hu₉ => from_sound_bind fun b u₁₀ hu₁₀ => from_sound_bind fun c u₁₁ hu₁₁ => ?_
    refine from_transaction fun s hs hok e s' hrun hg => ?_
    have hcopy' := hcopy₈.after (hu₉.trans (hu₁₀.trans (hu₁₁.trans hs)))
    obtain ⟨hstep,hok'⟩ := commit_rollbackTx hok hcopy' (by split <;> simp) hg hrun
    exact ⟨hstep,hok',trivial⟩

theorem ManagerCall.sound (c : ManagerCall) : (handoffDiscipline calls guard).Sound (c.program cfg) := by
  cases c <;> unfold ManagerCall.program <;> infer_instance

end Programs
end Overseer.Agent
