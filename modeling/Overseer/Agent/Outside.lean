import Overseer.Agent.HandoffRecords
import Overseer.Agent.Reads

/-! # Operations that leave the handoff records alone

Dispatching, discovery, checkpoints, the evaluation and the recovery of failovers
write other tables; of the handoff records they only add results and sessions. A
discipline that tolerates such commits admits these operations.
-/
namespace Overseer.Agent
open Overseer.Library
open Discipline

/-- Epochs, packages and transitions are as they were, results and sessions kept. -/
structure Untouched (s s' : AgentStore) : Prop where
  epochs : s'.epochs = s.epochs
  handoffs : s'.handoffs = s.handoffs
  transitions : s'.transitions = s.transitions
  results : Grew s.results s'.results
  sessions : RowsKept KeepsExternal s.sessions s'.sessions
  sessionsFiled : Dict.Filed AgentSession.id s.sessions → Dict.Filed AgentSession.id s'.sessions

instance : IsPreorder AgentStore Untouched where
  refl _ := ⟨rfl,rfl,rfl,.refl _,.refl KeepsExternal.refl _,id⟩
  trans _ _ _ h h' := ⟨h'.1.trans h.1,h'.2.trans h.2,h'.3.trans h.3,h.4.trans h'.4,h.5.trans KeepsExternal.trans h'.5,
    fun hs => h'.6 (h.6 hs)⟩

theorem Untouched.refl (s : AgentStore) : Untouched s s := refl_of Untouched s

/-- The table is none of those that hold handoff records. -/
class Table.Elsewhere {α : Type} (T : Table α) : Prop where
  untouched : ∀ s d, Untouched s (T.setRows s d)

instance : dispatchTable.Elsewhere := ⟨fun _ _ => ⟨rfl,rfl,rfl,.refl _,.refl KeepsExternal.refl _,id⟩⟩
instance : checkpointTable.Elsewhere := ⟨fun _ _ => ⟨rfl,rfl,rfl,.refl _,.refl KeepsExternal.refl _,id⟩⟩
instance : decisionTable.Elsewhere := ⟨fun _ _ => ⟨rfl,rfl,rfl,.refl _,.refl KeepsExternal.refl _,id⟩⟩
instance : executionTable.Elsewhere := ⟨fun _ _ => ⟨rfl,rfl,rfl,.refl _,.refl KeepsExternal.refl _,id⟩⟩
instance : attemptTable.Elsewhere := ⟨fun _ _ => ⟨rfl,rfl,rfl,.refl _,.refl KeepsExternal.refl _,id⟩⟩
instance : outcomeTable.Elsewhere := ⟨fun _ _ => ⟨rfl,rfl,rfl,.refl _,.refl KeepsExternal.refl _,id⟩⟩

theorem untouched_putOperation (s : AgentStore) (o : AgentOperationReservation) : Untouched s (s.putOperation o) :=
  ⟨rfl,rfl,rfl,.refl _,.refl KeepsExternal.refl _,id⟩

theorem untouched_putActivation (s : AgentStore) (a : AgentActivationReservation) :
    Untouched s (s.putActivation a) := ⟨rfl,rfl,rfl,.refl _,.refl KeepsExternal.refl _,id⟩

theorem untouched_ensureOperation (s : AgentStore) (x : String) (at_ : Timestamp) :
    Untouched s (s.ensureOperation x at_) := by
  unfold AgentStore.ensureOperation
  split
  · exact .refl s
  · exact untouched_putOperation s _

/-! ### Inside transactions -/

section Transactions
variable {α : Type}

instance (T : Table α) [hT : T.Elsewhere] (r : α) : Tx.Keeps Untouched (saveAgentRecord T r : AgentTx Unit) :=
  keeps_saveAgentRecord T fun s _ => hT.untouched s _

instance (d : AgentDispatchRequest) : Tx.Keeps Untouched (saveAgentDispatch d : AgentTx Unit) := by
  unfold saveAgentDispatch
  infer_instance

instance (r : AgentDispatchResult) : Tx.Keeps Untouched (saveAgentDispatchResult r : AgentTx Unit) :=
  keeps_saveAgentRecord resultTable fun _ h => ⟨rfl,rfl,rfl,.saveResult h,.refl KeepsExternal.refl _,id⟩

instance (session : AgentSession) : Tx.Keeps Untouched (saveAgentSession session : AgentTx Unit) := by
  refine ⟨fun s => (post_saveAgentSession session s).mono ?_⟩
  rintro _ _ ⟨rfl,-,hext⟩
  refine ⟨rfl,rfl,rfl,.refl _,.set KeepsExternal.refl fun e he x hx => ?_,fun hs => hs.set session⟩
  exact (hext e he (by simp [hx])).trans hx

instance (sessions : List AgentSession) : Tx.Keeps Untouched (saveSessions sessions : AgentTx Unit) := by
  induction sessions with
  | nil => unfold saveSessions; infer_instance
  | cons session rest ih => unfold saveSessions; infer_instance

instance (x : String) (at_ : Timestamp) : Tx.Keeps Untouched (ensureAgentOperation x at_ : AgentTx _) := by
  have hensure : Tx.Keeps Untouched (Tx.write fun s => s.ensureOperation x at_ : AgentTx Unit) :=
    ⟨fun s => untouched_ensureOperation s x at_⟩
  unfold ensureAgentOperation
  infer_instance

instance (o : AgentOperationReservation) (g : ℕ) (st : AgentOperationFenceState) (token : Option String) :
    Tx.Keeps Untouched (saveAgentOperation o g st token : AgentTx Unit) :=
  ⟨fun s => (post_updateAgentOperation ..).mpr fun _ _ _ _ _ => untouched_putOperation s o⟩

theorem keeps_of_ok {K : AgentStore → AgentStore → Prop} {t : AgentTx α}
    (h : ∀ s a s', t s = .ok (a,s') → K s s') : Tx.Keeps K t := by
  refine ⟨fun s => ?_⟩
  unfold Tx.Post
  split
  · next hrun => exact h s _ _ hrun
  · trivial

instance (id : String) (st : FailoverExecutionState) (e : FailoverExecution) :
    Tx.Keeps Untouched (updateFailoverExecution id st e) := keeps_of_ok fun s a s' h => by
  unfold updateFailoverExecution at h
  repeat' split at h
  all_goals cases h
  exact (inferInstance : executionTable.Elsewhere).untouched s _

instance (id : String) (st : AgentRecoveryAttemptState) (a : AgentRecoveryAttempt) :
    Tx.Keeps Untouched (updateAgentRecoveryAttempt id st a) := keeps_of_ok fun s a s' h => by
  unfold updateAgentRecoveryAttempt at h
  repeat' split at h
  all_goals cases h
  exact (inferInstance : attemptTable.Elsewhere).untouched s _

instance (id : String) (d : FailoverDecision) : Tx.Keeps Untouched (updateFailoverDecision id d) :=
  keeps_of_ok fun s a s' h => by
    unfold updateFailoverDecision at h
    repeat' split at h
    all_goals cases h
    exact (inferInstance : decisionTable.Elsewhere).untouched s _

instance (x id owner : String) (a b : Timestamp) (retry : Bool) (c : Timestamp) :
    Tx.Keeps Untouched (upsertAgentActivation x id owner a b retry c) := keeps_of_ok fun s r s' h => by
  unfold upsertAgentActivation at h
  repeat' split at h
  all_goals cases h
  · exact untouched_putActivation s _
  · exact untouched_putActivation s _
  · exact .refl s

instance (x id owner : String) (g : ℕ) (st : ActivationState) (e r : Option String) :
    Tx.Keeps Untouched (updateAgentActivation x id owner g st e r) := keeps_of_ok fun s a s' h => by
  unfold updateAgentActivation at h
  repeat' split at h
  all_goals cases h
  exact untouched_putActivation s _

instance (r : AgentOperationReservation) : Tx.Keeps Untouched (verifyOwned r : AgentTx Unit) := by
  unfold verifyOwned
  infer_instance

instance (r : AgentOperationReservation) (at_ : Timestamp) : Tx.Keeps Untouched (release r at_ : AgentTx _) := by
  unfold release
  infer_instance

instance (x token : String) (a b : Timestamp) : Tx.Keeps Untouched (reserve x token a b : AgentTx _) := by
  unfold reserve
  infer_instance

instance (r : AgentOperationReservation) : Tx.Keeps Untouched (inflight r : AgentTx _) := by
  unfold inflight listAgentDispatches
  infer_instance

instance (ds : List AgentDispatchRequest) : Tx.Keeps Untouched (cancelEach ds : AgentTx Unit) := by
  induction ds with
  | nil => unfold cancelEach; infer_instance
  | cons d rest ih => unfold cancelEach; infer_instance

instance (id : String) (a b : FailoverExecutionState) (at_ : Timestamp) (reason ref : Option String) :
    Tx.Keeps Untouched (transitionFailoverExecution id a b at_ reason ref : AgentTx _) := by
  unfold transitionFailoverExecution loadFailoverExecution
  infer_instance

instance (id : String) (a b : AgentRecoveryAttemptState) (at_ : Timestamp) :
    Tx.Keeps Untouched (transitionAgentRecoveryAttempt id a b at_ : AgentTx _) := by
  unfold transitionAgentRecoveryAttempt loadAgentRecoveryAttempt
  infer_instance

instance (id : String) (g : ℕ) (at_ : Timestamp) : Tx.Keeps Untouched (consumeFailoverDecision id g at_ : AgentTx _) := by
  unfold consumeFailoverDecision loadFailoverDecision
  infer_instance

instance (id : String) : Tx.Keeps Untouched (recoveryAttemptForExecution id : AgentTx _) := by
  unfold recoveryAttemptForExecution
  infer_instance

instance (id : String) : Tx.Keeps Untouched (recoveryOutcomeForAttempt id : AgentTx _) := by
  unfold recoveryOutcomeForAttempt
  infer_instance

instance (o : AgentRecoveryOutcome) : Tx.Keeps Untouched (saveAgentRecoveryOutcome o : AgentTx _) := by
  unfold saveAgentRecoveryOutcome
  infer_instance

instance (r : AgentDispatchResult) (o : AgentRecoveryOutcome) (id : String) (at_ : Timestamp) :
    Tx.Keeps Untouched (recordAgentRecoveryResultBundle r o id at_ : AgentTx Unit) := by
  unfold recordAgentRecoveryResultBundle loadAgentDispatchResult atomically
  refine .bind inferInstance fun existing => .bind inferInstance fun _ => ?_
  infer_instance

instance (e : FailoverExecution) (o : AgentOperationReservation) (ref : Option String) (a b c : Timestamp) :
    Tx.Keeps Untouched (finalizeRecoveryTx e o ref a b c) := by
  unfold finalizeRecoveryTx
  refine .bind inferInstance fun _ => .bind inferInstance fun attempt => ?_
  split <;> infer_instance

section Evaluation
variable {R : AgentStore → AgentStore → Prop} [IsPreorder AgentStore R] (cfg : Config)

instance (x : String) : Tx.Keeps R (cfg.profile x : AgentTx _) := by
  unfold Config.profile
  infer_instance

instance (x : String) : Tx.Keeps R (activeEpoch x : AgentTx _) := by
  unfold activeEpoch authoritativeEpochs openEpochs listDriverEpochs listAgentHandoffs
  refine .bind inferInstance fun epochs => ?_
  rcases epochs with _ | ⟨epoch,_ | _⟩ <;> infer_instance

instance (values : List (String × String)) : Tx.Keeps R (requireIdentifiers values : AgentTx Unit) := by
  induction values with
  | nil => unfold requireIdentifiers; infer_instance
  | cons v rest ih => unfold requireIdentifiers; infer_instance

instance (values : List (String × String)) : Tx.Keeps R (requireSafeIdentifiers cfg values : AgentTx Unit) := by
  induction values with
  | nil => unfold requireSafeIdentifiers; infer_instance
  | cons v rest ih => unfold requireSafeIdentifiers; infer_instance

instance (id x : String) (epoch : DriverEpoch) (g : ℕ) (e : FailoverEvidence) (at_ : Timestamp) (offset : Int) :
    Tx.Keeps R (evaluateFailoverEvidence cfg id x epoch g e at_ offset : AgentTx _) := by
  unfold evaluateFailoverEvidence
  dsimp only
  repeat' refine .bind ?_ fun _ => ?_
  all_goals infer_instance

instance (cs : List AgentCheckpoint) : Tx.Keeps R (newestCheckpoint cs : AgentTx _) := by
  induction cs with
  | nil => unfold newestCheckpoint; infer_instance
  | cons c rest ih =>
    unfold newestCheckpoint
    refine .bind inferInstance fun created => ?_
    refine .bind ih fun best => ?_
    cases best <;> infer_instance

instance (x : String) : Tx.Keeps R (hasActiveTransition x : AgentTx Bool) := by
  unfold hasActiveTransition blockingTransition
  infer_instance

instance (x : String) (policyId : Option String) (id : String) (at_ : Timestamp) (resolve : String → Option String) :
    Tx.Keeps R (evaluateFailoverAt cfg x policyId id at_ resolve : AgentTx _) := by
  unfold evaluateFailoverAt loadFailoverPolicy listProviderHealthObservations listActiveAgentRisks listAgentCheckpoints
  refine .bind inferInstance fun profile => ?_
  dsimp only
  split
  · split
    all_goals
      refine .bind inferInstance fun policy => .bind inferInstance fun epoch => ?_
      infer_instance
  · infer_instance

instance (x : String) (original : FailoverDecision) (draws : FailoverDraws) :
    Tx.Keeps Untouched (reserveFailoverTx cfg x original draws) := by
  unfold reserveFailoverTx loadFailoverDecision saveFailoverExecution
  dsimp only
  refine .bind inferInstance fun current => .bind inferInstance fun _ => .bind inferInstance fun reevaluated => ?_
  refine .bind inferInstance fun _ => .bind inferInstance fun reserved => .bind inferInstance fun _ => ?_
  infer_instance

end Evaluation
end Transactions

/-! ### As programs -/

/-- Commits that leave the handoff records alone are allowed, and results stay. -/
class Tolerant (D : Discipline AgentStore Held Answer AgentError Unit) : Prop where
  untouched : ∀ s s', D.ok s → Untouched s s' → D.step s s' ∧ D.ok s'
  results : ∀ s s', D.ok s → D.step s s' → Grew s.results s'.results

section Programs
variable {D : Discipline AgentStore Held Answer AgentError Unit} [hD : Tolerant D] {α : Type}

theorem after_results {u s : AgentStore} (h : D.After u s) : Grew u.results s.results :=
  h.lift (L := fun s s' => Grew s.results s'.results) (fun _ => .refl _) (fun _ _ _ => .trans) hD.results

theorem from_keeps {held : Held} {t : AgentTx α} [ht : Tx.Keeps Untouched t] (u : AgentStore) :
    D.From (fun _ _ => True) (Prog.transaction held t) u := by
  refine from_transaction fun s _ hok a s' hrun _ => ?_
  obtain ⟨hstep,hok'⟩ := hD.untouched s s' hok ((ht.keeps s).of_ok hrun)
  exact ⟨hstep,hok',trivial⟩

instance (held : Held) (t : AgentTx α) [Tx.Keeps Untouched t] : D.Sound (Prog.transaction held t : AgentProg α) :=
  ⟨from_keeps⟩

instance (t : AgentTx α) [Tx.Keeps Untouched t] : D.Sound (atomically t : AgentProg α) := ⟨from_keeps⟩

omit hD in
instance (priority := low) (p : AgentProg α) [hp : Reads p] : D.Sound p := sound_of_quiet hp

omit hD in
theorem from_reads {p : AgentProg α} [hp : Reads p] {u : AgentStore} : D.From (fun _ _ => True) p u :=
  (sound_of_quiet hp).sound u

section Questions
variable (driver : AgentProvider) (session : AgentSession)
omit hD

theorem sound_ask (q : AgentQuery) : D.Sound (ask q) := ⟨fun _ _ => trivial⟩

instance (tag : String) : D.Sound (newId tag) := sound_ask _
instance (workspace : Option String) : D.Sound (ask (.discover driver workspace)) := sound_ask _
instance (profile : AgentInstanceProfile) : D.Sound (ask (.start driver profile)) := sound_ask _
instance : D.Sound (ask (.resume driver session)) := sound_ask _
instance (request : AgentRecoveryRequest) : D.Sound (ask (.recover driver request session)) := sound_ask _
instance (request : AgentDispatchRequest) : D.Sound (ask (.dispatch driver request)) := sound_ask _
instance : D.Sound (ask (.inspect driver session)) := sound_ask _
instance : D.Sound (ask (.checkpoint driver session)) := sound_ask _
instance : D.Sound (ask (.cancel driver session)) := sound_ask _
instance (profile : AgentInstanceProfile) (package : AgentHandoffPackage) :
    D.Sound (ask (.importHandoff driver profile package)) := sound_ask _

end Questions

theorem sound_holding_of_steps {p : AgentProg α} (h : p.Steps fun s _ s' => Untouched s s') (held : Held) :
    D.Sound (p.holding held) := by
  refine ⟨fun u => ?_⟩
  induction p generalizing u with
  | ret a => trivial
  | fail e => trivial
  | tx held' next k ih =>
    intro s _ hok _
    exact ⟨hD.untouched s _ hok (h.1 s),ih s (h.2 s) _⟩
  | call q k ih => exact fun a => ih a (h a) u

theorem sound_of_steps {p : AgentProg α} (h : p.Steps fun s _ s' => Untouched s s') : D.Sound p := by
  refine ⟨fun u => ?_⟩
  induction p generalizing u with
  | ret a => trivial
  | fail e => trivial
  | tx held' next k ih =>
    intro s _ hok _
    exact ⟨hD.untouched s _ hok (h.1 s),ih s (h.2 s) _⟩
  | call q k ih => exact fun a => ih a (h a) u

instance : Prog.Idle fun (s : AgentStore) (_ : Held) s' => Untouched s s' := ⟨fun s _ => .refl s⟩

theorem steps_saveAgentRecord (T : Table α) [hT : T.Elsewhere] (r : α) :
    (saveAgentRecord T r : AgentProg Unit).Steps fun s _ s' => Untouched s s' := by
  have hwrite : ∀ t : AgentTx Unit, (∀ s a s', t s = .ok (a,s') → s' = s ∨ s' = T.put s r) →
      (atomically t : AgentProg Unit).Steps fun s _ s' => Untouched s s' := by
    intro t ht
    refine Prog.steps_atomically fun s => ?_
    cases hrun : t s with
    | error e => simpa only [Tx.next,hrun] using Untouched.refl s
    | ok x =>
      simp only [Tx.next,hrun]
      rcases ht s x.1 x.2 hrun with h | h
      · exact h ▸ .refl s
      · exact h ▸ hT.untouched s _
  refine Prog.steps_bind (Prog.steps_read _) fun o => ?_
  cases o with
  | some existing =>
    refine Prog.steps_bind (Prog.steps_require _ _) fun _ => hwrite _ fun s a s' hrun => ?_
    rcases update_cases T hrun with ⟨-,h⟩ | ⟨-,-,h⟩
    · exact .inl h
    · exact .inr h
  | none => exact hwrite _ fun s a s' hrun => .inr (insert_cases T hrun).2.2.2

instance (T : Table α) [T.Elsewhere] (r : α) : D.Sound (saveAgentRecord T r) := sound_of_steps (steps_saveAgentRecord T r)

theorem steps_saveAgentDispatch (d : AgentDispatchRequest) :
    (saveAgentDispatch d : AgentProg Unit).Steps fun s _ s' => Untouched s s' := by
  refine Prog.steps_bind ?_ fun _ => steps_saveAgentRecord dispatchTable d
  refine Prog.steps_bind (Prog.steps_read _) fun o => ?_
  cases o with
  | some row => exact Prog.steps_require _ _
  | none => trivial

instance (d : AgentDispatchRequest) : D.Sound (saveAgentDispatch d) := sound_of_steps (steps_saveAgentDispatch d)

instance (d d' : AgentDispatchRequest) : D.Sound (writeBackDispatch d d') :=
  sound_holding_of_steps (steps_saveAgentDispatch d') _

/-- A result is saved in two statements: what the first found is still there. -/
instance (r : AgentDispatchResult) : D.Sound (saveAgentDispatchResult r) := by
  refine ⟨fun u => from_read_bind fun s₁ _ _ => ?_⟩
  have hput : ∀ s, (∀ row, s.results.get? r.id = some row → row = r) → Untouched s (resultTable.put s r) :=
    fun s h => ⟨rfl,rfl,rfl,.set h,.refl KeepsExternal.refl _,id⟩
  cases hrow : (resultTable.rows s₁).get? (resultTable.id r) with
  | some existing =>
    refine from_require_bind fun hid => from_transaction fun s hs hok a s' hrun _ => ?_
    obtain rfl : existing = r := by simpa [resultTable] using hid
    have hnow := after_results hs _ _ hrow
    have hunt : Untouched s s' := by
      rcases update_cases resultTable hrun with ⟨-,rfl⟩ | ⟨-,-,rfl⟩
      · exact .refl _
      · refine hput s fun row h => ?_
        exact Option.some.inj (h.symm.trans hnow)
    exact ⟨(hD.untouched s s' hok hunt).1,(hD.untouched s s' hok hunt).2,trivial⟩
  | none =>
    refine from_transaction fun s _ hok a s' hrun _ => ?_
    obtain ⟨hn,-,-,rfl⟩ := insert_cases resultTable hrun
    have hunt := hput s fun row h => by
      rw [show s.results.get? r.id = none from hn] at h
      cases h
    exact ⟨(hD.untouched s _ hok hunt).1,(hD.untouched s _ hok hunt).2,trivial⟩

instance (x : String) (at_ : Timestamp) : D.Sound (ensureAgentOperation x at_) := by
  have hensure : Tx.Keeps Untouched (Tx.write fun s => s.ensureOperation x at_ : AgentTx Unit) :=
    ⟨fun s => untouched_ensureOperation s x at_⟩
  unfold ensureAgentOperation
  infer_instance

instance (x token : String) (a b : Timestamp) : D.Sound (reserve x token a b) := by
  unfold reserve
  infer_instance

instance (r : AgentOperationReservation) (at_ : Timestamp) : D.Sound (releaseIfOwned r at_) := by
  unfold releaseIfOwned
  infer_instance

instance (request : AgentDispatchRequest) : D.Sound (claimDispatchExecution request) := by
  unfold claimDispatchExecution loadAgentDispatch
  infer_instance

instance (r : AgentOperationReservation) : D.Sound (cancelUnclaimed r) := by
  unfold cancelUnclaimed
  infer_instance

instance (r : AgentOperationReservation) : D.Sound (cancelInflight r) := by
  unfold cancelInflight
  infer_instance

instance (r : AgentOperationReservation) (sessions : List AgentSession) : D.Sound (discoverTx r sessions) := by
  unfold discoverTx
  infer_instance

instance (id : String) (a b : FailoverExecutionState) (at_ : Timestamp) (reason ref : Option String) :
    D.Sound (transitionFailoverExecution id a b at_ reason ref) := by
  unfold transitionFailoverExecution loadFailoverExecution
  infer_instance

instance (id : String) (a b : AgentRecoveryAttemptState) (at_ : Timestamp) :
    D.Sound (transitionAgentRecoveryAttempt id a b at_) := by
  unfold transitionAgentRecoveryAttempt loadAgentRecoveryAttempt
  infer_instance

instance (id : String) (a : AgentRecoveryAttempt) (at_ : Timestamp) : D.Sound (claimFailoverRecovery id a at_) := by
  unfold claimFailoverRecovery saveAgentRecoveryAttempt
  infer_instance

instance (r : AgentDispatchResult) (o : AgentRecoveryOutcome) (id : String) (at_ : Timestamp) :
    D.Sound (recordAgentRecoveryResultBundle r o id at_) := by
  have hbundle := (inferInstance : Tx.Keeps Untouched (recordAgentRecoveryResultBundle r o id at_ : AgentTx Unit))
  exact ⟨from_keeps (t := recordAgentRecoveryResultBundle r o id at_)⟩

omit hD in
instance (p : AgentProg α) (kind : ErrorKind) (as : String → AgentError) [D.Sound p] : D.Sound (reraise kind as p) := by
  unfold reraise
  infer_instance

omit hD in
instance (p : AgentProg α) (last : AgentProg Unit) [D.Sound p] [D.Sound last] : D.Sound (withFinally p last) := by
  unfold withFinally
  infer_instance

omit hD in
instance (p : AgentProg α) [D.Sound p] : D.Sound (dropResult p) := by
  unfold dropResult
  infer_instance

/-! Dispatching -/

instance (r : AgentDispatchResult) (reason : String) : D.Sound (quarantineResult r reason) := by
  unfold quarantineResult
  infer_instance

instance (r : AgentDispatchResult) : D.Sound (recordDispatchResult r) := by
  unfold recordDispatchResult
  infer_instance

instance (epochId : String) (r : AgentDispatchResult) : D.Sound (recordProviderResult epochId r) := by
  unfold recordProviderResult
  refine .bind inferInstance fun _ => .bind inferInstance fun o => ?_
  cases o with
  | none => infer_instance
  | some request =>
    dsimp only
    split
    · infer_instance
    · refine .bind inferInstance fun o => ?_
      rcases o with _ | ⟨epoch,active⟩ <;> infer_instance

instance (request : AgentDispatchRequest) (r : AgentDispatchResult) : D.Sound (completeDispatch request r) := by
  unfold completeDispatch
  infer_instance

instance (request : AgentDispatchRequest) (providerId : String) (a : Option AgentDispatchResult) :
    D.Sound (dispatchAnswer request providerId a) := by
  cases a <;> unfold dispatchAnswer <;> infer_instance

instance (request : AgentDispatchRequest) (at_ : Timestamp) : D.Sound (acceptDispatch request at_) := by
  unfold acceptDispatch
  infer_instance

instance (request : AgentDispatchRequest) : D.Sound (acceptOrReplay request) := by
  unfold acceptOrReplay
  refine @rescue_sound _ _ _ _ _ _ _ _ _ _ _ _ fun e => ?_
  split
  · infer_instance
  split
  · refine .bind inferInstance fun o => ?_
    cases o <;> infer_instance
  · infer_instance

instance (cfg : Config) (epoch : DriverEpoch) (request : AgentDispatchRequest) :
    D.Sound (executeDispatch cfg epoch request) := by
  unfold executeDispatch
  dsimp only
  infer_instance

instance (cfg : Config) (x prompt key : String) (requestedBy : Option String) :
    D.Sound (dispatch cfg x prompt key requestedBy) := by
  unfold dispatch
  refine .bind inferInstance fun _ => .bind inferInstance fun o => ?_
  cases o with
  | some recorded => infer_instance
  | none =>
    dsimp only
    refine .bind inferInstance fun epoch => .bind inferInstance fun _ => .bind inferInstance fun _ => .bind inferInstance fun id => ?_
    refine .bind inferInstance fun requestedAt => .bind inferInstance fun _ => .bind inferInstance fun _ => .bind inferInstance fun _ => ?_
    refine .bind inferInstance fun accepted => ?_
    cases accepted <;> infer_instance

instance (r : AgentOperationReservation) (driver : AgentProvider) (session : AgentSession) :
    D.Sound (cancelAndVerify r driver session) := by
  unfold cancelAndVerify
  infer_instance

instance (r : AgentOperationReservation) (driver : AgentProvider) (session : AgentSession) :
    D.Sound (drain r driver session) := by
  unfold drain
  infer_instance

/-! Discovery and checkpoints -/

section Registry
variable (cfg : Config)

instance (profile : AgentInstanceProfile) (provider : AgentProvider) (x providerId : String)
    (sessions : List AgentSession) : Reads (bindDiscovered profile provider x providerId sessions) := by
  induction sessions with
  | nil => unfold bindDiscovered; infer_instance
  | cons session rest ih => unfold bindDiscovered; infer_instance

instance (x id owner : String) (a b : Timestamp) (retry : Bool) (c : Timestamp) :
    D.Sound (reserveAgentActivation x id owner a b retry c) := by
  unfold reserveAgentActivation
  infer_instance

instance (x id owner : String) (g : ℕ) (st : ActivationState) (e r : Option String) :
    D.Sound (finishAgentActivation x id owner g st e r) := by
  unfold finishAgentActivation
  infer_instance

instance (x : String) : Reads (loadAgentActivation x) := by
  unfold loadAgentActivation
  infer_instance

instance (x : String) (polls : ℕ) : Reads (awaitActivationWinner x polls) := by
  induction polls with
  | zero => unfold awaitActivationWinner; infer_instance
  | succ polls ih =>
    unfold awaitActivationWinner
    refine @Prog.bind_quiet _ _ _ _ _ _ _ _ _ _ _ _ fun reservation => ?_
    split <;> infer_instance

instance : D.Sound drawEpoch := by
  unfold drawEpoch
  infer_instance

instance (x providerId : String) (workspace : Option String) : D.Sound (discover cfg x providerId workspace) := by
  unfold discover
  refine .bind inferInstance fun _ => .bind inferInstance fun token => .bind inferInstance fun ensuredAt => ?_
  infer_instance

instance (x : String) (epoch : DriverEpoch) : D.Sound (collectCheckpoint cfg x epoch) := by
  unfold collectCheckpoint
  infer_instance

instance (x : String) : D.Sound (checkpoint cfg x) := by
  unfold checkpoint saveAgentCheckpoint
  infer_instance

/-! Failovers up to the handoff -/

instance (values : List (String × String)) : Reads (requireSafeIdentifiers cfg values) := by
  induction values with
  | nil => unfold requireSafeIdentifiers; infer_instance
  | cons v rest ih => unfold requireSafeIdentifiers; infer_instance

instance (id x : String) (epoch : DriverEpoch) (g : ℕ) (e : FailoverEvidence) (at_ : Timestamp) (offset : Int) :
    Reads (evaluateFailoverEvidence cfg id x epoch g e at_ offset) := by
  unfold evaluateFailoverEvidence
  dsimp only
  repeat' refine @Prog.bind_quiet _ _ _ _ _ _ _ _ _ _ _ ?_ fun _ => ?_
  all_goals infer_instance

instance (cs : List AgentCheckpoint) : Reads (newestCheckpoint cs) := by
  induction cs with
  | nil => unfold newestCheckpoint; infer_instance
  | cons c rest ih =>
    unfold newestCheckpoint
    refine @Prog.bind_quiet _ _ _ _ _ _ _ _ _ _ _ _ fun created => ?_
    refine @Prog.bind_quiet _ _ _ _ _ _ _ _ _ _ _ ih fun best => ?_
    cases best <;> infer_instance

instance (x : String) : Reads (hasActiveTransition x) := by
  unfold hasActiveTransition
  infer_instance

instance (x : String) (policyId : Option String) (id : String) (at_ : Timestamp) (resolve : String → Option String) :
    Reads (evaluateFailoverAt cfg x policyId id at_ resolve) := by
  unfold evaluateFailoverAt loadFailoverPolicy listProviderHealthObservations listActiveAgentRisks listAgentCheckpoints
  refine @Prog.bind_quiet _ _ _ _ _ _ _ _ _ _ _ _ fun profile => ?_
  dsimp only
  split <;> infer_instance

instance (x : String) (policyId : Option String) : D.Sound (evaluateFailover cfg x policyId) := by
  unfold evaluateFailover saveFailoverDecision
  infer_instance

instance : D.Sound drawFailover := by
  unfold drawFailover
  infer_instance

instance (execution : FailoverExecution) (session : AgentSession) (attemptId : Option String)
    (result : AgentDispatchResult) : Reads (validateRecoveryResult cfg execution session attemptId result) := by
  unfold validateRecoveryResult
  infer_instance

instance (execution : FailoverExecution) (operation : AgentOperationReservation) (ref : Option String) :
    D.Sound (finalizeFailoverRecovery execution operation ref) := by
  unfold finalizeFailoverRecovery
  infer_instance

instance (driver : AgentProvider) (session : AgentSession) : D.Sound (inspected driver session) := by
  unfold inspected
  infer_instance

instance (execution : FailoverExecution) (session : AgentSession) : D.Sound (claimRecovery cfg execution session) := by
  unfold claimRecovery
  dsimp only
  infer_instance

instance (driver : AgentProvider) (execution : FailoverExecution) (session : AgentSession)
    (attempt : AgentRecoveryAttempt) : D.Sound (recoveryAnswer cfg driver execution session attempt) := by
  unfold recoveryAnswer
  dsimp only
  infer_instance

instance (execution : FailoverExecution) (session : AgentSession) (operation : AgentOperationReservation)
    (attempt : AgentRecoveryAttempt) (outcome : AgentRecoveryOutcome) :
    D.Sound (resumeOutcome cfg execution session operation attempt outcome) := by
  unfold resumeOutcome loadAgentDispatchResult
  infer_instance

instance (driver : AgentProvider) (execution : FailoverExecution) (session : AgentSession)
    (operation : AgentOperationReservation) (attempt : AgentRecoveryAttempt) :
    D.Sound (recordRecovery cfg driver execution session operation attempt) := by
  unfold recordRecovery
  dsimp only
  infer_instance

instance (id : String) : Reads (recoveryAttemptForExecution id) := by
  unfold recoveryAttemptForExecution
  infer_instance

instance (id : String) : Reads (recoveryOutcomeForAttempt id) := by
  unfold recoveryOutcomeForAttempt
  infer_instance

instance (driver : AgentProvider) (execution : FailoverExecution) (session : AgentSession)
    (operation : AgentOperationReservation) : D.Sound (recoverWithDriver cfg driver execution session operation) := by
  unfold recoverWithDriver
  have hlast : ∀ (execution : FailoverExecution) (attempt : AgentRecoveryAttempt), D.Sound (do
      match ← recoveryOutcomeForAttempt attempt.id with
      | some outcome => resumeOutcome cfg execution session operation attempt outcome
      | none => recordRecovery cfg driver execution session operation attempt) := by
    intro execution attempt
    refine .bind inferInstance fun o => ?_
    cases o <;> infer_instance
  infer_instance

instance (executionId by_ approvalId : String) : D.Sound (recoverFailoverExecution cfg executionId by_ approvalId) := by
  unfold recoverFailoverExecution loadFailoverExecution
  dsimp only
  refine .bind inferInstance fun _ => .bind inferInstance fun execution => .bind inferInstance fun _ => .bind inferInstance fun _ => ?_
  refine .bind inferInstance fun operation => .bind inferInstance fun _ => .bind inferInstance fun active => ?_
  infer_instance

end Registry
end Programs

end Overseer.Agent
