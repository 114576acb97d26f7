import Overseer.Core.StorageAuthorizations
import Overseer.Library.Fallible

/-! # The lifecycle of a storage authorization

Stages, approvals, materialized rows and revocations are written by separate calls in any order.
Every row can be traced to the calls that wrote it, so whatever verifies was staged, approved and
materialized in that order, and was not revoked.
-/
namespace Overseer.Core
open Overseer.Library

namespace StorageControl

/-- The calls on one store, with what other parts of the program write in between: crew messages,
registrations of adapters, and claims with the pending approvals they ask for. -/
inductive StorageEvent where
  | createRequest (call : RequestCall)
  | stage (call : StageCall)
  | approve (authorizationRef approvedBy : String) (approvedAt : Option String) (clock : String)
  | materialize (authorizationRef : String) (materializedAt : Option String) (clock : String)
  | revoke (authorizationRef revokedBy evidenceId : String) (revokedAt : Option String) (clock : ClockText)
  | coordinate (claims : Dict Claim) (pending : List ApprovalRequest)
  | crewMessage (message : CrewMessage)
  | register (registration : StorageAdapterRegistration)

def filePending (approvals : Dict ApprovalRequest) (a : ApprovalRequest) : Dict ApprovalRequest :=
  approvals.set a.id { a with status := .pending }

def changeClaims (claims : Dict Claim) (pending : List ApprovalRequest) (s : StorageStore) : StorageStore :=
  { s with coord := { s.coord with claims := claims, approvals := pending.foldl filePending s.coord.approvals } }

def saveMessage (message : CrewMessage) (s : StorageStore) : StorageStore :=
  { s with crewMessages := s.crewMessages.set message.id message }

section Host
variable (host : AuthorizationHost)

def StorageEvent.tx : StorageEvent → AuthorizationTx Unit
  | .createRequest call => createExecutionRequest host call
  | .stage call => onControl (stageAuthorization host.toStorageHost call)
  | .approve ref approvedBy approvedAt clock => onControl (approveAuthorization host.toStorageHost ref approvedBy approvedAt clock)
  | .materialize ref materializedAt clock => materializeAuthorization host ref materializedAt clock
  | .revoke ref revokedBy evidenceId revokedAt clock => revokeAuthorization ref revokedBy evidenceId revokedAt clock
  | .coordinate claims pending => onControl (Tx.write (changeClaims claims pending))
  | .crewMessage message => onControl (Tx.write (saveMessage message))
  | .register r => Tx.write fun s => { s with registrations := s.registrations.set r.adapterId r }

/-- A store without storage authorizations. -/
def fresh (claims : Dict Claim) (crewMessages : Dict CrewMessage) (registrations : Dict StorageAdapterRegistration) :
    AuthorizationStore := { control := { coord := { claims }, crewMessages }, registrations }

/-- The state after the calls; one that raises leaves it as it was. -/
def runEvents (s₀ : AuthorizationStore) (events : List StorageEvent) : AuthorizationStore :=
  events.foldl (fun s e => (e.tx host).next s) s₀

/-- The call was made after the calls `pre`, and succeeded. -/
def Accepted (s₀ : AuthorizationStore) (events pre : List StorageEvent) (e : StorageEvent) : Prop :=
  pre ++ [e] <+: events ∧ ∃ s, e.tx host (runEvents host s₀ pre) = .ok ((),s)

/-- Among the calls is an approval of a stage with the digest, by someone else than the owner. -/
def DigestApproved (s₀ : AuthorizationStore) (events : List StorageEvent) (digest owner : String) : Prop :=
  ∃ pre ref approvedBy approvedAt clock row, Accepted host s₀ events pre (.approve ref approvedBy approvedAt clock) ∧
    isBlank approvedBy = false ∧ approvedBy ≠ owner ∧ stageOf (runEvents host s₀ pre).control ref = some row ∧
    row.stage.payloadDigest = digest

/-- What has to have happened for a reference to hold at a time: it was materialized after it was
staged with the crew evidence of its owner and its digest was approved, it has not expired, and
nobody has revoked it. -/
def Authorized (s₀ : AuthorizationStore) (events : List StorageEvent) (kind ref : String) (t : ℤ) : Prop :=
  ∃ before materializedAt clock early call, Accepted host s₀ events before (.materialize ref materializedAt clock) ∧
    Accepted host s₀ before early (.stage call) ∧ call.authorizationRef host.toStorageHost = ref ∧ call.kind = kind ∧
    expectedOwner kind = some call.crewOwner ∧
    requireCrew (runEvents host s₀ early).control call.crewEvidenceId call.crewOwner = .ok () ∧
    DigestApproved host s₀ before (call.digest host.toStorageHost) call.crewOwner ∧
    (∃ expires, time host.toStorageHost (str host.toStorageHost (call.payload.get "expires_at")) = .ok expires ∧ t < expires) ∧
    ∀ pre revokedBy evidenceId revokedAt clock, ¬ Accepted host s₀ events pre (.revoke ref revokedBy evidenceId revokedAt clock)

/-- Whatever verifies after the calls is authorized at the time of the verification. -/
structure LifecycleSafe (s₀ : AuthorizationStore) (events : List StorageEvent) : Prop where
  root : ∀ payload verifiedAt clock record,
    verifyStorageRootAuthorizationStatus host (runEvents host s₀ events) payload verifiedAt clock = .ok record →
    ∃ t, verifiedTime host verifiedAt clock = .ok t ∧
      Authorized host s₀ events "root" (str host.toStorageHost (payload.get "authorization_ref")) t
  operation : ∀ payload verifiedAt clock record,
    verifyStorageAuthorizationStatus host (runEvents host s₀ events) payload verifiedAt clock = .ok record →
    ∃ t, verifiedTime host verifiedAt clock = .ok t ∧
      Authorized host s₀ events "operation" (str host.toStorageHost (payload.get "authorization_ref")) t

end Host

/-! ### What each call writes -/

theorem post_liftChecked {α : Type} (r : Except StorageError α) (s : AuthorizationStore) (Q : α → AuthorizationStore → Prop) :
    (liftChecked r).Post s Q ↔ ∀ a, r = .ok a → Q a s := by
  unfold Tx.Post liftChecked
  cases r with
  | error e => simp [Except.map]
  | ok a => simp [Except.map]

theorem onControl_ok {t : StorageTx Unit} {s s' : AuthorizationStore} (h : onControl t s = .ok ((),s')) :
    ∃ c, t s.control = .ok ((),c) ∧ s' = { s with control := c } := by
  unfold onControl at h
  cases ht : t s.control with
  | error e =>
    rw [ht] at h
    cases h
  | ok r =>
    rw [ht] at h
    cases h
    exact ⟨r.2,rfl,rfl⟩

section Step
variable {host : AuthorizationHost} {s s' : AuthorizationStore}

theorem createExecutionRequest_ok {call : RequestCall} (h : createExecutionRequest host call s = .ok ((),s')) :
    ∃ requests, s' = { s with executionRequests := requests } := by
  have hsave : ∀ r : StorageExecutionRequest, (saveStorageExecutionRequest r).Post s fun _ s' =>
      ∃ requests, s' = { s with executionRequests := requests } := by
    intro r
    unfold saveStorageExecutionRequest
    rw [Tx.post_bind,Tx.post_read]
    split
    · rw [post_liftChecked]
      exact fun _ _ => ⟨_,rfl⟩
    · rw [Tx.post_bind,post_liftChecked]
      intro _ _
      rw [Tx.post_write]
      exact ⟨_,rfl⟩
  have hpost : (createExecutionRequest host call).Post s fun _ s' => ∃ requests, s' = { s with executionRequests := requests } := by
    unfold createExecutionRequest
    simp only [Tx.post_bind,post_liftChecked,Tx.post_read]
    intros
    exact hsave _
  exact hpost.of_ok h

theorem stageAuthorization_ok {call : StageCall} {c c' : StorageStore}
    (h : stageAuthorization host.toStorageHost call c = .ok ((),c')) :
    call.accepted host.toStorageHost c = .ok () ∧
      c' = storeApproval (call.approval host.toStorageHost) (insertStage (call.stage host.toStorageHost) c) := by
  have hpost : (stageAuthorization host.toStorageHost call).Post c fun _ c' => call.accepted host.toStorageHost c = .ok () ∧
      c' = storeApproval (call.approval host.toStorageHost) (insertStage (call.stage host.toStorageHost) c) := by
    unfold stageAuthorization
    rw [Tx.post_bind,Tx.post_read,Tx.post_bind,post_liftCheck]
    intro _ haccepted
    rw [Tx.post_bind,Tx.post_write,Tx.post_write]
    exact ⟨haccepted,rfl⟩
  exact hpost.of_ok h

/-- An approval is granted for a stage whose evidence and digest it names. -/
theorem approveAuthorization_grants {ref approvedBy : String} {approvedAt : Option String} {clock : String} {c c' : StorageStore}
    (h : approveAuthorization host.toStorageHost ref approvedBy approvedAt clock c = .ok ((),c')) :
    isBlank approvedBy = false ∧ ∃ row approval, stageOf c ref = some row ∧ independentPending row.stage approval approvedBy ∧
      c' = storeApproval (Coordinator.approve approval approvedBy (some (orElse approvedAt clock))) c := by
  have hpost : (approveAuthorization host.toStorageHost ref approvedBy approvedAt clock).Post c fun _ c' =>
      isBlank approvedBy = false ∧ ∃ row approval, stageOf c ref = some row ∧ independentPending row.stage approval approvedBy ∧
        c' = storeApproval (Coordinator.approve approval approvedBy (some (orElse approvedAt clock))) c := by
    unfold approveAuthorization
    rw [Tx.post_bind,post_liftCheck]
    intro _ hblank
    rw [Tx.post_bind,post_liftCheck]
    intro _ _
    rw [Tx.post_bind,Tx.post_read]
    simp only [id]
    split
    · trivial
    next row hrow =>
    rw [Tx.post_bind,post_liftCheck]
    intro _ _
    split
    · trivial
    next approval happroval =>
    rw [Tx.post_bind,post_liftCheck]
    intro _ hcheck
    rw [Tx.post_write]
    exact ⟨check_ok hblank,row,approval,hrow,check_ok hcheck,rfl⟩
  exact hpost.of_ok h

theorem materializable_ok {ref now : String} {staged : StorageAuthorizationStage × ApprovalRequest}
    (h : materializable host s ref now = .ok staged) :
    ∃ row, stageOf s.control ref = some row ∧ row.stage = staged.1 ∧
      s.control.coord.approvals.get? row.stage.approvalId = some staged.2 ∧ Granted staged.1 staged.2 := by
  unfold materializable at h
  obtain ⟨row,hrow,h⟩ := except_bind_ok h
  obtain ⟨approval,happroval,h⟩ := except_bind_ok h
  obtain ⟨_,-,h⟩ := except_bind_ok h
  obtain ⟨_,hgranted,h⟩ := except_bind_ok h
  obtain ⟨_,-,h⟩ := except_bind_ok h
  obtain ⟨_,-,h⟩ := except_bind_ok h
  obtain ⟨_,-,h⟩ := except_bind_ok h
  cases h
  have hfound : stageOf s.control ref = some row := by
    unfold stagedRow at hrow
    split at hrow
    · next r hr =>
      cases hrow
      exact hr
    · cases hrow
  have hloaded : s.control.coord.approvals.get? row.stage.approvalId = some approval := by
    unfold found at happroval
    split at happroval
    · next a ha =>
      cases happroval
      exact ha
    · cases happroval
  exact ⟨row,hfound,rfl,hloaded,check_ok hgranted⟩

theorem keepFirst_ok {table table' : Dict AuthorizationRecord} {ref message : String} {record : AuthorizationRecord}
    (h : keepFirst table ref record message = .ok table') : ∀ k r, table'.get? k = some r → table.get? k = some r ∨ k = ref ∧ r = record := by
  obtain ⟨_,-,h⟩ := except_bind_ok h
  cases h
  intro k r hk
  split at hk
  · exact .inl hk
  · rw [Dict.get?_set] at hk
    split at hk
    · next hkey => exact .inr ⟨hkey,(Option.some.inj hk).symm⟩
    · exact .inl hk

/-- Materializing adds at most the row of the stage, to the table of its kind. -/
theorem materializeAuthorization_ok {ref : String} {materializedAt : Option String} {clock : String}
    (h : materializeAuthorization host ref materializedAt clock s = .ok ((),s')) :
    ∃ staged, materializable host s ref (orElse materializedAt clock) = .ok staged ∧
      ∃ table, (∀ old : Dict AuthorizationRecord, old = (if staged.1.kind = "root" then s.rootAuthorizations else s.authorizations) →
          ∀ k r, table.get? k = some r → old.get? k = some r ∨ k = str host.toStorageHost (staged.1.payload.get "authorization_ref") ∧
            r = recordOf staged.1 staged.2 (orElse materializedAt clock)) ∧
        s' = if staged.1.kind = "root" then { s with rootAuthorizations := table } else { s with authorizations := table } := by
  have hpost : (materializeAuthorization host ref materializedAt clock).Post s fun _ s' =>
      ∃ staged, materializable host s ref (orElse materializedAt clock) = .ok staged ∧
        ∃ table, (∀ old : Dict AuthorizationRecord, old = (if staged.1.kind = "root" then s.rootAuthorizations else s.authorizations) →
            ∀ k r, table.get? k = some r → old.get? k = some r ∨ k = str host.toStorageHost (staged.1.payload.get "authorization_ref") ∧
              r = recordOf staged.1 staged.2 (orElse materializedAt clock)) ∧
          s' = if staged.1.kind = "root" then { s with rootAuthorizations := table } else { s with authorizations := table } := by
    unfold materializeAuthorization
    rw [Tx.post_bind,Tx.post_read,Tx.post_bind,post_liftChecked]
    intro staged hstaged
    split
    · next hkind =>
      unfold saveStorageRootAuthorization
      rw [Tx.post_bind,Tx.post_read,Tx.post_bind,post_liftChecked]
      intro table htable
      rw [Tx.post_write]
      refine ⟨staged,hstaged,table,fun old hold => ?_,by rw [if_pos hkind]⟩
      rw [hold,if_pos hkind]
      exact keepFirst_ok htable
    · next hkind =>
      rw [Tx.post_bind,post_liftChecked]
      intro _ _
      unfold saveStorageAuthorization
      rw [Tx.post_bind,Tx.post_read,Tx.post_bind,post_liftChecked]
      intro table htable
      rw [Tx.post_write]
      refine ⟨staged,hstaged,table,fun old hold => ?_,by rw [if_neg hkind]⟩
      rw [hold,if_neg hkind]
      exact keepFirst_ok htable
  exact hpost.of_ok h

theorem orElse_ne {given : Option String} {text : String} (h : text ≠ "") : orElse given text ≠ "" := by
  unfold orElse
  split
  · split
    · exact h
    · assumption
  · exact h

theorem revokeAuthorization_ok {ref revokedBy evidenceId : String} {revokedAt : Option String} {clock : ClockText}
    (h : revokeAuthorization ref revokedBy evidenceId revokedAt clock s = .ok ((),s')) :
    ∃ r : Revocation, r.revokedAt ≠ "" ∧ s' = { s with revocations := s.revocations.set ref r } := by
  have hpost : (revokeAuthorization ref revokedBy evidenceId revokedAt clock).Post s fun _ s' =>
      ∃ r : Revocation, r.revokedAt ≠ "" ∧ s' = { s with revocations := s.revocations.set ref r } := by
    unfold revokeAuthorization
    rw [Tx.post_bind,Tx.post_read,Tx.post_bind,post_liftChecked]
    intro kind _
    rw [Tx.post_write]
    exact ⟨_,orElse_ne clock.nonempty,rfl⟩
  exact hpost.of_ok h

end Step

/-! ### Tracing rows to calls -/

section Traces
variable (host : AuthorizationHost) (s₀ : AuthorizationStore) (events : List StorageEvent)

/-- The stage was filed by an accepted call. -/
def StagedBy (row : StageRow) : Prop :=
  ∃ pre call, Accepted host s₀ events pre (.stage call) ∧ call.accepted host.toStorageHost (runEvents host s₀ pre).control = .ok () ∧
    row.stage = call.stage host.toStorageHost ∧ row.authorizationRef = call.authorizationRef host.toStorageHost

/-- The approval was granted by an accepted call, for a stage it names. -/
def GrantedBy (a : ApprovalRequest) : Prop :=
  ∃ pre ref approvedBy approvedAt clock row, Accepted host s₀ events pre (.approve ref approvedBy approvedAt clock) ∧
    isBlank approvedBy = false ∧ a.decidedBy = some approvedBy ∧ stageOf (runEvents host s₀ pre).control ref = some row ∧
    a.evidenceRequired = [row.stage.crewEvidenceId,row.stage.payloadDigest]

/-- The row was materialized by an accepted call, from the stage and the approval there was. -/
def MaterializedBy (root : Bool) (ref : String) (record : AuthorizationRecord) : Prop :=
  ∃ pre materializedAt clock row approval, Accepted host s₀ events pre (.materialize ref materializedAt clock) ∧
    stageOf (runEvents host s₀ pre).control ref = some row ∧
    (runEvents host s₀ pre).control.coord.approvals.get? row.stage.approvalId = some approval ∧ Granted row.stage approval ∧
    record.payload = row.stage.payload ∧ root = decide (row.stage.kind = "root")

def Revokes (ref : String) : StorageEvent → Prop
  | .revoke ref' _ _ _ _ => ref' = ref
  | _ => False

/-- Every row of a store can be traced to a call, and every revocation has its row. -/
structure Traced (s : AuthorizationStore) : Prop where
  staged : ∀ row ∈ s.control.stages.values, StagedBy host s₀ events row
  granted : ∀ k a, s.control.coord.approvals.get? k = some a → a.status = .approved → GrantedBy host s₀ events a
  roots : ∀ ref record, s.rootAuthorizations.get? ref = some record → MaterializedBy host s₀ events true ref record
  operations : ∀ ref record, s.authorizations.get? ref = some record → MaterializedBy host s₀ events false ref record
  revoked : ∀ ref pre e, Accepted host s₀ events pre e → Revokes ref e → ∃ r, s.revocations.get? ref = some r ∧ r.revokedAt ≠ ""

end Traces

section Run
variable {host : AuthorizationHost} {s₀ s s' : AuthorizationStore} {events pre : List StorageEvent} {e e' : StorageEvent}

theorem Accepted.snoc (h : Accepted host s₀ events pre e') : Accepted host s₀ (events ++ [e]) pre e' :=
  ⟨h.1.trans (List.prefix_append _ _),h.2⟩

theorem StagedBy.snoc {row : StageRow} (h : StagedBy host s₀ events row) : StagedBy host s₀ (events ++ [e]) row := by
  obtain ⟨pre,call,haccepted,hrest⟩ := h
  exact ⟨pre,call,haccepted.snoc,hrest⟩

theorem GrantedBy.snoc {a : ApprovalRequest} (h : GrantedBy host s₀ events a) : GrantedBy host s₀ (events ++ [e]) a := by
  obtain ⟨pre,ref,approvedBy,approvedAt,clock,row,haccepted,hrest⟩ := h
  exact ⟨pre,ref,approvedBy,approvedAt,clock,row,haccepted.snoc,hrest⟩

theorem MaterializedBy.snoc {root : Bool} {ref : String} {record : AuthorizationRecord}
    (h : MaterializedBy host s₀ events root ref record) : MaterializedBy host s₀ (events ++ [e]) root ref record := by
  obtain ⟨pre,materializedAt,clock,row,approval,haccepted,hrest⟩ := h
  exact ⟨pre,materializedAt,clock,row,approval,haccepted.snoc,hrest⟩

theorem Accepted.before_or_last (h : Accepted host s₀ (events ++ [e]) pre e') :
    Accepted host s₀ events pre e' ∨ pre = events ∧ e' = e := by
  rcases List.prefix_concat_iff.mp h.1 with heq | hpre
  · obtain ⟨hpre,hlast⟩ := List.append_inj' heq rfl
    exact .inr ⟨hpre,List.cons.inj hlast |>.1⟩
  · exact .inl ⟨hpre,h.2⟩

theorem runEvents_snoc : runEvents host s₀ (events ++ [e]) = (e.tx host).next (runEvents host s₀ events) := by
  simp only [runEvents,List.foldl_append,List.foldl_cons,List.foldl_nil]

/-- What a call that revokes nothing has to show of the rows it leaves. -/
theorem Traced.next (h : Traced host s₀ events s) (hnot : ∀ ref, ¬ Revokes ref e)
    (hstaged : ∀ row ∈ s'.control.stages.values, row ∈ s.control.stages.values ∨ StagedBy host s₀ (events ++ [e]) row)
    (hgranted : ∀ k a, s'.control.coord.approvals.get? k = some a → a.status = .approved →
      s.control.coord.approvals.get? k = some a ∨ GrantedBy host s₀ (events ++ [e]) a)
    (hroots : ∀ ref record, s'.rootAuthorizations.get? ref = some record →
      s.rootAuthorizations.get? ref = some record ∨ MaterializedBy host s₀ (events ++ [e]) true ref record)
    (hoperations : ∀ ref record, s'.authorizations.get? ref = some record →
      s.authorizations.get? ref = some record ∨ MaterializedBy host s₀ (events ++ [e]) false ref record)
    (hrevocations : s'.revocations = s.revocations) : Traced host s₀ (events ++ [e]) s' := by
  constructor
  · intro row hrow
    exact (hstaged row hrow).elim (fun hold => (h.staged row hold).snoc) id
  · intro k a ha happroved
    exact (hgranted k a ha happroved).elim (fun hold => (h.granted k a hold happroved).snoc) id
  · intro ref record hrecord
    exact (hroots ref record hrecord).elim (fun hold => (h.roots ref record hold).snoc) id
  · intro ref record hrecord
    exact (hoperations ref record hrecord).elim (fun hold => (h.operations ref record hold).snoc) id
  · intro ref pre e' haccepted hrevokes
    rw [hrevocations]
    rcases haccepted.before_or_last with hbefore | ⟨-,rfl⟩
    · exact h.revoked ref pre e' hbefore hrevokes
    · exact absurd hrevokes (hnot ref)

theorem stageOf_spec {c : StorageStore} {ref : String} {row : StageRow} (h : stageOf c ref = some row) :
    row ∈ c.stages.values ∧ row.authorizationRef = ref := by
  have hcheck := List.find?_some h
  exact ⟨List.mem_of_find?_eq_some h,of_decide_eq_true hcheck⟩

theorem mem_stages_insertStage {c : StorageStore} {stage : StorageAuthorizationStage} {row : StageRow}
    (h : row ∈ (insertStage stage c).stages.values) :
    row ∈ c.stages.values ∨ row = ⟨stage.kind,stage.authorizationRef,dumped stage,stage⟩ := by
  unfold insertStage at h
  split at h
  · exact .inl h
  · obtain ⟨k,hk⟩ := (Dict.mem_values_iff _ _).mp h
    rw [Dict.get?_set] at hk
    split at hk
    · exact .inr (Option.some.inj hk).symm
    · exact .inl (Dict.mem_values_of_get? hk)

theorem get?_filePending (pending : List ApprovalRequest) (approvals : Dict ApprovalRequest) {k : String} {a : ApprovalRequest}
    (h : (pending.foldl filePending approvals).get? k = some a) (happroved : a.status = .approved) : approvals.get? k = some a := by
  induction pending generalizing approvals with
  | nil => exact h
  | cons b rest ih =>
    have hset := ih (filePending approvals b) h
    rw [filePending,Dict.get?_set] at hset
    split at hset
    · cases hset
      cases happroved
    · exact hset

/-- Every call keeps the rows traceable. -/
theorem Traced.step (h : Traced host s₀ events (runEvents host s₀ events)) (e : StorageEvent) :
    Traced host s₀ (events ++ [e]) (runEvents host s₀ (events ++ [e])) := by
  rw [runEvents_snoc]
  unfold Tx.next
  cases hrun : e.tx host (runEvents host s₀ events) with
  | error error =>
    -- a call that raises is not among the accepted ones
    have hnot : ∀ ref pre e', Accepted host s₀ (events ++ [e]) pre e' → Revokes ref e' → Accepted host s₀ events pre e' := by
      intro ref pre e' haccepted _
      rcases haccepted.before_or_last with hbefore | ⟨rfl,rfl⟩
      · exact hbefore
      · obtain ⟨s',hs'⟩ := haccepted.2
        rw [hrun] at hs'
        cases hs'
    exact ⟨fun row hrow => (h.staged row hrow).snoc,fun k a ha happroved => (h.granted k a ha happroved).snoc,
      fun ref record hr => (h.roots ref record hr).snoc,fun ref record hr => (h.operations ref record hr).snoc,
      fun ref pre e' ha hr => h.revoked ref pre e' (hnot ref pre e' ha hr) hr⟩
  | ok r =>
    obtain ⟨u,s'⟩ := r
    have hself : Accepted host s₀ (events ++ [e]) events e := ⟨List.prefix_rfl,s',hrun⟩
    cases e with
    | createRequest call =>
      obtain ⟨requests,rfl⟩ := createExecutionRequest_ok hrun
      exact h.next (fun _ h => h) (fun _ hr => .inl hr) (fun _ _ ha _ => .inl ha) (fun _ _ hr => .inl hr) (fun _ _ hr => .inl hr) rfl
    | stage call =>
      obtain ⟨c,hstage,rfl⟩ := onControl_ok hrun
      obtain ⟨haccepted,rfl⟩ := stageAuthorization_ok hstage
      refine h.next (fun _ h => h) (fun row hrow => ?_) (fun k a ha happroved => ?_) (fun _ _ hr => .inl hr) (fun _ _ hr => .inl hr) rfl
      · rcases mem_stages_insertStage hrow with hold | rfl
        · exact .inl hold
        · exact .inr ⟨events,call,hself,haccepted,rfl,rfl⟩
      · have hset : ((insertStage (call.stage host.toStorageHost) (runEvents host s₀ events).control).coord.approvals.set
            (call.approval host.toStorageHost).id (call.approval host.toStorageHost)).get? k = some a := ha
        rw [insertStage_coord,Dict.get?_set] at hset
        split at hset
        · cases hset
          cases happroved
        · exact .inl hset
    | approve ref approvedBy approvedAt clock =>
      obtain ⟨c,happrove,rfl⟩ := onControl_ok hrun
      obtain ⟨hblank,row,approval,hrow,hpending,rfl⟩ := approveAuthorization_grants happrove
      refine h.next (fun _ h => h) (fun _ hr => .inl hr) (fun k a ha _ => ?_) (fun _ _ hr => .inl hr) (fun _ _ hr => .inl hr) rfl
      have hset : ((runEvents host s₀ events).control.coord.approvals.set approval.id
          (Coordinator.approve approval approvedBy (some (orElse approvedAt clock)))).get? k = some a := ha
      rw [Dict.get?_set] at hset
      split at hset
      · obtain rfl := Option.some.inj hset
        exact .inr ⟨events,ref,approvedBy,approvedAt,clock,row,hself,hblank,rfl,hrow,hpending.2.2.2⟩
      · exact .inl hset
    | materialize ref materializedAt clock =>
      obtain ⟨staged,hstaged,table,htable,rfl⟩ := materializeAuthorization_ok hrun
      obtain ⟨row,hrow,hstage,happroval,hgranted⟩ := materializable_ok hstaged
      -- the row is filed under the reference that was materialized
      have hkey : str host.toStorageHost (staged.1.payload.get "authorization_ref") = ref := by
        obtain ⟨hmem,href⟩ := stageOf_spec hrow
        obtain ⟨_,call,_,_,hcall,hcallRef⟩ := h.staged row hmem
        rw [← hstage,hcall,← href,hcallRef]
        rfl
      have hnew : ∀ root : Bool, root = decide (staged.1.kind = "root") →
          MaterializedBy host s₀ (events ++ [.materialize ref materializedAt clock]) root ref
            (recordOf staged.1 staged.2 (orElse materializedAt clock)) := by
        intro root hroot
        exact ⟨events,materializedAt,clock,row,staged.2,hself,hrow,happroval,hstage ▸ hgranted,by rw [hstage]; rfl,by rw [hstage]; exact hroot⟩
      by_cases hkind : staged.1.kind = "root"
      · rw [if_pos hkind]
        refine h.next (fun _ h => h) (fun _ hr => .inl hr) (fun _ _ ha _ => .inl ha) (fun k record hr => ?_) (fun _ _ hr => .inl hr) rfl
        rcases htable _ rfl k record hr with hold | ⟨hk,rfl⟩
        · rw [if_pos hkind] at hold
          exact .inl hold
        · rw [hk,hkey]
          exact .inr (hnew true (decide_eq_true hkind).symm)
      · rw [if_neg hkind]
        refine h.next (fun _ h => h) (fun _ hr => .inl hr) (fun _ _ ha _ => .inl ha) (fun _ _ hr => .inl hr) (fun k record hr => ?_) rfl
        rcases htable _ rfl k record hr with hold | ⟨hk,rfl⟩
        · rw [if_neg hkind] at hold
          exact .inl hold
        · rw [hk,hkey]
          exact .inr (hnew false (decide_eq_false hkind).symm)
    | revoke ref revokedBy evidenceId revokedAt clock =>
      obtain ⟨r,htime,rfl⟩ := revokeAuthorization_ok hrun
      refine ⟨fun row hrow => (h.staged row hrow).snoc,fun k a ha happroved => (h.granted k a ha happroved).snoc,
        fun ref record hr => (h.roots ref record hr).snoc,fun ref record hr => (h.operations ref record hr).snoc,
        fun ref' pre e' haccepted hrevokes => ?_⟩
      rw [Dict.get?_set]
      split
      · exact ⟨r,rfl,htime⟩
      · next hne =>
        rcases haccepted.before_or_last with hbefore | ⟨-,rfl⟩
        · exact h.revoked ref' pre e' hbefore hrevokes
        · exact absurd hrevokes.symm hne
    | coordinate claims pending =>
      obtain ⟨c,hwrite,rfl⟩ := onControl_ok hrun
      cases hwrite
      exact h.next (fun _ h => h) (fun _ hr => .inl hr) (fun k a ha happroved => .inl (get?_filePending pending _ ha happroved))
        (fun _ _ hr => .inl hr) (fun _ _ hr => .inl hr) rfl
    | crewMessage message =>
      obtain ⟨c,hwrite,rfl⟩ := onControl_ok hrun
      cases hwrite
      exact h.next (fun _ h => h) (fun _ hr => .inl hr) (fun _ _ ha _ => .inl ha) (fun _ _ hr => .inl hr) (fun _ _ hr => .inl hr) rfl
    | register r =>
      cases hrun
      exact h.next (fun _ h => h) (fun _ hr => .inl hr) (fun _ _ ha _ => .inl ha) (fun _ _ hr => .inl hr) (fun _ _ hr => .inl hr) rfl

theorem traced (host : AuthorizationHost) (claims : Dict Claim) (crewMessages : Dict CrewMessage)
    (registrations : Dict StorageAdapterRegistration) (events : List StorageEvent) :
    Traced host (fresh claims crewMessages registrations) events (runEvents host (fresh claims crewMessages registrations) events) := by
  induction events using List.reverseRecOn with
  | nil =>
    constructor
    · intro row hrow
      cases hrow
    · intro k a ha
      cases ha
    · intro ref record hr
      cases hr
    · intro ref record hr
      cases hr
    · intro ref pre e haccepted
      have hlength := haccepted.1.length_le
      simp at hlength
  | append_singleton events e ih => exact ih.step e

/-! ### What a verification rests on -/

theorem demand_ok {c : Prop} [Decidable c] {code message : String} {a : Unit} (h : demand c code message = .ok a) : c := by
  unfold demand at h
  split at h
  · assumption
  · cases h

theorem timestamp_ok {read : Except StorageError ℤ} {message : String} {t : ℤ} (h : timestamp read message = .ok t) : read = .ok t := by
  unfold timestamp at h
  split at h
  · cases h
    rfl
  · cases h

theorem found_ok {α : Type} {row : Option α} {k : String} {a : α} (h : found row k = .ok a) : row = some a := by
  unfold found at h
  split at h
  · cases h
    rfl
  · cases h

theorem loaded_ok {table : Dict AuthorizationRecord} {ref message : String} {record : AuthorizationRecord}
    (h : orRequired (loaded s table ref) message = .ok record) (hrevoked : record.revokedAt.all (· = "") = true) :
    (∃ r, table.get? ref = some r ∧ r.payload = record.payload) ∧ ∀ r, s.revocations.get? ref = some r → r.revokedAt = "" := by
  unfold orRequired at h
  split at h
  · next row hrow =>
    cases h
    obtain ⟨r,hr,hloaded⟩ := Option.map_eq_some_iff.mp hrow
    constructor
    · refine ⟨r,hr,?_⟩
      rw [← hloaded]
      split <;> rfl
    · intro revocation hrevocation
      rw [hrevocation] at hloaded
      rw [← hloaded] at hrevoked
      simpa using hrevoked
  · cases h

theorem verifyStorageRoot_ok {payload : Payload} {verifiedAt : Option String} {clock : ℤ} {record : AuthorizationRecord}
    (h : verifyStorageRootAuthorizationStatus host s payload verifiedAt clock = .ok record) :
    ∃ t expires r, verifiedTime host verifiedAt clock = .ok t ∧
      s.rootAuthorizations.get? (str host.toStorageHost (payload.get "authorization_ref")) = some r ∧
      time host.toStorageHost (str host.toStorageHost (r.payload.get "expires_at")) = .ok expires ∧ t < expires ∧
      ∀ revocation, s.revocations.get? (str host.toStorageHost (payload.get "authorization_ref")) = some revocation →
        revocation.revokedAt = "" := by
  unfold verifyStorageRootAuthorizationStatus at h
  obtain ⟨_,-,h⟩ := except_bind_ok h
  obtain ⟨record',hloaded,h⟩ := except_bind_ok h
  obtain ⟨_,-,h⟩ := except_bind_ok h
  obtain ⟨t,ht,h⟩ := except_bind_ok h
  obtain ⟨_,-,h⟩ := except_bind_ok h
  obtain ⟨_,-,h⟩ := except_bind_ok h
  obtain ⟨expires,hexpires,h⟩ := except_bind_ok h
  obtain ⟨_,hvalid,h⟩ := except_bind_ok h
  obtain ⟨-,hrevoked,-,hlt⟩ := demand_ok hvalid
  obtain ⟨⟨r,hr,hpayload⟩,hnone⟩ := loaded_ok hloaded hrevoked
  refine ⟨t,expires,r,timestamp_ok ht,hr,?_,hlt,hnone⟩
  rw [hpayload]
  exact timestamp_ok hexpires

theorem verifyStorageAuthorization_ok {record : AuthorizationRecord} {request : StorageExecutionRequest} {claim : Claim}
    {approval : ApprovalRequest} {payload : Payload} {now : ℤ} {failed : String} {record' : AuthorizationRecord}
    (h : verifyStorageAuthorization host record request claim approval payload now failed = .ok record') :
    record.revokedAt.all (· = "") = true ∧
      ∃ expires, time host.toStorageHost (str host.toStorageHost (record.payload.get "expires_at")) = .ok expires ∧ now < expires := by
  unfold verifyStorageAuthorization at h
  obtain ⟨_,-,h⟩ := except_bind_ok h
  obtain ⟨expires,hexpires,h⟩ := except_bind_ok h
  obtain ⟨_,hvalid,h⟩ := except_bind_ok h
  obtain ⟨-,hrevoked,hlt⟩ := demand_ok hvalid
  exact ⟨hrevoked,expires,timestamp_ok hexpires,hlt⟩

theorem verifyStorage_ok {payload : Payload} {verifiedAt : Option String} {clock : ℤ} {record : AuthorizationRecord}
    (h : verifyStorageAuthorizationStatus host s payload verifiedAt clock = .ok record) :
    ∃ t expires r, verifiedTime host verifiedAt clock = .ok t ∧
      s.authorizations.get? (str host.toStorageHost (payload.get "authorization_ref")) = some r ∧
      time host.toStorageHost (str host.toStorageHost (r.payload.get "expires_at")) = .ok expires ∧ t < expires ∧
      ∀ revocation, s.revocations.get? (str host.toStorageHost (payload.get "authorization_ref")) = some revocation →
        revocation.revokedAt = "" := by
  unfold verifyStorageAuthorizationStatus at h
  obtain ⟨_,-,h⟩ := except_bind_ok h
  obtain ⟨record',hloaded,h⟩ := except_bind_ok h
  obtain ⟨request,-,h⟩ := except_bind_ok h
  obtain ⟨claim,-,h⟩ := except_bind_ok h
  obtain ⟨approval,-,h⟩ := except_bind_ok h
  obtain ⟨t,ht,h⟩ := except_bind_ok h
  obtain ⟨hrevoked,expires,hexpires,hlt⟩ := verifyStorageAuthorization_ok h
  obtain ⟨⟨r,hr,hpayload⟩,hnone⟩ := loaded_ok hloaded hrevoked
  refine ⟨t,expires,r,timestamp_ok ht,hr,?_,hlt,hnone⟩
  rw [hpayload]
  exact hexpires

/-! ### The claim of a row -/

theorem digest_ne_crew {crewEvidenceId digest : String} (h : crewEvidenceId.startsWith "crew." = true) :
    "sha256:" ++ digest ≠ crewEvidenceId := by
  rintro rfl
  rw [String.startsWith_string_iff,String.toList_append] at h
  obtain ⟨rest,hrest⟩ := h
  have hhead : 'c' = 's' := (List.cons.inj (show 'c' :: _ = 's' :: _ from hrest)).1
  exact absurd hhead (by decide)

theorem StageCall.accepted_ok {call : StageCall} {c : StorageStore} (h : call.accepted host.toStorageHost c = .ok ()) :
    expectedOwner call.kind = some call.crewOwner ∧ call.crewEvidenceId.startsWith "crew." = true ∧
      requireCrew c call.crewEvidenceId call.crewOwner = .ok () := by
  obtain ⟨_,hchecks,h⟩ := except_bind_ok h
  obtain ⟨_,hcrew,_⟩ := except_bind_ok h
  obtain ⟨_,howner,_⟩ := except_bind_ok hchecks
  exact ⟨(check_ok howner).1,(check_ok howner).2,hcrew⟩

/-- What holds of a row that was materialized. -/
theorem MaterializedBy.authorized (htraced : ∀ pre, Traced host s₀ pre (runEvents host s₀ pre)) {root : Bool} {ref : String}
    {record : AuthorizationRecord} (h : MaterializedBy host s₀ events root ref record) {t expires : ℤ}
    (hexpires : time host.toStorageHost (str host.toStorageHost (record.payload.get "expires_at")) = .ok expires) (hlt : t < expires)
    (hnone : ∀ revocation, (runEvents host s₀ events).revocations.get? ref = some revocation → revocation.revokedAt = "") :
    Authorized host s₀ events (if root then "root" else "operation") ref t := by
  obtain ⟨before,materializedAt,clock,row,approval,hmaterialized,hrow,happroval,hgranted,hpayload,hroot⟩ := h
  obtain ⟨hmem,href⟩ := stageOf_spec hrow
  obtain ⟨early,call,hstaged,haccepted,hstage,hcallRef⟩ := (htraced before).staged row hmem
  obtain ⟨howner,-,hcrew⟩ := StageCall.accepted_ok haccepted
  have hkind : call.kind = if root then "root" else "operation" := by
    rw [hstage] at hroot
    have hroot' : root = decide (call.kind = "root") := hroot
    unfold expectedOwner at howner
    split at howner
    · next hk => simp [hroot',hk]
    · split at howner
      · next hnot hk => simp [hroot',hk]
      · cases howner
  -- the approval that was there names the digest of the stage
  obtain ⟨pre,ref',approvedBy,approvedAt,clock',row',happrove,hblank,hdecided,hrow',hevidence⟩ :=
    (htraced before).granted _ approval happroval hgranted.1
  obtain ⟨-,-,hindependent,-,-,-,hdigest,-⟩ := hgranted
  have hsame : row'.stage.payloadDigest = call.digest host.toStorageHost := by
    obtain ⟨hmem',-⟩ := stageOf_spec hrow'
    obtain ⟨_,call',-,haccepted',hstage',-⟩ := (htraced pre).staged row' hmem'
    obtain ⟨-,hcrew',-⟩ := StageCall.accepted_ok haccepted'
    rw [hstage] at hdigest
    rw [hevidence,hstage'] at hdigest
    rw [hstage']
    rcases List.mem_cons.mp hdigest with heq | hmem
    · exact absurd heq (digest_ne_crew hcrew')
    · exact (List.mem_singleton.mp hmem).symm
  refine ⟨before,materializedAt,clock,early,call,hmaterialized,hstaged,hcallRef.symm.trans href,hkind,hkind ▸ howner,hcrew,
    ⟨pre,ref',approvedBy,approvedAt,clock',row',happrove,hblank,fun heq => ?_,hrow',hsame⟩,⟨expires,?_,hlt⟩,?_⟩
  · rw [hstage,hdecided,heq] at hindependent
    exact hindependent rfl
  · rw [hpayload,hstage] at hexpires
    exact hexpires
  · intro pre revokedBy evidenceId revokedAt clock hrevoke
    obtain ⟨r,hr,hne⟩ := (htraced events).revoked ref pre _ hrevoke rfl
    exact hne (hnone r hr)

end Run

/-- After any calls on a fresh store, whatever verifies was staged with the evidence of the right
crew, approved by someone else, materialized, has not expired and was never revoked. -/
theorem authorization_lifecycle (host : AuthorizationHost) (claims : Dict Claim) (crewMessages : Dict CrewMessage)
    (registrations : Dict StorageAdapterRegistration) (events : List StorageEvent) :
    LifecycleSafe host (fresh claims crewMessages registrations) events := by
  have htraced := traced host claims crewMessages registrations
  constructor
  · intro payload verifiedAt clock record h
    obtain ⟨t,expires,r,ht,hr,hexpires,hlt,hnone⟩ := verifyStorageRoot_ok h
    exact ⟨t,ht,((htraced events).roots _ r hr).authorized htraced hexpires hlt hnone⟩
  · intro payload verifiedAt clock record h
    obtain ⟨t,expires,r,ht,hr,hexpires,hlt,hnone⟩ := verifyStorage_ok h
    exact ⟨t,ht,((htraced events).operations _ r hr).authorized htraced hexpires hlt hnone⟩

end StorageControl
end Overseer.Core
