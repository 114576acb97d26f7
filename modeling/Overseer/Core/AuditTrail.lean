import Overseer.Core.Admin
import Overseer.Core.CoordinatorRuns

/-! # The audit trail

Events are filed under ids made from what was audited and how it came out, and an event
takes the place of an earlier one with its id.
-/
namespace Overseer.Core
open Overseer.Library Admin

/-- What an event is about: a decision on a claim, the grant of an approval, or an execution
of a plan. -/
inductive AuditSource where
  | decision (claimId : String) (outcome : ConflictOutcome)
  | grant (approvalId : String)
  | execution (planId : String) (status : AdminExecutionStatus)
  deriving DecidableEq

namespace AuditSource

/-- The part of the id before its last dot. -/
def subject : AuditSource → String
  | .decision claimId _ => "audit." ++ claimId
  | .grant approvalId => "audit." ++ approvalId
  | .execution planId _ => "audit." ++ ("admin.exec." ++ planId)

def outcome : AuditSource → String
  | .decision _ outcome => outcome.value
  | .grant _ => "approved"
  | .execution _ status => status.value

def eventId (source : AuditSource) : String := source.subject ++ "." ++ source.outcome

theorem dot_notMem_outcome (source : AuditSource) : '.' ∉ source.outcome.toList := by
  have houtcome : ∀ outcome : ConflictOutcome, '.' ∉ outcome.value.toList := fun outcome => by cases outcome <;> decide
  have hstatus : ∀ status : AdminExecutionStatus, '.' ∉ status.value.toList := fun status => by cases status <;> decide
  have happroved : '.' ∉ "approved".toList := by decide
  cases source with
  | decision _ outcome => exact houtcome outcome
  | grant _ => exact happroved
  | execution _ status => exact hstatus status

theorem outcome_value_inj {a b : ConflictOutcome} (h : a.value = b.value) : a = b := by
  revert h
  cases a <;> cases b <;> decide

theorem status_value_inj {a b : AdminExecutionStatus} (h : a.value = b.value) : a = b := by
  revert h
  cases a <;> cases b <;> decide

theorem outcome_value_ne (outcome : ConflictOutcome) (status : AdminExecutionStatus) :
    outcome.value ≠ "approved" ∧ outcome.value ≠ status.value ∧ "approved" ≠ status.value := by
  cases outcome <;> cases status <;> decide

theorem eventId_injective : Function.Injective eventId := by
  intro a b h
  obtain ⟨hsubject,houtcome⟩ := dotted_inj (dot_notMem_outcome a) (dot_notMem_outcome b) h
  cases a with
  | decision claimId outcome =>
    cases b with
    | decision claimId' outcome' => rw [(String.append_right_inj _).mp hsubject,outcome_value_inj houtcome]
    | grant approvalId => exact absurd houtcome (outcome_value_ne outcome .completed).1
    | execution planId status => exact absurd houtcome (outcome_value_ne outcome status).2.1
  | grant approvalId =>
    cases b with
    | decision claimId outcome => exact absurd houtcome.symm (outcome_value_ne outcome .completed).1
    | grant approvalId' => rw [(String.append_right_inj _).mp hsubject]
    | execution planId status => exact absurd houtcome (outcome_value_ne .allow status).2.2
  | execution planId status =>
    cases b with
    | decision claimId outcome => exact absurd houtcome.symm (outcome_value_ne outcome status).2.1
    | grant approvalId => exact absurd houtcome.symm (outcome_value_ne .allow status).2.2
    | execution planId' status' =>
      rw [(String.append_right_inj _).mp ((String.append_right_inj _).mp hsubject),status_value_inj houtcome]

end AuditSource

/-! ### Runs -/

inductive AuditOp where
  | coord (op : CoordOp)
  | execute (plan : AdminChangePlan) (runner : AdminCommandRunner) (enabledAdapterKinds : List AdminChangeKind)

namespace AuditTrail
open ResourceRegistry

def apply (st : CoordState) : AuditOp → CoordState
  | .coord op => st.apply op
  | .execute plan runner enabled => match executeAdminChangePlan plan runner enabled with
    | some result => { st with store := CoordState.withEvent st.store (auditEventFromAdminExecution plan result) }
    | none => st

def run (ops : List AuditOp) : CoordState := ops.foldl apply {}

/-- The event that a call saves, with its source. -/
def saves (st : CoordState) : AuditOp → Option (AuditSource × AuditEvent)
  | .coord (.requestClaim claim) => (st.registry.resources.get? claim.resourceId).map fun resource =>
    let decision := decideClaim resource claim st.registry.activeClaims st.registry.resources
    (.decision claim.id decision.outcome,Coordinator.auditOf claim ⟨claimWithStatus claim decision,decision⟩)
  | .coord (.approveRequest approvalId decidedBy decidedAt) => (st.store.approvals.get? approvalId).map fun current =>
    (.grant approvalId,Coordinator.approvedEvent (Coordinator.approve current decidedBy decidedAt) approvalId
      (((st.store.claims.get? current.subjectId).map (·.riskLevel)).getD .low))
  | .coord _ => none
  | .execute plan runner enabled => (executeAdminChangePlan plan runner enabled).map fun result =>
    (.execution plan.id result.status,auditEventFromAdminExecution plan result)

theorem saves_id {st : CoordState} {op : AuditOp} {source : AuditSource} {event : AuditEvent} (h : saves st op = some (source,event)) :
    event.id = source.eventId := by
  cases op with
  | coord op =>
    cases op with
    | requestClaim claim =>
      obtain ⟨resource,-,h⟩ := Option.map_eq_some_iff.mp h
      cases h
      rfl
    | approveRequest approvalId decidedBy decidedAt =>
      obtain ⟨current,-,h⟩ := Option.map_eq_some_iff.mp h
      cases h
      have hsuffix : ".approved" = "." ++ "approved" := rfl
      change "audit." ++ approvalId ++ ".approved" = "audit." ++ approvalId ++ "." ++ "approved"
      rw [hsuffix,String.append_assoc,String.append_assoc,String.append_assoc]
    | registerResource resource => cases h
    | activateClaim claimId approvalId => cases h
    | releaseClaim claimId => cases h
  | execute plan runner enabled =>
    obtain ⟨result,hresult,h⟩ := Option.map_eq_some_iff.mp h
    cases h
    change "audit." ++ result.id = _
    rw [executeAdminChangePlan_id hresult]
    simp only [AuditSource.eventId,AuditSource.subject,AuditSource.outcome,String.append_assoc]

/-- The events after a call. -/
theorem apply_events {st : CoordState} (hst : st.Sound) (op : AuditOp) : (apply st op).store.auditEvents =
    (saves st op).elim st.store.auditEvents fun saved => st.store.auditEvents.set saved.2.id saved.2 := by
  cases op with
  | execute plan runner enabled =>
    simp only [apply,saves]
    cases executeAdminChangePlan plan runner enabled <;> rfl
  | coord op =>
    change (st.apply op).store.auditEvents = _
    have heffect := CoordState.apply_effect st op
    generalize st.apply op = after at heffect
    cases heffect with
    | raised hidle habsent =>
      cases op with
      | requestClaim claim =>
        rcases hidle _ rfl with ⟨e,he⟩ | hmissing
        · have hnone : st.registry.resources.get? claim.resourceId = none := by
            cases hr : st.registry.resources.get? claim.resourceId with
            | none => rfl
            | some resource => simp [ResourceRegistry.requestClaim,getResource,hr,bind,Except.bind,pure,Except.pure] at he
          simp only [saves,hnone]
          rfl
        · exact absurd (CoordState.placed_apply hst.coherent hst.placed _) hmissing
      | approveRequest approvalId decidedBy decidedAt =>
        simp only [saves,habsent _ _ _ rfl]
        rfl
      | registerResource resource => rfl
      | activateClaim claimId approvalId => rfl
      | releaseClaim claimId => rfl
    | register hnew => rfl
    | @request claim reg' record resource hreg hr =>
      obtain ⟨r,hr,hdecision,hclaim,-⟩ := requestClaim_ok hreg
      have hrecord : record = ⟨claimWithStatus claim record.decision,record.decision⟩ := by rw [← hclaim]
      simp only [saves,hr,Option.map_some,← hdecision]
      rw [hrecord]
      rfl
    | activate hreg hr => rfl
    | release hreg hr => rfl
    | @approve approvalId decidedBy decidedAt current ha =>
      simp only [saves,ha,Option.map_some]
      rfl

theorem sound_run (ops : List AuditOp) : (run ops).Sound := by
  refine foldl_invariant CoordState.Sound.initial (fun st op h => ?_) ops
  cases op with
  | coord op => exact h.apply op
  | execute plan runner enabled =>
    simp only [apply]
    split
    · exact ⟨h.coherent,h.placed⟩
    · exact h

/-- An event stays until a later call on the same source saves its own: no call removes one,
and none writes over the event of another claim, approval, plan or outcome. -/
theorem audit_event_kept (pre : List AuditOp) (op : AuditOp) (source : AuditSource) (event : AuditEvent)
    (h : saves (run pre) op = some (source,event)) (later : List AuditOp) :
    ∃ event', (run (pre ++ op :: later)).store.auditEvents.get? source.eventId = some event' ∧
      (event' = event ∨ ∃ mid op' rest, later = mid ++ op' :: rest ∧ saves (run (pre ++ op :: mid)) op' = some (source,event')) := by
  have hrun : ∀ (l : List AuditOp) o, run (l ++ [o]) = apply (run l) o := fun l o => foldl_concat apply {} l o
  induction later using List.reverseRecOn with
  | nil =>
    refine ⟨event,?_,.inl rfl⟩
    rw [hrun,apply_events (sound_run pre),h,Option.elim_some,Dict.get?_set,if_pos (saves_id h).symm]
  | append_singleton later last ih =>
    obtain ⟨event',hevent,hcases⟩ := ih
    have hlist : pre ++ op :: (later ++ [last]) = (pre ++ op :: later) ++ [last] := by simp
    rw [hlist,hrun,apply_events (sound_run _)]
    have hkept : event' = event ∨ ∃ mid op' rest, later ++ [last] = mid ++ op' :: rest ∧
        saves (run (pre ++ op :: mid)) op' = some (source,event') := by
      rcases hcases with hsame | ⟨mid,op',rest,rfl,hsaves⟩
      · exact .inl hsame
      · exact .inr ⟨mid,op',rest ++ [last],by simp,hsaves⟩
    cases hlast : saves (run (pre ++ op :: later)) last with
    | none => exact ⟨event',hevent,hkept⟩
    | some saved =>
      obtain ⟨source',event''⟩ := saved
      rw [Option.elim_some,Dict.get?_set,saves_id hlast]
      by_cases hsource : source = source'
      · subst hsource
        exact ⟨event'',if_pos rfl,.inr ⟨later,last,[],rfl,hlast⟩⟩
      · have hne : source.eventId ≠ source'.eventId := fun he => hsource (AuditSource.eventId_injective he)
        exact ⟨event',by rw [if_neg hne,hevent],hkept⟩

/-- A plan for a package, not approved. -/
def packagePlan : AdminChangePlan :=
  { id := "plan", kind := .aptInstall, ownerDomain := .obrien, riskLevel := .high, approvalLevel := .human
    target := "nmap", reason := "audit", currentState := "absent", proposedState := "installed"
    steps := [⟨"install",["apt-get","install","nmap"],"install"⟩]
    rollbackSteps := [⟨"remove",["apt-get","remove","nmap"],"remove"⟩]
    risks := ["package"], verificationSteps := [⟨"query",["dpkg-query","-W","nmap"],"verify"⟩] }

/-- The plan is executed before its adapter is enabled, and again afterwards. -/
def executedTwice : List AuditOp := [.execute packagePlan (fun _ _ => none) [],.execute packagePlan (fun _ _ => none) [.aptInstall]]

theorem audit_event_kept_twice :
    ∃ event', (run executedTwice).store.auditEvents.get? "audit.admin.exec.plan.blocked" = some event' ∧
      event'.summary = "admin change plan is not approved or is incomplete" := by
  obtain ⟨event',hevent,-⟩ := audit_event_kept [] (.execute packagePlan (fun _ _ => none) []) (.execution "plan" .blocked)
    (auditEventFromAdminExecution packagePlan (resultOf packagePlan .blocked ("live adapter unavailable for apt_install: " ++
      (defaultCapability .aptInstall).summary) [] [] [])) rfl [.execute packagePlan (fun _ _ => none) [.aptInstall]]
  have hlast : (run executedTwice).store.auditEvents.get? "audit.admin.exec.plan.blocked" =
      some (auditEventFromAdminExecution packagePlan (resultOf packagePlan .blocked
        "admin change plan is not approved or is incomplete" [] [] [])) := rfl
  exact ⟨event',hevent,by rw [Option.some.inj (hevent.symm.trans hlast)]; rfl⟩

theorem audit_event_replaced : ¬ ∀ (pre later : List AuditOp) (k : String) (event : AuditEvent),
    (run pre).store.auditEvents.get? k = some event → (run (pre ++ later)).store.auditEvents.get? k = some event := by
  intro hall
  have hfirst : (run (executedTwice.take 1)).store.auditEvents.get? "audit.admin.exec.plan.blocked" =
      some (auditEventFromAdminExecution packagePlan (resultOf packagePlan .blocked ("live adapter unavailable for apt_install: " ++
        (defaultCapability .aptInstall).summary) [] [] [])) := rfl
  have hlast : (run (executedTwice.take 1 ++ executedTwice.drop 1)).store.auditEvents.get? "audit.admin.exec.plan.blocked" =
      some (auditEventFromAdminExecution packagePlan (resultOf packagePlan .blocked
        "admin change plan is not approved or is incomplete" [] [] [])) := rfl
  have hsame := Option.some.inj ((hall _ (executedTwice.drop 1) _ _ hfirst).symm.trans hlast)
  have hsummary := congrArg AuditEvent.summary hsame
  revert hsummary
  decide

end AuditTrail
end Overseer.Core
