import Overseer.Core.Registry
import Overseer.Library.Program

/-! # The coordinator

`OverseerCoordinator` of `service.py` with the records of `audit.py`: a registry of one
process, and a store that each operation writes through to. Rows hold the records as they
were dumped; claims and resources are filed under their ids.
-/
namespace Overseer.Core
open Overseer.Library

inductive ApprovalStatus where
  | pending | approved | rejected | expired | superseded
  deriving DecidableEq

inductive AuditEventType where
  | requested | alert | allowed | queued | blocked | escalated | quarantined | approved | rejected | executed
  | verified | released
  deriving DecidableEq

structure ApprovalRequest where
  id : String
  subjectId : String
  approvalLevel : ApprovalLevel
  requesterThread : String
  ownerDomain : OwnerDomain
  reason : String
  status : ApprovalStatus := .pending
  evidenceRequired : List String := []
  decidedBy : Option String := none
  decidedAt : Option String := none
  deriving DecidableEq

structure AuditEvent where
  id : String
  eventType : AuditEventType
  ownerDomain : OwnerDomain
  subjectId : String
  summary : String
  riskLevel : RiskLevel
  evidenceIds : List String := []
  occurredAt : Option String := none
  deriving DecidableEq

def ConflictOutcome.value : ConflictOutcome → String
  | .allow => "allow"
  | .queue => "queue"
  | .block => "block"
  | .escalate => "escalate"
  | .quarantine => "quarantine"

def approvalFromDecision (approvalId subjectId requesterThread : String) (ownerDomain : OwnerDomain)
    (decision : ConflictDecision) : Option ApprovalRequest :=
  if decision.approvalLevel = .none then none
  else some {
    id := approvalId, subjectId, approvalLevel := decision.approvalLevel, requesterThread, ownerDomain
    reason := decision.reason }

def eventTypeForDecision (decision : ConflictDecision) : AuditEventType :=
  match decision.outcome with
  | .allow => .allowed
  | .queue => .queued
  | .block => .blocked
  | .escalate => .escalated
  | .quarantine => .quarantined

def auditEventFromDecision (eventId subjectId : String) (ownerDomain : OwnerDomain) (riskLevel : RiskLevel)
    (decision : ConflictDecision) (evidenceIds : List String) : AuditEvent where
  id := eventId
  eventType := eventTypeForDecision decision
  ownerDomain := ownerDomain
  subjectId := subjectId
  summary := decision.reason
  riskLevel := riskLevel
  evidenceIds := evidenceIds

/-- The tables the coordinator writes. -/
structure CoordStore where
  resources : Dict Resource := .empty
  claims : Dict Claim := .empty
  decisions : Dict ConflictDecision := .empty
  approvals : Dict ApprovalRequest := .empty
  auditEvents : Dict AuditEvent := .empty

inductive CoordError where
  | registry (e : RegistryError)
  | key (k : String)
  | value (message : String)

/-! ### Store calls -/

section Store
variable {m : Type → Type} [MonadStore CoordStore CoordError m]

def saveResource (resource : Resource) : m Unit :=
  atomically (Tx.write fun s => { s with resources := s.resources.set resource.id resource })

/-- The claim, and its decision when there is one. -/
def saveClaim (claim : Claim) (decision : Option ConflictDecision) : m Unit :=
  atomically (Tx.write fun s => { s with
    claims := s.claims.set claim.id claim
    decisions := decision.elim s.decisions (s.decisions.set claim.id) })

def saveApproval (approval : ApprovalRequest) : m Unit :=
  atomically (Tx.write fun s => { s with approvals := s.approvals.set approval.id approval })

def saveAuditEvent (event : AuditEvent) : m Unit :=
  atomically (Tx.write fun s => { s with auditEvents := s.auditEvents.set event.id event })

def loadApproval (approvalId : String) : m ApprovalRequest := do
  let row ← atomically (Tx.read fun s : CoordStore => s.approvals.get? approvalId)
  orRaise row (.key approvalId)

def findClaim (claimId : String) : m (Option Claim) := atomically (Tx.read fun s : CoordStore => s.claims.get? claimId)

end Store

structure CoordinationResult where
  record : ClaimRecord
  approval : Option ApprovalRequest
  auditEvent : AuditEvent

structure ApprovalDecisionResult where
  approval : ApprovalRequest
  auditEvent : AuditEvent

/-! ### Operations -/

namespace Coordinator

def approvalOf (claim : Claim) (record : ClaimRecord) : Option ApprovalRequest :=
  approvalFromDecision ("approval." ++ claim.id) record.claim.id record.claim.ownerThread record.claim.ownerRole record.decision

def auditOf (claim : Claim) (record : ClaimRecord) : AuditEvent :=
  auditEventFromDecision ("audit." ++ claim.id ++ "." ++ record.decision.outcome.value) record.claim.id record.claim.ownerRole
    record.claim.riskLevel record.decision record.decision.blockingClaimIds

/-- The audit event of an approval. -/
def approvedEvent (approval : ApprovalRequest) (approvalId : String) (riskLevel : RiskLevel) : AuditEvent where
  id := "audit." ++ approvalId ++ ".approved"
  eventType := .approved
  ownerDomain := approval.ownerDomain
  subjectId := approval.subjectId
  summary := approval.approvalLevel.value ++ " approval granted"
  riskLevel := riskLevel
  evidenceIds := [approvalId]

def approve (current : ApprovalRequest) (decidedBy : String) (decidedAt : Option String) : ApprovalRequest :=
  { current with status := .approved, decidedBy := some decidedBy, decidedAt }

variable {m : Type → Type} [MonadStore CoordStore CoordError m]

/-- What the registry answers. -/
def liftRegistry {α : Type} (r : Except RegistryError α) : m α :=
  match r with
  | .ok a => pure a
  | .error e => raise (.registry e)

def saveIfAny (approval : Option ApprovalRequest) : m Unit :=
  match approval with
  | some approval => saveApproval approval
  | none => pure ()

def registerResource (reg : ResourceRegistry) (resource : Resource) : m ResourceRegistry := do
  let (reg,stored) ← liftRegistry (reg.registerResource resource)
  saveResource stored
  return reg

def persistResult (reg : ResourceRegistry) (record : ClaimRecord) (approval : Option ApprovalRequest) (event : AuditEvent) :
    m Unit := do
  saveClaim record.claim (some record.decision)
  let resource ← liftRegistry (reg.getResource record.claim.resourceId)
  saveResource resource
  saveIfAny approval
  saveAuditEvent event

def requestClaim (reg : ResourceRegistry) (claim : Claim) : m (ResourceRegistry × CoordinationResult) := do
  let (reg,record) ← liftRegistry (reg.requestClaim claim)
  persistResult reg record (approvalOf claim record) (auditOf claim record)
  return (reg,⟨record,approvalOf claim record,auditOf claim record⟩)

def activateClaim (reg : ResourceRegistry) (claimId : String) (approvalId : Option String) : m (ResourceRegistry × ClaimRecord) := do
  let (reg,record) ← liftRegistry (reg.activateClaim claimId approvalId)
  saveClaim record.claim (some record.decision)
  let resource ← liftRegistry (reg.getResource record.claim.resourceId)
  saveResource resource
  return (reg,record)

def releaseClaim (reg : ResourceRegistry) (claimId : String) : m (ResourceRegistry × Claim) := do
  let (reg,released) ← liftRegistry (reg.releaseClaim claimId)
  saveClaim released none
  let resource ← liftRegistry (reg.getResource released.resourceId)
  saveResource resource
  return (reg,released)

def approveRequest (approvalId decidedBy : String) (decidedAt : Option String) : m ApprovalDecisionResult := do
  let current ← loadApproval approvalId
  let approved := approve current decidedBy decidedAt
  let claim ← findClaim approved.subjectId
  let event := approvedEvent approved approvalId ((claim.map (·.riskLevel)).getD .low)
  saveApproval approved
  saveAuditEvent event
  return ⟨approved,event⟩

end Coordinator
end Overseer.Core
