import Overseer.Psychlo.Adoption
import Overseer.Psychlo.Passes
import Overseer.Library.Vouched

/-! # The outbox of adoption records

`register_candidate` and `record_adoption_evidence` store the message before they send it;
`recover_protocol_records` sends what was not delivered.
-/
namespace Overseer.Psychlo
open Overseer.Library Overseer.Agent

/-! ### The calls -/

/-- `INSERT INTO registry_candidates` and `INSERT INTO adoption_evidence`. -/
def insertFiled (kind : FiledKind) (id : String) (row : FiledRow) : BridgeTx Unit := do
  let rows ← Tx.read (·.filed kind)
  require (rows.get? id = none ∧ ∀ r ∈ rows.values, r.digest ≠ row.digest) ⟨.integrity,"UNIQUE constraint failed"⟩
  Tx.write fun s => { s with filed := fun k => if k = kind then (s.filed kind).set id row else s.filed k }

def FiledKind.conflict : FiledKind → String
  | candidate => "registry candidate conflict"
  | evidence => "adoption evidence conflict"

/-- `record_registry` and `record_adoption`. -/
def recordFiled (kind : FiledKind) (id : String) (row : FiledRow) : BridgeProg Bool := do
  let inserted ← rescue (do
      atomically (insertFiled kind id row)
      return true) fun _ => pure false
  if inserted then return true
  let existing ← atomically (Tx.read fun s => (s.filed kind).get? id)
  require (existing.any (fun r => r.payload.alike row.payload) = true) (valueError kind.conflict)
  return false

/-- The payload, with a default for every member that it lacks. -/
def filledIn (payload : Payload) (defaults : List (String × Json)) : Payload :=
  payload.merge (defaults.map fun d => (d.1,(payload.get? d.1).getD d.2))

/-- The items of a list. -/
def arrayItems : Json → List Json
  | .arr items => items
  | _ => []

/-- `_validate_adoption_registry_bindings`: every reference is one the candidate registered and the evidence lists. -/
def validateAdoptionRegistryBindings (candidate evidence : Payload) : Check Unit := do
  let conflict := valueError "adoption evidence registry reference conflict"
  let registry ← object (evidence.get "registry") "registry"
  check ((registry.get "evidenceIds").alike (candidate.get "evidenceIds") = true) conflict
  let entries := (arrayItems (candidate.get "evidenceIds")).zip
    ((arrayItems (candidate.get "evidenceDigests")).zip (arrayItems (candidate.get "evidenceKinds")))
  let registered : Dict (Json × Json) := Dict.empty.merge (entries.map fun e => (e.1.text,e.2))
  let identity (reference : Payload) := (reference.get "kind",reference.get "evidenceId",reference.get "digest")
  let listed := (arrayItems (evidence.get "evidence")).filterMap Payload.ofJson?
  let facts := factRules.flatMap fun rule => ((Payload.ofJson? (evidence.get rule.field)).map fun fact =>
    rule.references.filterMap fun k => Payload.ofJson? (fact.get k)).getD []
  let security := ((Payload.ofJson? (evidence.get "security")).map fun s => arrayItems (s.get "evidence")).getD []
  check (∀ reference ∈ listed ++ facts ++ security.filterMap Payload.ofJson?,
    registered.get? (reference.get "evidenceId").text = some (reference.get "digest",reference.get "kind") ∧
    identity reference ∈ listed.map identity) conflict

/-- What recording tells: the row was new, what is stored, and what the peer answered. -/
structure AdoptionReceipt where
  inserted : Bool
  stored : Option Payload
  receipt : Option Payload

namespace Bridge
variable (b : Bridge)

/-- The peer took the message of the record. -/
def adoptionDelivered (kind : ProtocolKind) (id : String) (message response : Payload) : BridgeProg ProtocolRow := do
  liftProg (b.adoptionAnswer kind message response)
  let now ← ask .storeClock
  atomically (updateProtocol kind id fun row =>
    { row with state := .delivered, attempts := row.attempts + 1, lastError := none, updatedAt := now, receipt := some response })
  orRaise (← atomically (protocolRecord kind id)) (valueError "protocol record is missing")

def persistAdoptionPeer (kind : ProtocolKind) (id : String) (message : Payload) : BridgeProg ProtocolRow := do
  let key := ((message.get? "idempotencyKey").map Json.text).getD id
  let (row,_inserted) ← recordProtocol kind id key (b.host.canonicalDigest message) message
  if row.state = .delivered ∨ row.state = .settled then return row
  else rescue (do
      let response ← orRaise (← ask (.sender (.protocol kind) id message)) outsideError
      b.adoptionDelivered kind id message response) fun _ => do
    let _row ← transitionProtocol kind id .forwardPending (some "forward-failed")
    raise (valueError "forward-pending")

def registerCandidate (payload : Payload) : BridgeProg AdoptionReceipt := do
  let clock ← ask .clock
  let name := (payload.get? "candidateId").getD (.str "")
  let candidate ← liftProg (b.host.parseRegistryCandidate (filledIn payload [("sourceId",.str "overseer"),("messageId",name),
    ("correlationId",.str ("registry:" ++ name.text)),("idempotencyKey",.str ("registry:" ++ name.text)),
    ("occurredAt",.str clock),("schemaVersion",.str registrySchema)]))
  let candidateId := (candidate.get "candidateId").text
  let inserted ← recordFiled .candidate candidateId ⟨candidate,b.host.canonicalDigest candidate⟩
  let stored ← orRaise (← atomically (Tx.read fun s => (s.filed .candidate).get? candidateId))
    (valueError "registry candidate was not persisted")
  let row ← b.persistAdoptionPeer .registryCandidate candidateId (Host.registryWirePayload stored.payload)
  return ⟨inserted,some stored.payload,row.receipt⟩

/-- A candidate is delivered before its assessment. -/
def ensureCandidateDelivered (candidateId : String) (candidate : Payload) : BridgeProg Unit := do
  let record ← atomically (protocolRecord .registryCandidate candidateId)
  if record.any (fun row => row.state = .delivered || row.state = .settled) = true then pure ()
  else ignoring (b.persistAdoptionPeer .registryCandidate candidateId (Host.registryWirePayload candidate))

def recordAdoptionEvidence (payload : Payload) : BridgeProg AdoptionReceipt := do
  let clock ← ask .clock
  let name := (payload.get? "assessmentId").getD (.str "")
  let evidence ← liftProg (b.host.parseAdoptionEvidence (filledIn payload [("sourceId",.str "overseer"),("messageId",name),
    ("correlationId",.str ("adoption:" ++ name.text)),("idempotencyKey",.str ("adoption:" ++ name.text)),
    ("occurredAt",.str clock),("schemaVersion",.str adoptionSchema)]))
  let unbound := valueError "adoption evidence is not bound to a canonical registry candidate"
  let candidateId := (evidence.get "candidateId").text
  let candidate ← orRaise (← atomically (Tx.read fun s => (s.filed .candidate).get? candidateId)) unbound
  let registry ← liftProg (object (evidence.get "registry") "registry")
  require ((candidate.payload.get "registryId").alike (registry.get "registryId") = true ∧
    (candidate.payload.get "registryDigest").alike (registry.get "registryDigest") = true) unbound
  liftProg (validateAdoptionRegistryBindings candidate.payload evidence)
  b.ensureCandidateDelivered candidateId candidate.payload
  let assessmentId := (evidence.get "assessmentId").text
  let inserted ← recordFiled .evidence assessmentId ⟨evidence,b.host.canonicalDigest evidence⟩
  let row ← b.persistAdoptionPeer .adoptionEvidence assessmentId (Host.adoptionWirePayload evidence)
  let stored ← atomically (Tx.read fun s => (s.filed .evidence).get? assessmentId)
  return ⟨inserted,stored.map (·.payload),row.receipt⟩

/-- The bridge with the contracts of its adoption records. -/
def adopting : Bridge := { b with adoptionWire := b.host.adoptionWire }

end Bridge
end Overseer.Psychlo
