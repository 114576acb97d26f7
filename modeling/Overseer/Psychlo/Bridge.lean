import Overseer.Psychlo.Store
import Overseer.Core.Admin
import Overseer.Library.Schedule

/-! # Rounds of the Psychlo bridge

What the bridge asks of its surroundings, and the two calls behind a bounded work round:
`request_round` admits and dispatches it, `receive_round_result` stores and forwards its
result. A call to the outside that raises answers `none`.
-/
namespace Overseer.Psychlo
open Overseer.Library Overseer.Agent

/-- The kinds of message the bridge sends to its peer. -/
inductive PeerKind where
  | roundResult | decisionOutcome | externalRound | learningPull | learningAck
  | protocol (kind : ProtocolKind)
  deriving DecidableEq

/-- The questions of the bridge. `storeClock` is the time the store stamps its rows with,
`tickLock` whether the lock of the polling pass is free, `adapter` whether a destination took
an observation. `dispatchRound` names the round that its prompt is for. `loadApproval` reads an
approval and the change plan it is about. -/
inductive BridgeQuery where
  | clock
  | storeClock
  | tickLock
  | token
  | sender (kind : PeerKind) (messageId : String) (payload : Payload)
  | dispatchRound (leadId prompt roundId : String)
  | prepare (leadId scope requestId : String)
  | dispatch (leadId scope requestId : String)
  | prepareReview (leadId : String) (context : Payload) (idempotencyKey : String)
  | dispatchReview (leadId : String) (context : Payload) (idempotencyKey : String)
  | projectResult (dispatchId : String) (request : Payload)
  | supervisorResult (reviewId : String) (context : Payload)
  | adapter (destination : Destination) (observation : Option Payload)
  | loadApproval (approvalId : String)
  deriving DecidableEq

@[reducible] def Answer : BridgeQuery → Type
  | .clock | .storeClock | .token => String
  | .tickLock | .adapter _ _ => Bool
  | .sender _ _ _ => Option Payload
  | .dispatchRound _ _ _ | .prepare _ _ _ | .dispatch _ _ _ | .prepareReview _ _ _ | .dispatchReview _ _ _ => Option Json
  | .projectResult _ _ | .supervisorResult _ _ => Option (Option Payload)
  | .loadApproval _ => Option (Core.ApprovalRequest × Core.AdminChangePlan)

/-- What a forward writes over an external execution: the receipt as it was read, and what
the peer's answer or the outcome brings. -/
structure Forwarding where
  reconciliationId : String
  copy : Payload
  brought : Payload

/-- How a delivery of an observation went. -/
structure LearningMove where
  observationId : String
  destination : Destination
  delivery : Delivery

/-- What a transaction was prepared for: the result it stores for a round, what a forward
writes, or how a delivery went. -/
structure Held where
  recording : Option (String × Payload) := none
  forwarding : Option Forwarding := none
  learning : Option LearningMove := none
  deriving Inhabited

abbrev BridgeProg := Prog BridgeStore Held Answer AgentError
abbrev BridgeTrace := Trace BridgeStore Answer
abbrev BridgeWorld := World BridgeStore Held Answer AgentError Unit
abbrev BridgeSystem := System BridgeStore Held Answer AgentError Unit

def ask (q : BridgeQuery) : BridgeProg (Answer q) := Prog.ask q

/-- A bridge by its settings. The tests say which collaborators it was given and whether
they can prepare a dispatch. `registrationIdentity` reads the project and the lead off a
registration that its contract accepts, `adoptionWire` and `adoptionAnswer` are the contracts
of adoption records and of what the peer answers to them. -/
structure Bridge where
  host : Host
  registrationIdentity : Payload → Payload → Check (String × String) := fun _ _ => .error (valueError "project registration is invalid")
  adoptionWire : ProtocolKind → String → Payload → Check Payload := fun _ _ p => .ok p
  adoptionAnswer : ProtocolKind → Payload → Payload → Check Unit := fun _ _ _ => .ok ()
  callbackOrigin : String := ""
  requireExternalBinding : Bool := false
  coordinationOwnerId : String := "owner"
  canPrepare : Bool := true
  hasSupervisor : Bool := true
  canPrepareReview : Bool := true
  hasProjectCollector : Bool := true
  hasSupervisorCollector : Bool := true
  hasApprovals : Bool := true
  approvalOwnerDomain : String := "sisko"

def liftProg {α : Type} (c : Check α) : BridgeProg α :=
  match c with
  | .ok a => pure a
  | .error e => raise e

/-- Run the program for what it does. -/
abbrev ignoring {α : Type} (p : BridgeProg α) : BridgeProg Unit := p >>= fun _ => pure ()

/-- What an outside call that raised gives. -/
def outsideError : AgentError := ⟨.provider,"outside call failed"⟩

/-- The peer took the message. -/
def accepts (response : Payload) : Bool := response.get? "accepted" = some (.bool true)

def requiredString (value : Payload) (name : String) : Check String :=
  match value.str? name with
  | some s => if isBlank s then .error (valueError s!"{name} is required") else .ok s
  | none => .error (valueError s!"{name} is required")

def priorityRationales : List String := ["sole-eligible-project","trivial-effort","security-impact","dependency-impact",
  "manual-priority","gate-proximity","project-id","legacy-unknown"]

def roundTexts : List String := ["roundId","projectId","projectLeadId","planId","planVersion","correlationId",
  "idempotencyKey","snapshotId","policyVersion"]

/-- A finite number that is not negative. A float is known by its text. -/
def isCost : Json → Bool
  | .int n => 0 ≤ n
  | .float t => t ∉ ["nan","inf","-inf"] && (t.toList.head? ≠ some '-' || t = "-0.0")
  | _ => false

/-- The member, when it is there, is one of the choices. -/
def choiceField (request : Payload) (name : String) (choices : List String) : Check Unit :=
  match request.get? name with
  | some v => check (choices.any fun c => v = .str c) (valueError "invalid round request")
  | none => .ok ()

def requireRound (request : Payload) : Check Unit := do
  let optional := ["threadId","model","featureClass","selectionReason","priorityRationale"]
  let required := roundTexts ++ ["expectedUsageCost","scope"]
  check ((∀ k ∈ request.keys, k ∈ required ++ optional) ∧ ∀ k ∈ required, k ∈ request.keys)
    (valueError "invalid round request")
  roundTexts.forM fun k => do discard <| requiredString request k
  check (isCost (request.get "expectedUsageCost") = true) (valueError "invalid round request")
  check (request.get "scope" = .str "one bounded round") (valueError "invalid round request")
  choiceField request "selectionReason" ["priority-selected"]
  choiceField request "priorityRationale" priorityRationales
  choiceField request "model" roundModels
  choiceField request "featureClass" featureClasses
  match request.get? "threadId" with
  | some _ => do
    let threadId ← requiredString request "threadId"
    check (threadId.length ≤ 200) (valueError "invalid round request")
  | none => pure ()

def requireBoundResult (request result : Payload) : Check Unit := do
  check (∀ e ∈ request.entries, (result.get e.1).alike e.2) (valueError "round result does not bind to request")
  check ((result.get "sourceId").alike (request.get "projectLeadId") ∧
    (result.get "status" = .str "completed" ∨ result.get "status" = .str "blocked")) (valueError "round result is invalid")
  discard <| requiredString result "provenanceId"

namespace Bridge
variable (b : Bridge)

def roundPrompt (request : Payload) (capability : String) : String :=
  let request := Json.dumpsWith ⟨[',',' '],[':',' ']⟩ true (Json.sortKeys (.obj request.entries))
  "\n".intercalate [
    "You are the approved A-Team project lead and authority for this project.",
    "Invoke Superpowers with the approved project plan, your team context, dependencies, and acceptance criteria.",
    "Coordinate the actual development through the assigned project team. Keep coordination autonomous except at explicit gates.",
    "Perform exactly one conservative bounded work round described by this immutable request:",
    request,
    "When the round reaches a terminal completed, blocked, or explicit-gate state, POST one JSON RoundResult to this one-use loopback callback:",
    b.callbackOrigin ++ "/psychlo/round-results/" ++ capability,
    "The result must echo every request field and include sourceId, provenanceId, status, actualUsageCost, " ++
      "deliveredScope, remainingEstimate, blockers, questions, reachedExplicitGates, and occurredAt."]

def dispatchReserved (request : Payload) (capability : String) (receipt : Payload) : BridgeProg Payload := do
  let roundId := (request.get "roundId").text
  let now ← ask .clock
  atomically (markDispatchStarted roundId now)
  let reference ← orRaise (← ask (.dispatchRound (request.get "projectLeadId").text (b.roundPrompt request capability) roundId)) outsideError
  let delivered := receipt.set "provenanceId" (.str reference.text)
  atomically (markDispatched roundId delivered)
  return delivered

/-- The first change that opens the ceiling, latest first. -/
def ceilingOpened : List (String × ProtocolRow) → BridgeProg Bool
  | [] => pure false
  | (_,change) :: rest =>
    if change.state = .delivered ∨ change.state = .settled then do
      require (change.payload.hasKeys changeKeys ∧ b.host.canonicalDigest change.payload = change.digest)
        (valueError "concurrency ceiling change is invalid")
      let authorizationId := change.payload.get "authorizationId"
      let row ← if authorizationId.truthy then
          atomically (Tx.read fun s => (s.protocol .ceilingAuthorization).get? authorizationId.text)
        else pure none
      match row with
      | some row =>
        if row.state = .delivered ∨ row.state = .settled then do
          let value ← liftProg (toldContract "concurrency ceiling authorization is invalid"
            (b.host.parseConcurrencyCeilingAuthorization row.payload))
          require (value.get "digest" = .str row.digest) (valueError "concurrency ceiling authorization digest conflict")
          if (value.get "ceiling").alike (.int 2) then pure true else ceilingOpened rest
        else ceilingOpened rest
      | none => ceilingOpened rest
    else ceilingOpened rest

/-- A hint only; the store repeats the check under its lock. -/
def durableCeilingAvailable : BridgeProg Bool := do
  let changes ← atomically (Tx.read (listProtocol .ceilingChange 100))
  b.ceilingOpened changes.reverse

/-- The first authorization that covers the request. -/
def canaryCovering (request : Payload) (now : Moment) : List (String × ProtocolRow) → BridgeProg (Option Payload)
  | [] => pure none
  | (_,row) :: rest =>
    if row.state = .delivered then do
      let value ← liftProg (toldContract "concurrency canary authorization is invalid" (b.host.parseCanaryAuthorization row.payload))
      require (value.get "digest" = .str row.digest) (valueError "concurrency canary authorization digest conflict")
      match b.host.fromisoformat (value.get "deadline").text with
      | none => canaryCovering request now rest
      | some deadline =>
        let projects := match value.get "projects" with
          | .arr [p,q] => [p,q].filterMap Payload.ofJson?
          | _ => []
        if deadline.aware ∧ now.micros < deadline.micros ∧ projects.any (boundTo request) then do
          let decision ← atomically (Tx.read (·.decisions.get? (value.get "decisionId").text))
          if decision.map (·.status) = some .approved then pure (some value) else canaryCovering request now rest
        else canaryCovering request now rest
    else canaryCovering request now rest

def time (text : String) : Check Moment := do
  let m ← found (b.host.fromisoformat text) (valueError "Invalid isoformat string")
  check (m.aware = true) (valueError "timestamp requires an offset")
  return m

def canaryAuthorizationForRequest (request : Payload) : BridgeProg (Option Payload) := do
  let now ← liftProg (b.time (← ask .clock))
  let records ← atomically (Tx.read (listProtocol .canaryAuthorization 100))
  b.canaryCovering request now records

/-- A human decision is open or was refused for the project. -/
def decisionPending (projectId : String) : BridgeProg Bool := do
  let staged ← atomically (Tx.read listStagedDecisions)
  if staged.any fun d => (d.request.get "projectId").alike (.str projectId) then return true
  let pending ← liftProg (← atomically (Tx.read fun s => externalGatePending s projectId))
  if pending then return true
  liftProg (← atomically (Tx.read fun s => externalGateBlocked s projectId))

/-- Reserve the round on the path that the hints choose. -/
def reserveRound (request receipt : Payload) (capability : String) : BridgeProg Unit := do
  if ← b.durableCeilingAvailable then do
    let _now ← ask .clock
    atomically (recordDurableCeilingRound b.host request receipt capability)
  else match ← b.canaryAuthorizationForRequest request with
    | some canary => do
      let now ← ask .clock
      atomically (recordCanaryRound b.host request receipt capability (canary.get "authorizationId").text
        (canary.get "expectedRevision") now)
    | none => atomically (recordSingleStreamRound b.host request receipt capability)

def requestRound (request : Payload) : BridgeProg Payload := do
  liftProg (requireRound request)
  let projectId := (request.get "projectId").text
  let roundId := (request.get "roundId").text
  let pending ← decisionPending projectId
  require (pending = false) (valueError "decision_pending")
  match ← atomically (Tx.read (·.rounds.get? roundId)) with
  | some existing => do
    require (existing.request.alike request) (valueError "round identity conflict")
    if existing.dispatchState ≠ .dispatched then
      b.dispatchReserved existing.request existing.capabilityToken existing.receipt
    else return existing.receipt
  | none => do
    let capability ← ask .token
    let receipt := request.merge [("sourceId",request.get "projectLeadId"),
      ("provenanceId",.str ("overseer-dispatch:" ++ roundId)),("status",.str "accepted")]
    b.reserveRound request receipt capability
    b.dispatchReserved request capability receipt

/-- Send the result to the peer and mark it once it was taken. -/
def forwardResult (roundId : String) (result : Payload) : BridgeProg Unit := do
  let response ← orRaise (← ask (.sender .roundResult (result.get "provenanceId").text result)) outsideError
  require (accepts response) (valueError "Psychlo rejected round result")
  atomically (markForwarded roundId)

/-- Store the result, unless the call saw one stored. -/
def storeResult (roundId : String) (seen : Option Payload) (result : Payload) : BridgeProg Unit :=
  if seen = none then do
    let now ← ask .clock
    Prog.transaction { recording := some (roundId,result) } (recordResult roundId result now)
  else pure ()

def receiveRoundResult (capability : String) (result : Payload) : BridgeProg Unit := do
  let record ← atomically (Tx.read (roundForCapability b.host capability))
  let record ← orRaise record (valueError "unknown round capability")
  liftProg (requireBoundResult record.request result)
  require (record.result.all (·.alike result)) (valueError "round result conflict")
  let roundId := (record.request.get "roundId").text
  storeResult roundId record.result result
  if record.resultForwarded = false then forwardResult roundId result else pure ()

end Bridge
end Overseer.Psychlo
