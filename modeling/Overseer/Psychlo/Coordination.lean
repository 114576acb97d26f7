import Overseer.Psychlo.Bridge

/-! # Cross-project coordination

A work request is driven from the HTTP receipt, from the polling pass and from start-up
recovery: dispatch it to its lead, collect the result, have it reviewed. Before a dispatch
the bridge prepares the identity it will have and stores an intent; only who inserts the
intent calls out.
-/
namespace Overseer.Psychlo
open Overseer.Library Overseer.Agent

/-! ### The store -/

/-- `UPDATE protocol_records`. -/
def updateProtocol (kind : ProtocolKind) (id : String) (f : ProtocolRow → ProtocolRow) : BridgeTx Unit :=
  Tx.write fun s => match (s.protocol kind).get? id with
    | some row => { s with protocol := fun k => if k = kind then (s.protocol kind).set id (f row) else s.protocol k }
    | none => s

def protocolRecord (kind : ProtocolKind) (id : String) : BridgeTx (Option ProtocolRow) := Tx.read fun s => (s.protocol kind).get? id

/-- `INSERT INTO protocol_records`. The results of participants may share a digest. -/
def insertProtocol (kind : ProtocolKind) (id : String) (row : ProtocolRow) : BridgeTx Unit := do
  let rows ← Tx.read (·.protocol kind)
  require (rows.get? id = none ∧ (∀ r ∈ rows.values, r.idempotencyKey ≠ row.idempotencyKey) ∧
    (kind = .crossProjectParticipantResult ∨ ∀ r ∈ rows.values, r.digest ≠ row.digest))
    ⟨.integrity,"UNIQUE constraint failed: protocol_records"⟩
  Tx.write fun s => { s with protocol := fun k => if k = kind then (s.protocol kind).set id row else s.protocol k }

/-- `record_protocol`: the stored row and whether this call inserted it. -/
def recordProtocol (kind : ProtocolKind) (id idempotencyKey digest : String) (payload : Payload) : BridgeProg (ProtocolRow × Bool) := do
  let conflict := valueError (kind.value ++ " conflict")
  match ← atomically (protocolRecord kind id) with
  | some row => do
    require (row.digest = digest ∧ row.payload.alike payload) conflict
    return (row,false)
  | none => do
    let taken ← atomically (Tx.read fun s => (s.protocol kind).entries.any fun e => e.2.idempotencyKey = idempotencyKey && e.1 ≠ id)
    require (taken = false) (valueError (kind.value ++ " idempotency conflict"))
    let now ← ask .storeClock
    let row : ProtocolRow := { idempotencyKey, digest, payload, updatedAt := now }
    let inserted ← rescue (do
        atomically (insertProtocol kind id row)
        return true) fun _ => pure false
    let stored ← orRaise (← atomically (protocolRecord kind id)) conflict
    if inserted then return (stored,true)
    require (stored.digest = digest ∧ stored.payload.alike payload) conflict
    return (stored,false)

def transitionProtocol (kind : ProtocolKind) (id : String) (state : ProtocolState) (error : Option String) :
    BridgeProg ProtocolRow := do
  let now ← ask .storeClock
  atomically (updateProtocol kind id fun row =>
    { row with state, attempts := row.attempts + 1, lastError := error, updatedAt := now })
  orRaise (← atomically (protocolRecord kind id)) (valueError "protocol record is missing")

/-- The rows of a kind that still have to be forwarded. -/
def pendingProtocol (kind : ProtocolKind) (limit : ℕ) (s : BridgeStore) : List (String × ProtocolRow) :=
  (((s.protocol kind).entries.filter fun e => e.2.state = .queued ∨ e.2.state = .forwardPending).insertionSort fun a b =>
    a.2.updatedAt ≠ b.2.updatedAt ∧ textLe a.2.updatedAt b.2.updatedAt ∨ a.2.updatedAt = b.2.updatedAt ∧ textLe a.1 b.1).take
    (max 1 (min 100 limit))

/-- The intents are in two tables of one shape: those to dispatch and those to review. -/
inductive IntentKind where
  | dispatch | review
  deriving DecidableEq

def BridgeStore.intents (s : BridgeStore) : IntentKind → Dict CoordinationIntent
  | .dispatch => s.dispatches
  | .review => s.reviews

def BridgeStore.setIntents (s : BridgeStore) (kind : IntentKind) (d : Dict CoordinationIntent) : BridgeStore :=
  match kind with
  | .dispatch => { s with dispatches := d }
  | .review => { s with reviews := d }

def dump (value : Payload) : String := Json.dumps true (Json.sortKeys (.obj value.entries))

/-- `_dump_wire`: the members stay in their order. -/
def dumpWire (value : Payload) : String := Json.dumps false (.obj value.entries)

/-- The row `_create_coordination_intent` stores. -/
structure IntentSpec where
  requestId : String
  externalId : String
  payload : Payload
  ownerId : String
  idempotencyKey : String

def IntentSpec.row (i : IntentSpec) : CoordinationIntent where
  externalId := i.externalId
  payload := i.payload
  ownerId := i.ownerId
  idempotencyKey := i.idempotencyKey

/-- Insert the intent or find it there; the answer tells whether it was inserted. -/
def insertIntent (kind : IntentKind) (i : IntentSpec) : BridgeTx Bool := do
  let rows ← Tx.read (·.intents kind)
  match rows.get? i.requestId with
  | some row => do
    require (row.externalId = i.externalId ∧ dump row.payload = dump i.payload ∧ row.idempotencyKey = i.idempotencyKey)
      (valueError "coordination intent conflict")
    return false
  | none => do
    require (∀ row ∈ rows.values, row.externalId ≠ i.externalId ∧ row.idempotencyKey ≠ i.idempotencyKey)
      ⟨.integrity,"UNIQUE constraint failed: coordination intents"⟩
    Tx.write fun s => s.setIntents kind ((s.intents kind).set i.requestId i.row)
    return true

def coordinationIntent (kind : IntentKind) (requestId : String) : BridgeTx (Option CoordinationIntent) :=
  Tx.read fun s => (s.intents kind).get? requestId

/-- `_create_coordination_intent`: the intent and whether this call won. -/
def createCoordinationIntent (kind : IntentKind) (i : IntentSpec) : BridgeProg (CoordinationIntent × Bool) := do
  require (isBlank i.requestId = false ∧ isBlank i.externalId = false ∧ isBlank i.ownerId = false ∧ isBlank i.idempotencyKey = false)
    (valueError "coordination intent identity is invalid")
  let inserted ← atomically (insertIntent kind i)
  let intent ← orRaise (← atomically (coordinationIntent kind i.requestId)) ⟨.type,"intent is missing"⟩
  return (intent,inserted)

def transitionIntent (kind : IntentKind) (requestId : String) (state : IntentState) : BridgeProg CoordinationIntent := do
  let _now ← ask .storeClock
  atomically (Tx.write fun s => match (s.intents kind).get? requestId with
    | some row => s.setIntents kind ((s.intents kind).set requestId { row with state })
    | none => s)
  orRaise (← atomically (coordinationIntent kind requestId)) (valueError "coordination intent is missing")

/-- `record_coordination_participant_terminal`. -/
def admitTerminal (requestId resultId idempotencyKey digest : String) (payload : Payload) (now : String) : BridgeTx Bool := do
  match ← Tx.read (·.terminals.get? requestId) with
  | some terminal => do
    require (terminal.resultId = resultId ∧ terminal.digest = digest ∧ dumpWire terminal.payload = dumpWire payload)
      (valueError "participant result terminal conflict")
    return false
  | none => do
    let rows ← Tx.read (·.protocol .crossProjectParticipantResult)
    require (rows.get? resultId = none ∧ ∀ row ∈ rows.values, row.idempotencyKey ≠ idempotencyKey)
      (valueError "participant result terminal conflict")
    insertProtocol .crossProjectParticipantResult resultId { idempotencyKey, digest, payload, updatedAt := now }
    let terminals ← Tx.read (·.terminals)
    require (∀ row ∈ terminals.values, row.resultId ≠ resultId) ⟨.integrity,"UNIQUE constraint failed: coordination_terminals"⟩
    Tx.write fun s => { s with terminals := s.terminals.set requestId ⟨resultId,digest,payload⟩ }
    return true

def recordCoordinationParticipantTerminal (requestId resultId idempotencyKey digest : String) (payload : Payload) :
    BridgeProg (ProtocolRow × Bool) := do
  require ((payload.get "requestId").alike (.str requestId) ∧ (payload.get "resultId").alike (.str resultId))
    (valueError "participant result terminal binding is invalid")
  let now ← ask .storeClock
  let inserted ← atomically (admitTerminal requestId resultId idempotencyKey digest payload now)
  let row ← orRaise (← atomically (protocolRecord .crossProjectParticipantResult resultId))
    (valueError "participant result terminal record is missing")
  return (row,inserted)

/-- The stored result of a work request, checked against its terminal. -/
def coordinationParticipantTerminal (requestId : String) : BridgeProg (Option ProtocolRow) := do
  match ← atomically (Tx.read (·.terminals.get? requestId)) with
  | none => return none
  | some terminal => do
    let invalid := valueError "participant result terminal record is invalid"
    let row ← orRaise (← atomically (protocolRecord .crossProjectParticipantResult terminal.resultId)) invalid
    require (row.digest = terminal.digest ∧ row.payload.alike terminal.payload ∧
      (row.payload.get "requestId").alike (.str requestId)) invalid
    return some row

/-- The rows of a kind that are there under the given identifiers. -/
def protocolRecordsForIds (kind : ProtocolKind) (ids : List String) : BridgeTx (List (String × ProtocolRow)) := do
  require (ids.dedup.length ≤ 64 ∧ ∀ id ∈ ids, isBlank id = false) (valueError "protocol record scope is invalid")
  Tx.read fun s => ids.dedup.filterMap fun id => ((s.protocol kind).get? id).map fun row => (id,row)

/-! ### Forwarding -/

/-- The peer took the message. -/
def sendAccepted (kind : ProtocolKind) (id : String) (payload : Payload) : BridgeProg Unit := do
  let response ← orRaise (← ask (.sender (.protocol kind) id payload)) outsideError
  require (accepts response) (valueError "Psychlo rejected protocol record")

def forwardProtocolRecord (kind : ProtocolKind) (id : String) (payload : Payload) : BridgeProg Unit := do
  rescue (sendAccepted kind id payload) fun _ => do
    let _row ← transitionProtocol kind id .forwardPending (some "forward-failed")
    raise (valueError "forward-pending")
  let _row ← transitionProtocol kind id .delivered none

/-- `_persist_protocol` for a kind whose records are not revalidated. -/
def persistProtocol (host : Host) (kind : ProtocolKind) (id : String) (payload : Payload) (forward : Bool) :
    BridgeProg ProtocolRow := do
  let own := payload.get "digest"
  let digest := if own.truthy then own.text else host.canonicalDigest payload
  let key := ((payload.get? "idempotencyKey").map Json.text).getD id
  let (row,inserted) ← recordProtocol kind id key digest payload
  if forward ∧ (inserted ∨ (row.state ≠ .delivered ∧ row.state ≠ .settled)) then
    rescue (do
        sendAccepted kind id payload
        transitionProtocol kind id .delivered none) fun _ => do
      let _row ← transitionProtocol kind id .forwardPending (some "forward-failed")
      raise (valueError "forward-pending")
  else return row

/-! ### The supervisor -/

/-- The texts of a list. -/
def textsOf (v : Json) : List String :=
  match v with
  | .arr items => items.filterMap Json.asStr?
  | _ => []

/-- The items of a nonempty list. -/
def itemsOf (v : Json) : Option (List Json) :=
  match v with
  | .arr (first :: rest) => some (first :: rest)
  | _ => none

/-- The identity that the requests of one coordination share. -/
def sharedFields : List String := ["coordinationBindingId","linkId","version","requiredRequestIds","supervisorLeadId"]

def supervisorKey (request : Payload) (requestId resultId : String) : String :=
  "cross-project-supervisor:" ++ (request.get "coordinationBindingId").text ++ ":" ++ (request.get "linkId").text ++ ":" ++
    (request.get "version").text ++ ":" ++ requestId ++ ":" ++ resultId

/-- What a review is about, apart from the results. -/
def reviewIdentity (request binding : Payload) (requestId : String) : List (String × Json) :=
  (["coordinationBindingId","linkId","version","projectId","leadId","supervisorLeadId"].map fun k => (k,request.get k)) ++
  (["coordinationTeamId","supervisorMemberId"].map fun k => (k,binding.get k)) ++
  [("requiredRequestIds",request.get "requiredRequestIds"),("requestId",.str requestId)]

/-- The members of `part` are in the list `whole` in its order. -/
def inOrderOf (whole part : List String) : Bool :=
  part == part.insertionSort fun a b => whole.idxOf a ≤ whole.idxOf b

/-- A stored review is checked again against what it is about. -/
def checkReview (request binding : Payload) (requestId : String) (review : CoordinationIntent) : BridgeProg CoordinationIntent := do
  let conflict := valueError "coordination review conflict"
  let context := review.payload
  let requiredIds := textsOf (request.get "requiredRequestIds")
  require ((reviewIdentity request binding requestId).all fun e => (context.get e.1).alike e.2) conflict
  let listed ← orRaise (itemsOf (context.get "participantResults")) conflict
  let participants := listed.filterMap Payload.ofJson?
  let resultIds := participants.filterMap (·.str? "resultId")
  let records ← atomically (protocolRecordsForIds .crossProjectParticipantResult resultIds)
  let recordOf := fun p : Payload => (records.find? (·.1 = (p.get "resultId").text)).map (·.2)
  require (participants.length = listed.length ∧ participants.all fun p => p.hasKeys ["resultId","digest"] &&
    (recordOf p).any fun r => (p.get "digest").alike (.str r.digest) && (r.payload.get "digest").alike (p.get "digest")) conflict
  let listedIds := participants.filterMap fun p => (recordOf p).bind fun r => r.payload.str? "requestId"
  let resultId := (context.get "resultId").text
  require (listedIds.dedup = listedIds ∧ listedIds.length = participants.length ∧ (∀ id ∈ listedIds, id ∈ requiredIds) ∧
    inOrderOf requiredIds listedIds ∧ participants.any fun p => (p.get "resultId").alike (context.get "resultId")) conflict
  let trigger ← orRaise (records.find? (·.1 = resultId)) conflict
  require ((trigger.2.payload.get "requestId").alike (.str requestId) ∧
    review.idempotencyKey = supervisorKey request requestId resultId) conflict
  return review

/-- The delivered results of the required requests, in their order. -/
def deliveredResults (requests : List (String × ProtocolRow)) : List String → BridgeProg (List (String × ProtocolRow))
  | [] => pure []
  | requiredId :: rest =>
    match requests.find? (·.1 = requiredId) with
    | none => deliveredResults requests rest
    | some item => do
      match ← coordinationParticipantTerminal requiredId with
      | none => deliveredResults requests rest
      | some result =>
        if result.state = .delivered then do
          require ((result.payload.get "digest").alike (.str result.digest) ∧
            (item.2.payload.get "expectedResultDigest").alike (.str result.digest) ∧
            (["linkId","version","projectId","leadId","scope"].all fun k => (result.payload.get k).alike (item.2.payload.get k)) ∧
            (result.payload.get "requestId").alike (.str requiredId))
            (valueError "participant result stored binding is invalid")
          return (requiredId,result) :: (← deliveredResults requests rest)
        else deliveredResults requests rest

def bindingForRequest (request : Payload) : BridgeProg Payload := do
  let missing := valueError "approved coordination team binding is required"
  let row ← orRaise (← atomically (protocolRecord .crossProjectTeamBinding (request.get "coordinationBindingId").text)) missing
  require (row.state = .delivered) missing
  return row.payload

namespace Bridge
variable (b : Bridge)

/-- Store the intent and, when this call won, call the supervisor. -/
def dispatchReview (requestId leadId : String) (context : Payload) (key : String) : BridgeProg CoordinationIntent := do
  require (b.canPrepareReview = true) (valueError "durable supervisor dispatcher preparation is unavailable")
  let prepared ← orRaise (← ask (.prepareReview leadId context key)) outsideError
  let reviewId := prepared.text
  require (isBlank reviewId = false) (valueError "supervisor review dispatch is missing")
  let (review,winner) ← createCoordinationIntent .review ⟨requestId,reviewId,context,b.coordinationOwnerId,key⟩
  if winner then
    rescue (do
        let sent ← orRaise (← ask (.dispatchReview leadId context key)) outsideError
        require (sent.text = reviewId) (valueError "supervisor review dispatch identity conflict")
        transitionIntent .review requestId .pending) fun _ => pure review
  else return review

/-- The context of a review: what it is about and the results it is to judge. -/
def reviewContext (request binding : Payload) (requestId : String) (results : List (String × ProtocolRow))
    (trigger : ProtocolRow) : Payload :=
  let participants := results.map fun r => Json.obj [("resultId",r.2.payload.get "resultId"),("digest",.str r.2.digest)]
  (Payload.ofList (reviewIdentity request binding requestId)).merge
    [("participantResults",.arr participants),("resultId",trigger.payload.get "resultId"),("requestId",.str requestId)]

def maybeDispatchSupervisor (requestId : String) : BridgeProg (Option CoordinationIntent) := do
  match ← atomically (protocolRecord .coordinationWorkRequest requestId) with
  | none => return none
  | some record => do
    let request := record.payload
    let binding ← bindingForRequest request
    let requiredIds := textsOf (request.get "requiredRequestIds")
    let requests ← atomically (protocolRecordsForIds .coordinationWorkRequest requiredIds)
    require (∀ item ∈ requests, ∀ k ∈ sharedFields, (item.2.payload.get k).alike (request.get k))
      (valueError "coordination request set conflict")
    match ← atomically (coordinationIntent .review requestId) with
    | some review => return some (← checkReview request binding requestId review)
    | none => do
      let results ← deliveredResults requests requiredIds
      match results.find? (·.1 = requestId) with
      | none => return none
      | some (_,trigger) =>
        if b.hasSupervisor then
          return some (← b.dispatchReview requestId (request.get "supervisorLeadId").text
            (reviewContext request binding requestId results trigger)
            (supervisorKey request requestId (trigger.payload.get "resultId").text))
        else return none

/-- The review that is sent to the peer. -/
def finalReview (context : Payload) (reviewId : String) (accepted : Bool) (evidence occurredAt : Json) : Payload :=
  let link := (context.get "linkId").text ++ ":" ++ (context.get "version").text
  let first := match evidence with
    | .arr (v :: _) => v
    | _ => .null
  let base := Payload.ofList [("projectId",context.get "projectId"),("leadId",context.get "leadId"),
    ("supervisorLeadId",context.get "supervisorLeadId"),("decision",.str (if accepted then "accepted" else "rejected")),
    ("evidenceId",first),("linkId",context.get "linkId"),("version",context.get "version"),("reviewId",.str reviewId),
    ("resultId",context.get "resultId"),("participantResults",context.get "participantResults"),
    ("coordinationTeamId",context.get "coordinationTeamId"),("supervisorMemberId",context.get "supervisorMemberId"),
    ("accepted",.bool accepted),("evidence",evidence),("correlationId",.str ("cross-project:" ++ link)),
    ("idempotencyKey",.str ("supervisor:" ++ reviewId)),("occurredAt",occurredAt)]
  base.set "digest" (.str (b.host.canonicalDigest base))

/-- The peer has the review; an accepted one settles the request. -/
def reviewDelivered (requestId : String) (accepted : Bool) : BridgeProg Unit := do
  let _review ← transitionIntent .review requestId (if accepted then .delivered else .rejected)
  if accepted then ignoring (transitionProtocol .coordinationWorkRequest requestId .settled none) else pure ()

/-- The supervisor's answer, stored, sent and settled. -/
def settleReview (requestId : String) (review : CoordinationIntent) (value : Payload) : BridgeProg (Option CoordinationIntent) := do
  require (value.hasKeys ["accepted","evidence","occurredAt"] ∧ (value.get "accepted" = .bool true ∨ value.get "accepted" = .bool false) ∧
    Host.isEvidence (value.get "evidence")) (valueError "authoritative supervisor result is invalid")
  let accepted := decide (value.get "accepted" = .bool true)
  let final := b.finalReview review.payload review.externalId accepted (value.get "evidence") (value.get "occurredAt")
  let _final ← liftProg (b.host.parseCrossProjectSupervisorReview final)
  let persisted ← persistProtocol b.host .crossProjectSupervisorReview review.externalId final true
  if persisted.state = .delivered then reviewDelivered requestId accepted else pure ()
  if accepted then atomically (coordinationIntent .review requestId) else return none

def collectSupervisorReview (requestId : String) : BridgeProg (Option CoordinationIntent) := do
  let _request ← orRaise (← atomically (protocolRecord .coordinationWorkRequest requestId))
    (valueError "coordination work request is missing")
  match ← atomically (coordinationIntent .review requestId) with
  | none => return none
  | some _ => do
    match ← b.maybeDispatchSupervisor requestId with
    | none => return none
    | some review =>
      if review.state = .delivered then return some review
      else if review.state = .rejected ∨ b.hasSupervisorCollector = false then return none
      else match ← orRaise (← ask (.supervisorResult review.externalId review.payload)) outsideError with
        | none => return none
        | some value => b.settleReview requestId review value

/-! ### The lead -/

def resultKeys : List String := ["linkId","version","projectId","leadId","requestId","dispatchId","resultId","scope","status",
  "evidenceId","digest","correlationId","idempotencyKey","occurredAt"]

def collectProjectResult (request : Payload) : BridgeProg (Option Payload) := do
  match ← atomically (coordinationIntent .dispatch (request.get "id").text) with
  | none => return none
  | some dispatch =>
    if b.hasProjectCollector = false then return none
    else match ← orRaise (← ask (.projectResult dispatch.externalId request)) outsideError with
      | none => return none
      | some value => do
        require (value.hasKeys resultKeys ∧ (value.get "status" = .str "completed" ∨ value.get "status" = .str "blocked") ∧
          resultKeys.all fun k => (value.str? k).any fun s => !isBlank s) (valueError "authoritative participant result is invalid")
        require ((value.get "requestId").alike (request.get "id") ∧ (value.get "dispatchId").alike (.str dispatch.externalId))
          (valueError "participant result dispatch binding is invalid")
        require ((["linkId","version","projectId","leadId","scope"].all fun k => (value.get k).alike (request.get k)) ∧
          (value.get "digest").alike (request.get "expectedResultDigest"))
          (valueError "participant result request binding is invalid")
        return some value

/-- The stored result after it was sent, unless the peer had it. -/
def forwardedResult (resultId : String) (row : ProtocolRow) (inserted : Bool) : BridgeProg (Option ProtocolRow) :=
  if inserted ∨ (row.state ≠ .delivered ∧ row.state ≠ .settled) then do
    forwardProtocolRecord .crossProjectParticipantResult resultId row.payload
    atomically (protocolRecord .crossProjectParticipantResult resultId)
  else pure (some row)

def persistParticipantResult (request value : Payload) : BridgeProg Unit := do
  let requestId := (request.get "id").text
  let resultId := (value.get "resultId").text
  let (row,inserted) ← recordCoordinationParticipantTerminal requestId resultId (value.get "idempotencyKey").text
    (value.get "digest").text value
  let row ← forwardedResult resultId row inserted
  if row.any fun r => r.state = .delivered then do
    let _dispatch ← transitionIntent .dispatch requestId .delivered
    let _review ← b.maybeDispatchSupervisor requestId
  else return ()

/-- The identity a dispatcher gave back. -/
def sentId (raw : Json) : String :=
  match Payload.ofJson? raw with
  | some p => (p.get "dispatchId").text
  | none => raw.text

/-- The request waits for a later pass. -/
def dispatchPending {α : Type} (requestId error : String) : BridgeProg α := do
  let _row ← transitionProtocol .coordinationWorkRequest requestId .forwardPending (some error)
  raise (valueError "dispatch-pending")

/-- Prepare the identity of the dispatch. -/
def prepareLead (value : Payload) : BridgeProg String := do
  require (b.canPrepare = true) (valueError "durable lead dispatcher preparation is unavailable")
  let prepared ← orRaise (← ask (.prepare (value.get "leadId").text (value.get "scope").text (value.get "id").text)) outsideError
  require (isBlank prepared.text = false) (valueError "lead dispatch identity is missing")
  return prepared.text

/-- The intent to dispatch the request to its lead. -/
def leadIntent (value : Payload) (dispatchId : String) : IntentSpec where
  requestId := (value.get "id").text
  externalId := dispatchId
  payload := .ofList [("request",.obj value.entries),("leadId",value.get "leadId"),("scope",value.get "scope"),
    ("idempotencyKey",value.get "id")]
  ownerId := b.coordinationOwnerId
  idempotencyKey := (value.get "id").text

/-- Store the intent and, when this call won, call the lead. The answer tells whether the
pass may go on to collect a result. -/
def dispatchLead (value : Payload) : BridgeProg (CoordinationIntent × Bool) := do
  let requestId := (value.get "id").text
  let dispatchId ← rescue (b.prepareLead value) fun _ => dispatchPending requestId "dispatch-failed"
  let (dispatch,winner) ← createCoordinationIntent .dispatch (b.leadIntent value dispatchId)
  if winner then
    rescue (do
        let raw ← orRaise (← ask (.dispatch (value.get "leadId").text (value.get "scope").text requestId)) outsideError
        require (sentId raw = dispatchId) (valueError "lead dispatch identity conflict")
        let dispatch ← transitionIntent .dispatch requestId .pending
        return (dispatch,true)) fun _ => dispatchPending requestId "dispatch-uncertain"
  else return (dispatch,false)

/-- The stored dispatch of the request, or a new one. -/
def ensureDispatch (value : Payload) : BridgeProg (CoordinationIntent × Bool) := do
  match ← atomically (coordinationIntent .dispatch (value.get "id").text) with
  | some dispatch => return (dispatch,true)
  | none => b.dispatchLead value

/-- What a pass over a request reports. -/
def driveReport (requestId status : String) (dispatchId : String) : Payload :=
  .ofList [("accepted",.bool true),("requestId",.str requestId),("status",.str status),("dispatchId",.str dispatchId)]

/-- Store a collected result and report. -/
def reportResult (requestId : String) (value result : Payload) (dispatchId : BridgeProg String) : BridgeProg Payload := do
  b.persistParticipantResult value result
  let review ← atomically (coordinationIntent .review requestId)
  return driveReport requestId (if review.isSome then "review-pending" else "pending") (← dispatchId)

def driveCoordinationRequest (requestId : String) : BridgeProg Payload := do
  let record ← orRaise (← atomically (protocolRecord .coordinationWorkRequest requestId))
    (valueError "coordination work request is missing")
  let value := record.payload
  match ← b.collectSupervisorReview requestId with
  | some review => return .ofList [("accepted",.bool true),("requestId",.str requestId),("status",.str "settled"),
      ("reviewId",.str review.externalId)]
  | none =>
    match ← b.collectProjectResult value with
    | some result => b.reportResult requestId value result do
        let dispatch ← orRaise (← atomically (coordinationIntent .dispatch requestId)) ⟨.type,"dispatch is missing"⟩
        return dispatch.externalId
    | none => do
      let (dispatch,mine) ← b.ensureDispatch value
      if mine then
        match ← b.collectProjectResult value with
        | some result => b.reportResult requestId value result (pure dispatch.externalId)
        | none => return driveReport (value.get "id").text "pending" dispatch.externalId
      else return driveReport (value.get "id").text "pending" dispatch.externalId

end Bridge
end Overseer.Psychlo
