import Overseer.Psychlo.Bridge
import Overseer.Library.JsonEquality

/-! # Observations for the learning destinations

An observation is recorded once and delivered to two destinations. The bridge delivers on
its own, on behalf of a destination that pulls, or learns of a delivery by an
acknowledgment. One statement of `transition_learning` writes how a delivery went and the
state of the observation as a whole.
-/
namespace Overseer.Psychlo
open Overseer.Library Overseer.Agent

namespace LearningRow

/-- The row was quarantined. -/
def isCorrupt (row : LearningRow) : Bool :=
  row.state = .corrupt || row.delivery.skiller = .corrupt || row.delivery.memory = .corrupt

/-- The members that a record has beside those of its payload. -/
def recordKeys : List String := ["digest","state","attempts","deliveries","lastError"]

/-- The errors that say something. -/
def errors (row : LearningRow) : List (String × Json) :=
  [(Destination.skiller,row.lastError.skiller),(.memory,row.lastError.memory)].filterMap fun e =>
    (e.2.filter (· ≠ "")).map fun text => (e.1.value,.str text)

/-- The record that `learning_observation` makes of the row. -/
def record (row : LearningRow) : Payload := row.payload.merge [("digest",.str row.digest),("state",.str row.state.value),
  ("attempts",.obj [("skiller",.int row.attempts.skiller),("private-memory",.int row.attempts.memory)]),
  ("deliveries",.obj [("skiller",.str row.delivery.skiller.value),("private-memory",.str row.delivery.memory.value)]),
  ("lastError",.obj row.errors)]

/-- What `transition_learning` sets: the state is computed from the deliveries as they were. -/
def move (m : LearningMove) (error : Option String) (row : LearningRow) : LearningRow where
  payload := row.payload
  digest := row.digest
  state := if row.delivery.skiller = .delivered ∧ row.delivery.memory = .delivered then .delivered else m.delivery
  attempts := row.attempts.put m.destination (row.attempts.at_ m.destination + 1)
  lastError := row.lastError.put m.destination error
  delivery := row.delivery.put m.destination m.delivery

def quarantine (error : String) (row : LearningRow) : LearningRow :=
  { row with state := .corrupt, delivery := ⟨.corrupt,.corrupt⟩, lastError := ⟨some error,some error⟩ }

end LearningRow

def updateLearning (observationId : String) (f : LearningRow → LearningRow) : BridgeTx Unit :=
  Tx.write fun s => match s.learning.get? observationId with
    | some row => { s with learning := s.learning.set observationId (f row) }
    | none => s

/-- `INSERT INTO learning_observations`; false when the id or the digest is taken. -/
def insertLearning (observationId : String) (row : LearningRow) : BridgeTx Bool := do
  let rows ← Tx.read (·.learning)
  if rows.get? observationId = none ∧ ∀ other ∈ rows.values, other.digest ≠ row.digest then do
    Tx.write fun s => { s with learning := s.learning.set observationId row }
    return true
  else return false

/-- The observations that a destination still waits for, in the order of their rows. -/
def pendingLearningIds (destination : Destination) (limit : ℤ) (s : BridgeStore) : List String :=
  ((s.learning.entries.filter fun e => e.2.delivery.at_ destination ≠ .delivered ∧ e.2.delivery.at_ destination ≠ .corrupt).map
    (·.1)).take (max 1 (min 100 limit)).toNat

/-- The stored observation is one the contract accepts, under its own id and digest. -/
def Host.verifyLearning (host : Host) (observationId : String) (row : LearningRow) : Check Unit := do
  let observation ← host.parseLearningObservation row.payload
  check (observation.get "id" = .str observationId) (valueError "learning observation identity conflict")
  let wire ← host.learningObservationDigest observation
  check (row.digest ∈ [wire,host.learningObservationLegacySelectedDigest observation,host.canonicalDigest observation])
    (valueError "learning observation digest conflict")

structure LearningReceipt where
  inserted : Bool
  replay : Bool
  observation : Option Payload

/-- How many deliveries succeeded and failed. -/
structure DeliveryCount where
  delivered : ℕ := 0
  failed : ℕ := 0

def DeliveryCount.count (c : DeliveryCount) (succeeded : Bool) : DeliveryCount :=
  if succeeded then { c with delivered := c.delivered + 1 } else { c with failed := c.failed + 1 }

/-- The payload with the members that a sender may leave out. -/
def learningDefaults (payload : Payload) (now : String) : Payload :=
  let id := ((payload.get? "id").getD (.str "")).text
  let filled := fun k default_ => (k,(payload.get? k).getD default_)
  payload.merge [filled "sourceId" (.str "overseer"),filled "messageId" ((payload.get? "id").getD (.str "")),
    filled "correlationId" (.str ("learning:" ++ id)),filled "idempotencyKey" (.str ("learning:observation:" ++ id)),
    filled "occurredAt" (.str now),filled "schemaVersion" (.str Host.learningSchema)]

/-- The stored record is this observation under this digest; numbers are compared by value. -/
def Host.sameRecord (host : Host) (observation : Payload) (digest : String) (record : Payload) : Bool :=
  record.get "digest" = .str digest &&
    Json.equals host.floatIsInt (.obj (LearningRow.recordKeys.foldl Dict.erase record).entries) (.obj observation.entries)

namespace Bridge
variable (b : Bridge)

/-- `learning_observation`: a row that does not verify is quarantined. -/
def learningObservation (observationId : String) : BridgeProg (Option Payload) := do
  match ← atomically (Tx.read (·.learning.get? observationId)) with
  | none => return none
  | some row =>
    if row.isCorrupt then return none
    match b.host.verifyLearning observationId row with
    | .ok _ => return some row.record
    | .error e => do
      require (e.kind = .value ∨ e.kind = .type) e
      atomically (updateLearning observationId (LearningRow.quarantine "learning-observation-integrity-failed"))
      return none

/-- `record_learning` of the store. -/
def recordLearning (observation : Payload) (digest : String) : BridgeProg Bool := do
  let observationId := (observation.get "id").text
  let inserted ← atomically (insertLearning observationId { payload := observation, digest })
  if inserted then return true
  let existing ← b.learningObservation observationId
  require (existing.any (b.host.sameRecord observation digest)) (valueError "learning observation conflict")
  return false

def recordLearningObservation (payload : Payload) : BridgeProg LearningReceipt := do
  let now ← ask .clock
  let payload := learningDefaults payload now
  let supplied := payload.get "digest"
  let observation ← liftProg (b.host.parseLearningObservation (((payload.erase "digest").erase "state").erase "messageId"))
  let digest ← liftProg (b.host.learningObservationDigest observation)
  require (supplied = .null ∨ supplied = .str digest) (valueError "learning observation digest mismatch")
  let inserted ← b.recordLearning observation digest
  let stored ← b.learningObservation (observation.get "id").text
  return ⟨inserted,!inserted,stored⟩

def transitionLearning (m : LearningMove) (error : Option String) : BridgeProg Payload := do
  Prog.transaction { learning := some m } (updateLearning m.observationId (LearningRow.move m error))
  orRaise (← b.learningObservation m.observationId) (valueError "learning observation was not found")

/-- The rows of these ids that verify. -/
def readLearning : List String → BridgeProg (List Payload)
  | [] => pure []
  | observationId :: rest => do
    let record ← b.learningObservation observationId
    let records ← readLearning rest
    return record.toList ++ records

def pendingLearning (destination : Destination) (limit : ℤ) : BridgeProg (List Payload) := do
  let ids ← atomically (Tx.read (pendingLearningIds destination limit))
  b.readLearning ids

/-- Whatever went wrong with an observation, its delivery failed. -/
def failLearning (destination : Destination) (record : Payload) : BridgeProg Bool := do
  ignoring (b.transitionLearning ⟨(record.get "id").text,destination,.failed⟩ (some "adapter-failed"))
  return false

def deliverOne (destination : Destination) (record : Payload) : BridgeProg Bool :=
  rescue (do
    let took ← ask (.adapter destination (some record))
    require (took = true) outsideError
    ignoring (b.transitionLearning ⟨(record.get "id").text,destination,.delivered⟩ none)
    return true) fun _ => b.failLearning destination record

def deliverEach (destination : Destination) : List Payload → DeliveryCount → BridgeProg DeliveryCount
  | [], c => pure c
  | record :: rest, c => do
    let succeeded ← b.deliverOne destination record
    deliverEach destination rest (c.count succeeded)

def deliverTo (adapters : Destination → Bool) (limit : ℤ) : List Destination → DeliveryCount → BridgeProg DeliveryCount
  | [], c => pure c
  | destination :: rest, c =>
    if adapters destination then do
      let records ← b.pendingLearning destination limit
      let c ← b.deliverEach destination records c
      deliverTo adapters limit rest c
    else deliverTo adapters limit rest c

/-- `adapters` tells which destinations have an adapter. -/
def deliverLearningPending (adapters : Destination → Bool) (limit : ℤ) : BridgeProg DeliveryCount :=
  b.deliverTo adapters limit [.skiller,.memory] {}

/-- Hand a pulled record over and acknowledge it to the peer. -/
def handOver (destination : Destination) (record : Option Payload) : BridgeProg Bool := do
  let took ← ask (.adapter destination record)
  require (took = true) outsideError
  let record ← orRaise record ⟨.type,"'NoneType' object is not subscriptable"⟩
  let id := (record.get "id").text
  let digest := (record.get "digest").text
  let response ← orRaise (← ask (.sender .learningAck s!"learning-ack:{destination.value}:{id}:{digest}"
    (.ofList [("destination",.str destination.value),("id",.str id),("digest",.str digest)]))) outsideError
  require (accepts response = true) (valueError "learning acknowledgment rejected")
  ignoring (b.transitionLearning ⟨id,destination,.delivered⟩ none)
  return true

/-- Record what the peer sent. -/
def recordPulled (raw : Json) : BridgeProg (Option Payload) := do
  let payload ← orRaise (Payload.ofJson? raw) (valueError "learning observation is invalid")
  let receipt ← b.recordLearningObservation payload
  return receipt.observation

def pullOne (destination : Destination) (raw : Json) : BridgeProg Bool := do
  let recorded ← rescue (do return some (← b.recordPulled raw)) fun _ => pure none
  match recorded with
  | none => return false
  | some record => rescue (b.handOver destination record) fun _ =>
    match record with
    | some record => b.failLearning destination record
    | none => pure false

def pullEach (destination : Destination) : List Json → DeliveryCount → BridgeProg DeliveryCount
  | [], c => pure c
  | raw :: rest, c => do
    let succeeded ← b.pullOne destination raw
    pullEach destination rest (c.count succeeded)

def pullLearning (destination : Destination) (adapters : Destination → Bool) (limit : ℤ) : BridgeProg DeliveryCount := do
  let bounded := max 1 (min 100 limit)
  let now ← ask .clock
  let response ← orRaise (← ask (.sender .learningPull s!"learning-pull:{destination.value}:{now}"
    (.ofList [("destination",.str destination.value),("limit",.int bounded)]))) outsideError
  match (response.get? "observations").getD (.arr []) with
  | .arr observations => do
    require (observations.length ≤ bounded) (valueError "learning pull response is invalid")
    if adapters destination then b.pullEach destination observations {} else return ⟨0,observations.length⟩
  | _ => raise (valueError "learning pull response is invalid")

def receiveLearningAck (payload : Payload) : BridgeProg Payload := do
  let known ← liftProg (memberOf (payload.get "destination") [Destination.skiller.value,Destination.memory.value])
  let invalid := valueError "learning acknowledgment is invalid"
  require (known = true) invalid
  let destination ← orRaise (Destination.ofJson? (payload.get "destination")) invalid
  let observationId ← orRaise (payload.str? "id") invalid
  let digest ← orRaise (payload.str? "digest") invalid
  let record ← b.learningObservation observationId
  require (record.any fun record : Payload => record.get "digest" = .str digest) (valueError "learning acknowledgment digest mismatch")
  b.transitionLearning ⟨observationId,destination,.delivered⟩ none

end Bridge
end Overseer.Psychlo
