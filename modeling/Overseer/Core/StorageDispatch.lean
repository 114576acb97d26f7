import Overseer.Core.StorageSubmission
import Mathlib.Logic.Function.Basic
import Mathlib.Data.List.Basic

/-! # Dispatching a storage request

`StorageDispatcher.dispatch` of `storage_adapter.py`. A request is checked, then looked up under its
idempotency key, then submitted; the record of the key is filed before the submission and settled by
its outcome. A record is never filed twice, so whatever the clients do, a key is submitted once.
-/
namespace Overseer.Core
open Overseer.Library StorageControl

structure StorageDispatchRecord where
  id : String
  adapterId : String
  projectId : String
  idempotencyKey : String
  requestDigest : String
  requestId : String
  status : String
  operationId : Option String := none
  deriving DecidableEq

namespace StorageDispatch

/-- The key of the records. -/
structure DispatchKey where
  adapterId : String
  projectId : String
  idempotencyKey : String
  deriving DecidableEq

/-- What a client can raise: an error of the adapter, another exception, or one that is no `Exception`. -/
inductive Raised where
  | adapter (e : AdapterError)
  | exception
  | exit

/-- What a dispatch can raise; a reply without an operation id is an error of its attribute. -/
inductive DispatchError where
  | adapter (e : AdapterError)
  | time (e : StorageError)
  | attribute
  | exit

/-- A client of a registration, when it can be had, and its `submit`, with the operation id of the reply. -/
abbrev ClientFactory := StorageAdapterRegistration → Except Raised (StorageExecutionRequest → Except Raised (Option String))

/-- The arguments of a dispatch, with the clients as they are at that moment. -/
structure DispatchCall where
  request : StorageExecutionRequest
  claim : Claim
  approval : ApprovalRequest
  now : ℤ
  clientFactory : ClientFactory

/-- The records, and the requests that `submit` was called with. -/
structure Dispatcher where
  records : DispatchKey → Option StorageDispatchRecord := fun _ => none
  submitted : List StorageExecutionRequest := []

def dispatchKey (r : StorageExecutionRequest) : DispatchKey := ⟨r.adapterId,r.projectId,r.idempotencyKey⟩

def DispatchCall.key (call : DispatchCall) : DispatchKey := dispatchKey call.request

def DispatchCall.intent (call : DispatchCall) : StorageDispatchRecord where
  id := "storage-dispatch." ++ call.request.requestId
  adapterId := call.request.adapterId
  projectId := call.request.projectId
  idempotencyKey := call.request.idempotencyKey
  requestDigest := call.request.requestDigest
  requestId := call.request.requestId
  status := "dispatching"

def adapterChecked {α : Type} (r : Except AdapterError α) : Except DispatchError α := r.mapError .adapter

def timeChecked {α : Type} (r : Except StorageError α) : Except DispatchError α := r.mapError .time

section Host
variable (host : AuthorizationHost) (registrations : List StorageAdapterRegistration)

/-- The registrations that accept the request. -/
def accepting (request : StorageExecutionRequest) (now : ℤ) : Except StorageError (List StorageAdapterRegistration) :=
  registrations.filterM fun r =>
    if r.adapterId = request.adapterId ∧ r.registrationRevision = request.adapterRevision then
      StorageControl.StorageAdapterRegistration.accepts host r request.resourceId request.action now
    else .ok false

/-- A claim that expires does so after the request. -/
def claimCovers (claim : Claim) (request : StorageExecutionRequest) : Except StorageError Bool :=
  match claim.expiresAt with
  | none => .ok true
  | some "" => .ok true
  | some text => do
    let ends ← time host.toStorageHost text
    let expires ← time host.toStorageHost request.expiresAt
    pure (expires < ends)

/-- The checks of the time, the claim and the approval. -/
def DispatchCall.authorized (call : DispatchCall) : Except DispatchError Unit := do
  let request := call.request
  let expires ← timeChecked (time host.toStorageHost request.expiresAt)
  adapterChecked (demand (call.now < expires) "AUTHORIZATION_INVALID" "storage request expired")
  adapterChecked (demand (call.claim.id = request.claimId ∧ call.claim.resourceId = request.resourceId ∧
    call.claim.ownerThread = request.requestedBy ∧ isHeld call.claim) "CLAIM_INVALID" "exclusive storage claim does not match")
  let covers ← timeChecked (claimCovers host call.claim request)
  adapterChecked (demand (covers = true) "CLAIM_INVALID" "claim does not cover request deadline")
  adapterChecked (demand (call.approval.id = request.approvalId ∧ call.approval.subjectId = request.requestId ∧
    call.approval.status = .approved) "AUTHORIZATION_INVALID" "operation approval does not match")

/-- The checks before the lookup, with the registration that accepts the request. -/
def DispatchCall.checked (call : DispatchCall) : Except DispatchError StorageAdapterRegistration := do
  let request := call.request
  adapterChecked (validateStorageExecutionRequest request)
  adapterChecked (demand (request.requestDigest = canonicalDigest host request) "REQUEST_REJECTED" "request digest mismatch")
  match ← timeChecked (accepting host registrations request call.now) with
  | [registration] => do
    call.authorized host
    pure registration
  | _ => .error (.adapter ⟨"ADAPTER_DISABLED","exactly one enabled matching storage adapter is required"⟩)

def conflict : DispatchError := .adapter ⟨"IDEMPOTENCY_CONFLICT","idempotency key belongs to another request"⟩

/-- Whether `submit` is called, and how that ends; a factory that raises has no client. -/
def DispatchCall.submission (call : DispatchCall) (registration : StorageAdapterRegistration) : Bool × Except Raised (Option String) :=
  match call.clientFactory registration with
  | .error raised => (false,.error raised)
  | .ok submit => (true,submit call.request)

/-- The record that stays after a submission, and what the caller gets. What is no `Exception`, and what fails on the reply,
leaves the record of the intent. -/
def settle (intent : StorageDispatchRecord) : Except Raised (Option String) → StorageDispatchRecord × Except DispatchError StorageDispatchRecord
  | .error (.adapter e) => ({ intent with status := "dispatch_unknown" },.error (.adapter e))
  | .error .exception =>
    ({ intent with status := "dispatch_unknown" },.error (.adapter ⟨"TIMEOUT_UNKNOWN","storage dispatch outcome is unknown"⟩))
  | .error .exit => (intent,.error .exit)
  | .ok none => (intent,.error .attribute)
  | .ok (some operationId) =>
    let accepted := { intent with status := "in_progress", operationId := some operationId }
    (accepted,.ok accepted)

/-- `dispatch`: what it returns or raises, and the dispatcher after it. -/
def dispatch (d : Dispatcher) (call : DispatchCall) : Except DispatchError StorageDispatchRecord × Dispatcher :=
  match call.checked host registrations with
  | .error e => (.error e,d)
  | .ok registration =>
    match d.records call.key with
    | some prior => if prior.requestDigest = call.request.requestDigest then (.ok prior,d) else (.error conflict,d)
    | none =>
      let outcome := call.submission registration
      let settled := settle call.intent outcome.2
      (settled.2,
        { records := Function.update d.records call.key (some settled.1)
          submitted := if outcome.1 then d.submitted ++ [call.request] else d.submitted })

/-- The dispatcher after some calls, from the first one. -/
def dispatched (calls : List DispatchCall) : Dispatcher := calls.foldl (fun d call => (dispatch host registrations d call).2) {}

/-! ### What a dispatch does -/

/-- The first dispatch of a key: no record stands for it, and the checks pass. -/
structure Opens (d : Dispatcher) (call : DispatchCall) (registration : StorageAdapterRegistration) : Prop where
  passed : call.checked host registrations = .ok registration
  fresh : d.records call.key = none

variable {host registrations}

theorem dispatch_rejected {d : Dispatcher} {call : DispatchCall} {e : DispatchError}
    (h : call.checked host registrations = .error e) : dispatch host registrations d call = (.error e,d) := by
  unfold dispatch
  rw [h]

theorem dispatch_known {d : Dispatcher} {call : DispatchCall} {registration : StorageAdapterRegistration} {prior : StorageDispatchRecord}
    (h : call.checked host registrations = .ok registration) (hprior : d.records call.key = some prior) :
    dispatch host registrations d call =
      (if prior.requestDigest = call.request.requestDigest then .ok prior else .error conflict,d) := by
  unfold dispatch
  rw [h]
  dsimp only
  rw [hprior]
  dsimp only
  split <;> rfl

theorem dispatch_opens {d : Dispatcher} {call : DispatchCall} {registration : StorageAdapterRegistration}
    (h : Opens host registrations d call registration) :
    dispatch host registrations d call = ((settle call.intent (call.submission registration).2).2,
      { records := Function.update d.records call.key (some (settle call.intent (call.submission registration).2).1)
        submitted := if (call.submission registration).1 then d.submitted ++ [call.request] else d.submitted }) := by
  unfold dispatch
  rw [h.passed]
  dsimp only
  rw [h.fresh]

theorem dispatch_cases (host : AuthorizationHost) (registrations : List StorageAdapterRegistration) (d : Dispatcher) (call : DispatchCall) :
    (∃ registration, Opens host registrations d call registration) ∨ (dispatch host registrations d call).2 = d := by
  cases hchecked : call.checked host registrations with
  | error e => exact .inr (by rw [dispatch_rejected hchecked])
  | ok registration =>
    cases hrecord : d.records call.key with
    | none => exact .inl ⟨registration,hchecked,hrecord⟩
    | some prior => exact .inr (by rw [dispatch_known hchecked hrecord])

theorem settle_digest (intent : StorageDispatchRecord) (outcome : Except Raised (Option String)) :
    (settle intent outcome).1.requestDigest = intent.requestDigest := by
  unfold settle
  split <;> rfl

theorem settle_unknown {intent : StorageDispatchRecord} {outcome : Except Raised (Option String)}
    (h : outcome = .error .exception ∨ ∃ e, outcome = .error (.adapter e)) :
    (settle intent outcome).1 = { intent with status := "dispatch_unknown" } := by
  obtain rfl | ⟨e,rfl⟩ := h <;> rfl

theorem accepting_singleton {registration : StorageAdapterRegistration} {request : StorageExecutionRequest} {now : ℤ}
    (hsame : registration.adapterId = request.adapterId ∧ registration.registrationRevision = request.adapterRevision)
    (haccepts : StorageControl.StorageAdapterRegistration.accepts host registration request.resourceId request.action now = .ok true) :
    accepting host [registration] request now = .ok [registration] := by
  unfold accepting
  simp only [List.filterM,List.filterAuxM,if_pos hsame,haccepts]
  rfl

theorem checked_of_accepting {call : DispatchCall} {registration : StorageAdapterRegistration}
    (hvalid : validateStorageExecutionRequest call.request = .ok ()) (hdigest : call.request.requestDigest = canonicalDigest host call.request)
    (haccepting : accepting host registrations call.request call.now = .ok [registration]) :
    call.checked host registrations = (call.authorized host).map fun _ => registration := by
  unfold DispatchCall.checked
  dsimp only
  rw [hvalid,haccepting,demand,if_pos hdigest]
  change (call.authorized host >>= fun _ => .ok registration) = _
  cases call.authorized host <;> rfl

/-- A request that has expired is rejected, whatever record stands for its key. -/
theorem checked_expired {call : DispatchCall} {registration : StorageAdapterRegistration} {t : ℤ}
    (hvalid : validateStorageExecutionRequest call.request = .ok ()) (hdigest : call.request.requestDigest = canonicalDigest host call.request)
    (haccepting : accepting host registrations call.request call.now = .ok [registration])
    (hexpires : time host.toStorageHost call.request.expiresAt = .ok t) (hlate : t ≤ call.now) :
    call.checked host registrations = .error (.adapter ⟨"AUTHORIZATION_INVALID","storage request expired"⟩) := by
  rw [checked_of_accepting hvalid hdigest haccepting]
  unfold DispatchCall.authorized
  dsimp only
  have hnot : demand (call.now < t) "AUTHORIZATION_INVALID" "storage request expired" =
      .error ⟨"AUTHORIZATION_INVALID","storage request expired"⟩ := if_neg (not_lt.mpr hlate)
  rw [hexpires]
  change Except.map _ (do adapterChecked (demand (call.now < t) "AUTHORIZATION_INVALID" "storage request expired"); _) = _
  rw [hnot]
  rfl

/-! ### Runs -/

theorem dispatched_singleton (call : DispatchCall) : dispatched host registrations [call] = (dispatch host registrations {} call).2 := rfl

theorem dispatched_append (calls : List DispatchCall) (call : DispatchCall) :
    dispatched host registrations (calls ++ [call]) = (dispatch host registrations (dispatched host registrations calls) call).2 := by
  unfold dispatched
  rw [List.foldl_append]
  rfl

theorem dispatch_kept {d : Dispatcher} {key : DispatchKey} {record : StorageDispatchRecord} (h : d.records key = some record)
    (call : DispatchCall) : (dispatch host registrations d call).2.records key = some record := by
  obtain ⟨registration,hopens⟩ | hsame := dispatch_cases host registrations d call
  · rw [dispatch_opens hopens]
    change Function.update d.records call.key _ key = some record
    have hne : key ≠ call.key := by
      rintro rfl
      rw [hopens.fresh] at h
      cases h
    rw [Function.update_of_ne hne,h]
  · rw [hsame,h]

theorem dispatched_kept {before : List DispatchCall} {key : DispatchKey} {record : StorageDispatchRecord}
    (h : (dispatched host registrations before).records key = some record) (later : List DispatchCall) :
    (dispatched host registrations (before ++ later)).records key = some record := by
  induction later using List.reverseRecOn with
  | nil => rwa [List.append_nil]
  | append_singleton later call ih =>
    rw [← List.append_assoc,dispatched_append]
    exact dispatch_kept ih call

/-- What was submitted under a key: nothing before a record stands for it, and one request at most after. -/
def SubmittedOnce (d : Dispatcher) : Prop :=
  ∀ key, (d.submitted.countP fun r => dispatchKey r = key) ≤ if (d.records key).isSome then 1 else 0

theorem dispatch_once {d : Dispatcher} (h : SubmittedOnce d) (call : DispatchCall) :
    SubmittedOnce (dispatch host registrations d call).2 := by
  obtain ⟨registration,hopens⟩ | hsame := dispatch_cases host registrations d call
  · rw [dispatch_opens hopens]
    intro key
    have hbefore := h key
    change List.countP _ (if _ then d.submitted ++ [call.request] else d.submitted) ≤ if (Function.update d.records call.key _ key).isSome then 1 else 0
    by_cases hkey : key = call.key
    · subst hkey
      rw [hopens.fresh] at hbefore
      have hnone : (d.submitted.countP fun r => dispatchKey r = call.key) = 0 := Nat.le_zero.mp hbefore
      rw [Function.update_self,Option.isSome_some,if_pos rfl]
      split
      · rw [List.countP_append,hnone,List.countP_singleton]
        split <;> decide
      · rw [hnone]
        decide
    · rw [Function.update_of_ne hkey]
      split
      · rw [List.countP_append]
        have hother : ¬ dispatchKey call.request = key := fun heq => hkey heq.symm
        simpa [hother] using hbefore
      · exact hbefore
  · rwa [hsame]

theorem dispatched_once (calls : List DispatchCall) : SubmittedOnce (dispatched host registrations calls) := by
  induction calls using List.reverseRecOn with
  | nil => exact fun key => Nat.zero_le _
  | append_singleton calls call ih =>
    rw [dispatched_append]
    exact dispatch_once ih call

/-- Every record that stands was settled by the call that opened its key. -/
theorem dispatched_opened (calls : List DispatchCall) {key : DispatchKey} {record : StorageDispatchRecord}
    (h : (dispatched host registrations calls).records key = some record) :
    ∃ before call after registration, calls = before ++ call :: after ∧ call.key = key ∧
      Opens host registrations (dispatched host registrations before) call registration ∧
      record = (settle call.intent (call.submission registration).2).1 := by
  induction calls using List.reverseRecOn with
  | nil => cases h
  | append_singleton calls call ih =>
    rw [dispatched_append] at h
    have hearlier : (dispatched host registrations calls).records key = some record →
        ∃ before first after registration, calls ++ [call] = before ++ first :: after ∧ first.key = key ∧
          Opens host registrations (dispatched host registrations before) first registration ∧
          record = (settle first.intent (first.submission registration).2).1 := by
      intro h
      obtain ⟨before,first,after,registration,rfl,hkey,hopens,hrecord⟩ := ih h
      exact ⟨before,first,after ++ [call],registration,by simp,hkey,hopens,hrecord⟩
    obtain ⟨registration,hopens⟩ | hsame := dispatch_cases host registrations
      (dispatched host registrations calls) call
    · rw [dispatch_opens hopens] at h
      change Function.update (dispatched host registrations calls).records call.key _ key = some record at h
      by_cases hkey : key = call.key
      · subst hkey
        rw [Function.update_self] at h
        exact ⟨calls,call,[],registration,rfl,rfl,hopens,(Option.some.inj h).symm⟩
      · rw [Function.update_of_ne hkey] at h
        exact hearlier h
    · rw [hsame] at h
      exact hearlier h

/-- What holds of the calls of a dispatcher, whatever its clients do. -/
structure AtMostOnce (host : AuthorizationHost) (registrations : List StorageAdapterRegistration) (calls : List DispatchCall) : Prop where
  once : ∀ key, ((dispatched host registrations calls).submitted.countP fun r => dispatchKey r = key) ≤ 1
  rejected : ∀ before call after e, calls = before ++ call :: after → call.checked host registrations = .error e →
    dispatch host registrations (dispatched host registrations before) call = (.error e,dispatched host registrations before)
  opened : ∀ key record, (dispatched host registrations calls).records key = some record →
    ∃ before call after registration, calls = before ++ call :: after ∧ call.key = key ∧
      Opens host registrations (dispatched host registrations before) call registration ∧
      record = (settle call.intent (call.submission registration).2).1
  later : ∀ before first between call after registration accepted, calls = before ++ first :: (between ++ call :: after) →
    Opens host registrations (dispatched host registrations before) first registration → call.key = first.key →
    call.checked host registrations = .ok accepted →
    ∃ record : StorageDispatchRecord, record = (settle first.intent (first.submission registration).2).1 ∧
      (dispatched host registrations (before ++ first :: between)).records call.key = some record ∧
      record.requestDigest = first.request.requestDigest ∧
      ((first.submission registration).2 = .error .exception ∨ (∃ e, (first.submission registration).2 = .error (.adapter e)) →
        record.status = "dispatch_unknown") ∧
      dispatch host registrations (dispatched host registrations (before ++ first :: between)) call =
        (if first.request.requestDigest = call.request.requestDigest then .ok record else .error conflict,
          dispatched host registrations (before ++ first :: between))

/-- Over any calls with any clients, a key is submitted at most once; a later call that passes the checks gets the record that the
first one left, or a conflict; and what a check rejects changes nothing. -/
theorem at_most_once_submission (host : AuthorizationHost) (registrations : List StorageAdapterRegistration) (calls : List DispatchCall) :
    AtMostOnce host registrations calls := by
  refine ⟨fun key => ?_,fun before call after e hcalls herror => dispatch_rejected herror,fun key record h => dispatched_opened calls h,?_⟩
  · have honce : SubmittedOnce (dispatched host registrations calls) := dispatched_once calls
    refine (honce key).trans ?_
    split <;> decide
  · intro before first between call after registration accepted hcalls hopens hkey hchecked
    have hfiled : (dispatched host registrations (before ++ [first])).records first.key =
        some (settle first.intent (first.submission registration).2).1 := by
      rw [dispatched_append,dispatch_opens hopens]
      exact Function.update_self ..
    have hstays := dispatched_kept hfiled between
    rw [List.append_assoc,List.singleton_append,← hkey] at hstays
    have hdigest := settle_digest first.intent (first.submission registration).2
    refine ⟨_,rfl,hstays,hdigest,fun hraised => by rw [settle_unknown hraised],?_⟩
    rw [dispatch_known hchecked hstays,hdigest]
    rfl

end Host

/-! ### A later call that is rejected -/

/-- A host where every time is the same moment. -/
def momentHost : AuthorizationHost where
  sha256 := fun text => text
  fromisoformat := fun _ => some (true,100)
  repr := fun _ => ""
  isoformat := fun _ => ""

def enabledAdapter : StorageAdapterRegistration where
  adapterId := "adapter-1"
  allowedActions := ["file.write"]
  registrationRevision := 1
  status := .enabled
  approvedRevision := some 1
  readinessChecks := requiredReadiness

def signedRequest (reason : String) : StorageExecutionRequest :=
  let unsigned := { StorageSubmission.writeRequest [] with reason := reason }
  { unsigned with requestDigest := canonicalDigest momentHost unsigned }

/-- A call for the request at a time, with a client whose submissions fail. -/
def failingCall (reason : String) (now : ℤ) : DispatchCall where
  request := signedRequest reason
  claim :=
    { id := "claim-1"
      resourceId := "storage.root-1"
      claimType := .lease
      ownerThread := "project-1"
      ownerRole := .obrien
      intent := "write"
      requestedAction := "file.write"
      riskLevel := .low
      status := .active }
  approval :=
    { id := "approval-1"
      subjectId := "request-1"
      approvalLevel := .human
      requesterThread := "project-1"
      ownerDomain := .obrien
      reason := "write"
      status := .approved }
  now := now
  clientFactory := fun _ => .ok fun _ => .error .exception

theorem failingCall_valid (reason : String) (now : ℤ) : validateStorageExecutionRequest (failingCall reason now).request = .ok () := by
  rfl

theorem failingCall_signed (reason : String) (now : ℤ) :
    (failingCall reason now).request.requestDigest = canonicalDigest momentHost (failingCall reason now).request := by
  rfl

theorem failingCall_accepted (reason : String) (now : ℤ) :
    accepting momentHost [enabledAdapter] (failingCall reason now).request (failingCall reason now).now = .ok [enabledAdapter] := by
  have haccepts : StorageControl.StorageAdapterRegistration.accepts momentHost enabledAdapter "storage.root-1" "file.write" now = .ok true := by
    unfold StorageControl.StorageAdapterRegistration.accepts
    rw [if_pos (by decide +kernel),if_pos (by rfl)]
  exact accepting_singleton ⟨rfl,rfl⟩ haccepts

theorem failingCall_opens : Opens momentHost [enabledAdapter] {} (failingCall "export" 0) enabledAdapter := by
  refine ⟨?_,rfl⟩
  rw [checked_of_accepting (failingCall_valid _ _) (failingCall_signed _ _) (failingCall_accepted _ _)]
  rfl

theorem signedRequest_digest : (signedRequest "other").requestDigest ≠ (signedRequest "export").requestDigest := by
  intro h
  have hprinted : ∀ reason, Json.Printed id (.obj (StorageControl.digestMembers (signedRequest reason))) := fun reason =>
    StorageSubmission.printed_digestMembers ⟨rfl,rfl⟩ ⟨rfl,rfl⟩
  have hreason := StorageSubmission.members_of_canonicalDigest momentHost (fun _ _ h => h) (hprinted "other") (hprinted "export") h "reason"
  exact absurd hreason (by decide)

/-- Once the request has expired, another digest under its key is no conflict, and the unknown record is not returned. -/
theorem expired_call_rejected : ∃ d, d = dispatched momentHost [enabledAdapter] [failingCall "export" 0] ∧
    d.records (failingCall "export" 0).key = some { (failingCall "export" 0).intent with status := "dispatch_unknown" } ∧
    d.submitted = [signedRequest "export"] ∧ (failingCall "other" 100).key = (failingCall "export" 0).key ∧
    (signedRequest "other").requestDigest ≠ (signedRequest "export").requestDigest ∧
    ∀ reason, dispatch momentHost [enabledAdapter] d (failingCall reason 100) =
      (.error (.adapter ⟨"AUTHORIZATION_INVALID","storage request expired"⟩),d) := by
  refine ⟨_,rfl,?_,?_,rfl,signedRequest_digest,fun reason => dispatch_rejected ?_⟩
  · rw [dispatched_singleton,dispatch_opens failingCall_opens]
    change Function.update (fun _ => none) (failingCall "export" 0).key _ (failingCall "export" 0).key = _
    rw [Function.update_self]
    rfl
  · rw [dispatched_singleton,dispatch_opens failingCall_opens]
    rfl
  · exact checked_expired (t := 100) (failingCall_valid _ _) (failingCall_signed _ _) (failingCall_accepted _ _) rfl (le_refl _)

end StorageDispatch
end Overseer.Core
