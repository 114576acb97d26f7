import Overseer.Core.StorageAuthorizations
import Overseer.Library.JsonRoundTrip

/-! # Submitting a storage request

`MCPBoundedStorageAdapterClient.submit` of `storage_adapter.py`: the payload of the tool call, and
the digest that the request was authorized under. Both are the fields of the request and its
parameters; they differ in which of the two a name belongs to when it is in both.
-/
namespace Overseer.Core
open Overseer.Library StorageControl Json

structure StorageExecutionReceipt where
  requestId : String
  operationId : String
  state : String
  requestDigest : String
  adapterRevision : ℤ
  deriving DecidableEq

/-- A tool and its arguments. -/
structure ToolCall where
  tool : String
  payload : Payload

namespace StorageSubmission

def toolByAction : String → Option String
  | "directory.create" => some "underdark_directory_create"
  | "file.write" => some "underdark_file_write"
  | "path.copy" => some "underdark_path_copy"
  | "path.move" => some "underdark_path_move"
  | "path.delete" => some "underdark_path_delete"
  | "backup.create" => some "underdark_backup_create"
  | "backup.verify_restore" => some "underdark_backup_verify_restore"
  | _ => none

/-- The fields of the request that TheUnderdark receives. -/
def requestMembers (r : StorageExecutionRequest) : List (String × Json) :=
  [("project_id",.str r.projectId),("root_id",.str r.rootId),("request_id",.str r.requestId),
    ("idempotency_key",.str r.idempotencyKey),("authorization_ref",.str r.authorizationRef),
    ("policy_revision",.str r.policyRevision),("reason",.str r.reason)]

/-- The call that is made: a field takes the place of a parameter of its name. -/
def toolCall (r : StorageExecutionRequest) : Except AdapterError ToolCall := do
  validateStorageExecutionRequest r
  match toolByAction r.action with
  | none => .error ⟨"REQUEST_REJECTED","unsupported storage action"⟩
  | some tool => .ok ⟨tool,r.parameters.merge (requestMembers r)⟩

section Host
variable (host : AuthorizationHost)

def validateEnvelope (response : Payload) (r : StorageExecutionRequest) : Except AdapterError Unit :=
  if response.get "contract_version" = .str "1.0" ∧ response.get "request_id" = .str r.requestId then .ok ()
  else .error ⟨"CONTRACT_MISMATCH","adapter response identity or contract mismatch"⟩

/-- `str(value or other)`. -/
def textOr (value : Json) (other : String) : String := if value.truthy then str host.toStorageHost value else other

def states : List String := ["accepted","authorized","executing","succeeded","failed","indeterminate","cancelled"]

/-- What the response says of the operation. -/
def receipt (adapterRevision : ℤ) (r : StorageExecutionRequest) (response : Payload) : Except AdapterError StorageExecutionReceipt := do
  validateEnvelope response r
  if response.get "ok" = .bool true then
    let state := textOr host ((Payload.ofList (members (response.get "result"))).get "state") "accepted"
    match response.get "operation_id" with
    | .str operationId =>
      if state ∈ states then .ok ⟨r.requestId,operationId,state,r.requestDigest,adapterRevision⟩
      else .error ⟨"RESULT_INVALID","adapter receipt is malformed"⟩
    | _ => .error ⟨"RESULT_INVALID","adapter receipt is malformed"⟩
  else
    .error ⟨textOr host ((Payload.ofList (members (response.get "error"))).get "code") "REQUEST_REJECTED",
      "storage adapter rejected request"⟩

/-- The calls that a submission makes, and how it ends. -/
def submit (callTool : ToolCall → Except AdapterError Payload) (adapterRevision : ℤ) (r : StorageExecutionRequest) :
    List ToolCall × Except AdapterError StorageExecutionReceipt :=
  match toolCall r with
  | .error e => ([],.error e)
  | .ok call => ([call],do
    let response ← callTool call
    receipt host adapterRevision r response)

/-- The digest of an action and the payload of its call. -/
def payloadDigest (action : String) (payload : Payload) : String :=
  fullDigest host (.obj [("action",.str action),("request",.obj payload.entries)])

/-! ### What the two mappings hold -/

/-- The mapping that is digested: a parameter takes the place of a field of its name. -/
def authorizedMembers (r : StorageExecutionRequest) : Payload := (Payload.ofList (requestMembers r)).merge r.parameters.entries

theorem canonicalAdapterRequestDigest_eq (r : StorageExecutionRequest) :
    canonicalAdapterRequestDigest host r = payloadDigest host r.action (authorizedMembers r) := rfl

theorem requestMembers_nodup (r : StorageExecutionRequest) : ((requestMembers r).map Prod.fst).Nodup := by
  simp [requestMembers]

theorem payload_of_toolCall {r : StorageExecutionRequest} {call : ToolCall} (h : toolCall r = .ok call) :
    call.payload = r.parameters.merge (requestMembers r) := by
  unfold toolCall at h
  cases hvalid : validateStorageExecutionRequest r with
  | error e =>
    rw [hvalid] at h
    cases h
  | ok u =>
    rw [hvalid] at h
    cases htool : toolByAction r.action with
    | none =>
      rw [htool] at h
      cases h
    | some tool =>
      rw [htool] at h
      cases h
      rfl

theorem payload_of_submit {callTool : ToolCall → Except AdapterError Payload} {adapterRevision : ℤ} {r : StorageExecutionRequest}
    {call : ToolCall} (h : call ∈ (submit host callTool adapterRevision r).1) :
    call.payload = r.parameters.merge (requestMembers r) := by
  unfold submit at h
  cases hcall : toolCall r with
  | error e =>
    rw [hcall] at h
    cases h
  | ok sent =>
    rw [hcall] at h
    rw [List.mem_singleton.mp h]
    exact payload_of_toolCall hcall

theorem sent_field {r : StorageExecutionRequest} {k : String} {v : Json} (h : (k,v) ∈ requestMembers r) :
    (r.parameters.merge (requestMembers r)).get? k = some v := Dict.get?_merge_of_mem _ (requestMembers_nodup r) h

theorem sent_parameter {r : StorageExecutionRequest} {k : String} (h : k ∉ (requestMembers r).map Prod.fst) :
    (r.parameters.merge (requestMembers r)).get? k = r.parameters.get? k := Dict.get?_merge_of_notMem _ _ h

theorem authorized_parameter {r : StorageExecutionRequest} {k : String} {v : Json} (h : r.parameters.get? k = some v) :
    (authorizedMembers r).get? k = some v :=
  Dict.get?_merge_of_mem _ r.parameters.nodup ((Dict.mem_entries_iff _ _ _).mpr h)

theorem authorized_field {r : StorageExecutionRequest} {k : String} (h : r.parameters.get? k = none) :
    (authorizedMembers r).get? k = (Payload.ofList (requestMembers r)).get? k := by
  refine Dict.get?_merge_of_notMem _ _ fun hmem => ?_
  obtain ⟨v,hv⟩ := (Dict.mem_keys_iff r.parameters k).mp hmem
  rw [h] at hv
  cases hv

/-- A parameter that is named like a field of the request has the value of the field. -/
def AgreesWithFields (r : StorageExecutionRequest) : Prop :=
  ∀ e ∈ requestMembers r, ∀ w, r.parameters.get? e.1 = some w → w = e.2

theorem authorized_eq_sent {r : StorageExecutionRequest} (h : AgreesWithFields r) (k : String) :
    (authorizedMembers r).get? k = (r.parameters.merge (requestMembers r)).get? k := by
  by_cases hfield : k ∈ (requestMembers r).map Prod.fst
  · obtain ⟨e,he,rfl⟩ := List.mem_map.mp hfield
    rw [sent_field he]
    cases hparameter : r.parameters.get? e.1 with
    | none =>
      rw [authorized_field hparameter]
      exact Payload.get?_ofList (requestMembers_nodup r) he
    | some w => rw [authorized_parameter hparameter,h e he w hparameter]
  · rw [sent_parameter hfield]
    cases hparameter : r.parameters.get? k with
    | none =>
      rw [authorized_field hparameter]
      exact Dict.get?_merge_of_notMem _ _ hfield
    | some w => exact authorized_parameter hparameter

/-! ### Digests -/

theorem payloadDigest_congr (action : String) {p q : Payload} (h : ∀ k, p.get? k = q.get? k) :
    payloadDigest host action p = payloadDigest host action q := by
  have hsorted : sortKeys (.obj p.entries) = sortKeys (.obj q.entries) := by
    rw [sortKeys_obj,sortKeys_obj,sortedMembers_of_perm (Dict.entries_perm h) p.nodup]
  have hmembers : ∀ s : Payload, sortMembers [("action",.str action),("request",.obj s.entries)] =
      [("action",.str action),("request",sortKeys (.obj s.entries))] := fun s => rfl
  rw [payloadDigest,payloadDigest,fullDigest,fullDigest,sortKeys_obj,sortKeys_obj,sortedMembers,sortedMembers,hmembers,hmembers,hsorted]

/-- Payloads of one digest hold the same members, in what their values hold. -/
theorem members_of_payloadDigest {floatText : String → String} (hinj : Function.Injective host.sha256) {action : String} {p q : Payload}
    (hp : Printed floatText (.obj p.entries)) (hq : Printed floatText (.obj q.entries))
    (h : payloadDigest host action p = payloadDigest host action q) (k : String) :
    (p.get? k).map sortKeys = (q.get? k).map sortKeys := by
  have hprinted : ∀ {s : Payload}, Printed floatText (.obj s.entries) →
      Printed floatText (.obj [("action",.str action),("request",.obj s.entries)]) := by
    intro s hs
    refine printed_obj.mpr ⟨by simp,?_⟩
    intro e he
    rcases List.mem_pair.mp he with rfl | rfl
    · exact ⟨rfl,rfl⟩
    · exact hs
  rw [payloadDigest,payloadDigest,fullDigest,fullDigest,String.append_right_inj,hinj.eq_iff] at h
  have hsorted := dumps_injective true (printed_sortKeys _ (hprinted hp)) (printed_sortKeys _ (hprinted hq)) h
  have hrequest := congrArg (member? · "request") hsorted
  have hkeys : ∀ s : Payload, (([("action",.str action),("request",.obj s.entries)] : List (String × Json)).map Prod.fst).Nodup :=
    fun s => by simp
  simp only [member?_sortKeys (hkeys _)] at hrequest
  have hobjects : sortKeys (.obj p.entries) = sortKeys (.obj q.entries) := Option.some.inj hrequest
  have hmember : member? (sortKeys (.obj p.entries)) k = member? (sortKeys (.obj q.entries)) k := by rw [hobjects]
  rw [member?_sortKeys p.nodup,member?_sortKeys q.nodup] at hmember
  exact hmember

/-! ### The digest of a request -/

theorem canonicalDigest_eq (r : StorageExecutionRequest) : canonicalDigest host r = fullDigest host (.obj (digestMembers r)) := rfl

theorem digestMembers_nodup (r : StorageExecutionRequest) : ((digestMembers r).map Prod.fst).Nodup := by
  change ["request_id","adapter_id","adapter_revision","project_id","resource_id","root_id","action","parameters","policy_revision",
    "claim_id","approval_id","authorization_ref","idempotency_key","requested_by","reason","acceptance_criteria","limits","expires_at",
    "contract_version","created_at"].Nodup
  decide +kernel

theorem printed_digestMembers {floatText : String → String} {r : StorageExecutionRequest}
    (hparameters : Printed floatText (.obj r.parameters.entries)) (hlimits : Printed floatText (.obj r.limits.entries)) :
    Printed floatText (.obj (digestMembers r)) := by
  have hcriteria : Printed floatText (texts r.acceptanceCriteria) := printed_arr.mpr fun v hv => by
    obtain ⟨criterion,-,rfl⟩ := List.mem_map.mp hv
    exact ⟨rfl,rfl⟩
  have hcreated : Printed floatText (optional r.createdAt) := by cases r.createdAt <;> exact ⟨rfl,rfl⟩
  refine printed_obj.mpr ⟨digestMembers_nodup r,fun e he => ?_⟩
  simp only [digestMembers,List.mem_cons,List.not_mem_nil,or_false] at he
  rcases he with rfl | rfl | rfl | rfl | rfl | rfl | rfl | rfl | rfl | rfl | rfl | rfl | rfl | rfl | rfl | rfl | rfl | rfl | rfl | rfl
  all_goals first | exact ⟨rfl,rfl⟩ | exact hparameters | exact hlimits | exact hcriteria | exact hcreated

theorem members_of_canonicalDigest {floatText : String → String} (hinj : Function.Injective host.sha256) {r r' : StorageExecutionRequest}
    (hr : Printed floatText (.obj (digestMembers r))) (hr' : Printed floatText (.obj (digestMembers r')))
    (h : canonicalDigest host r = canonicalDigest host r') (k : String) :
    (member? (.obj (digestMembers r)) k).map sortKeys = (member? (.obj (digestMembers r')) k).map sortKeys := by
  rw [canonicalDigest_eq,canonicalDigest_eq,fullDigest,fullDigest,String.append_right_inj,hinj.eq_iff] at h
  have hsorted := dumps_injective true (printed_sortKeys _ hr) (printed_sortKeys _ hr') h
  have hmember := congrArg (member? · k) hsorted
  simp only [member?_sortKeys (digestMembers_nodup _)] at hmember
  exact hmember

theorem printed_merge {floatText : String → String} {p q : Payload} (hp : Printed floatText (.obj p.entries))
    (hq : Printed floatText (.obj q.entries)) : Printed floatText (.obj (p.merge q.entries).entries) := by
  refine printed_obj.mpr ⟨(p.merge q.entries).nodup,fun e he => ?_⟩
  have hget := (Dict.mem_entries_iff _ _ _).mp he
  cases hmember : q.get? e.1 with
  | some w =>
    rw [Dict.get?_merge_of_mem _ q.nodup ((Dict.mem_entries_iff _ _ _).mpr hmember)] at hget
    rw [← Option.some.inj hget]
    exact (printed_obj.mp hq).2 _ ((Dict.mem_entries_iff _ _ _).mpr hmember)
  | none =>
    have hnone : e.1 ∉ q.entries.map Prod.fst := fun hmem => by
      obtain ⟨v,hv⟩ := (Dict.mem_keys_iff q e.1).mp hmem
      rw [hmember] at hv
      cases hv
    rw [Dict.get?_merge_of_notMem _ _ hnone] at hget
    exact (printed_obj.mp hp).2 _ ((Dict.mem_entries_iff _ _ _).mpr hget)

theorem printed_requestMembers {floatText : String → String} (r : StorageExecutionRequest) :
    Printed floatText (.obj (Payload.ofList (requestMembers r)).entries) := by
  rw [Payload.entries_ofList (requestMembers_nodup r)]
  refine printed_obj.mpr ⟨requestMembers_nodup r,fun e he => ?_⟩
  simp only [requestMembers,List.mem_cons,List.not_mem_nil,or_false] at he
  rcases he with rfl | rfl | rfl | rfl | rfl | rfl | rfl <;> exact ⟨rfl,rfl⟩

/-- The digest a request is authorized under is that of what is sent for it just when no parameter is named like a
field of the request with another value. -/
theorem authorized_digest_sent_iff (hinj : Function.Injective host.sha256) {floatText : String → String} {r : StorageExecutionRequest}
    (hparameters : Printed floatText (.obj r.parameters.entries)) {callTool : ToolCall → Except AdapterError Payload}
    {adapterRevision : ℤ} {call : ToolCall} (hcall : call ∈ (submit host callTool adapterRevision r).1) :
    canonicalAdapterRequestDigest host r = payloadDigest host r.action call.payload ↔ AgreesWithFields r := by
  rw [canonicalAdapterRequestDigest_eq,payload_of_submit host hcall]
  constructor
  · intro h e he w hw
    have hauthorized : Printed floatText (.obj (authorizedMembers r).entries) := printed_merge (printed_requestMembers r) hparameters
    have hsent : Printed floatText (.obj (r.parameters.merge (requestMembers r)).entries) := by
      have hmerged := printed_merge hparameters (printed_requestMembers r)
      rwa [Payload.entries_ofList (requestMembers_nodup r)] at hmerged
    have hmember := members_of_payloadDigest host hinj hauthorized hsent h e.1
    rw [authorized_parameter hw,sent_field he] at hmember
    have htext : ∃ s, e.2 = .str s := by
      simp only [requestMembers,List.mem_cons,List.not_mem_nil,or_false] at he
      rcases he with rfl | rfl | rfl | rfl | rfl | rfl | rfl <;> exact ⟨_,rfl⟩
    obtain ⟨s,hs⟩ := htext
    rw [hs] at hmember ⊢
    cases w <;> first | exact Option.some.inj hmember | cases hmember
  · exact fun h => payloadDigest_congr host r.action (authorized_eq_sent h)

end Host

/-! ### A parameter in the place of a field -/

/-- A host whose digest of a text is the text. -/
def plainHost : AuthorizationHost where
  sha256 := fun text => text
  fromisoformat := fun _ => none
  repr := fun _ => ""
  isoformat := fun _ => ""

/-- A request to write a file, with the parameters that are given. -/
def writeRequest (parameters : List (String × Json)) : StorageExecutionRequest where
  requestId := "request-1"
  adapterId := "adapter-1"
  adapterRevision := 1
  projectId := "project-1"
  resourceId := "storage.root-1"
  rootId := "root-1"
  action := "file.write"
  parameters := .ofList parameters
  policyRevision := "policy-1"
  claimId := "claim-1"
  approvalId := "approval-1"
  authorizationRef := "authorization-1"
  idempotencyKey := "key-1"
  requestedBy := "project-1"
  reason := "nightly export"
  acceptanceCriteria := ["written"]
  limits := .ofList [("max_bytes",.int 8)]
  expiresAt := "2026-01-01T00:00:00+00:00"

def noTool (_ : ToolCall) : Except AdapterError Payload := .error ⟨"TIMEOUT_UNKNOWN",""⟩

def repeatedReason : StorageExecutionRequest := writeRequest [("content",.str "x"),("reason",.str "nightly export")]

/-- The digests of a request agree when a parameter repeats one of its fields. -/
theorem authorized_digest_sent_repeated : ∃ call ∈ (submit plainHost noTool 1 repeatedReason).1,
    canonicalAdapterRequestDigest plainHost repeatedReason = payloadDigest plainHost "file.write" call.payload := by
  have hinj : Function.Injective plainHost.sha256 := fun _ _ h => h
  have hprinted : Printed id (.obj repeatedReason.parameters.entries) := by unfold Printed; decide
  have hsent : (⟨"underdark_file_write",repeatedReason.parameters.merge (requestMembers repeatedReason)⟩ : ToolCall) ∈
      (submit plainHost noTool 1 repeatedReason).1 := List.mem_singleton_self _
  refine ⟨_,hsent,(authorized_digest_sent_iff plainHost hinj hprinted hsent).mpr ?_⟩
  intro e he w hw
  simp only [requestMembers,List.mem_cons,List.not_mem_nil,or_false] at he
  rcases he with rfl | rfl | rfl | rfl | rfl | rfl | rfl
  all_goals first | cases hw; rfl | cases hw

/-- With a parameter `reason` of its own, what is authorized is not what is sent. -/
theorem parameter_replaces_reason :
    ¬ ∀ (r : StorageExecutionRequest) (call : ToolCall), call ∈ (submit plainHost noTool 1 r).1 →
      canonicalAdapterRequestDigest plainHost r = payloadDigest plainHost r.action call.payload := by
  intro h
  let r := writeRequest [("content",.str "x"),("reason",.str "x")]
  have hsent : (⟨"underdark_file_write",r.parameters.merge (requestMembers r)⟩ : ToolCall) ∈ (submit plainHost noTool 1 r).1 :=
    List.mem_singleton_self _
  exact absurd (h r _ hsent) (by decide +kernel)

end StorageSubmission
end Overseer.Core
