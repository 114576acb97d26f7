import Overseer.Core.StorageSubmission
import Overseer.Core.Codec
import Overseer.Library.Canonical

/-! # Stored execution requests

`to_jsonable` and `dataclass_from_jsonable` of `serialization.py` for an execution request. Its
parameters and limits come back with their keys in order, which no digest notices.
-/
namespace Overseer.Core
open Overseer.Library StorageControl StorageSubmission Json

/-- The mappings say the same, the order of keys apart. -/
def SameMapping (p q : Payload) : Prop := (Json.obj p.entries).sortKeys = (Json.obj q.entries).sortKeys

/-- The requests are the same, the order of keys in their parameters and limits apart. -/
def SameRequest (r r' : StorageExecutionRequest) : Prop :=
  SameMapping r.parameters r'.parameters ∧ SameMapping r.limits r'.limits ∧
    { r with parameters := .empty, limits := .empty } = { r' with parameters := .empty, limits := .empty }

namespace StorageExecutionRequest

def members (r : StorageExecutionRequest) : List (String × Json) :=
  [("request_id",toJsonable r.requestId),("adapter_id",toJsonable r.adapterId),("adapter_revision",toJsonable r.adapterRevision),
    ("project_id",toJsonable r.projectId),("resource_id",toJsonable r.resourceId),("root_id",toJsonable r.rootId),
    ("action",toJsonable r.action),("parameters",.obj r.parameters.entries),("policy_revision",toJsonable r.policyRevision),
    ("claim_id",toJsonable r.claimId),("approval_id",toJsonable r.approvalId),("authorization_ref",toJsonable r.authorizationRef),
    ("idempotency_key",toJsonable r.idempotencyKey),("requested_by",toJsonable r.requestedBy),("reason",toJsonable r.reason),
    ("acceptance_criteria",toJsonable r.acceptanceCriteria),("limits",.obj r.limits.entries),("expires_at",toJsonable r.expiresAt),
    ("contract_version",toJsonable r.contractVersion),("request_digest",toJsonable r.requestDigest),("created_at",toJsonable r.createdAt)]

/-- A mapping among the fields. -/
def readMapping (v : Json) (name : String) : Option Payload := (v.member? name).bind Payload.ofJson?

def ofJsonable (v : Json) : Option StorageExecutionRequest := do
  return {
    requestId := ← readField v "request_id" none
    adapterId := ← readField v "adapter_id" none
    adapterRevision := ← readField v "adapter_revision" none
    projectId := ← readField v "project_id" none
    resourceId := ← readField v "resource_id" none
    rootId := ← readField v "root_id" none
    action := ← readField v "action" none
    parameters := ← readMapping v "parameters"
    policyRevision := ← readField v "policy_revision" none
    claimId := ← readField v "claim_id" none
    approvalId := ← readField v "approval_id" none
    authorizationRef := ← readField v "authorization_ref" none
    idempotencyKey := ← readField v "idempotency_key" none
    requestedBy := ← readField v "requested_by" none
    reason := ← readField v "reason" none
    acceptanceCriteria := ← readField v "acceptance_criteria" none
    limits := ← readMapping v "limits"
    expiresAt := ← readField v "expires_at" none
    contractVersion := ← readField v "contract_version" (some "1.0")
    requestDigest := ← readField v "request_digest" (some "")
    createdAt := ← readField v "created_at" (some none) }

/-- The mapping with its keys in order. -/
def inOrder (p : Payload) : Payload := .ofList (sortedMembers p.entries)

/-- The request as it is read back. -/
def restored (r : StorageExecutionRequest) : StorageExecutionRequest :=
  { r with
    parameters := inOrder r.parameters
    limits := inOrder r.limits }

theorem entries_inOrder (p : Payload) : (inOrder p).entries = sortedMembers p.entries :=
  Payload.entries_ofList ((sortedMembers_keys_perm p.entries).nodup_iff.mpr p.nodup)

theorem obj_inOrder (p : Payload) : Json.obj (inOrder p).entries = (Json.obj p.entries).sortKeys := by
  rw [entries_inOrder,sortKeys_obj]

theorem sameMapping_inOrder (p : Payload) : SameMapping (inOrder p) p := by
  unfold SameMapping
  rw [obj_inOrder,sortKeys_sortKeys]

theorem members_nodup (r : StorageExecutionRequest) : (r.members.map Prod.fst).Nodup := by
  change ["request_id","adapter_id","adapter_revision","project_id","resource_id","root_id","action","parameters","policy_revision",
    "claim_id","approval_id","authorization_ref","idempotency_key","requested_by","reason","acceptance_criteria","limits","expires_at",
    "contract_version","request_digest","created_at"].Nodup
  decide +kernel

theorem readMapping_members (r : StorageExecutionRequest) {name : String} {p : Payload} (h : Dict.find name r.members = some (.obj p.entries)) :
    readMapping (Json.obj r.members).sortKeys name = some (inOrder p) := by
  unfold readMapping
  rw [member?_sortKeys r.members_nodup,h]
  rfl

theorem ofJsonable_members (r : StorageExecutionRequest) : ofJsonable (Json.obj r.members).sortKeys = some r.restored := by
  have hread : ∀ {α : Type} [Stored α] {name : String} (a : α) (default_ : Option α), Dict.find name r.members = some (toJsonable a) →
      readField (Json.obj r.members).sortKeys name default_ = some a := fun a default_ h => readField_sortKeys r.members_nodup h default_
  unfold ofJsonable
  rw [hread r.requestId _ rfl,hread r.adapterId _ rfl,hread r.adapterRevision _ rfl,hread r.projectId _ rfl,hread r.resourceId _ rfl,
    hread r.rootId _ rfl,hread r.action _ rfl,readMapping_members r (p := r.parameters) rfl,hread r.policyRevision _ rfl,
    hread r.claimId _ rfl,hread r.approvalId _ rfl,hread r.authorizationRef _ rfl,hread r.idempotencyKey _ rfl,
    hread r.requestedBy _ rfl,hread r.reason _ rfl,hread r.acceptanceCriteria _ rfl,readMapping_members r (p := r.limits) rfl,
    hread r.expiresAt _ rfl,hread r.contractVersion _ rfl,hread r.requestDigest _ rfl,hread r.createdAt _ rfl]
  rfl

theorem canonicalDigest_restored (host : AuthorizationHost) (r : StorageExecutionRequest) :
    canonicalDigest host r.restored = canonicalDigest host r := by
  have hsorted : sortMembers (digestMembers r.restored) = sortMembers (digestMembers r) := by
    unfold digestMembers restored
    simp only [sortMembers,obj_inOrder,sortKeys_sortKeys]
  rw [canonicalDigest_eq,canonicalDigest_eq,fullDigest,fullDigest,sortKeys_obj,sortKeys_obj,sortedMembers,sortedMembers,hsorted]

theorem printed_members {floatText : String → String} {r : StorageExecutionRequest} (hparameters : Printed floatText (.obj r.parameters.entries))
    (hlimits : Printed floatText (.obj r.limits.entries)) : Printed floatText (.obj r.members) := by
  have hcriteria : Printed floatText (toJsonable r.acceptanceCriteria) := printed_arr.mpr fun v hv => by
    obtain ⟨criterion,-,rfl⟩ := List.mem_map.mp hv
    exact ⟨rfl,rfl⟩
  have hcreated : Printed floatText (toJsonable r.createdAt) := by cases r.createdAt <;> exact ⟨rfl,rfl⟩
  refine printed_obj.mpr ⟨r.members_nodup,fun e he => ?_⟩
  simp only [members,List.mem_cons,List.not_mem_nil,or_false] at he
  rcases he with rfl | rfl | rfl | rfl | rfl | rfl | rfl | rfl | rfl | rfl | rfl | rfl | rfl | rfl | rfl | rfl | rfl | rfl | rfl | rfl | rfl
  all_goals first | exact ⟨rfl,rfl⟩ | exact hparameters | exact hlimits | exact hcriteria | exact hcreated

def dump (r : StorageExecutionRequest) : String := dumps true (sortKeys (.obj r.members))

/-- `_load_dataclass`. -/
def load (floatText : String → String) (text : String) : Option StorageExecutionRequest := (loads floatText text).bind ofJsonable

theorem load_dump {floatText : String → String} {r : StorageExecutionRequest} (hparameters : Printed floatText (.obj r.parameters.entries))
    (hlimits : Printed floatText (.obj r.limits.entries)) : load floatText r.dump = some r.restored := by
  unfold load dump
  rw [loads_dumps true (printed_sortKeys _ (printed_members hparameters hlimits)),Option.bind_some,ofJsonable_members]

theorem sameRequest_restored (r : StorageExecutionRequest) : SameRequest r.restored r :=
  ⟨sameMapping_inOrder r.parameters,sameMapping_inOrder r.limits,rfl⟩

end StorageExecutionRequest
end Overseer.Core
