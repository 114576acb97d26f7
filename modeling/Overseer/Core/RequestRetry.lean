import Overseer.Core.RequestCodec
import Overseer.Core.StorageLifecycle

/-! # Repeating an execution request

`create_execution_request` of `storage_control.py` is meant to be repeated under its idempotency
key. The moment of the call is among the fields that are digested, and the digest is what a
repetition is recognised by.
-/
namespace Overseer.Core
open Overseer.Library StorageControl StorageSubmission Json
namespace StorageRetry

section Host
variable {host : AuthorizationHost} {floatText : String → String} {s s' s₂ : AuthorizationStore} {call other : RequestCall}
  {request request' : StorageExecutionRequest} {now now' expires expires' : ℤ}

/-! ### What a creation asks -/

/-- The claim and the adapter that the request is created under. -/
def Admits (host : AuthorizationHost) (s : AuthorizationStore) (request : StorageExecutionRequest) (now expires : ℤ) : Prop :=
  ∃ claim registration, s.control.coord.claims.get? request.claimId = some claim ∧
    s.registrations.get? request.adapterId = some registration ∧ after host claim.expiresAt expires = .ok true ∧
    claim.resourceId = request.resourceId ∧ claim.ownerThread = request.requestedBy ∧ claim.requestedAction = request.action ∧
    isHeld claim ∧ registration.registrationRevision = request.adapterRevision ∧
    StorageControl.StorageAdapterRegistration.accepts host registration request.resourceId request.action now = .ok true

/-- The row that stands for the idempotency key of a request. -/
def rowOf (s : AuthorizationStore) (request : StorageExecutionRequest) : Option StorageExecutionRequest :=
  s.executionRequests.values.find? fun o =>
    o.adapterId = request.adapterId ∧ o.projectId = request.projectId ∧ o.idempotencyKey = request.idempotencyKey

theorem liftChecked_bind {α β : Type} (r : Except StorageError α) (f : α → AuthorizationTx β) (s : AuthorizationStore) :
    (liftChecked r >>= f) s = r >>= fun a => f a s := by
  cases r <;> rfl

theorem ok_bind {E α β : Type} (a : α) (f : α → Except E β) : (Except.ok a >>= f) = f a := rfl

theorem read_bind {β : Type} (f : AuthorizationStore → AuthorizationTx β) (s : AuthorizationStore) : ((Tx.read id) >>= f) s = f s s := rfl

theorem save_iff {request : StorageExecutionRequest} {s s' : AuthorizationStore} {u : Unit} :
    saveStorageExecutionRequest request s = .ok (u,s') ↔
      (∃ prior, rowOf s request = some prior ∧ prior.requestDigest = request.requestDigest ∧ s' = s) ∨
        rowOf s request = none ∧ s.executionRequests.get? request.requestId = none ∧
          s' = { s with executionRequests := s.executionRequests.set request.requestId request } := by
  unfold saveStorageExecutionRequest
  rw [read_bind]
  cases hrow : rowOf s request with
  | some prior =>
    unfold rowOf at hrow
    rw [hrow]
    dsimp only
    constructor
    · intro h
      obtain ⟨_,hcheck,h⟩ := except_map_ok h
      cases h
      exact .inl ⟨prior,rfl,check_ok hcheck,rfl⟩
    · rintro (⟨prior',hprior,hdigest,rfl⟩ | ⟨hnone,-⟩)
      · cases hprior
        unfold liftChecked check
        rw [if_pos hdigest]
        rfl
      · cases hnone
  | none =>
    unfold rowOf at hrow
    rw [hrow]
    dsimp only
    rw [liftChecked_bind]
    constructor
    · intro h
      obtain ⟨_,hcheck,h⟩ := except_bind_ok h
      cases h
      exact .inr ⟨rfl,check_ok hcheck,rfl⟩
    · rintro (⟨prior',hprior,-⟩ | ⟨-,hfree,rfl⟩)
      · cases hprior
      · unfold check
        rw [if_pos hfree]
        rfl

theorem create_iff {u : Unit} : createExecutionRequest host call s = .ok (u,s') ↔ ∃ request now expires,
    call.checked host = .ok (request,now,expires) ∧ Admits host s request now expires ∧ saveStorageExecutionRequest request s = .ok (u,s') := by
  unfold createExecutionRequest
  rw [liftChecked_bind]
  constructor
  · intro h
    obtain ⟨⟨request,now,expires⟩,hchecked,h⟩ := except_bind_ok h
    rw [read_bind,liftChecked_bind] at h
    obtain ⟨claim,hclaim,h⟩ := except_bind_ok h
    rw [liftChecked_bind] at h
    obtain ⟨registration,hregistration,h⟩ := except_bind_ok h
    rw [liftChecked_bind] at h
    obtain ⟨covered,hcovered,h⟩ := except_bind_ok h
    rw [liftChecked_bind] at h
    obtain ⟨_,hmatches,h⟩ := except_bind_ok h
    rw [liftChecked_bind] at h
    obtain ⟨accepts,haccepts,h⟩ := except_bind_ok h
    rw [liftChecked_bind] at h
    obtain ⟨_,henabled,hsave⟩ := except_bind_ok h
    obtain ⟨hresource,howner,haction,hheld,rfl⟩ := check_ok hmatches
    obtain ⟨hrevision,rfl⟩ := check_ok henabled
    exact ⟨request,now,expires,hchecked,⟨claim,registration,found_ok hclaim,found_ok hregistration,hcovered,hresource,howner,haction,hheld,
      hrevision,haccepts⟩,hsave⟩
  · rintro ⟨request,now,expires,hchecked,⟨claim,registration,hclaim,hregistration,hcovered,hresource,howner,haction,hheld,hrevision,haccepts⟩,hsave⟩
    have hpass : ∀ {c : Prop} [Decidable c] {e : StorageError}, c → check c e = .ok () := fun hc => if_pos hc
    rw [hchecked,ok_bind,read_bind,liftChecked_bind,hclaim,found,ok_bind,liftChecked_bind,hregistration,found,ok_bind,liftChecked_bind,
      hcovered,ok_bind,liftChecked_bind,hpass ⟨hresource,howner,haction,hheld,rfl⟩,ok_bind,liftChecked_bind,haccepts,ok_bind,
      liftChecked_bind,hpass ⟨hrevision,rfl⟩,ok_bind]
    exact hsave

/-! ### What a checked call is -/

/-- The moment a call is made at. -/
def moment (host : AuthorizationHost) (call : RequestCall) : Except StorageError ℤ :=
  time host.toStorageHost (orElse call.createdAt call.clock)

/-- The moment a payload expires at. -/
def expiry (host : AuthorizationHost) (p : Payload) : Except StorageError ℤ :=
  time host.toStorageHost (str host.toStorageHost (p.get "expires_at"))

/-- The fields of a payload that passes the checks. -/
structure Fielded (p : Payload) : Prop where
  keys : p.hasKeys requestFields = true
  identifiers : ∀ name ∈ requestIdentifiers, ∃ text, p.str? name = some text
  revision : ∃ n, p.get "adapter_revision" = .int n
  reason : ∃ text, p.str? "reason" = some text
  parameters : ∃ ms, p.get "parameters" = .obj ms
  limits : ∃ ms, p.get "limits" = .obj ms
  criteria : ∃ ts : List String, p.get "acceptance_criteria" = texts ts

theorem texts_of_isCriterion {vs : List Json} (h : vs.all isCriterion = true) : ∃ ts : List String, Json.arr vs = texts ts := by
  induction vs with
  | nil => exact ⟨[],rfl⟩
  | cons v vs ih =>
    rw [List.all_cons,Bool.and_eq_true] at h
    obtain ⟨ts,hts⟩ := ih h.2
    cases v with
    | str t =>
      have hvs : vs = ts.map .str := Json.arr.inj hts
      exact ⟨t :: ts,by rw [texts,List.map_cons,hvs]⟩
    | _ => cases h.1

theorem str?_of_any {p : Payload} {name : String} {f : String → Bool} (h : (p.str? name).any f = true) :
    ∃ text, p.str? name = some text := by
  cases htext : p.str? name with
  | none =>
    rw [htext] at h
    cases h
  | some text => exact ⟨text,rfl⟩

theorem checked_ok (h : call.checked host = .ok (request,now,expires)) : Fielded call.payload ∧ moment host call = .ok now ∧
    expiry host call.payload = .ok expires ∧ now < expires ∧ request = call.request host now := by
  unfold RequestCall.checked at h
  obtain ⟨_,hkeys,h⟩ := except_bind_ok h
  obtain ⟨_,hidentifiers,h⟩ := except_bind_ok h
  obtain ⟨_,haction,h⟩ := except_bind_ok h
  obtain ⟨_,howner,h⟩ := except_bind_ok h
  obtain ⟨_,hmappings,h⟩ := except_bind_ok h
  obtain ⟨_,hcriteria,h⟩ := except_bind_ok h
  obtain ⟨now',hnow,h⟩ := except_bind_ok h
  obtain ⟨expires',hexpires,h⟩ := except_bind_ok h
  obtain ⟨_,hlater,h⟩ := except_bind_ok h
  obtain ⟨_,-,h⟩ := except_bind_ok h
  obtain ⟨_,-,h⟩ := except_bind_ok h
  obtain ⟨hrevision,hreason,hparameters,hlimits⟩ := And.intro (check_ok haction).2
    (And.intro (check_ok howner).2 (And.intro (check_ok hmappings).1 (check_ok hmappings).2.1))
  have hfielded : Fielded call.payload := by
    refine ⟨check_ok hkeys,fun name hname => str?_of_any (List.all_eq_true.mp (check_ok hidentifiers) name hname),?_,
      str?_of_any hreason,?_,?_,?_⟩
    · cases hvalue : call.payload.get "adapter_revision" with
      | int n => exact ⟨n,rfl⟩
      | _ =>
        rw [hvalue] at hrevision
        cases hrevision
    · cases hvalue : call.payload.get "parameters" with
      | obj ms => exact ⟨ms,rfl⟩
      | _ =>
        rw [hvalue] at hparameters
        cases hparameters
    · cases hvalue : call.payload.get "limits" with
      | obj ms => exact ⟨ms,rfl⟩
      | _ =>
        rw [hvalue] at hlimits
        exact absurd rfl hlimits
    · obtain ⟨hnonempty,hall⟩ := check_ok hcriteria
      cases hvalue : call.payload.get "acceptance_criteria" with
      | arr vs =>
        rw [hvalue] at hall
        exact texts_of_isCriterion hall
      | _ =>
        rw [hvalue] at hnonempty
        exact absurd rfl hnonempty
  split at h
  · cases h
  · cases h
    exact ⟨hfielded,hnow,hexpires,check_ok hlater,rfl⟩

theorem checked_congr (hpayload : other.payload = call.payload) (hmoment : moment host other = moment host call) :
    other.checked host = call.checked host := by
  unfold moment at hmoment
  have hrequest : ∀ now, other.request host now = call.request host now := by
    intro now
    unfold RequestCall.request
    rw [hpayload]
  unfold RequestCall.checked
  simp only [hpayload,hmoment,hrequest]

/-! ### What a request keeps of its payload -/

theorem get_of_str? {p : Payload} {name text : String} (h : p.str? name = some text) : p.get? name = some (.str text) := by
  unfold Payload.str? at h
  obtain ⟨v,hv,htext⟩ := Option.bind_eq_some_iff.mp h
  cases v with
  | str t =>
    cases htext
    exact hv
  | _ => cases htext

theorem get?_of_get {p : Payload} {name : String} {v : Json} (hkeys : p.hasKeys requestFields = true) (hname : name ∈ requestFields)
    (h : p.get name = v) : p.get? name = some v := by
  have hmem : name ∈ p.keys := of_decide_eq_true (List.all_eq_true.mp (Bool.and_eq_true_iff.mp hkeys).2 name hname)
  obtain ⟨w,hw⟩ := (Dict.mem_keys_iff p name).mp hmem
  unfold Payload.get at h
  rw [hw] at h
  rw [hw,← h]
  rfl

/-- Every field but the expiry stands in the request as it is given. -/
theorem kept_field (hfielded : Fielded call.payload) (hprinted : Printed floatText (.obj call.payload.entries)) (now : ℤ) {k : String}
    (hk : k ∈ requestFields) (hexpiry : k ≠ "expires_at") :
    member? (.obj (digestMembers (call.request host now))) k = call.payload.get? k := by
  have htext : ∀ {name : String}, (∃ text, call.payload.str? name = some text) →
      some (Json.str (str host.toStorageHost (call.payload.get name))) = call.payload.get? name := by
    rintro name ⟨text,h⟩
    have hget := get_of_str? h
    have hvalue : call.payload.get name = .str text := by
      unfold Payload.get
      rw [hget]
      rfl
    rw [hvalue,hget]
    rfl
  have hmapping : ∀ {name : String}, name ∈ requestFields → (∃ ms, call.payload.get name = .obj ms) →
      some (Json.obj (Payload.ofList (members (call.payload.get name))).entries) = call.payload.get? name := by
    rintro name hname ⟨ms,h⟩
    have hget := get?_of_get hfielded.keys hname h
    have hnodup : (ms.map Prod.fst).Nodup :=
      (printed_obj.mp ((printed_obj.mp hprinted).2 _ ((Dict.mem_entries_iff _ _ _).mpr hget))).1
    rw [h,hget,members,Payload.entries_ofList hnodup]
  have hidentifier : ∀ {name : String}, name ∈ requestIdentifiers →
      some (Json.str (str host.toStorageHost (call.payload.get name))) = call.payload.get? name := fun h => htext (hfielded.identifiers _ h)
  simp only [requestFields,List.mem_cons,List.not_mem_nil,or_false] at hk
  rcases hk with rfl | rfl | rfl | rfl | rfl | rfl | rfl | rfl | rfl | rfl | rfl | rfl | rfl | rfl | rfl | rfl | rfl | rfl
  · exact hidentifier (by decide)
  · exact hidentifier (by decide)
  · obtain ⟨n,hn⟩ := hfielded.revision
    rw [get?_of_get hfielded.keys (by decide) hn]
    change some (Json.int (((call.payload.get "adapter_revision").asInt?).getD 0)) = _
    rw [hn]
    rfl
  · exact hidentifier (by decide)
  · exact hidentifier (by decide)
  · exact hidentifier (by decide)
  · exact hidentifier (by decide)
  · exact hmapping (by decide) hfielded.parameters
  · exact hidentifier (by decide)
  · exact hidentifier (by decide)
  · exact hidentifier (by decide)
  · exact hidentifier (by decide)
  · exact hidentifier (by decide)
  · exact hidentifier (by decide)
  · exact htext hfielded.reason
  · obtain ⟨ts,hts⟩ := hfielded.criteria
    rw [get?_of_get hfielded.keys (by decide) hts]
    change some (texts ((items (call.payload.get "acceptance_criteria")).filterMap Json.asStr?)) = _
    rw [hts]
    have hread : ∀ ts : List String, (ts.map Json.str).filterMap Json.asStr? = ts := by
      intro ts
      induction ts with
      | nil => rfl
      | cons t ts ih => rw [List.map_cons,List.filterMap_cons_some (show Json.asStr? (.str t) = some t from rfl),ih]
    change some (texts ((ts.map Json.str).filterMap Json.asStr?)) = some (texts ts)
    rw [hread]
  · exact hmapping (by decide) hfielded.limits
  · exact absurd rfl hexpiry

/-! ### What the digest identifies -/

theorem sortKeys_texts (ts : List String) : (texts ts).sortKeys = texts ts := by
  have hitems : sortItems (ts.map .str) = ts.map .str := by
    induction ts with
    | nil => rfl
    | cons t ts ih =>
      rw [List.map_cons,sortItems,ih]
      rfl
  rw [texts,sortKeys,hitems]

/-- The parameters and limits are JSON. -/
def PrintedRequest (floatText : String → String) (r : StorageExecutionRequest) : Prop :=
  Printed floatText (.obj r.parameters.entries) ∧ Printed floatText (.obj r.limits.entries)

/-- Requests of one digest are the same. -/
theorem sameRequest_of_digest (hinj : Function.Injective host.sha256) (hr : PrintedRequest floatText request)
    (hr' : PrintedRequest floatText request') (hstored : request.requestDigest = request'.requestDigest)
    (h : canonicalDigest host request = canonicalDigest host request') : SameRequest request request' := by
  have hmembers := members_of_canonicalDigest host hinj (printed_digestMembers hr.1 hr.2) (printed_digestMembers hr'.1 hr'.2) h
  have hfield : ∀ {k : String} {v w : Json}, member? (.obj (digestMembers request)) k = some v →
      member? (.obj (digestMembers request')) k = some w → v.sortKeys = w.sortKeys := by
    intro k v w hv hw
    have hk := hmembers k
    rw [hv,hw] at hk
    exact Option.some.inj hk
  have htext : ∀ {k : String} {t t' : String}, member? (.obj (digestMembers request)) k = some (.str t) →
      member? (.obj (digestMembers request')) k = some (.str t') → t = t' := fun ht ht' => Json.str.inj (hfield ht ht')
  have hcriteria : texts request.acceptanceCriteria = texts request'.acceptanceCriteria := by
    have hsorted := hfield (k := "acceptance_criteria") (v := texts request.acceptanceCriteria) (w := texts request'.acceptanceCriteria) rfl rfl
    rwa [sortKeys_texts,sortKeys_texts] at hsorted
  have hcreated : request.createdAt = request'.createdAt := by
    have hsorted := hfield (k := "created_at") (v := optional request.createdAt) (w := optional request'.createdAt) rfl rfl
    revert hsorted
    cases request.createdAt <;> cases request'.createdAt <;> intro hsorted <;> cases hsorted <;> rfl
  refine ⟨hfield (k := "parameters") rfl rfl,hfield (k := "limits") rfl rfl,?_⟩
  have htexts : request.acceptanceCriteria = request'.acceptanceCriteria :=
    (List.map_injective_iff.mpr fun _ _ h => Json.str.inj h) (Json.arr.inj hcriteria)
  have h1 := htext (k := "request_id") rfl rfl
  have h2 := htext (k := "adapter_id") rfl rfl
  have h3 := Json.int.inj (hfield (k := "adapter_revision") rfl rfl)
  have h4 := htext (k := "project_id") rfl rfl
  have h5 := htext (k := "resource_id") rfl rfl
  have h6 := htext (k := "root_id") rfl rfl
  have h7 := htext (k := "action") rfl rfl
  have h8 := htext (k := "policy_revision") rfl rfl
  have h9 := htext (k := "claim_id") rfl rfl
  have h10 := htext (k := "approval_id") rfl rfl
  have h11 := htext (k := "authorization_ref") rfl rfl
  have h12 := htext (k := "idempotency_key") rfl rfl
  have h13 := htext (k := "requested_by") rfl rfl
  have h14 := htext (k := "reason") rfl rfl
  have h15 := htext (k := "expires_at") rfl rfl
  have h16 := htext (k := "contract_version") rfl rfl
  rw [h1,h2,h3,h4,h5,h6,h7,h8,h9,h10,h11,h12,h13,h14,h15,h16,htexts,hcreated,hstored]

/-! ### The rows -/

/-- The requests are made under one idempotency key. -/
def SameKey (r r' : StorageExecutionRequest) : Prop :=
  r.adapterId = r'.adapterId ∧ r.projectId = r'.projectId ∧ r.idempotencyKey = r'.idempotencyKey

instance (r r' : StorageExecutionRequest) : Decidable (SameKey r r') := inferInstanceAs (Decidable (_ ∧ _))

/-- Every row is filed under its id with its own digest, and alone under its idempotency key. -/
structure Kept (host : AuthorizationHost) (floatText : String → String) (s : AuthorizationStore) : Prop where
  row : ∀ id r, s.executionRequests.get? id = some r →
    r.requestId = id ∧ r.requestDigest = canonicalDigest host r ∧ PrintedRequest floatText r
  unique : ∀ id id' r r', s.executionRequests.get? id = some r → s.executionRequests.get? id' = some r' → SameKey r r' → r = r'

theorem rowOf_some {row : StorageExecutionRequest} (h : rowOf s request = some row) :
    (∃ id, s.executionRequests.get? id = some row) ∧ SameKey row request :=
  ⟨(Dict.mem_values_iff _ _).mp (List.mem_of_find?_eq_some h),of_decide_eq_true (List.find?_some (p := fun o : StorageExecutionRequest =>
    decide (o.adapterId = request.adapterId ∧ o.projectId = request.projectId ∧ o.idempotencyKey = request.idempotencyKey)) h)⟩

theorem rowOf_eq (hkept : Kept host floatText s) {id : String} {row : StorageExecutionRequest}
    (hrow : s.executionRequests.get? id = some row) (hkey : SameKey row request) : rowOf s request = some row := by
  cases hfound : rowOf s request with
  | none =>
    have hno := List.find?_eq_none.mp hfound row (Dict.mem_values_of_get? hrow)
    exact absurd (decide_eq_true hkey) hno
  | some other =>
    obtain ⟨⟨id',hother⟩,hother'⟩ := rowOf_some hfound
    rw [hkept.unique id' id other row hother hrow ⟨hother'.1.trans hkey.1.symm,hother'.2.1.trans hkey.2.1.symm,
      hother'.2.2.trans hkey.2.2.symm⟩]

theorem mapping_fields (r : StorageExecutionRequest) :
    member? (.obj (digestMembers r)) "parameters" = some (.obj r.parameters.entries) ∧
      member? (.obj (digestMembers r)) "limits" = some (.obj r.limits.entries) := ⟨rfl,rfl⟩

theorem printedRequest (hprinted : Printed floatText (.obj call.payload.entries)) (hfielded : Fielded call.payload) (now : ℤ) :
    PrintedRequest floatText (call.request host now) := by
  have hfield : ∀ {k : String} {v : Json}, k ∈ requestFields → k ≠ "expires_at" →
      member? (.obj (digestMembers (call.request host now))) k = some v → Printed floatText v := by
    intro k v hk hexpiry hv
    rw [kept_field hfielded hprinted now hk hexpiry] at hv
    exact (printed_obj.mp hprinted).2 _ ((Dict.mem_entries_iff _ _ _).mpr hv)
  exact ⟨hfield (by decide) (by decide) (mapping_fields _).1,hfield (by decide) (by decide) (mapping_fields _).2⟩

/-- A call that is accepted leaves a row of the same request, and no other row is touched. -/
theorem row_of_create (hinj : Function.Injective host.sha256) (hkept : Kept host floatText s)
    (hprinted : Printed floatText (.obj call.payload.entries)) (hchecked : call.checked host = .ok (request,now,expires))
    (h : saveStorageExecutionRequest request s = .ok ((),s')) :
    Kept host floatText s' ∧ (∀ id r, s.executionRequests.get? id = some r → s'.executionRequests.get? id = some r) ∧
      ∃ row, s'.executionRequests.get? request.requestId = some row ∧ SameKey row request ∧ SameRequest row request := by
  obtain ⟨hfielded,-,-,-,rfl⟩ := checked_ok hchecked
  have hrequest : PrintedRequest floatText (call.request host now) := printedRequest hprinted hfielded now
  rcases save_iff.mp h with ⟨row,hrow,hdigest,rfl⟩ | ⟨hfree,hid,rfl⟩
  · obtain ⟨⟨id,hget⟩,hkey⟩ := rowOf_some hrow
    obtain ⟨hid,hown,hrowPrinted⟩ := hkept.row id row hget
    have hsame : SameRequest row (call.request host now) :=
      sameRequest_of_digest hinj hrowPrinted hrequest hdigest (hown.symm.trans hdigest)
    have hids := congrArg StorageExecutionRequest.requestId hsame.2.2
    exact ⟨hkept,fun _ _ h => h,row,(hids.symm.trans hid) ▸ hget,hkey,hsame⟩
  · have hset : ∀ id r, (s.executionRequests.set (call.request host now).requestId (call.request host now)).get? id = some r →
        id = (call.request host now).requestId ∧ r = call.request host now ∨ s.executionRequests.get? id = some r := by
      intro id r hr
      rw [Dict.get?_set] at hr
      split at hr
      · next hk => exact .inl ⟨hk,(Option.some.inj hr).symm⟩
      · exact .inr hr
    have hnew : ∀ id r, s.executionRequests.get? id = some r → ¬ SameKey r (call.request host now) := by
      intro id r hr hkey
      have hno := List.find?_eq_none.mp hfree r (Dict.mem_values_of_get? hr)
      exact hno (decide_eq_true hkey)
    refine ⟨⟨fun id r hr => ?_,fun id id' r r' hr hr' hkey => ?_⟩,fun id r hr => ?_,call.request host now,?_,⟨rfl,rfl,rfl⟩,rfl,rfl,rfl⟩
    · rcases hset id r hr with ⟨rfl,rfl⟩ | hold
      · exact ⟨rfl,rfl,hrequest⟩
      · exact hkept.row id r hold
    · rcases hset id r hr with ⟨rfl,rfl⟩ | hold
      · rcases hset id' r' hr' with ⟨-,rfl⟩ | hold'
        · rfl
        · exact absurd ⟨hkey.1.symm,hkey.2.1.symm,hkey.2.2.symm⟩ (hnew id' r' hold')
      · rcases hset id' r' hr' with ⟨-,rfl⟩ | hold'
        · exact absurd hkey (hnew id r hold)
        · exact hkept.unique id id' r r' hold hold' hkey
    · change (s.executionRequests.set (call.request host now).requestId (call.request host now)).get? id = some r
      rw [Dict.get?_set,if_neg]
      · exact hr
      · rintro rfl
        rw [hid] at hr
        cases hr
    · change (s.executionRequests.set (call.request host now).requestId (call.request host now)).get? (call.request host now).requestId = _
      rw [Dict.get?_set,if_pos rfl]

/-! ### Runs -/

/-- The payloads of the requests among the calls are JSON. -/
def PrintedRun (floatText : String → String) (events : List StorageEvent) : Prop :=
  ∀ call, .createRequest call ∈ events → Printed floatText (.obj call.payload.entries)

/-- Only the creation of a request touches the requests. -/
theorem executionRequests_of_other {e : StorageEvent} (hother : ∀ call, e ≠ .createRequest call) (h : e.tx host s = .ok ((),s')) :
    s'.executionRequests = s.executionRequests := by
  cases e with
  | createRequest call => exact absurd rfl (hother call)
  | stage call =>
    obtain ⟨c,-,rfl⟩ := onControl_ok h
    rfl
  | approve ref approvedBy approvedAt clock =>
    obtain ⟨c,-,rfl⟩ := onControl_ok h
    rfl
  | materialize ref materializedAt clock =>
    obtain ⟨staged,-,table,-,rfl⟩ := materializeAuthorization_ok h
    split <;> rfl
  | revoke ref revokedBy evidenceId revokedAt clock =>
    obtain ⟨r,-,rfl⟩ := revokeAuthorization_ok h
    rfl
  | coordinate claims pending =>
    obtain ⟨c,-,rfl⟩ := onControl_ok h
    rfl
  | crewMessage message =>
    obtain ⟨c,-,rfl⟩ := onControl_ok h
    rfl
  | register r =>
    cases h
    rfl

/-- A call keeps the table in order and every row that is in it. -/
theorem Kept.step (hinj : Function.Injective host.sha256) (hkept : Kept host floatText s) (e : StorageEvent)
    (hprinted : ∀ call, e = .createRequest call → Printed floatText (.obj call.payload.entries)) :
    Kept host floatText ((e.tx host).next s) ∧
      ∀ id r, s.executionRequests.get? id = some r → ((e.tx host).next s).executionRequests.get? id = some r := by
  unfold Tx.next
  cases hrun : e.tx host s with
  | error error => exact ⟨hkept,fun _ _ h => h⟩
  | ok result =>
    obtain ⟨u,s'⟩ := result
    have hsame : s'.executionRequests = s.executionRequests → Kept host floatText s' ∧
        ∀ id r, s.executionRequests.get? id = some r → s'.executionRequests.get? id = some r := by
      intro heq
      refine ⟨⟨?_,?_⟩,?_⟩
      · rw [heq]
        exact hkept.row
      · rw [heq]
        exact hkept.unique
      · rw [heq]
        exact fun _ _ h => h
    cases e with
    | createRequest call =>
      obtain ⟨request,now,expires,hchecked,-,hsave⟩ := create_iff.mp hrun
      obtain ⟨hkept',hold,-⟩ := row_of_create hinj hkept (hprinted call rfl) hchecked hsave
      exact ⟨hkept',hold⟩
    | _ => exact hsame (executionRequests_of_other (fun call heq => by cases heq) hrun)

theorem Kept.run (hinj : Function.Injective host.sha256) (hkept : Kept host floatText s) {events : List StorageEvent}
    (hprinted : PrintedRun floatText events) : Kept host floatText (runEvents host s events) ∧
      ∀ id r, s.executionRequests.get? id = some r → (runEvents host s events).executionRequests.get? id = some r := by
  induction events generalizing s with
  | nil => exact ⟨hkept,fun _ _ h => h⟩
  | cons e events ih =>
    obtain ⟨hstep,hrows⟩ := hkept.step hinj e fun call hcall => hprinted call (List.mem_cons.mpr (.inl hcall.symm))
    obtain ⟨hrun,hlater⟩ := ih hstep fun call hcall => hprinted call (List.mem_cons_of_mem _ hcall)
    exact ⟨hrun,fun id r hr => hlater id r (hrows id r hr)⟩

theorem kept_fresh {claims : Dict Claim} {crewMessages : Dict CrewMessage} {registrations : Dict StorageAdapterRegistration} :
    Kept host floatText (fresh claims crewMessages registrations) := ⟨nofun,nofun⟩

/-! ### Repeating a call -/

/-- The payloads say the same; of the expiry only its text is looked at. -/
def SameContent (host : AuthorizationHost) (p q : Payload) : Prop :=
  (∀ k ∈ requestFields, k ≠ "expires_at" → (p.get? k).map sortKeys = (q.get? k).map sortKeys) ∧
    str host.toStorageHost (p.get "expires_at") = str host.toStorageHost (q.get "expires_at")

/-- The claim and the adapter of a request are as they were. -/
def Unchanged (request : StorageExecutionRequest) (s s₂ : AuthorizationStore) : Prop :=
  s₂.control.coord.claims.get? request.claimId = s.control.coord.claims.get? request.claimId ∧
    s₂.registrations.get? request.adapterId = s.registrations.get? request.adapterId

def keyFields : List String := ["adapter_id","project_id","idempotency_key"]

/-- A creation at `now` that left the store `s'` can be repeated by `retry` at `now'`. -/
structure Repeatable (host : AuthorizationHost) (floatText : String → String) (call retry : RequestCall) (now now' : ℤ)
    (s' : AuthorizationStore) : Prop where
  /-- The request that is stored is read back as the one that was created. -/
  reloaded : ∃ row loaded, s'.executionRequests.get? (call.request host now).requestId = some row ∧
    StorageExecutionRequest.load floatText row.dump = some loaded ∧ SameRequest loaded (call.request host now) ∧
    loaded.requestDigest = canonicalDigest host loaded
  /-- The repetition answers the same and changes nothing. -/
  repeated : ∀ later, PrintedRun floatText later → Unchanged (call.request host now) s' (runEvents host s' later) →
    createExecutionRequest host retry (runEvents host s' later) = .ok ((),runEvents host s' later) ∧
      (retry.request host now').requestId = (call.request host now).requestId ∧
      (retry.request host now').requestDigest = (call.request host now).requestDigest
  /-- Another payload under the idempotency key is refused. -/
  refused : ∀ later other s'', PrintedRun floatText later → Printed floatText (.obj other.payload.entries) →
    (∀ k ∈ keyFields, other.payload.get k = call.payload.get k) →
    createExecutionRequest host other (runEvents host s' later) = .ok ((),s'') → SameContent host call.payload other.payload

theorem expiry_field (r : StorageExecutionRequest) : member? (.obj (digestMembers r)) "expires_at" = some (.str r.expiresAt) := rfl

theorem sameContent_of_digest (hinj : Function.Injective host.sha256) (hcall : Fielded call.payload)
    (hprinted : Printed floatText (.obj call.payload.entries)) (hother : Fielded other.payload)
    (hprinted' : Printed floatText (.obj other.payload.entries))
    (h : canonicalDigest host (call.request host now) = canonicalDigest host (other.request host now')) :
    SameContent host call.payload other.payload := by
  have hr : PrintedRequest floatText (call.request host now) := printedRequest hprinted hcall now
  have hr' : PrintedRequest floatText (other.request host now') := printedRequest hprinted' hother now'
  have hmembers := members_of_canonicalDigest host hinj (printed_digestMembers hr.1 hr.2) (printed_digestMembers hr'.1 hr'.2) h
  constructor
  · intro k hk hexpiry
    rw [← kept_field hcall hprinted now hk hexpiry,← kept_field hother hprinted' now' hk hexpiry]
    exact hmembers k
  · have hk := hmembers "expires_at"
    rw [expiry_field,expiry_field] at hk
    exact Json.str.inj (Option.some.inj hk)

theorem sameKey_request (h : ∀ k ∈ keyFields, other.payload.get k = call.payload.get k) :
    SameKey (call.request host now) (other.request host now') := by
  have hkey : ∀ (c : RequestCall) (t : ℤ), (c.request host t).adapterId = str host.toStorageHost (c.payload.get "adapter_id") ∧
      (c.request host t).projectId = str host.toStorageHost (c.payload.get "project_id") ∧
      (c.request host t).idempotencyKey = str host.toStorageHost (c.payload.get "idempotency_key") := fun _ _ => ⟨rfl,rfl,rfl⟩
  obtain ⟨hadapter,hproject,hidempotency⟩ := hkey call now
  obtain ⟨hadapter',hproject',hidempotency'⟩ := hkey other now'
  refine ⟨?_,?_,?_⟩
  · rw [hadapter,hadapter',h "adapter_id" (by decide)]
  · rw [hproject,hproject',h "project_id" (by decide)]
  · rw [hidempotency,hidempotency',h "idempotency_key" (by decide)]

/-- What an accepted call leaves, whatever is called after it. -/
theorem row_later (hinj : Function.Injective host.sha256) {claims : Dict Claim} {crewMessages : Dict CrewMessage}
    {registrations : Dict StorageAdapterRegistration} {before later : List StorageEvent} (hbefore : PrintedRun floatText before)
    (hlater : PrintedRun floatText later) (hprinted : Printed floatText (.obj call.payload.entries))
    (hchecked : call.checked host = .ok (request,now,expires))
    (hsave : saveStorageExecutionRequest request (runEvents host (fresh claims crewMessages registrations) before) = .ok ((),s')) :
    ∃ row, (runEvents host s' later).executionRequests.get? request.requestId = some row ∧ Kept host floatText (runEvents host s' later) ∧
      SameKey row request ∧ SameRequest row request ∧ s'.executionRequests.get? request.requestId = some row := by
  obtain ⟨hkept,-,row,hrow,hkey,hsame⟩ := row_of_create hinj (kept_fresh.run hinj hbefore).1 hprinted hchecked hsave
  obtain ⟨hkept',hrows⟩ := hkept.run hinj hlater
  exact ⟨row,hrows _ _ hrow,hkept',hkey,hsame,hrow⟩

theorem sameRequest_trans {r r' r'' : StorageExecutionRequest} (h : SameRequest r r') (h' : SameRequest r' r'') : SameRequest r r'' :=
  ⟨h.1.trans h'.1,h.2.1.trans h'.2.1,h.2.2.trans h'.2.2⟩

theorem requestDigest_of_sameRequest {r r' : StorageExecutionRequest} (h : SameRequest r r') : r.requestDigest = r'.requestDigest := by
  have hdigest := congrArg StorageExecutionRequest.requestDigest h.2.2
  exact hdigest

theorem createdAt_of_sameRequest {r r' : StorageExecutionRequest} (h : SameRequest r r') : r.createdAt = r'.createdAt := by
  have hcreated := congrArg StorageExecutionRequest.createdAt h.2.2
  exact hcreated

theorem reloads (hkept : Kept host floatText s) {id : String} {row : StorageExecutionRequest}
    (hrow : s.executionRequests.get? id = some row) (hsame : SameRequest row request) :
    ∃ loaded, StorageExecutionRequest.load floatText row.dump = some loaded ∧ SameRequest loaded request ∧
      loaded.requestDigest = canonicalDigest host loaded := by
  obtain ⟨-,hdigest,hprinted⟩ := hkept.row id row hrow
  refine ⟨row.restored,StorageExecutionRequest.load_dump hprinted.1 hprinted.2,
    sameRequest_trans (StorageExecutionRequest.sameRequest_restored row) hsame,?_⟩
  rw [StorageExecutionRequest.canonicalDigest_restored]
  exact hdigest

theorem create_again (hkept : Kept host floatText s₂) {id : String} {row : StorageExecutionRequest}
    (hrow : s₂.executionRequests.get? id = some row) (hkey : SameKey row request) (hdigest : row.requestDigest = request.requestDigest)
    (hchecked : other.checked host = .ok (request,now,expires)) (hadmits : Admits host s request now expires)
    (hunchanged : Unchanged request s s₂) : createExecutionRequest host other s₂ = .ok ((),s₂) := by
  obtain ⟨claim,registration,hclaim,hregistration,hrest⟩ := hadmits
  exact create_iff.mpr ⟨request,now,expires,hchecked,⟨claim,registration,hunchanged.1.trans hclaim,
    hunchanged.2.trans hregistration,hrest⟩,save_iff.mpr (.inl ⟨row,rowOf_eq hkept hrow hkey,hdigest,rfl⟩)⟩

theorem digest_of_create (hkept : Kept host floatText s) {id : String} {row : StorageExecutionRequest}
    (hrow : s.executionRequests.get? id = some row) (hkey : SameKey row request)
    (h : saveStorageExecutionRequest request s = .ok ((),s')) : row.requestDigest = request.requestDigest := by
  have hfound := rowOf_eq hkept hrow hkey
  rcases save_iff.mp h with ⟨prior,hprior,hdigest,-⟩ | ⟨hnone,-⟩
  · rw [Option.some.inj (hfound.symm.trans hprior)]
    exact hdigest
  · rw [hfound] at hnone
    cases hnone

theorem moment_of_digest (hsha : Function.Injective host.sha256) (hiso : Function.Injective host.isoformat)
    (hfielded : Fielded call.payload) (hprinted : Printed floatText (.obj call.payload.entries))
    (h : (call.request host now').requestDigest = (call.request host now).requestDigest) : now' = now := by
  have hr : PrintedRequest floatText (call.request host now) := printedRequest hprinted hfielded now
  have hr' : PrintedRequest floatText (call.request host now') := printedRequest hprinted hfielded now'
  have hcreated := createdAt_of_sameRequest (sameRequest_of_digest hsha hr' hr h h)
  exact hiso (Option.some.inj hcreated)

theorem request_congr (hpayload : other.payload = call.payload) (now : ℤ) : other.request host now = call.request host now := by
  unfold RequestCall.request
  rw [hpayload]

/-- An accepted creation can be repeated at the moment it was made at, and at no other one. -/
theorem repeatable_iff (hsha : Function.Injective host.sha256) (hiso : Function.Injective host.isoformat) {claims : Dict Claim}
    {crewMessages : Dict CrewMessage} {registrations : Dict StorageAdapterRegistration} {before : List StorageEvent}
    (hbefore : PrintedRun floatText before) (hprinted : Printed floatText (.obj call.payload.entries))
    (hcreate : createExecutionRequest host call (runEvents host (fresh claims crewMessages registrations) before) = .ok ((),s'))
    (hnow : moment host call = .ok now) (hpayload : retry.payload = call.payload) (hnow' : moment host retry = .ok now') :
    Repeatable host floatText call retry now now' s' ↔ now' = now := by
  obtain ⟨request,t,e,hchecked,hadmits,hsave⟩ := create_iff.mp hcreate
  obtain ⟨hfielded,ht,he,-,hrequest⟩ := checked_ok hchecked
  obtain rfl : t = now := Except.ok.inj (ht.symm.trans hnow)
  have hlater := fun later (h : PrintedRun floatText later) => row_later hsha hbefore h hprinted hchecked hsave
  have hempty : PrintedRun floatText [] := fun _ h => by cases h
  constructor
  · intro hrepeatable
    obtain ⟨-,-,hdigest⟩ := hrepeatable.repeated [] hempty ⟨rfl,rfl⟩
    rw [request_congr hpayload] at hdigest
    exact moment_of_digest hsha hiso hfielded hprinted hdigest
  · intro hmoment
    rw [hmoment] at hnow' ⊢
    have hchecked' : retry.checked host = .ok (request,t,e) := (checked_congr hpayload (hnow'.trans hnow.symm)).trans hchecked
    obtain ⟨requests,hsaved⟩ := createExecutionRequest_ok hcreate
    have hadmits' : Admits host s' request t e := by
      rw [hsaved]
      exact hadmits
    constructor
    · obtain ⟨row,-,-,-,hsame,hrow⟩ := hlater [] hempty
      obtain ⟨hkept,-⟩ := row_of_create hsha (kept_fresh.run hsha hbefore).1 hprinted hchecked hsave
      obtain ⟨loaded,hloaded⟩ := reloads hkept hrow hsame
      rw [← hrequest]
      exact ⟨row,loaded,hrow,hloaded⟩
    · intro later hprintedLater hunchanged
      obtain ⟨row,hrow,hkept,hkey,hsame,-⟩ := hlater later hprintedLater
      rw [← hrequest] at hunchanged
      refine ⟨create_again hkept hrow hkey (requestDigest_of_sameRequest hsame) hchecked' hadmits' hunchanged,?_,?_⟩
      · rw [request_congr hpayload]
      · rw [request_congr hpayload]
    · intro later other s'' hprintedLater hprinted' hkeys hother
      obtain ⟨row,hrow,hkept,hkey,hsame,-⟩ := hlater later hprintedLater
      obtain ⟨request',moment',expires',hchecked',-,hsave'⟩ := create_iff.mp hother
      obtain ⟨hfielded',-,-,-,hrequest'⟩ := checked_ok hchecked'
      have hothers : SameKey request request' := by
        rw [hrequest,hrequest']
        exact sameKey_request hkeys
      have hdigest := digest_of_create hkept hrow
        ⟨hkey.1.trans hothers.1,hkey.2.1.trans hothers.2.1,hkey.2.2.trans hothers.2.2⟩ hsave'
      rw [requestDigest_of_sameRequest hsame,hrequest,hrequest'] at hdigest
      exact sameContent_of_digest hsha hfielded hprinted hfielded' hprinted' hdigest

end Host

/-! ### A second later -/

/-- The printed moments of a day. -/
def calendar : List (String × ℤ) := [("2026-01-01T00:00:00+00:00",0),("2026-01-01T00:00:01+00:00",1000000),
  ("2026-01-02T00:00:00+00:00",86400000000),("2026-01-03T00:00:00+00:00",172800000000)]

def printedMoment (n : ℤ) : String :=
  if n = 0 then "2026-01-01T00:00:00+00:00" else if n = 1000000 then "2026-01-01T00:00:01+00:00" else "day " ++ n.repr

/-- A host that knows the moments of the calendar. -/
def calendarHost : AuthorizationHost where
  sha256 := fun text => text
  fromisoformat := fun text => (Dict.find text calendar).map fun n => (true,n)
  repr := fun _ => ""
  isoformat := printedMoment

theorem printedMoment_injective : Function.Injective printedMoment := by
  have hday : ∀ {n : ℤ} {t : String}, t.toList.head? = some '2' → "day " ++ n.repr ≠ t := by
    intro n t ht h
    rw [← h,String.toList_append] at ht
    have hhead : ("day ".toList ++ n.repr.toList).head? = some 'd' := rfl
    rw [hhead] at ht
    exact absurd ht (by decide)
  intro n m h
  unfold printedMoment at h
  split at h
  · next hn =>
    split at h
    · next hm => rw [hn,hm]
    · split at h
      · exact absurd h (by decide)
      · exact absurd h.symm (hday (by decide))
  · split at h
    · next hn =>
      split at h
      · exact absurd h (by decide)
      · split at h
        · next hm => rw [hn,hm]
        · exact absurd h.symm (hday (by decide))
    · split at h
      · exact absurd h (hday (by decide))
      · split at h
        · exact absurd h (hday (by decide))
        · rw [String.append_right_inj] at h
          exact Int.repr_injective h

def backupPayload : Payload := .ofList [("request_id",.str "request-1"),("adapter_id",.str "adapter-1"),("adapter_revision",.int 1),
  ("project_id",.str "project-1"),("resource_id",.str "storage.root-1"),("root_id",.str "root-1"),("action",.str "backup.create"),
  ("parameters",.obj [("source_root_id",.str "root-1"),("retention_count",.int 3),
    ("encryption_profile",.str "gpg-symmetric-aes256-iterated-s2k")]),
  ("policy_revision",.str "policy-1"),("claim_id",.str "claim-1"),("approval_id",.str "approval-1"),
  ("authorization_ref",.str "authorization-1"),("idempotency_key",.str "key-1"),("requested_by",.str "project-1"),
  ("reason",.str "nightly backup"),("acceptance_criteria",.arr [.str "verified"]),
  ("limits",.obj [("max_bytes",.int 8),("max_items",.int 1)]),("expires_at",.str "2026-01-02T00:00:00+00:00")]

/-- The call for a backup, with what the clock reads. -/
def backupCall (clock : String) : RequestCall where
  payload := backupPayload
  clock := clock

def backupClaim : Claim where
  id := "claim-1"
  resourceId := "storage.root-1"
  claimType := .lease
  ownerThread := "project-1"
  ownerRole := .obrien
  intent := "backup"
  requestedAction := "backup.create"
  riskLevel := .low
  status := .active
  expiresAt := some "2026-01-03T00:00:00+00:00"

def backupAdapter : StorageAdapterRegistration where
  adapterId := "adapter-1"
  allowedActions := ["backup.create"]
  registrationRevision := 1
  status := .enabled
  approvedRevision := some 1
  readinessChecks := requiredReadiness

/-- A store with the claim and the adapter. -/
def backupStore : AuthorizationStore :=
  runEvents calendarHost (fresh (Dict.empty.set "claim-1" backupClaim) .empty (Dict.empty.set "adapter-1" backupAdapter)) []

theorem backupCall_created : ∃ s', createExecutionRequest calendarHost (backupCall "2026-01-01T00:00:00Z") backupStore = .ok ((),s') := by
  have hok : (createExecutionRequest calendarHost (backupCall "2026-01-01T00:00:00Z") backupStore).isOk = true := by decide +kernel
  cases hcreate : createExecutionRequest calendarHost (backupCall "2026-01-01T00:00:00Z") backupStore with
  | error e =>
    rw [hcreate] at hok
    cases hok
  | ok r => exact ⟨r.2,rfl⟩

theorem printed_backupPayload : Printed id (.obj backupPayload.entries) := by
  unfold Printed
  decide +kernel

theorem ok_of_toOption {r : Except StorageError ℤ} {n : ℤ} (h : r.toOption = some n) : r = .ok n := by
  cases r with
  | error e => cases h
  | ok m =>
    cases h
    rfl

theorem backupCall_moment : moment calendarHost (backupCall "2026-01-01T00:00:00Z") = .ok 0 := ok_of_toOption (by decide +kernel)

/-- The same moment can be given again. -/
theorem backup_repeatable : ∃ s', createExecutionRequest calendarHost (backupCall "2026-01-01T00:00:00Z") backupStore = .ok ((),s') ∧
    Repeatable calendarHost id (backupCall "2026-01-01T00:00:00Z") (backupCall "2026-01-01T00:00:00+00:00") 0 0 s' := by
  obtain ⟨s',hcreate⟩ := backupCall_created
  have hempty : PrintedRun id [] := fun _ h => by cases h
  have hagain : moment calendarHost (backupCall "2026-01-01T00:00:00+00:00") = .ok 0 := ok_of_toOption (by decide +kernel)
  have hpayload : (backupCall "2026-01-01T00:00:00+00:00").payload = (backupCall "2026-01-01T00:00:00Z").payload := rfl
  exact ⟨s',hcreate,(repeatable_iff (fun _ _ h => h) printedMoment_injective hempty printed_backupPayload hcreate backupCall_moment
    hpayload hagain).mpr rfl⟩

/-- A second later, a day before it expires, the same payload is refused. -/
theorem backup_refused : ∃ s', createExecutionRequest calendarHost (backupCall "2026-01-01T00:00:00Z") backupStore = .ok ((),s') ∧
    moment calendarHost (backupCall "2026-01-01T00:00:01Z") = .ok 1000000 ∧ expiry calendarHost backupPayload = .ok 86400000000 ∧
    ∀ r, createExecutionRequest calendarHost (backupCall "2026-01-01T00:00:01Z") s' ≠ .ok r := by
  obtain ⟨s',hcreate⟩ := backupCall_created
  have hlater : moment calendarHost (backupCall "2026-01-01T00:00:01Z") = .ok 1000000 := ok_of_toOption (by decide +kernel)
  refine ⟨s',hcreate,hlater,ok_of_toOption (by decide +kernel),fun ⟨u,s''⟩ hrefused => ?_⟩
  have hinj : Function.Injective calendarHost.sha256 := fun _ _ h => h
  have hstart : Kept calendarHost id backupStore := kept_fresh
  obtain ⟨request,now,expires,hchecked,-,hsave⟩ := create_iff.mp hcreate
  obtain ⟨request',now',expires',hchecked',-,hsave'⟩ := create_iff.mp hrefused
  obtain ⟨hkept,-,row,hrow,hkey,hsame⟩ := row_of_create hinj hstart printed_backupPayload hchecked hsave
  obtain ⟨hfielded,hnow,-,-,hrequest⟩ := checked_ok hchecked
  obtain ⟨-,hnow',-,-,hrequest'⟩ := checked_ok hchecked'
  obtain rfl : now = 0 := Except.ok.inj (hnow.symm.trans backupCall_moment)
  obtain rfl : now' = 1000000 := Except.ok.inj (hnow'.symm.trans hlater)
  have hsameKey : SameKey request request' := by
    rw [hrequest,hrequest']
    exact sameKey_request fun _ _ => rfl
  have hdigest := digest_of_create hkept hrow
    ⟨hkey.1.trans hsameKey.1,hkey.2.1.trans hsameKey.2.1,hkey.2.2.trans hsameKey.2.2⟩ hsave'
  rw [requestDigest_of_sameRequest hsame,hrequest,hrequest'] at hdigest
  rw [request_congr (rfl : (backupCall "2026-01-01T00:00:01Z").payload = (backupCall "2026-01-01T00:00:00Z").payload)] at hdigest
  have hmoments : (1000000 : ℤ) = 0 := moment_of_digest hinj printedMoment_injective hfielded printed_backupPayload hdigest.symm
  exact absurd hmoments (by decide)

end StorageRetry
end Overseer.Core
