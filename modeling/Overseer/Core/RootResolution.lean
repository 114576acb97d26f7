import Overseer.Core.StorageLifecycle
import Mathlib.Data.List.Sort

/-! # Resolving a root authorization

`resolve_current_root_authorization` of `storage_control.py` looks for the authorization that
`verify_storage_root_authorization_status` of `storage_adapter.py` would accept: it goes through all
rows with a test of its own and takes the one that was approved last.
-/
namespace Overseer.Core
open Overseer.Library
namespace StorageControl

/-- The arguments of a resolution, but for its time. -/
structure RootFields where
  projectId : String
  rootId : String
  policyRevision : String
  rootIdentity : String
  rootAlias : String
  status : String
  maxBytes : Json
  targetDigest : String

/-- What a row has to say. -/
def RootFields.supplied (fields : RootFields) : List (String × Json) :=
  [("action",.str "root.register"),("project_id",.str fields.projectId),("root_id",.str fields.rootId),
    ("policy_revision",.str fields.policyRevision),("root_identity",.str fields.rootIdentity),("alias",.str fields.rootAlias),
    ("status",.str fields.status),("max_bytes",fields.maxBytes),("target_digest",.str fields.targetDigest)]

/-- The payload of a verification of the same fields. -/
def RootFields.payload (fields : RootFields) (authorizationRef : String) : Payload :=
  .ofList (("authorization_ref",.str authorizationRef) :: fields.supplied)

/-- The checks of the arguments. -/
def RootFields.Exact (fields : RootFields) : Prop :=
  (∀ text ∈ [fields.projectId,fields.rootId,fields.policyRevision,fields.rootIdentity,fields.rootAlias,fields.status,fields.targetDigest],
      text ≠ "") ∧ fields.status = "active" ∧ isPositive fields.maxBytes = true ∧ isDigest (.str fields.rootIdentity) = true ∧
    isDigest (.str fields.targetDigest) = true

instance (fields : RootFields) : Decidable fields.Exact := inferInstanceAs (Decidable (_ ∧ _))

section Host
variable (host : AuthorizationHost) (s : AuthorizationStore) (fields : RootFields) (now : ℤ)

def AuthorizationRecord.authorizationRef (record : AuthorizationRecord) : String :=
  str host.toStorageHost (record.payload.get "authorization_ref")

/-- `list_storage_root_authorizations`, by id. -/
def listStorageRootAuthorizations : List AuthorizationRecord :=
  (s.rootAuthorizations.keys.insertionSort fun a b => a.toList ≤ b.toList).filterMap fun ref => loaded s s.rootAuthorizations ref

/-- A row is a candidate; a time that is read or an approval that is loaded can fail. -/
def isCandidate (record : AuthorizationRecord) : Except StorageError Bool :=
  if (∀ m ∈ fields.supplied, record.payload.get m.1 = m.2) ∧ record.status = "approved" ∧ record.revokedAt.all (· = "") = true then do
    let approvedAt ← time host.toStorageHost record.approvedAt
    if now < approvedAt then pure false
    else do
      let expiresAt ← time host.toStorageHost (str host.toStorageHost (record.payload.get "expires_at"))
      if expiresAt ≤ now then pure false
      else do
        let approval ← found (s.control.coord.approvals.get? record.approvalId) record.approvalId
        pure (approval.id = record.approvalId ∧ record.payload.get "authorization_ref" = .str approval.subjectId ∧
          approval.status = .approved)
  else .ok false

/-- The candidates among rows, with the times they were approved at. -/
def candidates : List AuthorizationRecord → Except StorageError (List (ℤ × AuthorizationRecord))
  | [] => .ok []
  | record :: records => do
    let chosen ← isCandidate host s fields now record
    let others ← candidates records
    if chosen then do
      let approvedAt ← time host.toStorageHost record.approvedAt
      pure ((approvedAt,record) :: others)
    else pure others

/-- The order of the candidates, the last approved one first. -/
def laterApproved (a b : ℤ × AuthorizationRecord) : Prop :=
  b.1 < a.1 ∨ a.1 = b.1 ∧ (AuthorizationRecord.authorizationRef host b.2).toList ≤ (AuthorizationRecord.authorizationRef host a.2).toList

instance (a b : ℤ × AuthorizationRecord) : Decidable (laterApproved host a b) := inferInstanceAs (Decidable (_ ∨ _))

/-- The first of the sorted candidates, unless another one was approved at its time. -/
def currentOf : List (ℤ × AuthorizationRecord) → Except StorageError AuthorizationRecord
  | [] => .error (.value "no current exact root authorization exists")
  | [only] => .ok only.2
  | first :: second :: _ => if first.1 = second.1 then .error (.value "current root authorization is ambiguous") else .ok first.2

/-- `resolve_current_root_authorization`: the record it answers with, or its error. -/
def resolveCurrentRootAuthorization (resolvedAt : Option String) (clock : String) : Except StorageError AuthorizationRecord := do
  check fields.Exact (.value "exact current root authorization fields are required")
  let now ← time host.toStorageHost (orElse resolvedAt clock)
  let chosen ← candidates host s fields now (listStorageRootAuthorizations s)
  currentOf (chosen.insertionSort (laterApproved host))

/-! ### What a candidate is -/

/-- What both tests ask of a row. -/
structure Current (record : AuthorizationRecord) (approvedAt : ℤ) : Prop where
  supplied : ∀ m ∈ fields.supplied, record.payload.get m.1 = m.2
  status : record.status = "approved"
  unrevoked : record.revokedAt.all (· = "") = true
  read : time host.toStorageHost record.approvedAt = .ok approvedAt
  approved : approvedAt ≤ now
  unexpired : ∃ expiresAt, time host.toStorageHost (str host.toStorageHost (record.payload.get "expires_at")) = .ok expiresAt ∧ now < expiresAt
  approval : ∃ approval, s.control.coord.approvals.get? record.approvalId = some approval ∧ approval.id = record.approvalId ∧
    record.payload.get "authorization_ref" = .str approval.subjectId ∧ approval.status = .approved

variable {host s fields now}

theorem isCandidate_iff (record : AuthorizationRecord) :
    isCandidate host s fields now record = .ok true ↔ ∃ approvedAt, Current host s fields now record approvedAt := by
  unfold isCandidate
  constructor
  · intro h
    split at h
    · next hexact =>
      obtain ⟨approvedAt,hread,h⟩ := except_bind_ok h
      split at h
      · cases h
      · next happroved =>
        obtain ⟨expiresAt,hexpires,h⟩ := except_bind_ok h
        split at h
        · cases h
        · next hunexpired =>
          obtain ⟨approval,happroval,h⟩ := except_bind_ok h
          have hmatches := of_decide_eq_true (Except.ok.inj h)
          exact ⟨approvedAt,hexact.1,hexact.2.1,hexact.2.2,hread,not_lt.mp happroved,⟨expiresAt,hexpires,not_le.mp hunexpired⟩,
            approval,found_ok happroval,hmatches⟩
    · cases h
  · rintro ⟨approvedAt,h⟩
    obtain ⟨expiresAt,hexpires,hunexpired⟩ := h.unexpired
    obtain ⟨approval,happroval,hmatches⟩ := h.approval
    rw [if_pos ⟨h.supplied,h.status,h.unrevoked⟩,h.read]
    change (if now < approvedAt then _ else _) = _
    rw [if_neg (not_lt.mpr h.approved),hexpires]
    change (if expiresAt ≤ now then _ else _) = _
    rw [if_neg (not_le.mpr hunexpired),happroval]
    exact congrArg Except.ok (decide_eq_true hmatches)

/-- The candidates that are found are those of the rows, each with its time. -/
theorem mem_candidates {records : List AuthorizationRecord} {chosen : List (ℤ × AuthorizationRecord)}
    (h : candidates host s fields now records = .ok chosen) (approvedAt : ℤ) (record : AuthorizationRecord) :
    (approvedAt,record) ∈ chosen ↔ record ∈ records ∧ Current host s fields now record approvedAt := by
  induction records generalizing chosen with
  | nil =>
    cases h
    simp
  | cons head records ih =>
    obtain ⟨isChosen,hchosen,h⟩ := except_bind_ok h
    obtain ⟨others,hothers,h⟩ := except_bind_ok h
    have hothers' := ih hothers
    cases isChosen with
    | true =>
      obtain ⟨time',hcurrent⟩ := (isCandidate_iff head).mp hchosen
      rw [if_pos rfl,hcurrent.read] at h
      cases h
      rw [List.mem_cons,List.mem_cons,hothers',Prod.mk.injEq]
      constructor
      · rintro (⟨rfl,rfl⟩ | ⟨hmem,hcurrent'⟩)
        · exact ⟨.inl rfl,hcurrent⟩
        · exact ⟨.inr hmem,hcurrent'⟩
      · rintro ⟨rfl | hmem,hcurrent'⟩
        · exact .inl ⟨Except.ok.inj (hcurrent'.read.symm.trans hcurrent.read),rfl⟩
        · exact .inr ⟨hmem,hcurrent'⟩
    | false =>
      rw [if_neg Bool.false_ne_true] at h
      cases h
      rw [hothers',List.mem_cons]
      refine ⟨fun ⟨hmem,hcurrent⟩ => ⟨.inr hmem,hcurrent⟩,?_⟩
      rintro ⟨rfl | hmem,hcurrent⟩
      · rw [(isCandidate_iff _).mpr ⟨_,hcurrent⟩] at hchosen
        cases hchosen
      · exact ⟨hmem,hcurrent⟩

/-! ### What a verification of the fields is -/

theorem RootFields.payload_nodup (fields : RootFields) (ref : String) :
    ((("authorization_ref",Json.str ref) :: fields.supplied).map Prod.fst).Nodup := by
  change rootVerifyFields.Nodup
  decide +kernel

theorem RootFields.payload_keys (fields : RootFields) (ref : String) : (fields.payload ref).hasKeys rootVerifyFields = true := by
  have hkeys : (fields.payload ref).keys = rootVerifyFields := by
    unfold Dict.keys RootFields.payload
    rw [Payload.entries_ofList (fields.payload_nodup ref)]
    rfl
  unfold Payload.hasKeys
  rw [hkeys]
  simp

theorem RootFields.payload_get? {fields : RootFields} {ref k : String} {v : Json}
    (h : (k,v) ∈ ("authorization_ref",Json.str ref) :: fields.supplied) : (fields.payload ref).get? k = some v :=
  Payload.get?_ofList (fields.payload_nodup ref) h

theorem RootFields.payload_get {fields : RootFields} {ref k : String} {v : Json}
    (h : (k,v) ∈ ("authorization_ref",Json.str ref) :: fields.supplied) : (fields.payload ref).get k = v := by
  unfold Payload.get
  rw [RootFields.payload_get? h]
  rfl

theorem RootFields.payload_str {fields : RootFields} {ref k t : String}
    (h : (k,Json.str t) ∈ ("authorization_ref",Json.str ref) :: fields.supplied) : (fields.payload ref).str? k = some t := by
  unfold Payload.str?
  rw [RootFields.payload_get? h]
  rfl

/-- The arguments of a resolution pass the checks of a verification. -/
theorem RootFields.payload_valid {fields : RootFields} {ref : String} (h : fields.Exact) (href : ref ≠ "") :
    (fields.payload ref).hasKeys rootVerifyFields = true ∧
      (rootVerifyFields.all fun name => name = "max_bytes" || isText (fields.payload ref) name) = true ∧
      isPositive ((fields.payload ref).get "max_bytes") = true ∧
      (fields.payload ref).str? "action" ∈ [some "root.register",some "root.transition"] ∧
      (fields.payload ref).str? "status" ∈ [some "active",some "suspended",some "retired"] ∧
      isDigest ((fields.payload ref).get "root_identity") = true ∧ isDigest ((fields.payload ref).get "target_digest") = true := by
  obtain ⟨htexts,hstatus,hbytes,hidentity,htarget⟩ := h
  refine ⟨fields.payload_keys ref,?_,?_,?_,?_,?_,?_⟩
  · have hmember : ∀ name text, (name,Json.str text) ∈ ("authorization_ref",Json.str ref) :: fields.supplied → text ≠ "" →
        isText (fields.payload ref) name = true := by
      intro name text hmem hne
      unfold isText
      rw [RootFields.payload_str hmem]
      exact decide_eq_true hne
    simp only [List.mem_cons,List.not_mem_nil,or_false,forall_eq_or_imp,forall_eq] at htexts
    obtain ⟨hproject,hroot,hpolicy,hid,halias,hactive,hdigest⟩ := htexts
    refine List.all_eq_true.mpr fun name hname => ?_
    simp only [rootVerifyFields,List.mem_cons,List.not_mem_nil,or_false] at hname
    rw [Bool.or_eq_true,decide_eq_true_eq]
    rcases hname with rfl | rfl | rfl | rfl | rfl | rfl | rfl | rfl | rfl | rfl
    · exact .inr (hmember _ ref (by simp) href)
    · exact .inr (hmember _ "root.register" (by simp [RootFields.supplied]) (by decide))
    · exact .inr (hmember _ fields.projectId (by simp [RootFields.supplied]) hproject)
    · exact .inr (hmember _ fields.rootId (by simp [RootFields.supplied]) hroot)
    · exact .inr (hmember _ fields.policyRevision (by simp [RootFields.supplied]) hpolicy)
    · exact .inr (hmember _ fields.rootIdentity (by simp [RootFields.supplied]) hid)
    · exact .inr (hmember _ fields.rootAlias (by simp [RootFields.supplied]) halias)
    · exact .inr (hmember _ fields.status (by simp [RootFields.supplied]) hactive)
    · exact .inl rfl
    · exact .inr (hmember _ fields.targetDigest (by simp [RootFields.supplied]) hdigest)
  · rw [RootFields.payload_get (v := fields.maxBytes) (by simp [RootFields.supplied])]
    exact hbytes
  · rw [RootFields.payload_str (t := "root.register") (by simp [RootFields.supplied])]
    exact List.mem_cons_self
  · rw [RootFields.payload_str (t := fields.status) (by simp [RootFields.supplied]),hstatus]
    exact List.mem_cons_self
  · rw [RootFields.payload_get (v := .str fields.rootIdentity) (by simp [RootFields.supplied])]
    exact hidentity
  · rw [RootFields.payload_get (v := .str fields.targetDigest) (by simp [RootFields.supplied])]
    exact htarget

theorem orRequired_ok {α : Type} {row : Option α} {message : String} {a : α} (h : orRequired row message = .ok a) : row = some a := by
  unfold orRequired at h
  split at h
  · cases h
    rfl
  · cases h

theorem supplied_iff {ref : String} {record : AuthorizationRecord} :
    (["action","project_id","root_id","policy_revision","root_identity","alias","status","max_bytes","target_digest"].all
      fun name => record.payload.get name = (fields.payload ref).get name) = true ↔ ∀ m ∈ fields.supplied, record.payload.get m.1 = m.2 := by
  have hnames : ["action","project_id","root_id","policy_revision","root_identity","alias","status","max_bytes","target_digest"] =
      fields.supplied.map Prod.fst := rfl
  rw [hnames,List.all_eq_true]
  constructor
  · intro h m hm
    have hsame := of_decide_eq_true (h m.1 (List.mem_map_of_mem hm))
    rw [hsame,RootFields.payload_get (List.mem_cons_of_mem _ hm)]
  · intro h name hname
    obtain ⟨m,hm,rfl⟩ := List.mem_map.mp hname
    rw [decide_eq_true_eq,h m hm,RootFields.payload_get (List.mem_cons_of_mem _ hm)]

theorem ref_of_verified {ref : String} {verifiedAt : Option String} {clock : ℤ} {record : AuthorizationRecord}
    (h : verifyStorageRootAuthorizationStatus host s (fields.payload ref) verifiedAt clock = .ok record) : ref ≠ "" := by
  unfold verifyStorageRootAuthorizationStatus at h
  obtain ⟨_,hvalid,-⟩ := except_bind_ok h
  have htext := List.all_eq_true.mp (demand_ok hvalid).2.1 "authorization_ref" List.mem_cons_self
  unfold isText at htext
  rw [RootFields.payload_str (t := ref) List.mem_cons_self] at htext
  rintro rfl
  exact absurd htext (by decide)

/-- A verification answers with the row of the reference, when it is current. -/
theorem verify_register_iff (hexact : fields.Exact) {ref : String} (href : ref ≠ "") {verifiedAt : Option String} {clock : ℤ}
    (hnow : verifiedTime host verifiedAt clock = .ok now) (record : AuthorizationRecord) :
    verifyStorageRootAuthorizationStatus host s (fields.payload ref) verifiedAt clock = .ok record ↔
      loaded s s.rootAuthorizations ref = some record ∧ ∃ approvedAt, Current host s fields now record approvedAt := by
  have hvalid := RootFields.payload_valid hexact href
  have hkey : str host.toStorageHost ((fields.payload ref).get "authorization_ref") = ref := by
    rw [RootFields.payload_get List.mem_cons_self]
    rfl
  unfold verifyStorageRootAuthorizationStatus
  constructor
  · intro h
    obtain ⟨_,-,h⟩ := except_bind_ok h
    obtain ⟨record',hloaded,h⟩ := except_bind_ok h
    obtain ⟨approval,happroval,h⟩ := except_bind_ok h
    obtain ⟨t,ht,h⟩ := except_bind_ok h
    obtain ⟨_,hsupplied,h⟩ := except_bind_ok h
    obtain ⟨approvedAt,hread,h⟩ := except_bind_ok h
    obtain ⟨expiresAt,hexpires,h⟩ := except_bind_ok h
    obtain ⟨_,hactive,h⟩ := except_bind_ok h
    obtain ⟨_,hmatches,h⟩ := except_bind_ok h
    cases h
    obtain rfl : now = t := Except.ok.inj (hnow.symm.trans (timestamp_ok ht))
    obtain ⟨hstatus,hrevoked,happroved,hunexpired⟩ := demand_ok hactive
    rw [hkey] at hloaded
    exact ⟨orRequired_ok hloaded,approvedAt,supplied_iff.mp (demand_ok hsupplied),hstatus,hrevoked,timestamp_ok hread,happroved,
      ⟨expiresAt,timestamp_ok hexpires,hunexpired⟩,approval,orRequired_ok happroval,demand_ok hmatches⟩
  · rintro ⟨hloaded,approvedAt,h⟩
    obtain ⟨expiresAt,hexpires,hunexpired⟩ := h.unexpired
    obtain ⟨approval,happroval,hmatches⟩ := h.approval
    have hpass : ∀ {c : Prop} [Decidable c] {code message : String}, c → demand c code message = .ok () := fun hc => if_pos hc
    dsimp only
    rw [hpass hvalid,hkey,hloaded]
    change (do let approval ← orRequired (s.control.coord.approvals.get? record.approvalId) _; _) = _
    rw [happroval]
    change (do let now ← timestamp (verifiedTime host verifiedAt clock) _; _) = _
    rw [hnow]
    change (do demand _ _ _; _) = _
    rw [hpass (supplied_iff.mpr h.supplied),h.read]
    change (do let expires ← timestamp (time host.toStorageHost (str host.toStorageHost (record.payload.get "expires_at"))) _; _) = _
    rw [hexpires]
    change (do demand _ _ _; demand _ _ _; _) = _
    rw [hpass ⟨h.status,h.unrevoked,h.approved,hunexpired⟩,hpass hmatches]
    rfl

/-! ### The candidate that is taken -/

/-- Every row is filed under the reference it holds. -/
def RootsFiled (s : AuthorizationStore) : Prop :=
  ∀ ref record, s.rootAuthorizations.get? ref = some record → record.payload.get "authorization_ref" = .str ref ∧ ref ≠ ""

theorem payload_of_loaded {table : Dict AuthorizationRecord} {ref : String} {record : AuthorizationRecord}
    (h : loaded s table ref = some record) : ∃ row, table.get? ref = some row ∧ row.payload = record.payload := by
  obtain ⟨row,hrow,hloaded⟩ := Option.map_eq_some_iff.mp h
  refine ⟨row,hrow,?_⟩
  rw [← hloaded]
  split <;> rfl

theorem mem_listed {record : AuthorizationRecord} :
    record ∈ listStorageRootAuthorizations s ↔ ∃ ref, loaded s s.rootAuthorizations ref = some record := by
  unfold listStorageRootAuthorizations
  rw [List.mem_filterMap]
  constructor
  · rintro ⟨ref,-,hloaded⟩
    exact ⟨ref,hloaded⟩
  · rintro ⟨ref,hloaded⟩
    refine ⟨ref,?_,hloaded⟩
    rw [List.mem_insertionSort,Dict.mem_keys_iff]
    obtain ⟨row,hrow,-⟩ := payload_of_loaded hloaded
    exact ⟨row,hrow⟩

theorem pairwise_sorted (chosen : List (ℤ × AuthorizationRecord)) :
    (chosen.insertionSort (laterApproved host)).Pairwise fun a b => b.1 ≤ a.1 := by
  have htotal : Std.Total (laterApproved host) := ⟨fun a b => by
    rcases lt_trichotomy a.1 b.1 with hlt | heq | hlt
    · exact .inr (.inl hlt)
    · rcases le_total (AuthorizationRecord.authorizationRef host a.2).toList
        (AuthorizationRecord.authorizationRef host b.2).toList with hle | hle
      · exact .inr (.inr ⟨heq.symm,hle⟩)
      · exact .inl (.inr ⟨heq,hle⟩)
    · exact .inl (.inl hlt)⟩
  have htrans : IsTrans (ℤ × AuthorizationRecord) (laterApproved host) := ⟨fun a b c hab hbc => by
    rcases hab with hlt | ⟨heq,hle⟩
    · rcases hbc with hlt' | ⟨heq',-⟩
      · exact .inl (hlt'.trans hlt)
      · exact .inl (heq' ▸ hlt)
    · rcases hbc with hlt' | ⟨heq',hle'⟩
      · exact .inl (heq ▸ hlt')
      · exact .inr ⟨heq.trans heq',le_trans hle' hle⟩⟩
  refine (List.pairwise_insertionSort (laterApproved host) chosen).imp fun h => ?_
  rcases h with hlt | ⟨heq,-⟩
  · exact hlt.le
  · exact heq.ge

theorem currentOf_ok {sorted : List (ℤ × AuthorizationRecord)} (hsorted : sorted.Pairwise fun a b => b.1 ≤ a.1)
    {record : AuthorizationRecord} (h : currentOf sorted = .ok record) :
    ∃ approvedAt rest, sorted = (approvedAt,record) :: rest ∧ ∀ other ∈ rest, other.1 < approvedAt := by
  unfold currentOf at h
  split at h
  · cases h
  · next only =>
    cases h
    exact ⟨only.1,[],rfl,nofun⟩
  · next first second rest =>
    split at h
    · cases h
    · next hne =>
      cases h
      obtain ⟨hfirst,hrest⟩ := List.pairwise_cons.mp hsorted
      have hlt : second.1 < first.1 := lt_of_le_of_ne (hfirst second List.mem_cons_self) (Ne.symm hne)
      refine ⟨first.1,second :: rest,rfl,fun other hother => ?_⟩
      rcases List.mem_cons.mp hother with rfl | hother
      · exact hlt
      · exact ((List.pairwise_cons.mp hrest).1 other hother).trans_lt hlt

theorem resolve_ok {resolvedAt : Option String} {clock : String} {record : AuthorizationRecord}
    (hnow : time host.toStorageHost (orElse resolvedAt clock) = .ok now)
    (h : resolveCurrentRootAuthorization host s fields resolvedAt clock = .ok record) :
    fields.Exact ∧ (∃ ref, loaded s s.rootAuthorizations ref = some record) ∧
      ∃ approvedAt, Current host s fields now record approvedAt ∧
        ∀ ref other approvedAt', loaded s s.rootAuthorizations ref = some other → Current host s fields now other approvedAt' →
          other = record ∨ approvedAt' < approvedAt := by
  unfold resolveCurrentRootAuthorization at h
  obtain ⟨_,hexact,h⟩ := except_bind_ok h
  obtain ⟨t,ht,h⟩ := except_bind_ok h
  obtain ⟨chosen,hchosen,htaken⟩ := except_bind_ok h
  obtain rfl : now = t := Except.ok.inj (hnow.symm.trans ht)
  obtain ⟨approvedAt,rest,hsorted,hlater⟩ := currentOf_ok (pairwise_sorted chosen) htaken
  have hmem : ∀ e, e ∈ (approvedAt,record) :: rest ↔ e ∈ chosen := fun e => by rw [← hsorted,List.mem_insertionSort]
  obtain ⟨hlisted,hcurrent⟩ := (mem_candidates hchosen approvedAt record).mp ((hmem _).mp List.mem_cons_self)
  refine ⟨check_ok hexact,mem_listed.mp hlisted,approvedAt,hcurrent,fun ref other approvedAt' hother hcurrent' => ?_⟩
  have hin := (hmem _).mpr ((mem_candidates hchosen approvedAt' other).mpr ⟨mem_listed.mpr ⟨ref,hother⟩,hcurrent'⟩)
  rcases List.mem_cons.mp hin with heq | hin
  · exact .inl (Prod.mk.inj heq).2
  · exact .inr (hlater _ hin)

/-- The record verifies under the reference when it is verified at the time. -/
def VerifiesAt (host : AuthorizationHost) (s : AuthorizationStore) (fields : RootFields) (now : ℤ) (ref : String)
    (record : AuthorizationRecord) : Prop :=
  ∀ verifiedAt clock, verifiedTime host verifiedAt clock = .ok now →
    verifyStorageRootAuthorizationStatus host s (fields.payload ref) verifiedAt clock = .ok record

/-- What holds of the answer of a resolution. -/
structure Resolved (host : AuthorizationHost) (s : AuthorizationStore) (fields : RootFields) (now : ℤ)
    (answer : Except StorageError AuthorizationRecord) : Prop where
  latest : ∀ record, answer = .ok record → ∃ approvedAt, time host.toStorageHost record.approvedAt = .ok approvedAt ∧
    VerifiesAt host s fields now (AuthorizationRecord.authorizationRef host record) record ∧
    ∀ ref other, VerifiesAt host s fields now ref other → ref ≠ AuthorizationRecord.authorizationRef host record →
      ∃ approvedAt', time host.toStorageHost other.approvedAt = .ok approvedAt' ∧ approvedAt' < approvedAt
  tied : ∀ ref ref' record record' approvedAt, ref ≠ ref' → VerifiesAt host s fields now ref record →
    VerifiesAt host s fields now ref' record' → time host.toStorageHost record.approvedAt = .ok approvedAt →
    time host.toStorageHost record'.approvedAt = .ok approvedAt →
    (∀ other r t, VerifiesAt host s fields now other r → time host.toStorageHost r.approvedAt = .ok t → t ≤ approvedAt) →
    ∃ e, answer = .error e

end Host

/-! ### Stored rows -/

/-- The rows that calls on a fresh store leave are filed under the reference they hold. -/
theorem rootsFiled_run (host : AuthorizationHost) (claims : Dict Claim) (crewMessages : Dict CrewMessage)
    (registrations : Dict StorageAdapterRegistration) (events : List StorageEvent) :
    RootsFiled (runEvents host (fresh claims crewMessages registrations) events) := by
  intro ref record hrecord
  obtain ⟨pre,_,_,row,_,-,hrow,-,-,hpayload,-⟩ := (traced host claims crewMessages registrations events).roots ref record hrecord
  obtain ⟨hmem,href⟩ := stageOf_spec hrow
  obtain ⟨_,call,-,haccepted,hstage,hcallRef⟩ := (traced host claims crewMessages registrations pre).staged row hmem
  obtain ⟨_,hchecks,-⟩ := except_bind_ok haccepted
  obtain ⟨_,-,hchecks⟩ := except_bind_ok hchecks
  obtain ⟨_,-,hchecks⟩ := except_bind_ok hchecks
  obtain ⟨_,hidentifiers,-⟩ := except_bind_ok hchecks
  obtain ⟨_,hidentifier,-⟩ := except_bind_ok hidentifiers
  have hvalid := check_ok hidentifier
  have hsame : record.payload = call.payload := by rw [hpayload,hstage]; rfl
  unfold Payload.str? at hvalid
  rw [hsame,← href,hcallRef]
  unfold StageCall.authorizationRef Payload.get
  cases hget : call.payload.get? "authorization_ref" with
  | none =>
    rw [hget] at hvalid
    cases hvalid
  | some v =>
    rw [hget] at hvalid
    cases v with
    | str text =>
      refine ⟨rfl,?_⟩
      rintro hempty
      have htext : text = "" := hempty
      rw [htext] at hvalid
      exact absurd hvalid (by decide +kernel)
    | null => cases hvalid
    | bool b => cases hvalid
    | int n => cases hvalid
    | float f => cases hvalid
    | arr items => cases hvalid
    | obj members => cases hvalid

/-! ### Resolving and verifying -/

/-- What a resolution answers with verifies, and was approved after everything else that verifies; where two were approved
last, it raises. -/
theorem resolved_verifies (host : AuthorizationHost) {s : AuthorizationStore} (hfiled : RootsFiled s) (fields : RootFields)
    {resolvedAt : Option String} {clock : String} {now : ℤ} (hnow : time host.toStorageHost (orElse resolvedAt clock) = .ok now) :
    Resolved host s fields now (resolveCurrentRootAuthorization host s fields resolvedAt clock) := by
  have hclock : verifiedTime host none now = .ok now := rfl
  -- a row that is loaded holds its reference
  have hrefs : ∀ ref record, loaded s s.rootAuthorizations ref = some record →
      AuthorizationRecord.authorizationRef host record = ref ∧ ref ≠ "" := by
    intro ref record hloaded
    obtain ⟨row,hrow,hpayload⟩ := payload_of_loaded hloaded
    obtain ⟨href,hne⟩ := hfiled ref row hrow
    refine ⟨?_,hne⟩
    unfold AuthorizationRecord.authorizationRef
    rw [← hpayload,href]
    rfl
  have hlatest : ∀ record, resolveCurrentRootAuthorization host s fields resolvedAt clock = .ok record →
      ∃ approvedAt, time host.toStorageHost record.approvedAt = .ok approvedAt ∧
        VerifiesAt host s fields now (AuthorizationRecord.authorizationRef host record) record ∧
        ∀ ref other, VerifiesAt host s fields now ref other → ref ≠ AuthorizationRecord.authorizationRef host record →
          ∃ approvedAt', time host.toStorageHost other.approvedAt = .ok approvedAt' ∧ approvedAt' < approvedAt := by
    intro record h
    obtain ⟨hexact,⟨ref,hloaded⟩,approvedAt,hcurrent,hothers⟩ := resolve_ok hnow h
    obtain ⟨rfl,hne⟩ := hrefs ref record hloaded
    refine ⟨approvedAt,hcurrent.read,fun verifiedAt clock' ht => (verify_register_iff hexact hne ht record).mpr ⟨hloaded,approvedAt,hcurrent⟩,?_⟩
    intro ref other hverifies hother
    have hverified := hverifies none now hclock
    obtain ⟨hloaded',approvedAt',hcurrent'⟩ := (verify_register_iff hexact (ref_of_verified hverified) hclock other).mp hverified
    refine ⟨approvedAt',hcurrent'.read,(hothers ref other approvedAt' hloaded' hcurrent').resolve_left ?_⟩
    rintro rfl
    exact hother (hrefs ref other hloaded').1.symm
  refine ⟨hlatest,?_⟩
  intro ref ref' record record' approvedAt hne hverifies hverifies' hread hread' hlast
  cases hanswer : resolveCurrentRootAuthorization host s fields resolvedAt clock with
  | error e => exact ⟨e,rfl⟩
  | ok chosen =>
    obtain ⟨t,ht,hchosen,hothers⟩ := hlatest chosen hanswer
    have hle := hlast _ chosen t hchosen ht
    have hdifferent : ∀ other r, VerifiesAt host s fields now other r → time host.toStorageHost r.approvedAt = .ok approvedAt →
        other = AuthorizationRecord.authorizationRef host chosen := by
      intro other r hother hr
      by_contra hno
      obtain ⟨t',ht',hlt⟩ := hothers other r hother hno
      obtain rfl := Except.ok.inj (hr.symm.trans ht')
      exact absurd hle (not_le.mpr hlt)
    exact absurd ((hdifferent ref record hverifies hread).trans (hdifferent ref' record' hverifies' hread').symm) hne

/-- The host on the times that occur here; one of them is written at two offsets. -/
def grantHost : AuthorizationHost where
  sha256 := fun text => text
  fromisoformat := fun text =>
    if text = "2026-01-02T00:00:00+00:00" ∨ text = "2026-01-02T02:00:00+02:00" then some (true,1767312000000000)
    else if text = "2026-01-03T00:00:00+00:00" then some (true,1767398400000000)
    else if text = "2026-02-01T00:00:00+00:00" then some (true,1769904000000000)
    else if text = "2027-01-01T00:00:00+00:00" then some (true,1798761600000000)
    else none
  repr := fun _ => ""
  isoformat := fun _ => ""

def grantFields : RootFields where
  projectId := "project-1"
  rootId := "root-1"
  policyRevision := "policy-1"
  rootIdentity := "sha256:0000000000000000000000000000000000000000000000000000000000000000"
  rootAlias := "archive"
  status := "active"
  maxBytes := .int 1024
  targetDigest := "sha256:1111111111111111111111111111111111111111111111111111111111111111"

/-- A row of these fields, under the approval of its own name. -/
def grantRow (ref approvedAt : String) : AuthorizationRecord where
  payload := .ofList (("expires_at",.str "2027-01-01T00:00:00+00:00") :: ("authorization_ref",.str ref) :: grantFields.supplied)
  approvalId := ref
  approvedAt := approvedAt

def grantApproval (ref : String) : ApprovalRequest where
  id := ref
  subjectId := ref
  approvalLevel := .human
  requesterThread := "project-1"
  ownerDomain := .obrien
  reason := "root"
  status := .approved

/-- Two authorizations of the same fields, the second one approved at `second`. -/
def grantStore (second : String) : AuthorizationStore where
  control := { coord := { approvals := (Dict.empty.set "grant-1" (grantApproval "grant-1")).set "grant-2" (grantApproval "grant-2") } }
  rootAuthorizations := (Dict.empty.set "grant-1" (grantRow "grant-1" "2026-01-02T00:00:00+00:00")).set "grant-2"
    (grantRow "grant-2" second)

/-- What is resolved on the first of February. -/
def resolveGrant (second : String) : Except StorageError AuthorizationRecord :=
  resolveCurrentRootAuthorization grantHost (grantStore second) grantFields (some "2026-02-01T00:00:00+00:00") ""

theorem loaded_grant {second ref : String} {record : AuthorizationRecord} :
    loaded (grantStore second) (grantStore second).rootAuthorizations ref = some record ↔
      (ref = "grant-1" ∧ record = grantRow "grant-1" "2026-01-02T00:00:00+00:00") ∨ (ref = "grant-2" ∧ record = grantRow "grant-2" second) := by
  change (((Dict.empty.set "grant-1" (grantRow "grant-1" "2026-01-02T00:00:00+00:00")).set "grant-2" (grantRow "grant-2" second)).get? ref).map
    (fun record => record) = some record ↔ _
  rw [Dict.get?_set,Dict.get?_set]
  by_cases hfirst : "grant-1" = ref
  · subst hfirst
    simp [eq_comm]
  · by_cases hsecond : "grant-2" = ref
    · subst hsecond
      simp [eq_comm]
    · simp [Ne.symm hfirst,Ne.symm hsecond]

theorem rootsFiled_grant (second : String) : RootsFiled (grantStore second) := by
  intro ref record h
  have hloaded : loaded (grantStore second) (grantStore second).rootAuthorizations ref = some record := by
    unfold loaded
    rw [h]
    rfl
  obtain ⟨rfl,rfl⟩ | ⟨rfl,rfl⟩ := loaded_grant.mp hloaded
  · exact ⟨rfl,by decide⟩
  · exact ⟨rfl,by decide⟩

/-- Both rows verify on the first of February, and nothing else does. -/
theorem verifiesAt_grant {second ref : String} {record : AuthorizationRecord} {t : ℤ}
    (hread : time grantHost.toStorageHost second = .ok t) (ht : t ≤ 1769904000000000) :
    VerifiesAt grantHost (grantStore second) grantFields 1769904000000000 ref record ↔
      (ref = "grant-1" ∧ record = grantRow "grant-1" "2026-01-02T00:00:00+00:00") ∨ (ref = "grant-2" ∧ record = grantRow "grant-2" second) := by
  have hexact : grantFields.Exact := by decide +kernel
  have hexpires : ∃ expiresAt, time grantHost.toStorageHost "2027-01-01T00:00:00+00:00" = .ok expiresAt ∧ (1769904000000000 : ℤ) < expiresAt :=
    ⟨1798761600000000,by rfl,by decide⟩
  constructor
  · intro h
    have hverified := h none 1769904000000000 rfl
    exact loaded_grant.mp ((verify_register_iff hexact (ref_of_verified hverified) rfl record).mp hverified).1
  · intro h verifiedAt clock hnow
    have hne : ref ≠ "" := by
      obtain ⟨rfl,-⟩ | ⟨rfl,-⟩ := h
      · decide
      · decide
    refine (verify_register_iff hexact hne hnow record).mpr ⟨loaded_grant.mpr h,?_⟩
    obtain ⟨rfl,rfl⟩ | ⟨rfl,rfl⟩ := h
    · exact ⟨1767312000000000,by decide +kernel,rfl,rfl,rfl,by decide,hexpires,grantApproval "grant-1",rfl,rfl,rfl,rfl⟩
    · have hsupplied : ∀ m ∈ grantFields.supplied, (grantRow "grant-2" "").payload.get m.1 = m.2 := by decide +kernel
      exact ⟨t,hsupplied,rfl,rfl,hread,ht,hexpires,grantApproval "grant-2",rfl,rfl,rfl,rfl⟩

/-- The one approved a day later is resolved, and verifies like the earlier one; approved at the same moment, neither is. -/
theorem resolved_verifies_grants :
    (∃ record, resolveGrant "2026-01-03T00:00:00+00:00" = .ok record ∧ AuthorizationRecord.authorizationRef grantHost record = "grant-2" ∧
      VerifiesAt grantHost (grantStore "2026-01-03T00:00:00+00:00") grantFields 1769904000000000 "grant-2" record ∧
      ∃ other, VerifiesAt grantHost (grantStore "2026-01-03T00:00:00+00:00") grantFields 1769904000000000 "grant-1" other ∧
        ∃ t t', time grantHost.toStorageHost record.approvedAt = .ok t ∧ time grantHost.toStorageHost other.approvedAt = .ok t' ∧ t' < t) ∧
    ∃ e, resolveGrant "2026-01-02T02:00:00+02:00" = .error e := by
  have hlater : time grantHost.toStorageHost "2026-01-03T00:00:00+00:00" = .ok 1767398400000000 := rfl
  have hsame : time grantHost.toStorageHost "2026-01-02T02:00:00+02:00" = .ok 1767312000000000 := rfl
  constructor
  · obtain ⟨record,hresolved,href⟩ : ∃ record, resolveGrant "2026-01-03T00:00:00+00:00" = .ok record ∧
        AuthorizationRecord.authorizationRef grantHost record = "grant-2" := by
      have hanswer : (resolveGrant "2026-01-03T00:00:00+00:00").toOption.map (AuthorizationRecord.authorizationRef grantHost) =
          some "grant-2" := by decide +kernel
      cases hresolved : resolveGrant "2026-01-03T00:00:00+00:00" with
      | error e =>
        rw [hresolved] at hanswer
        cases hanswer
      | ok record =>
        rw [hresolved] at hanswer
        exact ⟨record,rfl,Option.some.inj hanswer⟩
    have hother := (verifiesAt_grant hlater (by decide)).mpr (.inl ⟨rfl,rfl⟩)
    obtain ⟨t,hread,hverifies,hbefore⟩ := (resolved_verifies grantHost (rootsFiled_grant _) grantFields rfl).latest record hresolved
    rw [href] at hverifies hbefore
    obtain ⟨t',hread',hlt⟩ := hbefore _ _ hother (by decide)
    exact ⟨record,hresolved,href,hverifies,_,hother,t,t',hread,hread',hlt⟩
  · refine (resolved_verifies grantHost (rootsFiled_grant _) grantFields rfl).tied "grant-1" "grant-2" _ _ 1767312000000000 (by decide)
      ((verifiesAt_grant hsame (by decide)).mpr (.inl ⟨rfl,rfl⟩)) ((verifiesAt_grant hsame (by decide)).mpr (.inr ⟨rfl,rfl⟩)) rfl rfl ?_
    intro other r t hverifies hread
    obtain ⟨rfl,rfl⟩ | ⟨rfl,rfl⟩ := (verifiesAt_grant hsame (by decide)).mp hverifies
    · exact (Except.ok.inj hread).ge
    · exact (Except.ok.inj (hsame.symm.trans hread)).ge

end StorageControl
end Overseer.Core
