import Overseer.Psychlo.Telemetry

/-! # Adoption records and the messages they become

A registry candidate or the evidence of an adoption is parsed, projected to the message that
goes to the peer, and stored as that message. Recovery fills in the members that the
projection drops, parses the result and projects again.
-/
namespace Overseer.Psychlo
open Overseer.Library Overseer.Agent

/-! ### The contracts -/

def registrySchema : String := "psychlo.registry-candidate.v1"
def adoptionSchema : String := "psychlo.adoption-evidence.v1"

def evidenceKinds : List String := ["registry","repository","artifact","application","team","ownership","plan","lead",
  "checkpoint","security"]

def securityReasons : List String := ["unsafe-files","unsafe-modes","symlinks","secrets","personal-exports","oversized-data"]

/-- `REASONS`. -/
def adoptionReasons : List String := ["registry","canonical-repository","repository-missing","deployable-artifact",
  "artifact-missing","application-purpose","application-purpose-missing","team-baseline","active-plan","plan-missing","lead",
  "lead-missing","checkpoint","checkpoint-missing","ownership","license","ownership-missing","license-missing"] ++
  securityReasons ++ ["dirty-repository","contradictory-history"]

def applicationPurposes : List String := ["service","application","library","cli","web"]
def licenseKinds : List String := ["MIT","Apache-2.0","BSD-2-Clause","BSD-3-Clause","GPL-3.0","proprietary"]

/-- `any(item not in choices for item in items)`. -/
def strangerIn (choices : List String) (items : List Json) : Check Bool :=
  items.anyM fun v => do return !(← memberOf v choices)

def registryRequired : List String := ["candidateId","targetProjectId","registryId","registryDigest","evidenceIds",
  "evidenceDigests","evidenceKinds","canonical","sourceId","messageId","correlationId","idempotencyKey","occurredAt",
  "schemaVersion"]

/-- What is checked of a candidate once its identities are. -/
def registryContent (value : Payload) : Check Unit := do
  discard <| digestField (value.get "registryDigest") "registryDigest"
  Host.arrayField isId (value.get "evidenceIds") "evidenceIds"
  match value.get "evidenceIds",value.get "evidenceDigests",value.get "evidenceKinds" with
  | .arr ids,.arr digests,.arr kinds => do
    check (ids ≠ [] ∧ ids.length = digests.length ∧ ids.length = kinds.length ∧ ids.length ≤ 64)
      (valueError "registry evidence arrays are invalid")
    digests.forM fun v => do discard <| digestField v "evidence digest"
    let stranger ← strangerIn evidenceKinds kinds
    check (stranger = false ∧ value.get "canonical" = .bool true) (valueError "registry candidate evidence is invalid")
  | _,_,_ => .error (valueError "registry evidence arrays are invalid")

def Host.parseRegistryCandidate (host : Host) (payload : Payload) : Check Payload := do
  host.common payload registrySchema registryRequired registryRequired "registry candidate"
  ["candidateId","targetProjectId","registryId","messageId"].forM fun k => do discard <| idField (payload.get k) k
  registryContent payload
  return payload

def adoptionExpectedKind (reason : String) : String :=
  if reason = "registry" then "registry"
  else if reason ∈ ["canonical-repository","repository-missing","dirty-repository","contradictory-history"] then "repository"
  else if reason ∈ ["deployable-artifact","artifact-missing"] then "artifact"
  else if reason ∈ ["application-purpose","application-purpose-missing"] then "application"
  else if reason = "team-baseline" then "team"
  else if reason ∈ ["active-plan","plan-missing"] then "plan"
  else if reason ∈ ["lead","lead-missing"] then "lead"
  else if reason ∈ ["checkpoint","checkpoint-missing"] then "checkpoint"
  else if reason ∈ securityReasons then "security"
  else "ownership"

/-- A reference to evidence, of the kind and for the reason that are expected where they are. -/
def adoptionReference (expected : Option (String × String)) (v : Json) : Check Unit := do
  let invalid := valueError "evidence reference is invalid"
  let reference ← object v "evidence reference"
  onlyKeys reference ["reason","kind","evidenceId","digest"] "evidence reference"
  let reasonKnown ← memberOf (reference.get "reason") adoptionReasons
  check (reasonKnown = true) invalid
  let kindKnown ← memberOf (reference.get "kind") evidenceKinds
  check (kindKnown = true ∧ reference.get "kind" = .str (adoptionExpectedKind (reference.get "reason").text)) invalid
  check (∀ e ∈ expected, reference.get "kind" = .str e.1) (valueError "evidence reference kind is invalid")
  check (∀ e ∈ expected, reference.get "reason" = .str e.2) (valueError "evidence reference reason is invalid")
  discard <| idField (reference.get "evidenceId") "evidenceId"
  discard <| digestField (reference.get "digest") "evidence digest"

/-- What a fact has to say and may say, and what its reference is for. -/
structure FactRule where
  field : String
  required : List String
  optional : List String
  reason : String

/-- The members of a fact that refer to evidence. -/
def FactRule.references (rule : FactRule) : List String :=
  if rule.field = "ownership" then ["evidenceRef","licenseEvidenceRef"] else ["evidenceRef"]

def factRules : List FactRule := [⟨"repository",["present","canonical","clean","status"],["digest"],"canonical-repository"⟩,
  ⟨"artifact",["present","deployable"],["digest"],"deployable-artifact"⟩,
  ⟨"application",["present","provenanceTrusted"],["purpose"],"application-purpose"⟩,
  ⟨"team",["present","authoritative","provenanceTrusted"],["teamId","leadId"],"team-baseline"⟩,
  ⟨"ownership",["trusted","provenanceTrusted"],["license"],"ownership"⟩,
  ⟨"plan",["present","status"],["planId","planVersion"],"active-plan"⟩,
  ⟨"lead",["resolved","authoritative"],["leadId","teamId"],"lead"⟩,
  ⟨"checkpoint",["present","state"],["checkpointId","threadId"],"checkpoint"⟩]

/-- The members of a fact that are yes or no; the others are texts. -/
def factFlags : List String := ["present","canonical","clean","deployable","provenanceTrusted","authoritative","trusted","resolved"]

/-- `_adoption_fact`. The kind of a fact is the name of its field. -/
def adoptionFact (rule : FactRule) (v : Json) : Check Unit := do
  let fact ← object v s!"{rule.field} evidence"
  onlyKeys fact (rule.required ++ rule.optional ++ rule.references) s!"{rule.field} evidence"
  rule.required.forM fun k => check (if k ∈ factFlags then fact.get k = .bool true ∨ fact.get k = .bool false
    else ∃ s, (fact.get k).asStr? = some s ∧ s ≠ "") (valueError s!"{rule.field} evidence is invalid")
  rule.optional.forM fun k => Host.optionally fact k fun v => do
    if k = "digest" then discard <| digestField v s!"{rule.field} digest"
    else discard <| idField v s!"{rule.field} {k}"
  Host.optionally fact "evidenceRef" (adoptionReference (some (rule.field,rule.reason)))
  Host.optionally fact "licenseEvidenceRef" (adoptionReference (some ("ownership","license")))
  check (¬ (rule.field = "ownership" ∧ "license" ∈ fact.keys ∧ "licenseEvidenceRef" ∉ fact.keys))
    (valueError "ownership license evidence is missing")

/-- The member of a fact is one of the choices. -/
def factChoice (value : Payload) (field k message : String) (choices : List String) (always : Bool) : Check Unit :=
  match Payload.ofJson? (value.get field) with
  | some fact =>
    if always = true ∨ k ∈ fact.keys then do
      let known ← memberOf (fact.get k) choices
      check (known = true) (valueError message)
    else .ok ()
  | none => .ok ()

def adoptionSecurity (v : Json) : Check Unit := do
  let security ← object v "security"
  onlyKeys security ["reasons","evidence"] "security"
  match security.get "reasons",security.get "evidence" with
  | .arr reasons,.arr references => do
    check (reasons.length ≤ 64 ∧ references.length = reasons.length) (valueError "security evidence is invalid")
    let stranger ← strangerIn securityReasons reasons
    check (stranger = false) (valueError "security evidence is invalid")
    (reasons.zip references).forM fun e => adoptionReference (some ("security",e.1.text)) e.2
  | _,_ => .error (valueError "security evidence is invalid")

def adoptionContradictions (v : Json) : Check Unit :=
  match v with
  | .arr reasons => do
    check (reasons.length ≤ 64) (valueError "adoption contradictions are invalid")
    let stranger ← strangerIn ["dirty-repository","contradictory-history"] reasons
    check (stranger = false) (valueError "adoption contradictions are invalid")
  | _ => .error (valueError "adoption contradictions are invalid")

/-- Run the check unless the value is null. -/
def unlessNull (v : Json) (test : Json → Check Unit) : Check Unit := if v = .null then .ok () else test v

def adoptionRegistry (v : Json) : Check Unit := do
  let registry ← object v "registry"
  onlyKeys registry ["registryId","registryDigest","evidenceIds","canonical"] "registry"
  discard <| idField (registry.get "registryId") "registryId"
  discard <| digestField (registry.get "registryDigest") "registryDigest"
  check (registry.get "canonical" = .bool true) (valueError "registry is not canonical")
  Host.arrayField isId (registry.get "evidenceIds") "registry evidenceIds"
  check (registry.get "evidenceIds" ≠ .arr []) (valueError "registry evidenceIds are invalid")

def adoptionReferences (v : Json) : Check Unit :=
  match v with
  | .arr references => do
    check (references ≠ [] ∧ references.length ≤ 64) (valueError "adoption evidence references are invalid")
    references.forM (adoptionReference none)
  | _ => .error (valueError "adoption evidence references are invalid")

def adoptionFactNames : List String := factRules.map (·.field) ++ ["security","contradictions"]

def adoptionOuter : List String := ["candidateId","assessmentId","evidence","sourceId","messageId","correlationId","idempotencyKey",
  "occurredAt","schemaVersion"]

def adoptionRequired : List String := "registry" :: adoptionOuter

/-- The members of the nested form. -/
def adoptionInner : List String := ["candidateId","registry"] ++ adoptionFactNames ++ ["evidence"]

/-- What is checked of the evidence once its members are told apart. -/
def adoptionContent (value : Payload) : Check Unit := do
  discard <| idField (value.get "candidateId") "candidateId"
  discard <| idField (value.get "assessmentId") "assessmentId"
  adoptionRegistry (value.get "registry")
  adoptionReferences (value.get "evidence")
  factRules.forM fun rule => unlessNull (value.get rule.field) (adoptionFact rule)
  factChoice value "repository" "status" "repository status is invalid" ["known","unknown"] true
  factChoice value "plan" "status" "plan status is invalid" ["approved","in-progress","none"] true
  factChoice value "checkpoint" "state" "checkpoint state is invalid" ["pending","uncertain","none"] true
  factChoice value "application" "purpose" "application purpose is invalid" applicationPurposes false
  factChoice value "ownership" "license" "ownership license is invalid" licenseKinds false
  unlessNull (value.get "security") adoptionSecurity
  unlessNull (value.get "contradictions") adoptionContradictions

namespace Host
variable (host : Host)

/-- The evidence with the members of its nested form in their places. -/
def flatEvidence (value : Payload) : Check Payload :=
  match Payload.ofJson? (value.get "evidence") with
  | some inner => do
    host.common value adoptionSchema adoptionOuter adoptionOuter "adoption evidence"
    onlyKeys inner adoptionInner "adoption classification evidence"
    check ((inner.get "candidateId").alike (value.get "candidateId") = true) (valueError "adoption candidate identity conflict")
    return value.merge inner.entries
  | none => .ok value

def parseAdoptionEvidence (payload : Payload) : Check Payload := do
  let value ← host.flatEvidence payload
  host.common value adoptionSchema adoptionRequired (adoptionRequired ++ adoptionFactNames) "adoption evidence"
  adoptionContent value
  return value

/-! ### The messages -/

def registryWireKeys : List String := ["candidateId","projectId","targetProjectId","registryId","registryDigest","evidenceIds",
  "evidenceDigests","evidenceKinds","canonical","correlationId","idempotencyKey","occurredAt"]

def registryWirePayload (candidate : Payload) : Payload := .ofList (candidate.select registryWireKeys)

def adoptionWireKeys : List String := ["candidateId","assessmentId","correlationId","idempotencyKey","occurredAt"]

def adoptionWirePayload (evidence : Payload) : Payload :=
  (Payload.ofList (evidence.select adoptionWireKeys)).set "evidence" (.obj (evidence.select adoptionInner))

/-- What recovery fills in: the message is named after the record. -/
def refilled (payload : Payload) (name schema id : String) : Payload :=
  ((payload.set "sourceId" (.str "overseer")).set "messageId" (.str (((payload.get? name).map Json.text).getD id))).set
    "schemaVersion" (.str schema)

/-- The message that recovery makes of a stored record. -/
def adoptionWire (kind : ProtocolKind) (id : String) (payload : Payload) : Check Payload :=
  match kind with
  | .registryCandidate => do
    let candidate ← host.parseRegistryCandidate (refilled payload "candidateId" registrySchema id)
    return registryWirePayload candidate
  | .adoptionEvidence => do
    let evidence ← host.parseAdoptionEvidence (refilled payload "assessmentId" adoptionSchema id)
    return adoptionWirePayload evidence
  | _ => .error (valueError "unsupported adoption record")

end Host

/-! ### Selected members -/

section Select
variable {p q : Payload} {keys : List String} {k : String}

theorem select_congr (h : ∀ k ∈ keys, p.get? k = q.get? k) : p.select keys = q.select keys :=
  List.filterMap_congr fun k hk => by rw [h k hk]

theorem select_keys (p : Payload) (keys : List String) : (p.select keys).map Prod.fst = keys.filter fun k => (p.get? k).isSome := by
  induction keys with
  | nil => rfl
  | cons k rest ih =>
    unfold Payload.select at ih ⊢
    cases hk : p.get? k with
    | none => simpa [hk] using ih
    | some v => simpa [hk] using ih

theorem select_nodup (p : Payload) (h : keys.Nodup) : ((p.select keys).map Prod.fst).Nodup :=
  select_keys p keys ▸ h.filter _

theorem mem_select {v : Json} : (k,v) ∈ p.select keys ↔ k ∈ keys ∧ p.get? k = some v := by
  simp only [Payload.select,List.mem_filterMap,Option.map_eq_some_iff,Prod.mk.injEq]
  constructor
  · rintro ⟨k',hk',v',hv',rfl,rfl⟩
    exact ⟨hk',hv'⟩
  · rintro ⟨hk,hv⟩
    exact ⟨k,hk,v,hv,rfl,rfl⟩

theorem get?_merge_select (d p : Payload) (h : keys.Nodup) (k : String) :
    (d.merge (p.select keys)).get? k = if k ∈ keys ∧ (p.get? k).isSome then p.get? k else d.get? k := by
  split
  · next hk =>
    obtain ⟨v,hv⟩ := Option.isSome_iff_exists.mp hk.2
    rw [hv]
    exact Dict.get?_merge_of_mem d (select_nodup p h) (mem_select.mpr ⟨hk.1,hv⟩)
  · next hk =>
    refine Dict.get?_merge_of_notMem d k fun hmem => hk ?_
    rw [select_keys,List.mem_filter] at hmem
    exact hmem

theorem get?_ofList_select (p : Payload) (h : keys.Nodup) (k : String) :
    (Payload.ofList (p.select keys)).get? k = if k ∈ keys then p.get? k else none := by
  refine (get?_merge_select Dict.empty p h k).trans ?_
  cases p.get? k <;> simp

end Select

/-! ### The shared members -/

/-- What the shared checks make sure of. -/
structure Host.Common (host : Host) (value : Payload) (schema : String) (required allowed : List String) : Prop where
  present : ∀ k ∈ required, k ∈ value.keys
  known : ∀ k ∈ value.keys, k ∈ allowed
  source : value.get "sourceId" = .str "overseer"
  correlationId : (idField (value.get "correlationId") "correlationId").isOk = true
  idempotencyKey : (idField (value.get "idempotencyKey") "idempotencyKey").isOk = true
  occurredAt : (host.timestampField (value.get "occurredAt") "occurredAt").isOk = true
  version : value.get "schemaVersion" = .str schema

section Common
variable {host : Host} {p q : Payload} {schema name : String} {required allowed : List String}

theorem discard_ok {α : Type} {x : Check α} : (discard x : Check Unit) = .ok () ↔ x.isOk = true := by
  cases x <;> simp [discard,Functor.discard,Functor.mapConst,Except.isOk,Except.toBool,Except.map]

theorem passed_bind {x : Check Unit} {y : Check Unit} : (x >>= fun _ => y) = .ok () ↔ x = .ok () ∧ y = .ok () := by
  constructor
  · intro h
    obtain ⟨_,hx,hy⟩ := check_bind h
    exact ⟨hx,hy⟩
  · rintro ⟨hx,hy⟩
    rw [bind_of_passed hx]
    exact hy

theorem common_ok : host.common p schema required allowed name = .ok () ↔ host.Common p schema required allowed := by
  unfold Host.common onlyKeys
  simp only [passed_bind,check_ok,discard_ok]
  constructor
  · rintro ⟨h,h',h'',hc,hi,ho,hv⟩
    exact ⟨h,h',h'',hc,hi,ho,hv⟩
  · rintro ⟨h,h',h'',hc,hi,ho,hv⟩
    exact ⟨h,h',h'',hc,hi,ho,hv⟩

/-- Only the members that are read matter. -/
theorem Host.Common.congr {required' allowed' : List String} (h : host.Common p schema required allowed)
    (hpresent : ∀ k ∈ required', k ∈ q.keys) (hknown : ∀ k ∈ q.keys, k ∈ allowed') (hsource : q.get "sourceId" = .str "overseer")
    (hversion : q.get "schemaVersion" = .str schema)
    (hsame : ∀ k ∈ ["correlationId","idempotencyKey","occurredAt"], q.get? k = p.get? k) :
    host.Common q schema required' allowed' where
  present := hpresent
  known := hknown
  source := hsource
  correlationId := by
    unfold Payload.get
    rw [hsame "correlationId" (by decide)]
    exact h.correlationId
  idempotencyKey := by
    unfold Payload.get
    rw [hsame "idempotencyKey" (by decide)]
    exact h.idempotencyKey
  occurredAt := by
    unfold Payload.get
    rw [hsame "occurredAt" (by decide)]
    exact h.occurredAt
  version := hversion

/-- The members that recovery fills in. -/
def filledKeys : List String := ["sourceId","messageId","schemaVersion"]

theorem get?_refilled (p : Payload) (member id : String) {k : String} (h : k ∉ filledKeys) :
    (Host.refilled p member schema id).get? k = p.get? k := by
  simp only [filledKeys,List.mem_cons,List.not_mem_nil,or_false,not_or] at h
  unfold Host.refilled
  rw [Dict.get?_set,if_neg h.2.2,Dict.get?_set,if_neg h.2.1,Dict.get?_set,if_neg h.1]

theorem source_refilled (p : Payload) (member id : String) :
    (Host.refilled p member schema id).get "sourceId" = .str "overseer" := by
  simp [Host.refilled,Payload.get]

theorem version_refilled (p : Payload) (member id : String) :
    (Host.refilled p member schema id).get "schemaVersion" = .str schema := by
  simp [Host.refilled,Payload.get]

theorem mem_keys_refilled (p : Payload) (member id k : String) :
    k ∈ (Host.refilled p member schema id).keys ↔ k ∈ filledKeys ∨ k ∈ p.keys := by
  by_cases hk : k ∈ filledKeys
  · simp only [hk,true_or,iff_true]
    rw [Dict.mem_keys_iff]
    simp only [filledKeys,List.mem_cons,List.not_mem_nil,or_false] at hk
    unfold Host.refilled
    rcases hk with rfl | rfl | rfl
    · exact ⟨.str "overseer",by simp⟩
    · exact ⟨.str (((p.get? member).map Json.text).getD id),by simp⟩
    · exact ⟨.str schema,by simp⟩
  · simp only [hk,false_or,Dict.mem_keys_iff,get?_refilled p member id hk]

end Common

/-! ### Candidates -/

theorem registryContent_congr {p q : Payload} (h : ∀ k ∈ Host.registryWireKeys, q.get? k = p.get? k) :
    registryContent q = registryContent p := by
  unfold registryContent Payload.get
  rw [h "registryDigest" (by decide),h "evidenceIds" (by decide),h "evidenceDigests" (by decide),h "evidenceKinds" (by decide),
    h "canonical" (by decide)]

/-- What the contract of a candidate makes sure of. -/
structure Host.Candidate (host : Host) (value : Payload) : Prop where
  common : host.Common value registrySchema registryRequired registryRequired
  ids : ∀ k ∈ ["candidateId","targetProjectId","registryId","messageId"], (idField (value.get k) k).isOk = true
  content : registryContent value = .ok ()

section Candidate
variable {host : Host} {p c : Payload}

theorem forM_passed {α : Type} {f : α → Check Unit} {l : List α} : l.forM f = .ok () ↔ ∀ a ∈ l, f a = .ok () := by
  refine ⟨forM_ok,fun h => ?_⟩
  induction l with
  | nil => rfl
  | cons a rest ih =>
    refine passed_bind.mpr ⟨h a List.mem_cons_self,ih fun b hb => h b (List.mem_cons_of_mem _ hb)⟩

theorem forM_congr {α : Type} {f g : α → Check Unit} {l : List α} (h : ∀ a ∈ l, f a = g a) : l.forM f = l.forM g := by
  induction l with
  | nil => rfl
  | cons a rest ih =>
    have hrest := ih fun b hb => h b (List.mem_cons_of_mem _ hb)
    change (f a >>= fun _ => rest.forM f) = (g a >>= fun _ => rest.forM g)
    rw [h a List.mem_cons_self,hrest]

theorem parseRegistryCandidate_ok : host.parseRegistryCandidate p = .ok c ↔ c = p ∧ host.Candidate p := by
  unfold Host.parseRegistryCandidate
  constructor
  · intro h
    obtain ⟨_,hcommon,h⟩ := check_bind h
    obtain ⟨_,hids,h⟩ := check_bind h
    obtain ⟨_,hcontent,h⟩ := check_bind h
    cases h
    exact ⟨rfl,common_ok.mp hcommon,fun k hk => discard_ok.mp (forM_ok hids k hk),hcontent⟩
  · rintro ⟨rfl,hcommon,hids,hcontent⟩
    rw [bind_of_passed (common_ok.mpr hcommon),bind_of_passed (forM_passed.mpr fun k hk => discard_ok.mpr (hids k hk)),
      bind_of_passed hcontent]
    rfl

theorem registryWireKeys_nodup : Host.registryWireKeys.Nodup := by decide

theorem get?_registryWire (p : Payload) (k : String) :
    (Host.registryWirePayload p).get? k = if k ∈ Host.registryWireKeys then p.get? k else none :=
  get?_ofList_select p registryWireKeys_nodup k

theorem Host.Candidate.named (h : host.Candidate p) : ∃ id, p.get? "candidateId" = some (.str id) := by
  have hid := h.ids "candidateId" (by decide)
  obtain ⟨v,hv⟩ := (Dict.mem_keys_iff _ _).mp (h.common.present "candidateId" (by decide))
  simp only [Payload.get,hv,Option.getD_some] at hid
  cases v with
  | str s => exact ⟨s,hv⟩
  | _ => cases hid

theorem get?_refilledWire {id k : String} (h : k ∈ Host.registryWireKeys) :
    (Host.refilled (Host.registryWirePayload p) "candidateId" registrySchema id).get? k = p.get? k := by
  have hfilled : ∀ k ∈ Host.registryWireKeys, k ∉ filledKeys := by decide
  rw [get?_refilled _ _ _ (hfilled k h),get?_registryWire,if_pos h]

/-- The message of a candidate, filled in, is a candidate again. -/
theorem Host.Candidate.refilled (h : host.Candidate p) (id : String) :
    host.Candidate (Host.refilled (Host.registryWirePayload p) "candidateId" registrySchema id) := by
  have hsplit : ∀ k ∈ registryRequired, k ∈ filledKeys ∨ k ∈ Host.registryWireKeys := by decide
  have hfilled : ∀ k ∈ filledKeys, k ∈ registryRequired := by decide
  have hwire : ∀ k ∈ ["correlationId","idempotencyKey","occurredAt","candidateId","targetProjectId","registryId"],
      k ∈ Host.registryWireKeys := by decide
  refine ⟨h.common.congr (fun k hk => ?_) (fun k hk => ?_) (source_refilled _ _ _)
    (version_refilled _ _ _) (fun k hk => ?_),fun k hk => ?_,?_⟩
  · rw [mem_keys_refilled]
    refine (hsplit k hk).imp_right fun hk' => ?_
    rw [Dict.mem_keys_iff,get?_registryWire,if_pos hk',← Dict.mem_keys_iff]
    exact h.common.present k hk
  · rcases (mem_keys_refilled _ _ _ _).mp hk with hk | hk
    · exact hfilled k hk
    · rw [Dict.mem_keys_iff,get?_registryWire] at hk
      split at hk
      · exact h.common.known k ((Dict.mem_keys_iff _ _).mpr hk)
      · obtain ⟨_,hnone⟩ := hk
        cases hnone
  · exact get?_refilledWire (hwire k (List.mem_append_left ["candidateId","targetProjectId","registryId"] hk))
  · have hother : ∀ k ∈ ["candidateId","targetProjectId","registryId"],
        (idField ((Host.refilled (Host.registryWirePayload p) "candidateId" registrySchema id).get k) k).isOk = true := by
      intro k hk
      unfold Payload.get
      rw [get?_refilledWire (hwire k (List.mem_append_right ["correlationId","idempotencyKey","occurredAt"] hk))]
      exact h.ids k (List.mem_append_left ["messageId"] hk)
    rcases List.mem_append.mp (show k ∈ ["candidateId","targetProjectId","registryId"] ++ ["messageId"] from hk) with hk | hk
    · exact hother k hk
    · cases List.mem_singleton.mp hk
      -- the message is named after the candidate, whose name passed its own check
      obtain ⟨s,hs⟩ := h.named
      have hname : (Host.refilled (Host.registryWirePayload p) "candidateId" registrySchema id).get "messageId" = .str s := by
        have hcandidate : (Host.registryWirePayload p).get? "candidateId" = some (.str s) := by
          rw [get?_registryWire,if_pos (by decide),hs]
        simp [Host.refilled,Payload.get,hcandidate,Json.text]
      have hid := h.ids "candidateId" (by decide)
      simp only [Payload.get,hs,Option.getD_some,idField,textField,Json.asStr?] at hid
      rw [hname]
      unfold idField textField
      split at hid
      · next hgood =>
        simp only [Json.asStr?]
        rw [if_pos hgood]
        rfl
      · cases hid
  · rw [registryContent_congr fun k hk => get?_refilledWire hk]
    exact h.content

theorem adoptionWire_registry (h : host.Candidate p) (id : String) :
    host.adoptionWire .registryCandidate id (Host.registryWirePayload p) = .ok (Host.registryWirePayload p) := by
  unfold Host.adoptionWire
  rw [bind_of_passed (parseRegistryCandidate_ok.mpr ⟨rfl,h.refilled id⟩)]
  have hsame : (Host.refilled (Host.registryWirePayload p) "candidateId" registrySchema id).select Host.registryWireKeys =
      p.select Host.registryWireKeys := select_congr fun k hk => get?_refilledWire hk
  exact congrArg (fun m => Except.ok (Payload.ofList m)) hsame

end Candidate

/-! ### Evidence -/

theorem adoptionContent_congr {p q : Payload} (h : ∀ k ∈ "assessmentId" :: adoptionInner, q.get? k = p.get? k) :
    adoptionContent q = adoptionContent p := by
  have hfield : ∀ rule ∈ factRules, q.get? rule.field = p.get? rule.field := by
    intro rule hrule
    refine h _ (List.mem_cons_of_mem _ ?_)
    revert rule
    decide
  have hfacts : factRules.forM (fun rule => unlessNull (q.get rule.field) (adoptionFact rule)) =
      factRules.forM (fun rule => unlessNull (p.get rule.field) (adoptionFact rule)) := by
    refine forM_congr fun rule hrule => ?_
    unfold Payload.get
    rw [hfield rule hrule]
  unfold adoptionContent factChoice
  rw [hfacts]
  unfold Payload.get
  rw [h "candidateId" (by decide),h "assessmentId" (by decide),h "registry" (by decide),h "evidence" (by decide),
    h "repository" (by decide),h "plan" (by decide),h "checkpoint" (by decide),h "application" (by decide),
    h "ownership" (by decide),h "security" (by decide),h "contradictions" (by decide)]

/-- What the contract of evidence makes sure of, in whichever form it came. -/
structure Host.Evidence (host : Host) (value : Payload) : Prop where
  common : host.Common value adoptionSchema adoptionRequired (adoptionRequired ++ adoptionFactNames)
  content : adoptionContent value = .ok ()

section Evidence
variable {host : Host} {p e : Payload}

theorem evidence_of_parsed (h : host.parseAdoptionEvidence p = .ok e) : host.Evidence e := by
  unfold Host.parseAdoptionEvidence at h
  obtain ⟨value,-,h⟩ := check_bind h
  obtain ⟨_,hcommon,h⟩ := check_bind h
  obtain ⟨_,hcontent,h⟩ := check_bind h
  cases h
  exact ⟨common_ok.mp hcommon,hcontent⟩

theorem adoptionInner_nodup : adoptionInner.Nodup := by decide
theorem adoptionWireKeys_nodup : Host.adoptionWireKeys.Nodup := by decide

theorem get?_adoptionWire (e : Payload) (k : String) : (Host.adoptionWirePayload e).get? k =
    if k = "evidence" then some (.obj (e.select adoptionInner)) else if k ∈ Host.adoptionWireKeys then e.get? k else none := by
  unfold Host.adoptionWirePayload
  rw [Dict.get?_set]
  split
  · rfl
  · exact get?_ofList_select e adoptionWireKeys_nodup k

/-- The message of the evidence as recovery fills it in. -/
def refilledEvidence (e : Payload) (id : String) : Payload :=
  Host.refilled (Host.adoptionWirePayload e) "assessmentId" adoptionSchema id

/-- The same, with the members of the nested form in their places. -/
def mergedEvidence (e : Payload) (id : String) : Payload := (refilledEvidence e id).merge (e.select adoptionInner)

theorem get?_refilledEvidence {id k : String} (h : k ∈ Host.adoptionWireKeys) : (refilledEvidence e id).get? k = e.get? k := by
  have hfilled : ∀ k ∈ Host.adoptionWireKeys, k ∉ filledKeys ∧ k ≠ "evidence" := by decide
  unfold refilledEvidence
  rw [get?_refilled _ _ _ (hfilled k h).1,get?_adoptionWire,if_neg (hfilled k h).2,if_pos h]

theorem nested_refilledEvidence (e : Payload) (id : String) :
    (refilledEvidence e id).get? "evidence" = some (.obj (e.select adoptionInner)) := by
  unfold refilledEvidence
  rw [get?_refilled _ _ _ (by decide),get?_adoptionWire,if_pos rfl]

theorem mem_keys_adoptionWire (h : host.Evidence e) (k : String) : k ∈ (Host.adoptionWirePayload e).keys ↔
    k ∈ "evidence" :: Host.adoptionWireKeys := by
  have hrequired : ∀ k ∈ Host.adoptionWireKeys, k ∈ adoptionRequired := by decide
  rw [Dict.mem_keys_iff,get?_adoptionWire,List.mem_cons]
  split
  · next hk => simp [hk]
  · next hk =>
    split
    · next hwire =>
      simp only [hwire,or_true,iff_true]
      exact (Dict.mem_keys_iff _ _).mp (h.common.present k (hrequired k hwire))
    · next hwire => simp [hk,hwire]

theorem common_refilledEvidence (h : host.Evidence e) (id : String) :
    host.Common (refilledEvidence e id) adoptionSchema adoptionOuter adoptionOuter := by
  have hkeys : ∀ k, k ∈ (refilledEvidence e id).keys ↔ k ∈ filledKeys ∨ k ∈ "evidence" :: Host.adoptionWireKeys := by
    intro k
    unfold refilledEvidence
    rw [mem_keys_refilled,mem_keys_adoptionWire h]
  have hwire : ∀ k ∈ ["correlationId","idempotencyKey","occurredAt"], k ∈ Host.adoptionWireKeys := by decide
  have hall : ∀ k ∈ adoptionOuter, k ∈ filledKeys ∨ k ∈ "evidence" :: Host.adoptionWireKeys := by decide
  have houter : ∀ k ∈ filledKeys ++ "evidence" :: Host.adoptionWireKeys, k ∈ adoptionOuter := by decide
  refine h.common.congr (fun k hk => (hkeys k).mpr (hall k hk)) (fun k hk => houter k ?_) (source_refilled _ _ _)
    (version_refilled _ _ _) fun k hk => get?_refilledEvidence (hwire k hk)
  exact List.mem_append.mpr ((hkeys k).mp hk)

theorem present_inner (h : host.Evidence e) {k : String} (hk : k ∈ ["candidateId","registry","evidence"]) :
    (e.get? k).isSome := by
  have hrequired : ∀ k ∈ ["candidateId","registry","evidence"], k ∈ adoptionRequired := by decide
  exact Option.isSome_iff_exists.mpr ((Dict.mem_keys_iff _ _).mp (h.common.present k (hrequired k hk)))

/-- Merged, the nested members are those of the evidence. -/
theorem get?_mergedEvidence (h : host.Evidence e) (id : String) {k : String} (hk : k ∈ adoptionInner ++ Host.adoptionWireKeys) :
    (mergedEvidence e id).get? k = e.get? k := by
  unfold mergedEvidence
  rw [get?_merge_select _ _ adoptionInner_nodup]
  split
  · rfl
  · next hnot =>
    rcases List.mem_append.mp hk with hinner | hwire
    · have hnone : e.get? k = none := by
        cases hv : e.get? k with
        | none => rfl
        | some v => exact absurd ⟨hinner,by rw [hv]; rfl⟩ hnot
      rw [hnone]
      -- a fact that is not stated is in neither form
      have hfact : ∀ k ∈ adoptionInner, k ∈ ["candidateId","registry","evidence"] ∨
          (k ∉ filledKeys ∧ k ∉ "evidence" :: Host.adoptionWireKeys) := by decide
      rcases hfact k hinner with hmust | ⟨hfilled,hkey⟩
      · have := present_inner h hmust
        rw [hnone] at this
        cases this
      · have hnotmem : k ∉ (refilledEvidence e id).keys := by
          unfold refilledEvidence
          rw [mem_keys_refilled,mem_keys_adoptionWire h]
          exact not_or.mpr ⟨hfilled,hkey⟩
        cases hv : (refilledEvidence e id).get? k with
        | none => rfl
        | some v => exact absurd ((Dict.mem_keys_iff _ _).mpr ⟨v,hv⟩) hnotmem
    · exact get?_refilledEvidence hwire

theorem flatEvidence_refilled (h : host.Evidence e) (id : String) :
    host.flatEvidence (refilledEvidence e id) = .ok (mergedEvidence e id) := by
  have hentries : (Payload.ofList (e.select adoptionInner)).entries = e.select adoptionInner :=
    Payload.entries_ofList (select_nodup e adoptionInner_nodup)
  have hnested : Payload.ofJson? ((refilledEvidence e id).get "evidence") = some (Payload.ofList (e.select adoptionInner)) := by
    unfold Payload.get
    rw [nested_refilledEvidence]
    rfl
  have hkeys : onlyKeys (Payload.ofList (e.select adoptionInner)) adoptionInner "adoption classification evidence" = .ok () := by
    refine check_ok.mpr fun k hk => ?_
    rw [Dict.mem_keys_iff,get?_ofList_select e adoptionInner_nodup] at hk
    split at hk
    · assumption
    · obtain ⟨_,hnone⟩ := hk
      cases hnone
  have hcandidate : (Payload.ofList (e.select adoptionInner)).get "candidateId" = (refilledEvidence e id).get "candidateId" := by
    unfold Payload.get
    rw [get?_ofList_select e adoptionInner_nodup,if_pos (by decide),get?_refilledEvidence (by decide)]
  have hidentity : check (((Payload.ofList (e.select adoptionInner)).get "candidateId").alike
      ((refilledEvidence e id).get "candidateId") = true) (valueError "adoption candidate identity conflict") = .ok () :=
    check_ok.mpr (hcandidate ▸ Json.alike_refl _)
  unfold Host.flatEvidence
  rw [hnested]
  dsimp only
  rw [bind_of_passed (common_ok.mpr (common_refilledEvidence h id)),bind_of_passed hkeys,bind_of_passed hidentity,hentries]
  rfl

/-- The message of the evidence, filled in and merged, is the evidence again. -/
theorem Host.Evidence.merged (h : host.Evidence e) (id : String) : host.Evidence (mergedEvidence e id) := by
  have hwire : ∀ k ∈ ["correlationId","idempotencyKey","occurredAt"], k ∈ Host.adoptionWireKeys := by decide
  have hsame : ∀ k ∈ filledKeys, (mergedEvidence e id).get? k = (refilledEvidence e id).get? k := by
    intro k hk
    have hout : ∀ k ∈ filledKeys, k ∉ adoptionInner := by decide
    unfold mergedEvidence
    rw [get?_merge_select _ _ adoptionInner_nodup,if_neg fun hin => hout k hk hin.1]
  have hkeys : ∀ k, k ∈ (mergedEvidence e id).keys ↔ k ∈ filledKeys ∨ (k ∈ adoptionInner ++ Host.adoptionWireKeys ∧ k ∈ e.keys) := by
    intro k
    by_cases hfilled : k ∈ filledKeys
    · simp only [hfilled,true_or,iff_true]
      rw [Dict.mem_keys_iff,hsame k hfilled,← Dict.mem_keys_iff]
      exact (mem_keys_refilled _ _ _ _).mpr (.inl hfilled)
    · simp only [hfilled,false_or]
      by_cases hin : k ∈ adoptionInner ++ Host.adoptionWireKeys
      · simp only [hin,true_and,Dict.mem_keys_iff,get?_mergedEvidence h id hin]
      · simp only [hin,false_and,iff_false]
        have hevidence : "evidence" ∈ adoptionInner := by decide
        rw [List.mem_append,not_or] at hin
        unfold mergedEvidence
        rw [Dict.mem_keys_iff,get?_merge_select _ _ adoptionInner_nodup,if_neg fun hboth => hin.1 hboth.1,← Dict.mem_keys_iff]
        unfold refilledEvidence
        rw [mem_keys_refilled,mem_keys_adoptionWire h,List.mem_cons,not_or,not_or]
        exact ⟨hfilled,fun heq => hin.1 (heq ▸ hevidence),hin.2⟩
  have hrequired : ∀ k ∈ adoptionRequired, k ∈ filledKeys ∨ k ∈ adoptionInner ++ Host.adoptionWireKeys := by decide
  have hallowed : ∀ k ∈ filledKeys, k ∈ adoptionRequired ++ adoptionFactNames := by decide
  refine ⟨h.common.congr (fun k hk => ?_) (fun k hk => ?_) ?_ ?_ fun k hk => ?_,?_⟩
  · exact (hkeys k).mpr ((hrequired k hk).imp_right fun hin => ⟨hin,h.common.present k hk⟩)
  · rcases (hkeys k).mp hk with hk | ⟨-,hk⟩
    · exact hallowed k hk
    · exact h.common.known k hk
  · unfold Payload.get
    rw [hsame "sourceId" (by decide)]
    exact source_refilled _ _ _
  · unfold Payload.get
    rw [hsame "schemaVersion" (by decide)]
    exact version_refilled _ _ _
  · exact get?_mergedEvidence h id (List.mem_append_right _ (hwire k hk))
  · have hcontent : ∀ k ∈ "assessmentId" :: adoptionInner, k ∈ adoptionInner ++ Host.adoptionWireKeys := by decide
    rw [adoptionContent_congr fun k hk => get?_mergedEvidence h id (hcontent k hk)]
    exact h.content

theorem adoptionWire_evidence (h : host.Evidence e) (id : String) :
    host.adoptionWire .adoptionEvidence id (Host.adoptionWirePayload e) = .ok (Host.adoptionWirePayload e) := by
  have hparsed : host.parseAdoptionEvidence (refilledEvidence e id) = .ok (mergedEvidence e id) := by
    unfold Host.parseAdoptionEvidence
    rw [bind_of_passed (flatEvidence_refilled h id),bind_of_passed (common_ok.mpr (h.merged id).common),
      bind_of_passed (h.merged id).content]
    rfl
  have hinner : (mergedEvidence e id).select adoptionInner = e.select adoptionInner :=
    select_congr fun k hk => get?_mergedEvidence h id (List.mem_append_left _ hk)
  have houter : (mergedEvidence e id).select Host.adoptionWireKeys = e.select Host.adoptionWireKeys :=
    select_congr fun k hk => get?_mergedEvidence h id (List.mem_append_right _ hk)
  unfold Host.adoptionWire
  refine (bind_of_passed hparsed).trans ?_
  unfold Host.adoptionWirePayload
  rw [hinner,houter]
  rfl

end Evidence
end Overseer.Psychlo
