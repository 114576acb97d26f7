import Overseer.Agent.Attestation
import Overseer.Agent.SanitizerSound

/-! # Which handoffs stay valid

A package is valid as long as the store keeps its evidence as it was built: no text under a key
that redaction does not let through, nothing under a key of transcripts, no number that is none.
A package that was changed is never valid.
-/
namespace Overseer.Agent.Attested
open Overseer.Library Overseer.Library.Json

/-! ### Kept evidence -/

/-- The store keeps a value at this place as it is. -/
structure KeptAt (key : Option String) (dynamicEvidence : Bool) (value : Json) : Prop where
  prompt : ∀ name, key = some name → normalizeAgentKey name = "prompt" → value = .str redactedDispatchPrompt
  transcript : ∀ name, key = some name → normalizeAgentKey name ≠ "prompt" → normalizeAgentKey name ∈ agentTranscriptKeys →
    value = .str redactedAgentTranscript
  evidence : ∀ text, value = .str text → IsRedacted key dynamicEvidence → ¬ IsTranscript key → value = .str redactedAgentEvidence
  number : value ≠ .float "nan"

/-- The store keeps a value and all its parts as they are. -/
def Kept (key : Option String) (dynamicEvidence : Bool) (value : Json) : Prop :=
  ∀ k d y, Inside key dynamicEvidence value k d y → KeptAt k d y

variable {isAlnum : Char → Bool} {key : Option String} {dynamicEvidence : Bool} {floatIsInt : String → ℤ → Bool}

theorem inside_word {value : Json} (harr : ∀ items, value ≠ .arr items) (hobj : ∀ members, value ≠ .obj members)
    {k : Option String} {d : Bool} {y : Json} (h : Inside key dynamicEvidence value k d y) :
    k = key ∧ d = dynamicEvidence ∧ y = value := by
  cases h with
  | here => exact ⟨rfl,rfl,rfl⟩
  | member => exact absurd rfl (hobj _)
  | item => exact absurd rfl (harr _)

theorem kept_word {value : Json} (harr : ∀ items, value ≠ .arr items) (hobj : ∀ members, value ≠ .obj members) :
    Kept key dynamicEvidence value ↔ KeptAt key dynamicEvidence value := by
  constructor
  · intro h
    exact h _ _ _ (.here _ _ _)
  · intro h k d y hy
    obtain ⟨rfl,rfl,rfl⟩ := inside_word harr hobj hy
    exact h

/-- Under a key of prompts or transcripts only the placeholder is kept. -/
theorem kept_keyed {value x : Json} (h : redactedByKey key = some (.ok x)) : Kept key dynamicEvidence value ↔ value = x := by
  obtain ⟨⟨name,rfl,hname⟩,hx⟩ := redactedByKey_ok h
  constructor
  · intro hkept
    have hplace := hkept _ _ _ (.here _ _ _)
    by_cases hprompt : normalizeAgentKey name = "prompt"
    · rw [redactedByKey_prompt hprompt] at h
      cases h
      exact hplace.prompt name rfl hprompt
    · rw [redactedByKey_transcript hprompt hname] at h
      cases h
      exact hplace.transcript name rfl hprompt hname
  · rintro rfl
    have hword : (∀ items, value ≠ .arr items) ∧ (∀ members, value ≠ .obj members) ∧ value ≠ .float "nan" := by
      obtain rfl | rfl := hx <;> exact ⟨nofun,nofun,nofun⟩
    refine (kept_word hword.1 hword.2.1).mpr ⟨?_,?_,?_,hword.2.2⟩
    · rintro name' heq hprompt
      cases heq
      rw [redactedByKey_prompt hprompt] at h
      exact (Except.ok.inj (Option.some.inj h)).symm
    · rintro name' heq hprompt htranscript
      cases heq
      rw [redactedByKey_transcript hprompt htranscript] at h
      exact (Except.ok.inj (Option.some.inj h)).symm
    · intro _ _ _ hnot
      exact absurd ⟨name,rfl,hname⟩ hnot

theorem not_transcript_of_unkeyed (h : redactedByKey key = none) : ¬ IsTranscript key := by
  intro htranscript
  obtain hr | hr := redactedByKey_of_transcript htranscript <;> simp [h] at hr

theorem keptAt_unkeyed (h : redactedByKey key = none) {value : Json} : KeptAt key dynamicEvidence value ↔
    (∀ text, value = .str text → IsRedacted key dynamicEvidence → value = .str redactedAgentEvidence) ∧ value ≠ .float "nan" := by
  have hnot := not_transcript_of_unkeyed h
  constructor
  · intro hplace
    exact ⟨fun text hvalue hredacted => hplace.evidence text hvalue hredacted hnot,hplace.number⟩
  · rintro ⟨hevidence,hnumber⟩
    refine ⟨?_,?_,fun text hvalue hredacted _ => hevidence text hvalue hredacted,hnumber⟩
    · rintro name rfl hprompt
      exact absurd ⟨name,rfl,hprompt ▸ prompt_transcript⟩ hnot
    · rintro name rfl _ htranscript
      exact absurd ⟨name,rfl,htranscript⟩ hnot

theorem kept_obj (h : redactedByKey key = none) {members : List (String × Json)} : Kept key dynamicEvidence (.obj members) ↔
    ∀ e ∈ members, Kept (some e.1) (holdsEvidence key dynamicEvidence) e.2 := by
  constructor
  · intro hkept e he k d y hy
    exact hkept k d y (.member he hy)
  · intro hkept k d y hy
    cases hy with
    | here => exact (keptAt_unkeyed h).mpr ⟨nofun,nofun⟩
    | member hmem hy => exact hkept _ hmem k d y hy

theorem kept_arr (h : redactedByKey key = none) {items : List Json} : Kept key dynamicEvidence (.arr items) ↔
    ∀ v ∈ items, Kept key dynamicEvidence v := by
  constructor
  · intro hkept v hv k d y hy
    exact hkept k d y (.item hv hy)
  · intro hkept k d y hy
    cases hy with
    | here => exact (keptAt_unkeyed h).mpr ⟨nofun,nofun⟩
    | item hmem hy => exact hkept _ hmem k d y hy

/-! ### What equals its stored form -/

theorem sanitizeMembers_length {evidence : Bool} {source members : List (String × Json)}
    (h : sanitizeMembers isAlnum evidence source = .ok members) : members.length = source.length := by
  induction source generalizing members with
  | nil =>
    cases h
    rfl
  | cons member rest ih =>
    obtain ⟨x,xs,-,hxs,rfl⟩ := sanitizeMembers_cons h
    simp [ih hxs]

theorem sanitizeMembers_source {evidence : Bool} {source members : List (String × Json)} {e : String × Json}
    (h : sanitizeMembers isAlnum evidence source = .ok members) (he : e ∈ source) :
    ∃ x, sanitizeAgentJson isAlnum (some e.1) evidence e.2 = .ok x ∧ (e.1,x) ∈ members := by
  induction source generalizing members with
  | nil => cases he
  | cons member rest ih =>
    obtain ⟨x,xs,hx,hxs,rfl⟩ := sanitizeMembers_cons h
    rcases List.mem_cons.mp he with rfl | he
    · exact ⟨x,hx,List.mem_cons_self⟩
    · obtain ⟨y,hy,hmem⟩ := ih hxs he
      exact ⟨y,hy,List.mem_cons_of_mem _ hmem⟩

/-- The value and what is read back of it are equal when all of it is kept. -/
def EqualsStored (isAlnum : Char → Bool) (floatIsInt : String → ℤ → Bool) (value : Json) : Prop :=
  ∀ key dynamicEvidence written, uniqueKeys value = true → sanitizeAgentJson isAlnum key dynamicEvidence value = .ok written →
    (written.reread.equals floatIsInt value = true ↔ Kept key dynamicEvidence value)

theorem equalsStored_word {value : Json} (harr : ∀ items, value ≠ .arr items) (hobj : ∀ members, value ≠ .obj members)
    {written : Json} (hkey : redactedByKey key = none) (h : sanitizeAgentJson isAlnum key dynamicEvidence value = .ok written) :
    written.reread.equals floatIsInt value = true ↔ Kept key dynamicEvidence value := by
  rw [kept_word harr hobj,keptAt_unkeyed hkey]
  cases value with
  | arr items => exact absurd rfl (harr items)
  | obj members => exact absurd rfl (hobj members)
  | str text =>
    rw [sanitize_str hkey] at h
    split_ifs at h with hsecret hredacted
    · cases h
      rw [Bool.and_eq_true,Bool.not_eq_true'] at hredacted
      rw [reread_str,equals_str]
      simp [IsRedacted,hredacted]
    · cases h
      rw [reread_str,equals_str]
      have hnot : ¬ IsRedacted key dynamicEvidence := fun hplace => hredacted (by simp [hplace.1,hplace.2])
      simp [hnot]
  | float t =>
    simp only [sanitizeAgentJson,hkey,Except.ok.injEq] at h
    subst h
    by_cases ht : t = "nan"
    · simp [ht,reread,decoded,sortKeys,equals,sameFloat]
    · simp [ht,reread,decoded,sortKeys,equals,sameFloat]
  | null =>
    simp only [sanitizeAgentJson,hkey,Except.ok.injEq] at h
    subst h
    simp [reread,decoded,sortKeys,equals]
  | bool b =>
    simp only [sanitizeAgentJson,hkey,Except.ok.injEq] at h
    subst h
    simp [reread,decoded,sortKeys,equals,asInt?]
  | int n =>
    simp only [sanitizeAgentJson,hkey,Except.ok.injEq] at h
    subst h
    simp [reread,decoded,sortKeys,equals,asInt?]

theorem equalsStored_items {items written : List Json} (ih : ∀ v ∈ items, EqualsStored isAlnum floatIsInt v)
    (hunique : ∀ v ∈ items, uniqueKeys v = true) (h : sanitizeItems isAlnum key dynamicEvidence items = .ok written) :
    equalsItems floatIsInt (written.map reread) items = true ↔ ∀ v ∈ items, Kept key dynamicEvidence v := by
  induction items generalizing written with
  | nil =>
    cases h
    simp [equalsItems]
  | cons v rest ihrest =>
    obtain ⟨x,xs,hx,hxs,rfl⟩ := sanitizeItems_cons h
    have hv := ih v List.mem_cons_self key dynamicEvidence x (hunique v List.mem_cons_self) hx
    have hrest := ihrest (fun w hw => ih w (List.mem_cons_of_mem _ hw)) (fun w hw => hunique w (List.mem_cons_of_mem _ hw)) hxs
    simp [equalsItems,hv,hrest]

theorem equalsStored_members {evidence : Bool} {members written : List (String × Json)}
    (ih : ∀ e ∈ members, EqualsStored isAlnum floatIsInt e.2) (hunique : uniqueKeys (.obj members) = true)
    (h : sanitizeMembers isAlnum evidence members = .ok written) :
    (reread (.obj written)).equals floatIsInt (.obj members) = true ↔ ∀ e ∈ members, Kept (some e.1) evidence e.2 := by
  obtain ⟨hkeys,hvalues⟩ := uniqueKeys_obj.mp hunique
  rw [equals_reread_obj,sanitizeMembers_length h]
  constructor
  · rintro ⟨-,hall⟩ e he
    obtain ⟨x,hx,hmem⟩ := sanitizeMembers_source h he
    obtain ⟨f,hf,hname,hequals⟩ := hall _ hmem
    have hfe : f = e := List.inj_on_of_nodup_map hkeys hf he hname
    exact (ih e he _ _ _ (hvalues e he) hx).mp (hfe ▸ hequals)
  · refine fun hkept => ⟨rfl,fun e he => ?_⟩
    obtain ⟨w,hw,hwritten⟩ := sanitizeMembers_mem h he
    exact ⟨_,hw,rfl,(ih _ hw _ _ _ (hvalues _ hw) hwritten).mpr (hkept _ hw)⟩

/-- What is read back of a value equals it exactly when the store keeps all of it. -/
theorem equalsStored (value : Json) : EqualsStored isAlnum floatIsInt value := by
  have hkeyed : ∀ {value key dynamicEvidence written} {r : Except AgentError Json}, redactedByKey key = some r →
      sanitizeAgentJson isAlnum key dynamicEvidence value = .ok written →
      (written.reread.equals floatIsInt value = true ↔ Kept key dynamicEvidence value) := by
    intro value key dynamicEvidence written r hkey h
    rw [sanitize_byKey hkey] at h
    rw [h] at hkey
    rw [kept_keyed hkey]
    obtain ⟨-,rfl | rfl⟩ := redactedByKey_ok hkey
    · rw [reread_str,equals_str]
    · rw [reread_str,equals_str]
  refine of_parts (P := EqualsStored isAlnum floatIsInt) ?_ ?_ ?_ value
  · intro value harr hobj key dynamicEvidence written _ h
    cases hkey : redactedByKey key with
    | some r => exact hkeyed hkey h
    | none => exact equalsStored_word harr hobj hkey h
  · intro items ih key dynamicEvidence written hunique h
    cases hkey : redactedByKey key with
    | some r => exact hkeyed hkey h
    | none =>
      rw [sanitize_arr hkey] at h
      obtain ⟨xs,hxs,rfl⟩ := except_map_ok h
      rw [reread_arr,equals,kept_arr hkey]
      exact equalsStored_items ih ((uniqueKeysItems_iff items).mp (by simpa [uniqueKeys] using hunique)) hxs
  · intro members ih key dynamicEvidence written hunique h
    cases hkey : redactedByKey key with
    | some r => exact hkeyed hkey h
    | none =>
      rw [sanitize_obj hkey] at h
      obtain ⟨xs,hxs,rfl⟩ := except_map_ok h
      rw [kept_obj hkey]
      exact equalsStored_members ih hunique hxs

/-! ### What is stored of a package -/

theorem sanitizeMembers_append {evidence : Bool} {first second members : List (String × Json)}
    (h : sanitizeMembers isAlnum evidence (first ++ second) = .ok members) :
    ∃ xs ys, sanitizeMembers isAlnum evidence first = .ok xs ∧ sanitizeMembers isAlnum evidence second = .ok ys ∧
      members = xs ++ ys := by
  induction first generalizing members with
  | nil => exact ⟨[],members,rfl,h,rfl⟩
  | cons e rest ih =>
    obtain ⟨x,xs,hx,hxs,rfl⟩ := sanitizeMembers_cons h
    obtain ⟨ys,zs,hys,hzs,rfl⟩ := ih hxs
    refine ⟨(e.1,x) :: ys,zs,?_,hzs,rfl⟩
    rw [sanitizeMembers,hx,hys]
    rfl

/-- A field is written as it is, or not at all. -/
def WrittenAsIs (isAlnum : Char → Bool) (e : String × Json) : Prop :=
  ∀ x, sanitizeAgentJson isAlnum (some e.1) false e.2 = .ok x → x = e.2

theorem sanitizeMembers_asIs {source members : List (String × Json)} (hsource : ∀ e ∈ source, WrittenAsIs isAlnum e)
    (h : sanitizeMembers isAlnum false source = .ok members) : members = source := by
  induction source generalizing members with
  | nil =>
    cases h
    rfl
  | cons e rest ih =>
    obtain ⟨x,xs,hx,hxs,rfl⟩ := sanitizeMembers_cons h
    rw [hsource e List.mem_cons_self x hx,ih (fun f hf => hsource f (List.mem_cons_of_mem _ hf)) hxs]

theorem text_asIs {name : String} (hname : redactedByKey (some name) = none) (text : String) :
    WrittenAsIs isAlnum (name,.str text) := by
  intro x hx
  rw [sanitize_str hname] at hx
  simp only [Bool.false_and,Bool.false_eq_true,if_false] at hx
  split_ifs at hx
  cases hx
  rfl

theorem optional_asIs {name : String} (hname : redactedByKey (some name) = none) (o : Option String) :
    WrittenAsIs isAlnum (name,optionalText o) := by
  cases o with
  | none =>
    intro x hx
    simp only [optionalText,Option.elim_none,sanitizeAgentJson,hname,Except.ok.injEq] at hx
    exact hx.symm
  | some text => exact text_asIs hname text

theorem flag_asIs {name : String} (hname : redactedByKey (some name) = none) (b : Bool) : WrittenAsIs isAlnum (name,.bool b) := by
  intro x hx
  simp only [sanitizeAgentJson,hname,Except.ok.injEq] at hx
  exact hx.symm

theorem fields_unkeyed : ∀ name ∈ ["id","instance_id","outgoing_epoch_id","incoming_provider_id","objective","checkpoint_id",
    "required_capabilities","evidence","created_at","attestation_version","signature"], redactedByKey (some name) = none := by
  decide +kernel

theorem flags_unkeyed : ∀ name ∈ ["session_discovery","session_resume","interactive_dispatch","noninteractive_dispatch",
    "structured_events","checkpoints","cancellation","delegated_workers","usage_observation","handoff_import"],
    redactedByKey (some name) = none := by
  decide +kernel

theorem capabilities_asIs (c : AgentCapabilities) : WrittenAsIs isAlnum ("required_capabilities",.obj (capabilityMembers c)) := by
  intro x hx
  rw [sanitize_obj (fields_unkeyed _ (by simp))] at hx
  obtain ⟨members,hmembers,rfl⟩ := except_map_ok hx
  have hevidence : holdsEvidence (some "required_capabilities") false = false := by decide
  rw [hevidence] at hmembers
  rw [sanitizeMembers_asIs ?_ hmembers]
  intro e he
  simp only [capabilityMembers,List.mem_cons,List.not_mem_nil,or_false] at he
  rcases he with rfl | rfl | rfl | rfl | rfl | rfl | rfl | rfl | rfl | rfl <;>
    exact flag_asIs (flags_unkeyed _ (by simp)) _

namespace AgentHandoffPackage

theorem before_asIs (p : AgentHandoffPackage) : ∀ e ∈ p.membersBefore, WrittenAsIs isAlnum e := by
  intro e he
  simp only [membersBefore,List.mem_cons,List.not_mem_nil,or_false] at he
  rcases he with rfl | rfl | rfl | rfl | rfl | rfl | rfl
  · exact text_asIs (fields_unkeyed _ (by simp)) _
  · exact text_asIs (fields_unkeyed _ (by simp)) _
  · exact text_asIs (fields_unkeyed _ (by simp)) _
  · exact text_asIs (fields_unkeyed _ (by simp)) _
  · exact text_asIs (fields_unkeyed _ (by simp)) _
  · exact optional_asIs (fields_unkeyed _ (by simp)) _
  · exact capabilities_asIs _

theorem after_asIs (p : AgentHandoffPackage) : ∀ e ∈ p.membersAfter, WrittenAsIs isAlnum e := by
  intro e he
  simp only [membersAfter,List.mem_cons,List.not_mem_nil,or_false] at he
  rcases he with rfl | rfl | rfl
  · exact optional_asIs (fields_unkeyed _ (by simp)) _
  · exact optional_asIs (fields_unkeyed _ (by simp)) _
  · exact optional_asIs (fields_unkeyed _ (by simp)) _

/-- Of a package only the evidence is written otherwise than it is. -/
theorem sanitize_package {p : AgentHandoffPackage} {payload : Json}
    (h : sanitizeAgentJson isAlnum none false p.toJsonable = .ok payload) :
    ∃ evidence, sanitizeAgentJson isAlnum (some "evidence") false (.obj p.evidence) = .ok (.obj evidence) ∧
      payload = { p with evidence }.toJsonable := by
  rw [toJsonable,sanitize_obj rfl] at h
  obtain ⟨written,hwritten,rfl⟩ := except_map_ok h
  obtain ⟨xs,ys,hxs,hys,rfl⟩ := sanitizeMembers_append hwritten
  obtain ⟨x,zs,hx,hzs,rfl⟩ := sanitizeMembers_cons hys
  rw [sanitizeMembers_asIs p.before_asIs hxs,sanitizeMembers_asIs p.after_asIs hzs]
  have hevidence := hx
  rw [sanitize_obj (fields_unkeyed _ (by simp))] at hevidence
  obtain ⟨evidence,-,rfl⟩ := except_map_ok hevidence
  exact ⟨evidence,hx,rfl⟩

theorem members_nodup (p : AgentHandoffPackage) : (p.members.map Prod.fst).Nodup := by
  simp [members,membersBefore,membersAfter]

theorem member?_toJsonable (p : AgentHandoffPackage) (k : String) :
    p.toJsonable.reread.member? k = (Dict.find k p.members).map reread := member?_reread p.members_nodup k

end AgentHandoffPackage

theorem optional_reread (o : Option String) : (optionalText o).reread.asStr? = o := by
  cases o <;> rfl

theorem capabilities_reread (c : AgentCapabilities) :
    fieldCapabilities (some (Json.obj (capabilityMembers c)).reread) = c := by
  have hnodup : ((capabilityMembers c).map Prod.fst).Nodup := by simp [capabilityMembers]
  have hflag : ∀ name, fieldFlag (some (Json.obj (capabilityMembers c)).reread) name =
      decide ((Dict.find name (capabilityMembers c)).map reread = some (.bool true)) := by
    intro name
    simp only [fieldFlag,Option.bind_some,member?_reread hnodup]
  have hbool : ∀ b : Bool, reread (.bool b) = .bool b := fun _ => rfl
  simp only [fieldCapabilities,hflag]
  simp [capabilityMembers,Dict.find,hbool]

namespace AgentHandoffPackage

theorem fieldText_reread (p : AgentHandoffPackage) (field text : String) (h : Dict.find field p.members = some (.str text)) :
    fieldText p.toJsonable.reread field = .ok text := by
  rw [fieldText,member?_toJsonable,h]
  rfl

theorem fieldOptional_reread (p : AgentHandoffPackage) (field : String) (o : Option String)
    (h : Dict.find field p.members = some (optionalText o)) : fieldOptional p.toJsonable.reread field = o := by
  rw [fieldOptional,member?_toJsonable,h]
  exact optional_reread o

theorem loadDataclass_reread (p : AgentHandoffPackage) : loadDataclass p.toJsonable.reread =
    (checkRecord { p with evidence := rereadMembers p.evidence }).map fun _ => { p with evidence := rereadMembers p.evidence } := by
  have hfind : ∀ field value, Dict.find field p.members = some value → p.toJsonable.reread.member? field = some value.reread := by
    intro field value h
    rw [p.member?_toJsonable,h]
    rfl
  have hcapabilities := hfind "required_capabilities" _ rfl
  have hevidence := hfind "evidence" _ rfl
  rw [loadDataclass,p.fieldText_reread "id" p.id rfl,p.fieldText_reread "instance_id" p.instanceId rfl,
    p.fieldText_reread "outgoing_epoch_id" p.outgoingEpochId rfl,p.fieldText_reread "incoming_provider_id" p.incomingProviderId rfl,
    p.fieldText_reread "objective" p.objective rfl,p.fieldOptional_reread "checkpoint_id" p.checkpointId rfl,
    p.fieldOptional_reread "created_at" p.createdAt rfl,p.fieldOptional_reread "attestation_version" p.attestationVersion rfl,
    p.fieldOptional_reread "signature" p.signature rfl,hcapabilities,capabilities_reread,fieldMapping,hevidence,reread_obj]
  simp only [bind,Except.bind,pure,Except.pure,Except.map]

theorem equals_reread (p : AgentHandoffPackage) (evidence : List (String × Json)) :
    ({ p with evidence := rereadMembers evidence } : AgentHandoffPackage).equals floatIsInt p =
      (reread (.obj evidence)).equals floatIsInt (.obj p.evidence) := by
  simp [equals,reread_obj]

end AgentHandoffPackage

/-! ### What is signed -/

namespace AgentHandoffPackage

/-- The members of a package in the order of their names. -/
theorem rereadMembers_package (p : AgentHandoffPackage) : rereadMembers p.members =
    [("attestation_version",(optionalText p.attestationVersion).reread),("checkpoint_id",(optionalText p.checkpointId).reread),
      ("created_at",(optionalText p.createdAt).reread),("evidence",reread (.obj p.evidence)),("id",.str p.id),
      ("incoming_provider_id",.str p.incomingProviderId),("instance_id",.str p.instanceId),("objective",.str p.objective),
      ("outgoing_epoch_id",.str p.outgoingEpochId),
      ("required_capabilities",reread (.obj (capabilityMembers p.requiredCapabilities))),
      ("signature",(optionalText p.signature).reread)] := by
  simp only [rereadMembers,sortedMembers,decodedMembers_eq_map,sortMembers_eq_map,members,membersBefore,membersAfter,
    List.cons_append,List.nil_append,List.map_cons,List.map_nil,List.insertionSort]
  simp +decide only [List.foldr,List.orderedInsert,if_true,if_false]
  rfl

theorem canonical_id {p : AgentHandoffPackage} {id : String}
    (h : canonicalHandoffBytes { p with id } = canonicalHandoffBytes p) : id = p.id := by
  have htext := congrArg String.toList h
  simp only [canonicalHandoffBytes,dumps,dumpsWith,toJsonable,reread_obj,rereadMembers_package,String.toList_ofList,dumpsChars,
    dumpsMembers,List.intercalate,List.intersperse,List.flatten_cons,List.cons.injEq,true_and,List.append_assoc,
    List.append_cancel_left_eq] at htext
  exact (quoteChars_read htext).1

end AgentHandoffPackage

/-! ### A package that was built -/

section Built
variable {a : Attester} {r : AgentHandoffPackage} {s s' : HandoffStore}

theorem saveAgentHandoff_ok {p : AgentHandoffPackage} (h : saveAgentHandoff a p s = .ok s') :
    ∃ evidence, sanitizeAgentJson a.cfg.isAlnum (some "evidence") false (.obj p.evidence) = .ok (.obj evidence) ∧
      loadDataclass { p with evidence }.toJsonable.reread = .ok { p with evidence := rereadMembers evidence } ∧
      s' = { s with rows := s.rows.set p.id { p with evidence }.toJsonable.reread } := by
  obtain ⟨payload,hpayload,h⟩ := except_bind_ok h
  obtain ⟨sanitized,hload,h⟩ := except_bind_ok h
  obtain ⟨_,-,h⟩ := except_bind_ok h
  obtain ⟨evidence,hevidence,rfl⟩ := AgentHandoffPackage.sanitize_package hpayload
  have hread := hload
  rw [AgentHandoffPackage.loadDataclass_reread] at hread
  obtain ⟨_,-,rfl⟩ := except_map_ok hread
  cases h
  exact ⟨evidence,hevidence,hload,rfl⟩

/-- The store holds a signed package, its evidence written as it could be. -/
structure Built (a : Attester) (r : AgentHandoffPackage) (s : HandoffStore) (evidence : List (String × Json)) : Prop where
  material : checkMaterial a r.objective r.evidence = .ok ()
  version : r.attestationVersion = some attestationVersion
  signed : ∃ key, s.key = some key ∧ r.signature = some (a.hmac key (canonicalHandoffBytes r))
  written : sanitizeAgentJson a.cfg.isAlnum (some "evidence") false (.obj r.evidence) = .ok (.obj evidence)
  loads : loadDataclass { r with evidence }.toJsonable.reread = .ok { r with evidence := rereadMembers evidence }
  row : s.rows.get? r.id = some { r with evidence }.toJsonable.reread

theorem build_built {args : BuildArguments} {id createdAt : String} (h : build a args id createdAt s = .ok (r,s')) :
    (∃ evidence, Built a r s' evidence) ∧ r.evidence = args.evidence ∧ r.requiredCapabilities = args.requiredCapabilities := by
  obtain ⟨_,hmaterial,h⟩ := except_bind_ok h
  obtain ⟨_,-,h⟩ := except_bind_ok h
  obtain ⟨_,-,h⟩ := except_bind_ok h
  obtain ⟨key,hkey,h⟩ := except_bind_ok h
  obtain ⟨_,-,h⟩ := except_bind_ok h
  obtain ⟨s₁,hsave,h⟩ := except_bind_ok h
  obtain ⟨evidence,hwritten,hloads,rfl⟩ := saveAgentHandoff_ok hsave
  cases h
  have hstored : s.key = some key := by
    unfold handoffAttestationKey at hkey
    split at hkey
    · next k hk =>
      cases hkey
      exact hk
    · cases hkey
  refine ⟨⟨evidence,hmaterial,rfl,⟨key,hstored,rfl⟩,hwritten,hloads,?_⟩,rfl,rfl⟩
  rw [Dict.get?_set,if_pos rfl]

theorem Built.reopen {evidence : List (String × Json)} (h : Built a r s evidence) (fresh : String) :
    Built a r (reopen fresh s) evidence := by
  obtain ⟨key,hkey,hsigned⟩ := h.signed
  exact ⟨h.material,h.version,⟨key,by simp [Attested.reopen,hkey],hsigned⟩,h.written,h.loads,h.row⟩

theorem Built.verify {evidence : List (String × Json)} (h : Built a r s evidence) :
    verifyAgentHandoffAttestation a r s = .ok ((reread (.obj evidence)).equals a.floatIsInt (.obj r.evidence)) := by
  obtain ⟨key,hkey,hsigned⟩ := h.signed
  have hversion : r.attestationVersion = some attestationVersion ∧ r.signature ≠ none := ⟨h.version,by simp [hsigned]⟩
  simp only [verifyAgentHandoffAttestation,if_pos hversion,h.row,h.loads,bind,Except.bind,AgentHandoffPackage.equals_reread,
    handoffAttestationKey,hkey,pure,Except.pure,← hsigned]
  cases (reread (.obj evidence)).equals a.floatIsInt (.obj r.evidence) <;> simp

theorem Built.validate_iff {evidence : List (String × Json)} (h : Built a r s evidence)
    (hunique : uniqueKeys (.obj r.evidence) = true) {capabilities : AgentCapabilities}
    (himport : capabilities.handoffImport = true) (hsupports : capabilities.supports r.requiredCapabilities = true) :
    validate a r capabilities s = .ok r ↔ Kept (some "evidence") false (.obj r.evidence) := by
  have hequals : EqualsStored a.cfg.isAlnum a.floatIsInt (.obj r.evidence) := equalsStored (.obj r.evidence)
  rw [← hequals _ _ _ hunique h.written]
  simp only [validate,h.material,h.verify,bind,Except.bind,himport,hsupports]
  cases (reread (.obj evidence)).equals a.floatIsInt (.obj r.evidence) <;> simp [ensure,pure,Except.pure]

/-- The package is not the one that was built: a field differs from what is stored. -/
inductive Changed (a : Attester) (r : AgentHandoffPackage) (s : HandoffStore) : AgentHandoffPackage → Prop
  | field {p : AgentHandoffPackage} (hid : p.id = r.id)
      (hp : ∀ stored, loadAgentHandoff p.id s = .ok stored → stored.equals a.floatIsInt p = false) : Changed a r s p
  | id {id : String} (hid : id ≠ r.id) : Changed a r s { r with id }

/-- No other text has the digest of the package. -/
def Unforged (a : Attester) (r p : AgentHandoffPackage) : Prop :=
  ∀ key, a.hmac key (canonicalHandoffBytes p) = a.hmac key (canonicalHandoffBytes r) → canonicalHandoffBytes p = canonicalHandoffBytes r

theorem validate_attested {p : AgentHandoffPackage} {capabilities : AgentCapabilities}
    (h : ∀ attested, verifyAgentHandoffAttestation a p s = .ok attested → attested = false) :
    ∃ e, validate a p capabilities s = .error e := by
  cases hvalid : validate a p capabilities s with
  | error e => exact ⟨e,rfl⟩
  | ok q =>
    obtain ⟨_,-,hvalid⟩ := except_bind_ok hvalid
    obtain ⟨attested,hverify,hvalid⟩ := except_bind_ok hvalid
    obtain ⟨_,hensure,-⟩ := except_bind_ok hvalid
    rw [h attested hverify] at hensure
    cases ensure_ok.mp hensure

theorem Built.changed_raises {evidence : List (String × Json)} (h : Built a r s evidence) {p : AgentHandoffPackage}
    (hp : Changed a r s p) (hunforged : Unforged a r p) (capabilities : AgentCapabilities) :
    ∃ e, validate a p capabilities s = .error e := by
  obtain ⟨key,hkey,hsigned⟩ := h.signed
  refine validate_attested fun attested hverify => ?_
  unfold verifyAgentHandoffAttestation at hverify
  split at hverify
  · split at hverify
    · cases hverify
      rfl
    · next row hrow =>
      obtain ⟨persisted,hload,hverify⟩ := except_bind_ok hverify
      cases hp with
      | field hid hp =>
        have hdiffers := hp persisted (by rw [loadAgentHandoff,hrow]; exact hload)
        rw [hdiffers] at hverify
        cases hverify
        rfl
      | id hid =>
        split at hverify
        · simp only [handoffAttestationKey,hkey,hsigned,bind,Except.bind,pure,Except.pure,Except.ok.injEq] at hverify
          rw [← hverify]
          refine decide_eq_false fun hdigest => hid ?_
          exact AgentHandoffPackage.canonical_id (hunforged key (Option.some.inj hdigest).symm)
        · cases hverify
          rfl
  · cases hverify
    rfl

end Built
/-! ### Validity -/

theorem supports_import (c : AgentCapabilities) : ({ c with handoffImport := true } : AgentCapabilities).supports c = true := by
  simp [AgentCapabilities.supports,AgentCapabilities.values]

/-- A package that was built is valid, before the store is opened again and after, exactly when
its evidence is kept as it is; one that was changed is never valid. -/
theorem handoff_stays_valid_iff {a : Attester} {args : BuildArguments} {id createdAt : String} {s s' : HandoffStore}
    {r : AgentHandoffPackage} (h : build a args id createdAt s = .ok (r,s')) :
    ((∀ capabilities, capabilities.handoffImport = true → capabilities.supports args.requiredCapabilities = true →
        validate a r capabilities s' = .ok r ∧ ∀ fresh, validate a r capabilities (reopen fresh s') = .ok r) ↔
      Kept (some "evidence") false (.obj args.evidence)) ∧
    ∀ p, Changed a r s' p → Unforged a r p → ∀ capabilities, ∃ e, validate a p capabilities s' = .error e := by
  obtain ⟨⟨evidence,hbuilt⟩,hevidence,hrequired⟩ := build_built h
  have hunique : uniqueKeys (.obj r.evidence) = true := by
    rw [hevidence]
    exact args.unique
  refine ⟨?_,fun p hp hunforged capabilities => hbuilt.changed_raises hp hunforged capabilities⟩
  rw [← hevidence,← hrequired]
  constructor
  · intro hvalid
    have hnow := (hvalid _ rfl (supports_import _)).1
    exact (hbuilt.validate_iff hunique rfl (supports_import _)).mp hnow
  · intro hkept capabilities himport hsupports
    refine ⟨(hbuilt.validate_iff hunique himport hsupports).mpr hkept,fun fresh => ?_⟩
    exact ((hbuilt.reopen fresh).validate_iff hunique himport hsupports).mpr hkept

def plainAttester : Attester where
  cfg := {
    providers := .empty, profiles := .empty, adapterFactories := [], activationOwnerId := "owner", activationLease := 0
    hmac := fun _ => "", sha256 := id, sensitiveKey := fun _ => false, sensitiveValue := fun _ => false
    secretLike := fun _ => false, isAlnum := Char.isAlphanum }
  hmac _ _ := String.ofList (List.replicate 64 '0')
  floatIsInt _ _ := false

def attestedStore : HandoffStore := ⟨some "key",.empty⟩

/-- The arguments of a handoff with one text of evidence. -/
def oneTextArguments (name text : String) : BuildArguments where
  instanceId := "agent"
  outgoingEpochId := "epoch.1"
  incomingProviderId := "codex"
  objective := "continue"
  evidence := [(name,.str text)]
  unique := by simp [uniqueKeys,uniqueKeysMembers]
  requiredCapabilities := {}

theorem exists_of_toBool {ε α : Type} {x : Except ε α} (h : x.toBool = true) : ∃ y, x = .ok y := by
  cases x with
  | error e => cases h
  | ok y => exact ⟨y,rfl⟩

theorem handoff_stays_valid_ready : ∃ r s', build plainAttester (oneTextArguments "status" "ready") "handoff.1" "now" attestedStore =
      .ok (r,s') ∧ ∀ fresh, validate plainAttester r { handoffImport := true } (reopen fresh s') = .ok r := by
  obtain ⟨⟨r,s'⟩,h⟩ := exists_of_toBool (show (build plainAttester (oneTextArguments "status" "ready") "handoff.1" "now"
    attestedStore).toBool = true by decide +kernel)
  refine ⟨r,s',h,fun fresh => ?_⟩
  refine (((handoff_stays_valid_iff h).1.mpr ?_) _ rfl (supports_import _)).2 fresh
  rw [kept_obj (fields_unkeyed _ (by simp))]
  intro e he
  cases List.mem_singleton.mp he
  change Kept (some "status") (holdsEvidence (some "evidence") false) (.str "ready")
  refine (kept_word (by simp) (by simp)).mpr ((keptAt_unkeyed (by decide)).mpr ⟨fun _ _ hredacted => ?_,nofun⟩)
  exact absurd hredacted.2 (by decide)

/-- A package with a note among its evidence is not valid once it is stored. -/
theorem built_note_not_valid : ∃ r s', build plainAttester (oneTextArguments "note" "text") "handoff.1" "now" attestedStore =
      .ok (r,s') ∧ validate plainAttester r { handoffImport := true } s' ≠ .ok r := by
  obtain ⟨⟨r,s'⟩,h⟩ := exists_of_toBool (show (build plainAttester (oneTextArguments "note" "text") "handoff.1" "now"
    attestedStore).toBool = true by decide +kernel)
  refine ⟨r,s',h,fun hvalid => ?_⟩
  obtain ⟨⟨evidence,hbuilt⟩,hevidence,hrequired⟩ := build_built h
  have hkept := (hbuilt.validate_iff (by rw [hevidence]; exact (oneTextArguments "note" "text").unique) rfl
    (by rw [hrequired]; exact supports_import _)).mp hvalid
  rw [hevidence,kept_obj (fields_unkeyed _ (by simp))] at hkept
  have hplace := hkept _ List.mem_cons_self _ _ _ (.here _ _ _)
  have hmarked := ((keptAt_unkeyed (by decide)).mp hplace).1 "text" rfl ⟨by decide,by decide⟩
  exact absurd hmarked (by decide)

end Overseer.Agent.Attested
