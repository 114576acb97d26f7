import Overseer.Agent.Sanitizer

/-! # What the sanitizer lets through

Nothing that is written holds a credential, a prompt or a transcript, and of evidence only
what stands under a safe key. A record sanitized once stays as it is, and records that differ
only where nothing is kept are written alike.
-/
namespace Overseer.Agent
open Overseer.Library

/-! ### Places of a value -/

/-- `y` is a part of the value, under the key `k` and, with `d`, below a mapping of evidence. -/
inductive Inside : Option String → Bool → Json → Option String → Bool → Json → Prop
  | here (key : Option String) (dynamicEvidence : Bool) (value : Json) :
    Inside key dynamicEvidence value key dynamicEvidence value
  | member {key : Option String} {dynamicEvidence : Bool} {members : List (String × Json)} {name : String} {value : Json}
      {k : Option String} {d : Bool} {y : Json} (hmem : (name,value) ∈ members)
      (hy : Inside (some name) (holdsEvidence key dynamicEvidence) value k d y) :
    Inside key dynamicEvidence (.obj members) k d y
  | item {key : Option String} {dynamicEvidence : Bool} {items : List Json} {value : Json}
      {k : Option String} {d : Bool} {y : Json} (hmem : value ∈ items) (hy : Inside key dynamicEvidence value k d y) :
    Inside key dynamicEvidence (.arr items) k d y

/-- The value under this key is a prompt or a transcript. -/
def IsTranscript (key : Option String) : Prop := ∃ name, key = some name ∧ normalizeAgentKey name ∈ agentTranscriptKeys

/-- A text at this place is replaced by the marker. -/
def IsRedacted (key : Option String) (dynamicEvidence : Bool) : Prop :=
  dynamicEvidence = true ∧ isSafeEvidenceKey (key.map normalizeAgentKey) = false

/-- What a written record may hold at a place. -/
structure Clean (isAlnum : Char → Bool) (key : Option String) (dynamicEvidence : Bool) (value : Json) : Prop where
  credential : ∀ name, key = some name → normalizeAgentKey name ∉ agentCredentialKeys
  secret : ∀ text, value = .str text → isSecretValue isAlnum text = false
  prompt : ∀ name, key = some name → normalizeAgentKey name = "prompt" → value = .str redactedDispatchPrompt
  transcript : ∀ name, key = some name → normalizeAgentKey name ≠ "prompt" → normalizeAgentKey name ∈ agentTranscriptKeys →
    value = .str redactedAgentTranscript
  evidence : ∀ text, value = .str text → IsRedacted key dynamicEvidence → ¬ IsTranscript key → value = .str redactedAgentEvidence

/-- The values differ inside prompts and transcripts only, or in redacted texts without a secret. -/
inductive Alike (isAlnum : Char → Bool) : Option String → Bool → Json → Json → Prop
  | same (key : Option String) (dynamicEvidence : Bool) (value : Json) : Alike isAlnum key dynamicEvidence value value
  | hidden {key : Option String} (dynamicEvidence : Bool) (value value' : Json) (hkey : IsTranscript key) :
    Alike isAlnum key dynamicEvidence value value'
  | redacted {key : Option String} {dynamicEvidence : Bool} {text text' : String} (hplace : IsRedacted key dynamicEvidence)
      (htext : isSecretValue isAlnum text = false) (htext' : isSecretValue isAlnum text' = false) :
    Alike isAlnum key dynamicEvidence (.str text) (.str text')
  | member {key : Option String} {dynamicEvidence : Bool} {name : String} {value value' : Json}
      (before after : List (String × Json)) (hvalue : Alike isAlnum (some name) (holdsEvidence key dynamicEvidence) value value') :
    Alike isAlnum key dynamicEvidence (.obj (before ++ (name,value) :: after)) (.obj (before ++ (name,value') :: after))
  | item {key : Option String} {dynamicEvidence : Bool} {value value' : Json} (before after : List Json)
      (hvalue : Alike isAlnum key dynamicEvidence value value') :
    Alike isAlnum key dynamicEvidence (.arr (before ++ value :: after)) (.arr (before ++ value' :: after))
  | trans {key : Option String} {dynamicEvidence : Bool} {first second third : Json}
      (h₁ : Alike isAlnum key dynamicEvidence first second) (h₂ : Alike isAlnum key dynamicEvidence second third) :
    Alike isAlnum key dynamicEvidence first third

variable {isAlnum : Char → Bool} {key : Option String} {dynamicEvidence : Bool}

/-! ### Keys -/

theorem redactedByKey_prompt {name : String} (h : normalizeAgentKey name = "prompt") :
    redactedByKey (some name) = some (.ok (.str redactedDispatchPrompt)) := by
  simp [redactedByKey,h]

theorem redactedByKey_transcript {name : String} (hprompt : normalizeAgentKey name ≠ "prompt")
    (h : normalizeAgentKey name ∈ agentTranscriptKeys) : redactedByKey (some name) = some (.ok (.str redactedAgentTranscript)) := by
  simp [redactedByKey,hprompt,h]

theorem credential_not_transcript : ∀ k ∈ agentCredentialKeys, k ∉ agentTranscriptKeys := by decide

theorem prompt_transcript : "prompt" ∈ agentTranscriptKeys := by decide

theorem redactedByKey_credential {name : String} (h : normalizeAgentKey name ∈ agentCredentialKeys) :
    redactedByKey (some name) = some (.error credentialError) := by
  have htranscript := credential_not_transcript _ h
  have hprompt : normalizeAgentKey name ≠ "prompt" := by
    intro heq
    rw [heq] at htranscript
    exact htranscript prompt_transcript
  simp [redactedByKey,hprompt,htranscript,h]

theorem redactedByKey_ok {x : Json} (h : redactedByKey key = some (.ok x)) :
    IsTranscript key ∧ (x = .str redactedDispatchPrompt ∨ x = .str redactedAgentTranscript) := by
  cases key with
  | none => simp [redactedByKey] at h
  | some name =>
    by_cases hprompt : normalizeAgentKey name = "prompt"
    · rw [redactedByKey_prompt hprompt] at h
      cases h
      exact ⟨⟨name,rfl,hprompt ▸ prompt_transcript⟩,.inl rfl⟩
    · by_cases htranscript : normalizeAgentKey name ∈ agentTranscriptKeys
      · rw [redactedByKey_transcript hprompt htranscript] at h
        cases h
        exact ⟨⟨name,rfl,htranscript⟩,.inr rfl⟩
      · simp [redactedByKey,hprompt,htranscript] at h

theorem redactedByKey_of_transcript (h : IsTranscript key) :
    redactedByKey key = some (.ok (.str redactedDispatchPrompt)) ∨ redactedByKey key = some (.ok (.str redactedAgentTranscript)) := by
  obtain ⟨name,rfl,hname⟩ := h
  by_cases hprompt : normalizeAgentKey name = "prompt"
  · exact .inl (redactedByKey_prompt hprompt)
  · exact .inr (redactedByKey_transcript hprompt hname)

/-! ### One value -/

theorem sanitize_byKey {r : Except AgentError Json} (h : redactedByKey key = some r) (value : Json) :
    sanitizeAgentJson isAlnum key dynamicEvidence value = r := by
  cases value <;> simp [sanitizeAgentJson,h]

theorem sanitize_obj (h : redactedByKey key = none) (members : List (String × Json)) :
    sanitizeAgentJson isAlnum key dynamicEvidence (.obj members) =
      (sanitizeMembers isAlnum (holdsEvidence key dynamicEvidence) members).map .obj := by
  simp [sanitizeAgentJson,h]

theorem sanitize_arr (h : redactedByKey key = none) (items : List Json) :
    sanitizeAgentJson isAlnum key dynamicEvidence (.arr items) =
      (sanitizeItems isAlnum key dynamicEvidence items).map .arr := by
  simp [sanitizeAgentJson,h]

theorem sanitize_str (h : redactedByKey key = none) (text : String) :
    sanitizeAgentJson isAlnum key dynamicEvidence (.str text) =
      if isSecretValue isAlnum text then .error credentialError
      else if dynamicEvidence && !isSafeEvidenceKey (key.map normalizeAgentKey) then .ok (.str redactedAgentEvidence)
      else .ok (.str text) := by
  simp [sanitizeAgentJson,h]

theorem placeholder_plain : isSecretValue isAlnum "[redacted dispatch prompt]" = false ∧
    isSecretValue isAlnum "[redacted agent transcript]" = false ∧
    isSecretValue isAlnum "[redacted agent evidence]" = false := ⟨rfl,rfl,rfl⟩

theorem sanitizeMembers_cons {name : String} {value : Json} {rest members : List (String × Json)} {evidence : Bool}
    (h : sanitizeMembers isAlnum evidence ((name,value) :: rest) = .ok members) :
    ∃ x xs, sanitizeAgentJson isAlnum (some name) evidence value = .ok x ∧
      sanitizeMembers isAlnum evidence rest = .ok xs ∧ members = (name,x) :: xs := by
  rw [sanitizeMembers] at h
  cases hx : sanitizeAgentJson isAlnum (some name) evidence value with
  | error e => simp [hx,bind,Except.bind] at h
  | ok x =>
    cases hxs : sanitizeMembers isAlnum evidence rest with
    | error e => simp [hx,hxs,bind,Except.bind] at h
    | ok xs =>
      simp only [hx,hxs,bind,Except.bind,pure,Except.pure,Except.ok.injEq] at h
      exact ⟨x,xs,rfl,rfl,h.symm⟩

theorem sanitizeItems_cons {value : Json} {rest items : List Json}
    (h : sanitizeItems isAlnum key dynamicEvidence (value :: rest) = .ok items) :
    ∃ x xs, sanitizeAgentJson isAlnum key dynamicEvidence value = .ok x ∧
      sanitizeItems isAlnum key dynamicEvidence rest = .ok xs ∧ items = x :: xs := by
  rw [sanitizeItems] at h
  cases hx : sanitizeAgentJson isAlnum key dynamicEvidence value with
  | error e => simp [hx,bind,Except.bind] at h
  | ok x =>
    cases hxs : sanitizeItems isAlnum key dynamicEvidence rest with
    | error e => simp [hx,hxs,bind,Except.bind] at h
    | ok xs =>
      simp only [hx,hxs,bind,Except.bind,pure,Except.pure,Except.ok.injEq] at h
      exact ⟨x,xs,rfl,rfl,h.symm⟩

/-! ### What is written -/

theorem sanitize_ok_unkeyed {value x : Json} (h : sanitizeAgentJson isAlnum key dynamicEvidence value = .ok x)
    (hprompt : x ≠ .str redactedDispatchPrompt) (htranscript : x ≠ .str redactedAgentTranscript) : redactedByKey key = none := by
  cases hkey : redactedByKey key with
  | none => rfl
  | some r =>
    rw [sanitize_byKey hkey] at h
    rw [h] at hkey
    obtain ⟨_,heq | heq⟩ := redactedByKey_ok hkey
    · exact absurd heq hprompt
    · exact absurd heq htranscript

theorem sanitize_ok_obj {value : Json} {members : List (String × Json)}
    (h : sanitizeAgentJson isAlnum key dynamicEvidence value = .ok (.obj members)) :
    ∃ source, sanitizeMembers isAlnum (holdsEvidence key dynamicEvidence) source = .ok members := by
  have hkey := sanitize_ok_unkeyed h (by simp [redactedDispatchPrompt]) (by simp [redactedAgentTranscript])
  cases value with
  | obj source =>
    rw [sanitize_obj hkey] at h
    cases hsource : sanitizeMembers isAlnum (holdsEvidence key dynamicEvidence) source with
    | error e => simp [hsource,Except.map] at h
    | ok members' =>
      simp only [hsource,Except.map,Except.ok.injEq,Json.obj.injEq] at h
      exact ⟨source,h ▸ hsource⟩
  | arr items =>
    rw [sanitize_arr hkey] at h
    cases hitems : sanitizeItems isAlnum key dynamicEvidence items <;> simp [hitems,Except.map] at h
  | str text =>
    rw [sanitize_str hkey] at h
    split_ifs at h <;> simp [redactedAgentEvidence] at h
  | null | bool b | int n | float t => simp [sanitizeAgentJson,hkey] at h

theorem sanitize_ok_arr {value : Json} {items : List Json}
    (h : sanitizeAgentJson isAlnum key dynamicEvidence value = .ok (.arr items)) :
    ∃ source, sanitizeItems isAlnum key dynamicEvidence source = .ok items := by
  have hkey := sanitize_ok_unkeyed h (by simp [redactedDispatchPrompt]) (by simp [redactedAgentTranscript])
  cases value with
  | arr source =>
    rw [sanitize_arr hkey] at h
    cases hsource : sanitizeItems isAlnum key dynamicEvidence source with
    | error e => simp [hsource,Except.map] at h
    | ok items' =>
      simp only [hsource,Except.map,Except.ok.injEq,Json.arr.injEq] at h
      exact ⟨source,h ▸ hsource⟩
  | obj members =>
    rw [sanitize_obj hkey] at h
    cases hmembers : sanitizeMembers isAlnum (holdsEvidence key dynamicEvidence) members <;> simp [hmembers,Except.map] at h
  | str text =>
    rw [sanitize_str hkey] at h
    split_ifs at h <;> simp [redactedAgentEvidence] at h
  | null | bool b | int n | float t => simp [sanitizeAgentJson,hkey] at h

theorem sanitizeMembers_mem {evidence : Bool} {source members : List (String × Json)} {name : String} {value : Json}
    (h : sanitizeMembers isAlnum evidence source = .ok members) (hmem : (name,value) ∈ members) :
    ∃ w, (name,w) ∈ source ∧ sanitizeAgentJson isAlnum (some name) evidence w = .ok value := by
  induction source generalizing members with
  | nil =>
    cases h
    cases hmem
  | cons member rest ih =>
    obtain ⟨x,xs,hx,hxs,rfl⟩ := sanitizeMembers_cons h
    rcases List.mem_cons.mp hmem with heq | hmem
    · cases heq
      exact ⟨member.2,List.mem_cons_self,hx⟩
    · obtain ⟨w,hw,hvalue⟩ := ih hxs hmem
      exact ⟨w,List.mem_cons_of_mem _ hw,hvalue⟩

theorem sanitizeItems_mem {source items : List Json} {value : Json}
    (h : sanitizeItems isAlnum key dynamicEvidence source = .ok items) (hmem : value ∈ items) :
    ∃ w, sanitizeAgentJson isAlnum key dynamicEvidence w = .ok value := by
  induction source generalizing items with
  | nil =>
    cases h
    cases hmem
  | cons item rest ih =>
    obtain ⟨x,xs,hx,hxs,rfl⟩ := sanitizeItems_cons h
    rcases List.mem_cons.mp hmem with heq | hmem
    · cases heq
      exact ⟨item,hx⟩
    · exact ih hxs hmem

theorem sanitize_inside {x : Json} {k : Option String} {d : Bool} {y : Json} (hy : Inside key dynamicEvidence x k d y)
    (hx : ∃ value, sanitizeAgentJson isAlnum key dynamicEvidence value = .ok x) :
    ∃ value, sanitizeAgentJson isAlnum k d value = .ok y := by
  induction hy with
  | here => exact hx
  | member hmem _ ih =>
    obtain ⟨value,hvalue⟩ := hx
    obtain ⟨source,hsource⟩ := sanitize_ok_obj hvalue
    obtain ⟨w,-,hw⟩ := sanitizeMembers_mem hsource hmem
    exact ih ⟨w,hw⟩
  | item hmem _ ih =>
    obtain ⟨value,hvalue⟩ := hx
    obtain ⟨source,hsource⟩ := sanitize_ok_arr hvalue
    exact ih (sanitizeItems_mem hsource hmem)

theorem sanitize_ok_str {value : Json} {text : String} (hkey : redactedByKey key = none)
    (h : sanitizeAgentJson isAlnum key dynamicEvidence value = .ok (.str text)) :
    isSecretValue isAlnum text = false ∧ (IsRedacted key dynamicEvidence → Json.str text = .str redactedAgentEvidence) := by
  cases value with
  | str source =>
    rw [sanitize_str hkey] at h
    split_ifs at h with hsecret hredacted
    · cases h
      exact ⟨placeholder_plain.2.2,fun _ => rfl⟩
    · cases h
      refine ⟨by simpa using hsecret,fun hplace => absurd ?_ hredacted⟩
      simp [hplace.1,hplace.2]
  | obj members =>
    rw [sanitize_obj hkey] at h
    cases hmembers : sanitizeMembers isAlnum (holdsEvidence key dynamicEvidence) members <;> simp [hmembers,Except.map] at h
  | arr items =>
    rw [sanitize_arr hkey] at h
    cases hitems : sanitizeItems isAlnum key dynamicEvidence items <;> simp [hitems,Except.map] at h
  | null | bool b | int n | float t => simp [sanitizeAgentJson,hkey] at h

/-- What is written under a key is clean there. -/
theorem sanitize_clean {value x : Json} (h : sanitizeAgentJson isAlnum key dynamicEvidence value = .ok x) :
    Clean isAlnum key dynamicEvidence x := by
  have hkeyed : ∀ {r}, redactedByKey key = some r → r = .ok x :=
    fun hr => (sanitize_byKey hr value).symm.trans h
  have htext : ∀ text, x = .str text → isSecretValue isAlnum text = false ∧
      (IsRedacted key dynamicEvidence → ¬ IsTranscript key → x = .str redactedAgentEvidence) := by
    rintro text rfl
    cases hkey : redactedByKey key with
    | none =>
      have ⟨hsecret,hmarked⟩ := sanitize_ok_str hkey h
      exact ⟨hsecret,fun hplace _ => hmarked hplace⟩
    | some r =>
      cases hkeyed hkey
      obtain ⟨htranscript,hx | hx⟩ := redactedByKey_ok hkey
      · cases hx
        exact ⟨placeholder_plain.1,fun _ hnot => absurd htranscript hnot⟩
      · cases hx
        exact ⟨placeholder_plain.2.1,fun _ hnot => absurd htranscript hnot⟩
  constructor
  · rintro name rfl hcredential
    cases hkeyed (redactedByKey_credential hcredential)
  · exact fun text hx => (htext text hx).1
  · rintro name rfl hprompt
    exact (Except.ok.inj (hkeyed (redactedByKey_prompt hprompt))).symm
  · rintro name rfl hprompt htranscript
    exact (Except.ok.inj (hkeyed (redactedByKey_transcript hprompt htranscript))).symm
  · exact fun text hx => (htext text hx).2

/-! ### A second time -/

mutual
/-- What was written is written again as it is. -/
theorem sanitize_again (key : Option String) (dynamicEvidence : Bool) : ∀ (value x : Json),
    sanitizeAgentJson isAlnum key dynamicEvidence value = .ok x → sanitizeAgentJson isAlnum key dynamicEvidence x = .ok x
  | value,x => by
    intro h
    cases hkey : redactedByKey key with
    | some r =>
      rw [sanitize_byKey hkey] at h
      rw [sanitize_byKey hkey,h]
    | none =>
      cases value with
      | obj members =>
        rw [sanitize_obj hkey] at h
        cases hmembers : sanitizeMembers isAlnum (holdsEvidence key dynamicEvidence) members with
        | error e => simp [hmembers,Except.map] at h
        | ok members' =>
          simp only [hmembers,Except.map,Except.ok.injEq] at h
          cases h
          rw [sanitize_obj hkey,sanitizeMembers_again _ members members' hmembers]
          rfl
      | arr items =>
        rw [sanitize_arr hkey] at h
        cases hitems : sanitizeItems isAlnum key dynamicEvidence items with
        | error e => simp [hitems,Except.map] at h
        | ok items' =>
          simp only [hitems,Except.map,Except.ok.injEq] at h
          cases h
          rw [sanitize_arr hkey,sanitizeItems_again _ _ items items' hitems]
          rfl
      | str text =>
        rw [sanitize_str hkey] at h
        split_ifs at h with hsecret hredacted
        · cases h
          rw [redactedAgentEvidence,sanitize_str hkey,if_neg (by simp [placeholder_plain.2.2]),if_pos hredacted]
          rfl
        · cases h
          rw [sanitize_str hkey,if_neg hsecret,if_neg hredacted]
      | null | bool b | int n | float t =>
        simp only [sanitizeAgentJson,hkey,Except.ok.injEq] at h
        cases h
        simp [sanitizeAgentJson,hkey]
theorem sanitizeMembers_again (evidence : Bool) : ∀ (source members : List (String × Json)),
    sanitizeMembers isAlnum evidence source = .ok members → sanitizeMembers isAlnum evidence members = .ok members
  | [],_ => by
    intro h
    cases h
    rfl
  | (name,value) :: rest,_ => by
    intro h
    obtain ⟨x,xs,hx,hxs,rfl⟩ := sanitizeMembers_cons h
    rw [sanitizeMembers,sanitize_again (some name) evidence value x hx,sanitizeMembers_again evidence rest xs hxs]
    rfl
theorem sanitizeItems_again (key : Option String) (dynamicEvidence : Bool) : ∀ (source items : List Json),
    sanitizeItems isAlnum key dynamicEvidence source = .ok items → sanitizeItems isAlnum key dynamicEvidence items = .ok items
  | [],_ => by
    intro h
    cases h
    rfl
  | value :: rest,_ => by
    intro h
    obtain ⟨x,xs,hx,hxs,rfl⟩ := sanitizeItems_cons h
    rw [sanitizeItems,sanitize_again key dynamicEvidence value x hx,sanitizeItems_again key dynamicEvidence rest xs hxs]
    rfl
end

/-! ### Two records -/

theorem sanitizeMembers_congr {name : String} {value value' : Json} {evidence : Bool} (before after : List (String × Json))
    (h : sanitizeAgentJson isAlnum (some name) evidence value = sanitizeAgentJson isAlnum (some name) evidence value') :
    sanitizeMembers isAlnum evidence (before ++ (name,value) :: after) =
      sanitizeMembers isAlnum evidence (before ++ (name,value') :: after) := by
  induction before with
  | nil => simp only [List.nil_append,sanitizeMembers,h]
  | cons member rest ih => simp only [List.cons_append,sanitizeMembers,ih]

theorem sanitizeItems_congr {value value' : Json} (before after : List Json)
    (h : sanitizeAgentJson isAlnum key dynamicEvidence value = sanitizeAgentJson isAlnum key dynamicEvidence value') :
    sanitizeItems isAlnum key dynamicEvidence (before ++ value :: after) =
      sanitizeItems isAlnum key dynamicEvidence (before ++ value' :: after) := by
  induction before with
  | nil => simp only [List.nil_append,sanitizeItems,h]
  | cons item rest ih => simp only [List.cons_append,sanitizeItems,ih]

theorem sanitize_alike {value value' : Json} (h : Alike isAlnum key dynamicEvidence value value') :
    sanitizeAgentJson isAlnum key dynamicEvidence value = sanitizeAgentJson isAlnum key dynamicEvidence value' := by
  induction h with
  | same => rfl
  | hidden _ value value' hkey =>
    obtain hr | hr := redactedByKey_of_transcript hkey
    · rw [sanitize_byKey hr,sanitize_byKey hr]
    · rw [sanitize_byKey hr,sanitize_byKey hr]
  | @redacted key dynamicEvidence text text' hplace htext htext' =>
    cases hkey : redactedByKey key with
    | some r => rw [sanitize_byKey hkey,sanitize_byKey hkey]
    | none => simp [sanitize_str hkey,htext,htext',hplace.1,hplace.2]
  | @member key dynamicEvidence _ _ _ before after _ ih =>
    cases hkey : redactedByKey key with
    | some r => rw [sanitize_byKey hkey,sanitize_byKey hkey]
    | none => rw [sanitize_obj hkey,sanitize_obj hkey,sanitizeMembers_congr before after ih]
  | @item key dynamicEvidence _ _ before after _ ih =>
    cases hkey : redactedByKey key with
    | some r => rw [sanitize_byKey hkey,sanitize_byKey hkey]
    | none => rw [sanitize_arr hkey,sanitize_arr hkey,sanitizeItems_congr before after ih]
  | trans _ _ ih₁ ih₂ => exact ih₁.trans ih₂

/-! ### Sanitized records -/

/-- A record is refused, or what is written of it is clean at every place and is written again
as it is; what it says where nothing is kept makes no difference. -/
theorem sanitizer_sound (isAlnum : Char → Bool) (value : Json) :
    (∀ x, sanitizeAgentJson isAlnum none false value = .ok x →
      (∀ k d y, Inside none false x k d y → Clean isAlnum k d y) ∧ sanitizeAgentJson isAlnum none false x = .ok x) ∧
    ∀ value', Alike isAlnum none false value value' →
      sanitizeAgentJson isAlnum none false value = sanitizeAgentJson isAlnum none false value' := by
  refine ⟨fun x hx => ⟨fun k d y hy => ?_,sanitize_again none false value x hx⟩,fun value' h => sanitize_alike h⟩
  obtain ⟨w,hw⟩ := sanitize_inside hy ⟨value,hx⟩
  exact sanitize_clean hw

/-- The text of a message among evidence is not the marker of evidence. -/
theorem message_of_evidence_not_marked : ∃ x y : Json,
    sanitizeAgentJson Char.isAlphanum none false (.obj [("evidence",.obj [("message",.str "hi")])]) = .ok x ∧
    Inside none false x (some "message") true y ∧ IsRedacted (some "message") true ∧
    y = .str "[redacted agent transcript]" ∧ y ≠ .str redactedAgentEvidence := by
  refine ⟨.obj [("evidence",.obj [("message",.str redactedAgentTranscript)])],.str redactedAgentTranscript,by rfl,?_,⟨rfl,by decide⟩,rfl,by decide⟩
  exact .member (List.mem_singleton.mpr rfl) (.member (List.mem_singleton.mpr rfl) (.here _ _ _))

end Overseer.Agent
