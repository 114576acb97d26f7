import Overseer.Agent.Store
import Overseer.Library.Text

/-! # The sanitizer of agent records

`_sanitize_agent_json` of `store.py`, through which every agent record is written: prompts and
transcripts become placeholders, credentials are refused, and the texts of an evidence mapping
are kept under safe keys only. What `str.isalnum` says of a character is a parameter.
-/
namespace Overseer.Agent
open Overseer.Library

/-! ### Keys -/

/-- A boundary before a capital that follows a small letter or a digit. -/
def camelBoundaries : List Char → List Char
  | a :: b :: rest =>
    if (a.isLower || a.isDigit) && b.isUpper then a :: '_' :: camelBoundaries (b :: rest) else a :: camelBoundaries (b :: rest)
  | cs => cs

/-- A boundary before the last capital of several. -/
def acronymBoundaries : List Char → List Char
  | a :: b :: c :: rest =>
    if a.isUpper && b.isUpper && c.isLower then a :: '_' :: acronymBoundaries (b :: c :: rest)
    else a :: acronymBoundaries (b :: c :: rest)
  | cs => cs

/-- `str.lower`, up to characters outside `[a-z0-9]`. -/
def lowerChar (c : Char) : List Char :=
  if c.isUpper then [c.toLower]
  else if c = '\u212a' then ['k']
  else if c = '\u0130' then ['i','\u0307']
  else [c]

/-- Every run of characters outside `[a-z0-9]` becomes one underscore. -/
def underscoreRuns : Bool → List Char → List Char
  | _,[] => []
  | inRun,c :: rest =>
    if c.isLower || c.isDigit then c :: underscoreRuns false rest
    else if inRun then underscoreRuns true rest
    else '_' :: underscoreRuns true rest

def normalizeAgentKey (key : String) : String :=
  let withBoundaries := acronymBoundaries (camelBoundaries key.toList)
  trim (· = '_') (String.ofList (underscoreRuns false (withBoundaries.flatMap lowerChar)))

def agentCredentialKeys : List String :=
  ["credential","credentials","secret","client_secret","client_secret_value","password","authorization","cookie","private_key",
    "access_key","api_key","bearer","token","access_token","refresh_token","id_token"]

def agentTranscriptKeys : List String :=
  ["transcript","conversation","history","raw_message","raw_messages","raw_output","raw_outputs","provider_output","message",
    "messages","output","outputs","prompt","body","content"]

def agentDynamicEvidenceKeys : List String := ["evidence","legacy_references"]

def agentSafeEvidenceKeys : List String :=
  ["status","state","reason","available","healthy","provider","model","version","capability","reference","hash","duration",
    "duration_ms","exit_code"]

def isSafeEvidenceKey (normalizedKey : Option String) : Bool :=
  match normalizedKey with
  | none => false
  | some key => key ∈ agentSafeEvidenceKeys ||
      ["_id","_ref","_hash","_at","_count","_tokens","_units"].any (hasSuffix key) ||
      hasPrefix key "supports_" || ["_available","_healthy","_enabled","_supported"].any (hasSuffix key)

/-! ### Secrets -/

/-- The letter that a character is when case is ignored. -/
def foldCase (c : Char) : Char :=
  if c.isUpper then c.toLower
  else if c = '\u0130' ∨ c = '\u0131' then 'i'
  else if c = '\u017f' then 's'
  else if c = '\u212a' then 'k'
  else c

/-- What follows the text, whose letters are small ones. -/
def afterText : List Char → List Char → Option (List Char)
  | [],cs => some cs
  | p :: ps,c :: cs => if foldCase c = p then afterText ps cs else none
  | _ :: _,[] => none

/-- `\S+` at this place. -/
def someText (cs : List Char) : Bool := cs.head?.any fun c => !isSpace c

/-- `bearer\s+\S+`. -/
def bearerAt (cs : List Char) : Bool :=
  (afterText "bearer".toList cs).any fun rest => rest.head?.any isSpace && someText (rest.dropWhile isSpace)

def isKeyChar (c : Char) : Bool := (foldCase c).isLower || c.isDigit || c = '_' || c = '-'

/-- `sk-[A-Za-z0-9_-]{8,}`. -/
def secretKeyAt (cs : List Char) : Bool :=
  (afterText "sk-".toList cs).any fun rest => 8 ≤ (rest.takeWhile isKeyChar).length

/-- `-----BEGIN(?: [A-Z]+)? PRIVATE KEY-----`. -/
def privateKeyAt (cs : List Char) : Bool :=
  (afterText "-----begin".toList cs).any fun rest =>
    (afterText " private key-----".toList rest).isSome ||
    match rest with
    | ' ' :: label => (foldCase (label.headD ' ')).isLower &&
        (afterText " private key-----".toList (label.dropWhile fun c => (foldCase c).isLower)).isSome
    | _ => false

/-- `(?:session|auth|access)?_?token=\S+`. -/
def tokenAt (cs : List Char) : Bool :=
  ["token=","_token=","sessiontoken=","session_token=","authtoken=","auth_token=","accesstoken=","access_token="].any fun start =>
    (afterText start.toList cs).any someText

section Secrets
variable (isAlnum : Char → Bool)

/-- `_AGENT_SECRET_VALUE_RE` at a place of the text, after the character before it. -/
def secretAt (before : Option Char) (cs : List Char) : Bool :=
  (bearerAt cs || secretKeyAt cs) && !before.any (fun c => isAlnum c || c = '_') ||
  privateKeyAt cs ||
  tokenAt cs && before.isNone ||
  match cs with
  | c :: rest => (c = ';' || c = ',' || isSpace c) && tokenAt rest
  | [] => false

def secretFrom : Option Char → List Char → Bool
  | before,[] => secretAt isAlnum before []
  | before,c :: rest => secretAt isAlnum before (c :: rest) || secretFrom (some c) rest

/-- `_AGENT_SECRET_VALUE_RE.search(text)`. -/
def isSecretValue (text : String) : Bool := secretFrom isAlnum none text.toList

end Secrets

/-! ### Records -/

def redactedAgentTranscript : String := "[redacted agent transcript]"
def redactedAgentEvidence : String := "[redacted agent evidence]"

def credentialError : AgentError := valueError "agent records cannot persist credential material"

/-- What becomes of a value for its key alone. -/
def redactedByKey (key : Option String) : Option (Except AgentError Json) :=
  match key.map normalizeAgentKey with
  | none => none
  | some normalizedKey =>
    if normalizedKey = "prompt" then some (.ok (.str redactedDispatchPrompt))
    else if normalizedKey ∈ agentTranscriptKeys then some (.ok (.str redactedAgentTranscript))
    else if normalizedKey ∈ agentCredentialKeys then some (.error credentialError)
    else none

/-- The members of a mapping under this key are evidence. -/
def holdsEvidence (key : Option String) (dynamicEvidence : Bool) : Bool :=
  dynamicEvidence || (key.map normalizeAgentKey).any (· ∈ agentDynamicEvidenceKeys)

section Records
variable (isAlnum : Char → Bool)

mutual
def sanitizeAgentJson (key : Option String) (dynamicEvidence : Bool) (value : Json) : Except AgentError Json :=
  match redactedByKey key with
  | some redacted => redacted
  | none =>
    match value with
    | .obj members => (sanitizeMembers (holdsEvidence key dynamicEvidence) members).map .obj
    | .arr items => (sanitizeItems key dynamicEvidence items).map .arr
    | .str text =>
      if isSecretValue isAlnum text then .error credentialError
      else if dynamicEvidence && !isSafeEvidenceKey (key.map normalizeAgentKey) then .ok (.str redactedAgentEvidence)
      else .ok (.str text)
    | value => .ok value
def sanitizeMembers (dynamicEvidence : Bool) : List (String × Json) → Except AgentError (List (String × Json))
  | [] => .ok []
  | (key,value) :: rest => do
    let value ← sanitizeAgentJson (some key) dynamicEvidence value
    let rest ← sanitizeMembers dynamicEvidence rest
    return (key,value) :: rest
def sanitizeItems (key : Option String) (dynamicEvidence : Bool) : List Json → Except AgentError (List Json)
  | [] => .ok []
  | value :: rest => do
    let value ← sanitizeAgentJson key dynamicEvidence value
    let rest ← sanitizeItems key dynamicEvidence rest
    return value :: rest
end

end Records

end Overseer.Agent
