import Overseer.Library.JsonReading

/-! # Parsing a JSON text

`loads` reads one value and nothing after it. A mapping that names a key twice keeps the last
value. A floating-point number is kept as the text it prints as, so `floatText` stands for
`repr(float(text))`. Strings are of Unicode characters: a lone surrogate is not read.
-/
namespace Overseer.Library.Json

/-! ### The scanner -/

def isBlank (c : Char) : Bool := c ∈ [' ','\t','\n','\r']

def skipBlanks (cs : List Char) : List Char := cs.dropWhile isBlank

def hexValue? (c : Char) : Option ℕ :=
  if c.isDigit then some (c.toNat - 48)
  else if 97 ≤ c.toNat ∧ c.toNat ≤ 102 then some (c.toNat - 87)
  else if 65 ≤ c.toNat ∧ c.toNat ≤ 70 then some (c.toNat - 55)
  else none

/-- Four hexadecimal digits, of either case. -/
def readHex : List Char → Option (ℕ × List Char)
  | a :: b :: c :: d :: rest => do
    let a ← hexValue? a
    let b ← hexValue? b
    let c ← hexValue? c
    let d ← hexValue? d
    some (16 * (16 * (16 * a + b) + c) + d,rest)
  | _ => none

def shortEscape? : Char → Option Char
  | '"' => some '"'
  | '\\' => some '\\'
  | '/' => some '/'
  | 'b' => some (Char.ofNat 8)
  | 'f' => some (Char.ofNat 12)
  | 'n' => some '\n'
  | 'r' => some '\r'
  | 't' => some '\t'
  | _ => none

/-- `\uXXXX`, or two of them that make a surrogate pair. -/
def readUnicode (cs : List Char) : Option (Char × List Char) := do
  let (n,rest) ← readHex cs
  if 55296 ≤ n ∧ n < 56320 then
    match rest with
    | '\\' :: 'u' :: rest =>
      let (m,rest) ← readHex rest
      if 56320 ≤ m ∧ m < 57344 then some (Char.ofNat (65536 + (n - 55296) * 1024 + (m - 56320)),rest) else none
    | _ => none
  else if 56320 ≤ n ∧ n < 57344 then none
  else some (Char.ofNat n,rest)

/-- A character of a string. -/
def readChar : List Char → Option (Char × List Char)
  | '\\' :: 'u' :: rest => readUnicode rest
  | '\\' :: c :: rest => (shortEscape? c).map fun d => (d,rest)
  | c :: rest => if c = '\\' ∨ c.toNat < 32 then none else some (c,rest)
  | [] => none

/-- The characters up to the closing quote. -/
def readText : ℕ → List Char → Option (List Char × List Char)
  | 0,_ => none
  | _ + 1,'"' :: rest => some ([],rest)
  | fuel + 1,cs => do
    let (c,rest) ← readChar cs
    let (text,rest) ← readText fuel rest
    some (c :: text,rest)

def digits (cs : List Char) : List Char := cs.takeWhile Char.isDigit
def afterDigits (cs : List Char) : List Char := cs.dropWhile Char.isDigit

/-- A part of a number, and what is left. -/
def readSign : List Char → List Char × List Char
  | '-' :: rest => (['-'],rest)
  | cs => ([],cs)

/-- `0`, or digits that do not begin with one. -/
def readWhole : List Char → List Char × List Char
  | '0' :: rest => (['0'],rest)
  | cs => (digits cs,afterDigits cs)

/-- `\.[0-9]+`, or nothing. -/
def readFraction : List Char → List Char × List Char
  | '.' :: rest => if digits rest = [] then ([],'.' :: rest) else ('.' :: digits rest,afterDigits rest)
  | cs => ([],cs)

/-- The sign of an exponent. -/
def readExponentSign : List Char → List Char × List Char
  | '-' :: rest => (['-'],rest)
  | '+' :: rest => (['+'],rest)
  | cs => ([],cs)

/-- `[eE][-+]?[0-9]+`, or nothing. -/
def readExponent : List Char → List Char × List Char
  | c :: rest =>
    if c = 'e' ∨ c = 'E' then
      let (sign,number) := readExponentSign rest
      if digits number = [] then ([],c :: rest) else (c :: (sign ++ digits number),afterDigits number)
    else ([],c :: rest)
  | [] => ([],[])

/-- The parts of a number at the head of a text: sign and whole part, then fraction and exponent. -/
def readParts (cs : List Char) : (List Char × List Char) × List Char :=
  let sign := readSign cs
  let whole := readWhole sign.2
  let fraction := readFraction whole.2
  let exponent := readExponent fraction.2
  ((if whole.1 = [] then [] else sign.1 ++ whole.1,fraction.1 ++ exponent.1),exponent.2)

variable (floatText : String → String)

def readNumber (cs : List Char) : Option (Json × List Char) :=
  let ((whole,decimals),rest) := readParts cs
  if whole = [] then none
  else if decimals = [] then (String.ofList whole).toInt?.map fun n => (int n,rest)
  else some (float (floatText (String.ofList (whole ++ decimals))),rest)

/-- The words of a text. -/
def words : List (String × Json) :=
  [("null",null),("true",bool true),("false",bool false),("NaN",float "NaN"),("Infinity",float "Infinity"),
    ("-Infinity",float "-Infinity")]

def readWord (cs : List Char) : Option (Json × List Char) :=
  words.findSome? fun e => if e.1.toList <+: cs then some (e.2,cs.drop e.1.length) else none

/-- The items of a container after its opening bracket, of which there is one at least. -/
def readSequence {β : Type} (close : Char) (item : List Char → Option (β × List Char)) : ℕ → List Char → Option (List β × List Char)
  | 0,_ => none
  | fuel + 1,cs => do
    let (v,rest) ← item cs
    match skipBlanks rest with
    | [] => none
    | c :: rest =>
      if c = ',' then
        let (vs,rest) ← readSequence close item fuel (skipBlanks rest)
        some (v :: vs,rest)
      else if c = close then some ([v],rest)
      else none

/-- A key, a colon and a value. -/
def readMember (value : List Char → Option (Json × List Char)) (cs : List Char) : Option ((String × Json) × List Char) :=
  match cs with
  | '"' :: cs => do
    let (key,rest) ← readText cs.length cs
    match skipBlanks rest with
    | ':' :: rest =>
      let (v,rest) ← value (skipBlanks rest)
      some ((String.ofList key,v),rest)
    | _ => none
  | _ => none

/-- A value at the head of a text, as deeply nested as the fuel allows. -/
def readValue : ℕ → List Char → Option (Json × List Char)
  | 0,_ => none
  | fuel + 1,cs =>
    match cs with
    | '"' :: rest => (readText rest.length rest).map fun p => (str (String.ofList p.1),p.2)
    | '[' :: rest =>
      let items := skipBlanks rest
      if items.head? = some ']' then some (arr [],items.tail)
      else (readSequence ']' (readValue fuel) items.length items).map fun p => (arr p.1,p.2)
    | '\x7b' :: rest =>
      let members := skipBlanks rest
      if members.head? = some '\x7d' then some (obj [],members.tail)
      else (readSequence '\x7d' (readMember (readValue fuel)) members.length members).map fun p => (obj (Payload.ofList p.1).entries,p.2)
    | cs => (readWord cs).or (readNumber floatText cs)

/-- `json.loads(s)`, where none stands for the error. -/
def loads (s : String) : Option Json :=
  match readValue floatText (s.length + 1) (skipBlanks s.toList) with
  | some (v,rest) => if skipBlanks rest = [] then some v else none
  | none => none

/-! ### Strings -/

theorem hexValue?_of_mem_toDigits (n : ℕ) : ∀ c ∈ Nat.toDigits 16 n, hexValue? c = some (hexDigit c) := by
  have hall : ∀ d < 16, hexValue? (Nat.digitChar d) = some (hexDigit (Nat.digitChar d)) := by decide
  induction n using Nat.strongRecOn with
  | ind n ih =>
    rw [Nat.toDigits_eq_if (by omega)]
    split
    · next hn =>
      intro c hc
      rw [List.mem_singleton.mp hc]
      exact hall n hn
    · next hn =>
      intro c hc
      rcases List.mem_append.mp hc with hc | hc
      · exact ih (n / 16) (by omega) c hc
      · rw [List.mem_singleton.mp hc]
        exact hall (n % 16) (Nat.mod_lt n (by omega))

theorem readHex_unicodeEscape {n : ℕ} (h : n < 65536) :
    ∃ digits, unicodeEscape n = '\\' :: 'u' :: digits ∧ ∀ rest, readHex (digits ++ rest) = some (n,rest) := by
  obtain ⟨a,b,c,d,htext,hnumber⟩ := unicodeEscape_eq h
  refine ⟨[a,b,c,d],htext,fun rest => ?_⟩
  have hdigits : List.replicate (4 - (Nat.toDigits 16 n).length) '0' ++ Nat.toDigits 16 n = [a,b,c,d] := by
    rw [unicodeEscape,List.append_assoc] at htext
    exact (List.cons.inj (List.cons.inj htext).2).2
  have hvalue : ∀ e ∈ [a,b,c,d], hexValue? e = some (hexDigit e) := by
    intro e he
    rw [← hdigits,List.mem_append] at he
    rcases he with he | he
    · rw [List.eq_of_mem_replicate he]
      rfl
    · exact hexValue?_of_mem_toDigits n e he
  rw [List.cons_append,List.cons_append,List.cons_append,List.cons_append,readHex,hvalue a (by simp),hvalue b (by simp),
    hvalue c (by simp),hvalue d (by simp)]
  have hfour : 16 * (16 * (16 * hexDigit a + hexDigit b) + hexDigit c) + hexDigit d = n := by
    rw [← hnumber]
    simp [hexNumber]
  simp [hfour]

theorem readChar_single {n : ℕ} (h : n < 65536) (hn : ¬ (55296 ≤ n ∧ n < 57344)) (rest : List Char) :
    readChar (unicodeEscape n ++ rest) = some (Char.ofNat n,rest) := by
  obtain ⟨digits,htext,hread⟩ := readHex_unicodeEscape h
  rw [htext,List.cons_append,List.cons_append,readChar,readUnicode,hread]
  have hhigh : ¬ (55296 ≤ n ∧ n < 56320) := by omega
  have hlow : ¬ (56320 ≤ n ∧ n < 57344) := by omega
  simp only [bind,Option.bind,if_neg hhigh,if_neg hlow]

theorem readChar_pair {n m : ℕ} (hn : 55296 ≤ n ∧ n < 56320) (hm : 56320 ≤ m ∧ m < 57344) (rest : List Char) :
    readChar (unicodeEscape n ++ unicodeEscape m ++ rest) = some (Char.ofNat (65536 + (n - 55296) * 1024 + (m - 56320)),rest) := by
  obtain ⟨digits,htext,hread⟩ := readHex_unicodeEscape (n := n) (by omega)
  obtain ⟨digits',htext',hread'⟩ := readHex_unicodeEscape (n := m) (by omega)
  rw [htext,htext',List.append_assoc,List.cons_append,List.cons_append,readChar,readUnicode,hread]
  simp only [bind,Option.bind,if_pos hn,List.cons_append,hread',if_pos hm]

theorem readChar_plain {c : Char} (h : c ≠ '\\') (hc : ¬ c.toNat < 32) (rest : List Char) : readChar (c :: rest) = some (c,rest) := by
  rw [readChar]
  · rw [if_neg (by simp [h,hc])]
  all_goals
    intros
    exact h (by assumption)

/-- An escaped character is read back. -/
theorem readChar_escapeChar (ensureAscii : Bool) (c : Char) (rest : List Char) :
    readChar (escapeChar ensureAscii c ++ rest) = some (c,rest) := by
  have hvalid : c.toNat < 55296 ∨ (57343 < c.toNat ∧ c.toNat < 1114112) := c.valid
  have hofNat : Char.ofNat c.toNat = c := Char.ofNat_toNat c
  unfold escapeChar
  by_cases hquote : c = '"'
  · rw [if_pos hquote,hquote]
    rfl
  rw [if_neg hquote]
  by_cases hslash : c = '\\'
  · rw [if_pos hslash,hslash]
    rfl
  rw [if_neg hslash]
  by_cases hnewline : c = '\n'
  · rw [if_pos hnewline,hnewline]
    rfl
  rw [if_neg hnewline]
  by_cases hreturn : c = '\r'
  · rw [if_pos hreturn,hreturn]
    rfl
  rw [if_neg hreturn]
  by_cases htab : c = '\t'
  · rw [if_pos htab,htab]
    rfl
  rw [if_neg htab]
  by_cases hback : c.toNat = 8
  · rw [if_pos hback,← hofNat,hback]
    rfl
  rw [if_neg hback]
  by_cases hfeed : c.toNat = 12
  · rw [if_pos hfeed,← hofNat,hfeed]
    rfl
  rw [if_neg hfeed]
  by_cases hcontrol : c.toNat < 32
  · rw [if_pos hcontrol,readChar_single (by omega) (by omega),hofNat]
  rw [if_neg hcontrol]
  by_cases hwide : ensureAscii ∧ 126 < c.toNat
  · rw [if_pos hwide]
    by_cases hplane : c.toNat < 65536
    · rw [if_pos hplane,readChar_single (by omega) (by omega),hofNat]
    · rw [if_neg hplane,readChar_pair (by omega) (by omega)]
      have hcode : 65536 + (55296 + (c.toNat - 65536) / 1024 - 55296) * 1024 + (56320 + (c.toNat - 65536) % 1024 - 56320) = c.toNat := by
        omega
      rw [hcode,hofNat]
  · rw [if_neg hwide]
    exact readChar_plain hslash hcontrol rest

theorem readText_quoted (ensureAscii : Bool) (cs : List Char) {fuel : ℕ} (h : cs.length < fuel) (rest : List Char) :
    readText fuel (cs.flatMap (escapeChar ensureAscii) ++ '"' :: rest) = some (cs,rest) := by
  induction cs generalizing fuel with
  | nil =>
    obtain ⟨fuel,rfl⟩ := Nat.exists_eq_succ_of_ne_zero (Nat.ne_of_gt h)
    rfl
  | cons c cs ih =>
    obtain ⟨fuel,rfl⟩ := Nat.exists_eq_succ_of_ne_zero (Nat.ne_of_gt (Nat.zero_lt_of_lt h))
    have hrest := ih (Nat.lt_of_succ_lt_succ h)
    obtain ⟨d,z,htext,hne⟩ := escapeChar_head ensureAscii c
    have hchar := readChar_escapeChar ensureAscii c (cs.flatMap (escapeChar ensureAscii) ++ '"' :: rest)
    rw [List.flatMap_cons,List.append_assoc]
    rw [htext,List.cons_append] at hchar ⊢
    rw [readText]
    · rw [hchar]
      simp only [bind,Option.bind,hrest]
    · intro _ heq
      exact hne (List.cons.inj heq).1

theorem length_le_escaped (ensureAscii : Bool) (cs : List Char) : cs.length ≤ (cs.flatMap (escapeChar ensureAscii)).length := by
  induction cs with
  | nil => simp
  | cons c cs ih =>
    obtain ⟨d,z,htext,-⟩ := escapeChar_head ensureAscii c
    rw [List.flatMap_cons,List.length_append,htext,List.length_cons,List.length_cons]
    omega

end Overseer.Library.Json
