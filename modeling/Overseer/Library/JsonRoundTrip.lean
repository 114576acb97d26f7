import Overseer.Library.JsonParsing
import Overseer.Library.Stored
import Mathlib.Data.List.TakeWhile

/-! # Parsing what is printed

`loads` gives back the value that a text was printed from, where its floating-point numbers
are the texts that they print as.
-/
namespace Overseer.Library.Json

/-! ### Numbers -/

theorem isClosing_cases {c : Char} (h : isClosing c = true) : c = ',' ∨ c = ']' ∨ c = '\x7d' := by
  simpa [isClosing] using h

/-- A part that is read the same, whatever the number stands before. -/
def Parts (read : List Char → List Char × List Char) : Prop :=
  ∀ cs rest, Ends rest → read (cs ++ rest) = ((read cs).1,(read cs).2 ++ rest)

theorem digits_append (cs : List Char) {rest : List Char} (h : Ends rest) :
    digits (cs ++ rest) = digits cs ∧ afterDigits (cs ++ rest) = afterDigits cs ++ rest := by
  induction cs with
  | nil =>
    cases rest with
    | nil => exact ⟨rfl,rfl⟩
    | cons c rest =>
      have hc : c.isDigit = false := by rcases isClosing_cases (h c rfl) with rfl | rfl | rfl <;> decide
      simp [digits,afterDigits,hc]
  | cons c cs ih =>
    cases hc : c.isDigit with
    | true => simpa [digits,afterDigits,hc] using ih
    | false => simp [digits,afterDigits,hc]

theorem readSign_parts : Parts readSign := by
  intro cs rest h
  cases cs with
  | nil =>
    cases rest with
    | nil => rfl
    | cons c rest => rcases isClosing_cases (h c rfl) with rfl | rfl | rfl <;> rfl
  | cons c cs =>
    by_cases hc : c = '-'
    · subst hc
      rfl
    · simp [readSign,hc]

theorem readWhole_parts : Parts readWhole := by
  intro cs rest h
  cases cs with
  | nil =>
    cases rest with
    | nil => rfl
    | cons c rest => rcases isClosing_cases (h c rfl) with rfl | rfl | rfl <;> rfl
  | cons c cs =>
    by_cases hc : c = '0'
    · subst hc
      rfl
    · have happend := digits_append (c :: cs) h
      rw [List.cons_append] at happend
      simp [readWhole,hc,happend]

theorem readFraction_parts : Parts readFraction := by
  intro cs rest h
  cases cs with
  | nil =>
    cases rest with
    | nil => rfl
    | cons c rest => rcases isClosing_cases (h c rfl) with rfl | rfl | rfl <;> rfl
  | cons c cs =>
    by_cases hc : c = '.'
    · subst hc
      rw [List.cons_append,readFraction,readFraction,(digits_append cs h).1,(digits_append cs h).2]
      split <;> rfl
    · simp [readFraction,hc]

theorem readExponentSign_parts : Parts readExponentSign := by
  intro cs rest h
  cases cs with
  | nil =>
    cases rest with
    | nil => rfl
    | cons c rest => rcases isClosing_cases (h c rfl) with rfl | rfl | rfl <;> rfl
  | cons c cs =>
    by_cases hc : c = '-'
    · subst hc
      rfl
    · by_cases hc' : c = '+'
      · subst hc'
        rfl
      · simp [readExponentSign,hc,hc']

theorem readExponent_parts : Parts readExponent := by
  intro cs rest h
  cases cs with
  | nil =>
    cases rest with
    | nil => rfl
    | cons c rest => rcases isClosing_cases (h c rfl) with rfl | rfl | rfl <;> rfl
  | cons c cs =>
    rw [List.cons_append,readExponent,readExponent,readExponentSign_parts cs rest h]
    simp only [(digits_append _ h).1,(digits_append _ h).2]
    split
    · split <;> rfl
    · rfl

theorem readParts_append (cs : List Char) {rest : List Char} (h : Ends rest) :
    readParts (cs ++ rest) = ((readParts cs).1,(readParts cs).2 ++ rest) := by
  simp only [readParts,readSign_parts cs rest h,readWhole_parts _ rest h,readFraction_parts _ rest h,readExponent_parts _ rest h]

/-- A number begins with a digit, after its sign. -/
theorem head_of_parts {cs : List Char} (h : (readParts cs).1.1 ≠ []) :
    ∃ c z, c.isDigit = true ∧ (cs = c :: z ∨ cs = '-' :: c :: z) := by
  have hwhole : ∀ ds : List Char, (readWhole ds).1 ≠ [] → ∃ c z, c.isDigit = true ∧ ds = c :: z := by
    intro ds hds
    cases ds with
    | nil => exact absurd rfl hds
    | cons c z =>
      refine ⟨c,z,?_,rfl⟩
      by_cases hc : c = '0'
      · rw [hc]
        rfl
      · cases hdigit : c.isDigit with
        | true => rfl
        | false =>
          refine absurd ?_ hds
          simp [readWhole,hc,digits,hdigit]
  have hne : (readWhole (readSign cs).2).1 ≠ [] := by
    intro hnil
    exact h (by rw [readParts]; exact if_pos hnil)
  obtain ⟨c,z,hc,hcs⟩ := hwhole _ hne
  refine ⟨c,z,hc,?_⟩
  cases cs with
  | nil => cases hcs
  | cons d ds =>
    by_cases hd : d = '-'
    · subst hd
      exact .inr (congrArg _ hcs)
    · left
      simpa [readSign,hd] using hcs

/-- A number with a fraction or an exponent. -/
def isDecimal (t : String) : Bool :=
  let parts := readParts t.toList
  parts.1.1 ≠ [] && parts.1.2 ≠ [] && parts.1.1 ++ parts.1.2 = t.toList && parts.2 = []

/-- The text is what the number that it stands for prints as. -/
def isReadBack (floatText : String → String) (t : String) : Bool :=
  t ∈ ["NaN","Infinity","-Infinity"] || (isDecimal t && floatText t = t)

theorem head_toDigits {n : ℕ} (h : 0 < n) : ∃ c z, Nat.toDigits 10 n = c :: z ∧ c ≠ '0' := by
  have hdigit : ∀ d < 10, 0 < d → Nat.digitChar d ≠ '0' := by decide
  induction n using Nat.strongRecOn with
  | ind n ih =>
    rw [Nat.toDigits_eq_if (by omega)]
    split
    · next hn => exact ⟨_,[],rfl,hdigit n hn h⟩
    · next hn =>
      obtain ⟨c,z,htext,hc⟩ := ih (n / 10) (by omega) (by omega)
      exact ⟨c,z ++ [Nat.digitChar (n % 10)],by rw [htext]; rfl,hc⟩

theorem readWhole_repr (n : ℕ) : readWhole (Nat.repr n).toList = ((Nat.repr n).toList,[]) := by
  rw [Nat.toList_repr]
  rcases Nat.eq_zero_or_pos n with rfl | hpos
  · rfl
  · have hdigits : ∀ c ∈ Nat.toDigits 10 n, c.isDigit = true := fun c hc => Nat.isDigit_of_mem_toDigits (by omega) (by omega) hc
    obtain ⟨c,z,htext,hc⟩ := head_toDigits hpos
    rw [htext] at hdigits ⊢
    have htake : (c :: z).takeWhile Char.isDigit = c :: z := List.takeWhile_eq_self_iff.mpr hdigits
    have hdrop : (c :: z).dropWhile Char.isDigit = [] := List.dropWhile_eq_nil_iff.mpr hdigits
    simp [readWhole,hc,digits,afterDigits,htake,hdrop]

theorem readParts_int (n : ℤ) : readParts (toString n).toList = (((toString n).toList,[]),[]) := by
  have hnat : ∀ m : ℕ, readSign (Nat.repr m).toList = ([],(Nat.repr m).toList) ∧ (Nat.repr m).toList ≠ [] := by
    intro m
    rw [Nat.toList_repr]
    refine ⟨?_,Nat.toDigits_ne_nil⟩
    cases htext : Nat.toDigits 10 m with
    | nil => rfl
    | cons c z =>
      have hdigit : c.isDigit = true := Nat.isDigit_of_mem_toDigits (by omega) (by omega) (htext ▸ List.mem_cons_self)
      have hc : c ≠ '-' := by
        rintro rfl
        cases hdigit
      simp [readSign,hc]
  rw [Int.toString_eq_repr,Int.repr_eq_if]
  split
  · obtain ⟨hsign,hne⟩ := hnat n.toNat
    simp only [readParts,hsign,readWhole_repr,if_neg hne]
    rfl
  · obtain ⟨-,hne⟩ := hnat (-n).toNat
    rw [String.toList_append]
    have hsign : readSign ("-".toList ++ (-n).toNat.repr.toList) = (['-'],(-n).toNat.repr.toList) := rfl
    simp only [readParts,hsign,readWhole_repr,if_neg hne]
    rfl

variable {floatText : String → String}

theorem readNumber_int (n : ℤ) {rest : List Char} (h : Ends rest) :
    readNumber floatText ((toString n).toList ++ rest) = some (int n,rest) := by
  have hne : (toString n).toList ≠ [] := word_ne_nil {} false (v := int n) rfl
  have hnumber : (toString n).toInt? = some n := Int.toInt?_repr n
  rw [readNumber,readParts_append _ h,readParts_int]
  simp only [if_neg hne,if_true,String.ofList_toList,hnumber]
  rfl

theorem readNumber_decimal {t : String} (ht : isDecimal t = true) (htext : floatText t = t) {rest : List Char} (h : Ends rest) :
    readNumber floatText (t.toList ++ rest) = some (float t,rest) := by
  simp only [isDecimal,Bool.and_eq_true,decide_eq_true_eq] at ht
  obtain ⟨⟨⟨hwhole,hdecimals⟩,hparts⟩,hrest⟩ := ht
  rw [readNumber,readParts_append _ h]
  simp only [hrest,if_neg hwhole,if_neg hdecimals,hparts,String.ofList_toList,htext]
  rfl

theorem head_of_word {e : String × Json} (he : e ∈ words) :
    ∃ c d z, e.1.toList = c :: d :: z ∧ c.isDigit = false ∧ d.isDigit = false := by
  simp only [words,List.mem_cons,List.not_mem_nil,or_false] at he
  rcases he with rfl | rfl | rfl | rfl | rfl | rfl <;> exact ⟨_,_,_,rfl,rfl,rfl⟩

theorem readWord_number {cs : List Char} {c : Char} {z : List Char} (hc : c.isDigit = true) (h : cs = c :: z ∨ cs = '-' :: c :: z) :
    readWord cs = none := by
  rw [readWord,List.findSome?_eq_none_iff]
  intro e he
  refine if_neg fun hprefix => ?_
  obtain ⟨a,b,w,htext,ha,hb⟩ := head_of_word he
  obtain ⟨rest,hrest⟩ := hprefix
  rw [htext] at hrest
  rcases h with rfl | rfl
  · rw [(List.cons.inj hrest).1,hc] at ha
    cases ha
  · rw [(List.cons.inj (List.cons.inj hrest).2).1,hc] at hb
    cases hb

theorem readWord_word {e : String × Json} (he : e ∈ words) (rest : List Char) :
    readWord (e.1.toList ++ rest) = some (e.2,rest) := by
  simp only [words,List.mem_cons,List.not_mem_nil,or_false] at he
  rcases he with rfl | rfl | rfl | rfl | rfl | rfl <;> rfl

/-! ### Values -/

/-- The text stands for the value, whatever comes after it. -/
structure Reads (floatText : String → String) (cs : List Char) (v : Json) : Prop where
  begins : ∃ c z, cs = c :: z ∧ isBlank c = false ∧ isClosing c = false
  read : ∀ fuel rest, cs.length ≤ fuel → Ends rest → readValue floatText fuel (cs ++ rest) = some (v,rest)

theorem skipBlanks_cons {c : Char} (h : isBlank c = false) (z : List Char) : skipBlanks (c :: z) = c :: z := by
  rw [skipBlanks,List.dropWhile_cons_of_neg (by simp [h])]

theorem Reads.skipBlanks {cs : List Char} {v : Json} (h : Reads floatText cs v) (rest : List Char) :
    skipBlanks (cs ++ rest) = cs ++ rest := by
  obtain ⟨c,z,rfl,hblank,-⟩ := h.begins
  exact skipBlanks_cons hblank _

theorem readValue_plain {c : Char} {z : List Char} (h : isPlain c = true) {fuel : ℕ} (hfuel : 0 < fuel) :
    readValue floatText fuel (c :: z) = (readWord (c :: z)).or (readNumber floatText (c :: z)) := by
  obtain ⟨fuel,rfl⟩ := Nat.exists_eq_succ_of_ne_zero (Nat.ne_of_gt hfuel)
  rw [readValue]
  all_goals
    intro _ heq
    rw [(List.cons.inj heq).1] at h
    cases h

theorem plain_begins {c : Char} (h : isPlain c = true) : isBlank c = false ∧ isClosing c = false := by
  constructor
  · cases hblank : isBlank c with
    | false => rfl
    | true =>
      have hcases : c = ' ' ∨ c = '\t' ∨ c = '\n' ∨ c = '\r' := by simpa [isBlank] using hblank
      rcases hcases with rfl | rfl | rfl | rfl <;> cases h
  · cases hclosing : isClosing c with
    | false => rfl
    | true =>
      rw [isPlain_of_closing hclosing] at h
      cases h

theorem reads_plain {cs : List Char} {v : Json} (hne : cs ≠ []) (hplain : cs.all isPlain = true)
    (hread : ∀ rest, Ends rest → (readWord (cs ++ rest)).or (readNumber floatText (cs ++ rest)) = some (v,rest)) :
    Reads floatText cs v := by
  cases cs with
  | nil => exact absurd rfl hne
  | cons c z =>
    rw [List.all_cons,Bool.and_eq_true] at hplain
    refine ⟨⟨c,z,rfl,plain_begins hplain.1⟩,fun fuel rest hfuel hrest => ?_⟩
    rw [List.cons_append,readValue_plain hplain.1 (Nat.zero_lt_of_lt hfuel),← List.cons_append]
    exact hread rest hrest

theorem readWord_append_number {cs rest : List Char} (h : (readParts cs).1.1 ≠ []) : readWord (cs ++ rest) = none := by
  obtain ⟨c,z,hc,hcs⟩ := head_of_parts h
  refine readWord_number (z := z ++ rest) hc ?_
  rcases hcs with rfl | rfl
  · exact .inl rfl
  · exact .inr rfl

/-- Numbers and words are read back. -/
theorem reads_word (ensureAscii : Bool) {v : Json} (h : isWord v = true) (hfloat : ∀ t, v = float t → isReadBack floatText t = true) :
    Reads floatText (dumpsChars {} ensureAscii v) v := by
  refine reads_plain (word_ne_nil {} ensureAscii h) (word_plain {} ensureAscii h) fun rest hrest => ?_
  cases v with
  | null =>
    have hword := readWord_word (e := ("null",null)) (by simp [words]) rest
    exact congrArg (Option.or · _) hword
  | bool b =>
    have hword := readWord_word (e := (if b then "true" else "false",bool b)) (by cases b <;> simp [words]) rest
    exact congrArg (Option.or · _) hword
  | int n =>
    have hwhole : (readParts (toString n).toList).1.1 ≠ [] := by
      rw [readParts_int]
      exact word_ne_nil {} false (v := int n) rfl
    rw [dumpsChars,readWord_append_number hwhole]
    exact readNumber_int n hrest
  | float t =>
    have hback := hfloat t rfl
    rw [isReadBack,Bool.or_eq_true,Bool.and_eq_true] at hback
    rcases hback with hspecial | ⟨hdecimal,htext⟩
    · have hword : (t,float t) ∈ words := by
        simp only [List.mem_cons,List.not_mem_nil,or_false,decide_eq_true_eq] at hspecial
        rcases hspecial with rfl | rfl | rfl <;> simp [words]
      exact congrArg (Option.or · _) (readWord_word hword rest)
    · have hparts := hdecimal
      simp only [isDecimal,Bool.and_eq_true,decide_eq_true_eq] at hparts
      rw [dumpsChars,readWord_append_number hparts.1.1.1]
      exact readNumber_decimal hdecimal (of_decide_eq_true htext) hrest
  | str s => cases h
  | arr items => cases h
  | obj members => cases h

theorem reads_str (ensureAscii : Bool) (s : String) : Reads floatText (quoteChars ensureAscii s) (str s) := by
  refine ⟨⟨'"',_,rfl,rfl,rfl⟩,fun fuel rest hfuel _ => ?_⟩
  obtain ⟨fuel,rfl⟩ := Nat.exists_eq_succ_of_ne_zero (n := fuel) (by rintro rfl; cases hfuel)
  have hlength := length_le_escaped ensureAscii s.toList
  rw [quoteChars,List.cons_append,List.append_assoc,List.cons_append,List.nil_append,readValue,
    readText_quoted ensureAscii s.toList (by rw [List.length_append,List.length_cons]; omega)]
  simp

section Containers
variable {α β : Type} {text : α → List Char} {value : α → β} {item : List Char → Option (β × List Char)} {close : Char}

/-- The items of a container are read back, each from its text. -/
theorem readSequence_following (hclose : isClosing close = true) (hcomma : close ≠ ',') {as : List α} {a : α}
    (hitem : ∀ b ∈ a :: as, ∀ rest, Ends rest → item (text b ++ rest) = some (value b,rest))
    (hbegins : ∀ b ∈ a :: as, ∀ rest, skipBlanks (text b ++ rest) = text b ++ rest) {n : ℕ} (hn : as.length < n) (rest : List Char) :
    readSequence close item n (text a ++ (following text as ++ close :: rest)) = some ((a :: as).map value,rest) := by
  have hmark : ∀ {c : Char}, isClosing c = true → isBlank c = false := by
    intro c hc
    rcases isClosing_cases hc with rfl | rfl | rfl <;> rfl
  induction as generalizing a n with
  | nil =>
    obtain ⟨n,rfl⟩ := Nat.exists_eq_succ_of_ne_zero (Nat.ne_of_gt hn)
    have hfirst := hitem a List.mem_cons_self _ (@ends_following _ text _ hclose [] rest)
    have hend : following text [] ++ close :: rest = close :: rest := rfl
    rw [hend] at hfirst ⊢
    simp only [readSequence,bind,Option.bind,hfirst,skipBlanks_cons (hmark hclose),if_neg hcomma,if_true]
    rfl
  | cons b as ih =>
    obtain ⟨n,rfl⟩ := Nat.exists_eq_succ_of_ne_zero (Nat.ne_of_gt (Nat.zero_lt_of_lt hn))
    have hfirst := hitem a List.mem_cons_self _ (@ends_following _ text _ hclose (b :: as) rest)
    have hrest := ih (fun c hc => hitem c (List.mem_cons_of_mem _ hc)) (fun c hc => hbegins c (List.mem_cons_of_mem _ hc))
      (Nat.lt_of_succ_lt_succ hn)
    have hcons : following text (b :: as) ++ close :: rest = ',' :: (text b ++ (following text as ++ close :: rest)) := by
      simp [following]
    rw [hcons] at hfirst ⊢
    have hskip := hbegins b (List.mem_cons_of_mem _ List.mem_cons_self) (following text as ++ close :: rest)
    simp only [readSequence,bind,Option.bind,hfirst,skipBlanks_cons (hmark (c := ',') rfl),if_true,hskip,hrest,List.map_cons]

theorem length_following (text : α → List Char) (as : List α) : as.length ≤ (following text as).length := by
  induction as with
  | nil => simp
  | cons a as ih =>
    have hcons : following text (a :: as) = ',' :: (text a ++ following text as) := rfl
    rw [hcons,List.length_cons,List.length_cons,List.length_append]
    omega

theorem length_item_le (text : α → List Char) {as : List α} {b : α} (h : b ∈ as) : (text b).length ≤ ([','].intercalate (as.map text)).length := by
  have hrest : ∀ cs : List α, b ∈ cs → (text b).length ≤ (following text cs).length := by
    intro cs hb
    induction cs with
    | nil => cases hb
    | cons c cs ih =>
      have hcons : following text (c :: cs) = ',' :: (text c ++ following text cs) := rfl
      rw [hcons,List.length_cons,List.length_append]
      rcases List.mem_cons.mp hb with rfl | hb
      · omega
      · have := ih hb
        omega
  cases as with
  | nil => cases h
  | cons a as =>
    rw [intercalate_following,List.length_append]
    rcases List.mem_cons.mp h with rfl | h
    · omega
    · have := hrest as h
      omega

/-- What is read between the brackets of a container. -/
theorem readSequence_intercalate (hclose : isClosing close = true) (hcomma : close ≠ ',') {as : List α} (hne : as ≠ [])
    (hitem : ∀ b ∈ as, ∀ rest, Ends rest → item (text b ++ rest) = some (value b,rest))
    (hbegins : ∀ b ∈ as, ∃ c z, text b = c :: z ∧ isBlank c = false ∧ isClosing c = false) (rest : List Char) :
    let body := [','].intercalate (as.map text) ++ close :: rest
    skipBlanks body = body ∧ body.head? ≠ some close ∧ readSequence close item body.length body = some (as.map value,rest) := by
  cases as with
  | nil => exact absurd rfl hne
  | cons a as =>
    have hskips : ∀ b ∈ a :: as, ∀ rest, skipBlanks (text b ++ rest) = text b ++ rest := by
      intro b hb rest
      obtain ⟨c,z,htext,hblank,-⟩ := hbegins b hb
      rw [htext]
      exact skipBlanks_cons hblank _
    rw [intercalate_following,List.append_assoc]
    refine ⟨hskips a List.mem_cons_self _,?_,?_⟩
    · obtain ⟨c,z,htext,-,hopen⟩ := hbegins a List.mem_cons_self
      rw [htext]
      rintro heq
      rw [Option.some.inj heq,hclose] at hopen
      cases hopen
    · refine readSequence_following hclose hcomma hitem hskips ?_ rest
      have := length_following text as
      rw [List.length_append,List.length_append,List.length_cons]
      omega

theorem reads_arr (text : α → List Char) (value : α → Json) {as : List α} (h : ∀ a ∈ as, Reads floatText (text a) (value a)) :
    Reads floatText ('[' :: ([','].intercalate (as.map text) ++ [']'])) (arr (as.map value)) := by
  refine ⟨⟨'[',_,rfl,rfl,rfl⟩,fun fuel rest hfuel _ => ?_⟩
  obtain ⟨fuel,rfl⟩ := Nat.exists_eq_succ_of_ne_zero (n := fuel) (by rintro rfl; cases hfuel)
  rw [List.length_cons,List.length_append] at hfuel
  rw [List.cons_append,List.append_assoc,List.cons_append,List.nil_append]
  by_cases hne : as = []
  · subst hne
    rfl
  · have hitem : ∀ a ∈ as, ∀ rest, Ends rest → readValue floatText fuel (text a ++ rest) = some (value a,rest) := by
      intro a ha rest hrest
      have := length_item_le text ha
      exact (h a ha).read fuel rest (by omega) hrest
    have hclose : isClosing ']' = true := rfl
    obtain ⟨hskip,hopen,hread⟩ := readSequence_intercalate hclose (by decide) hne hitem (fun a ha => (h a ha).begins) rest
    simp only [readValue,hskip,if_neg hopen,hread]
    rfl

theorem readMember_text {ensureAscii : Bool} {key : String} {body : List Char} {v : Json} (h : Reads floatText body v) {fuel : ℕ}
    (hfuel : body.length ≤ fuel) {rest : List Char} (hrest : Ends rest) :
    readMember (readValue floatText fuel) (quoteChars ensureAscii key ++ ':' :: body ++ rest) = some ((key,v),rest) := by
  have hlength := length_le_escaped ensureAscii key.toList
  have hcolon : isBlank ':' = false := rfl
  rw [quoteChars,List.cons_append,List.cons_append,List.append_assoc,List.append_assoc,List.cons_append,List.cons_append,
    List.nil_append,readMember,readText_quoted ensureAscii key.toList (by rw [List.length_append,List.length_cons]; omega)]
  simp only [bind,Option.bind,skipBlanks_cons hcolon,h.skipBlanks,h.read fuel rest hfuel hrest,String.ofList_toList]

/-- A printed mapping stands for its members. -/
theorem reads_obj (ensureAscii : Bool) {key : α → String} (body : α → List Char) (value : α → Json) {as : List α}
    (hkeys : (as.map key).Nodup) (h : ∀ a ∈ as, Reads floatText (body a) (value a)) :
    Reads floatText ('\x7b' :: ([','].intercalate (as.map fun a => quoteChars ensureAscii (key a) ++ ':' :: body a) ++ ['\x7d']))
      (obj (as.map fun a => (key a,value a))) := by
  refine ⟨⟨'\x7b',_,rfl,rfl,rfl⟩,fun fuel rest hfuel _ => ?_⟩
  obtain ⟨fuel,rfl⟩ := Nat.exists_eq_succ_of_ne_zero (n := fuel) (by rintro rfl; cases hfuel)
  rw [List.length_cons,List.length_append] at hfuel
  rw [List.cons_append,List.append_assoc,List.cons_append,List.nil_append]
  by_cases hne : as = []
  · subst hne
    rfl
  · have hitem : ∀ a ∈ as, ∀ rest, Ends rest → readMember (readValue floatText fuel)
        (quoteChars ensureAscii (key a) ++ ':' :: body a ++ rest) = some ((key a,value a),rest) := by
      intro a ha rest hrest
      have hle := length_item_le (fun a => quoteChars ensureAscii (key a) ++ ':' :: body a) ha
      rw [List.length_append,List.length_cons] at hle
      exact readMember_text (h a ha) (by omega) hrest
    have hbegins : ∀ a ∈ as, ∃ c z, quoteChars ensureAscii (key a) ++ ':' :: body a = c :: z ∧ isBlank c = false ∧ isClosing c = false :=
      fun a _ => ⟨'"',_,rfl,rfl,rfl⟩
    have hclose : isClosing '\x7d' = true := rfl
    obtain ⟨hskip,hopen,hread⟩ := readSequence_intercalate hclose (by decide) hne hitem hbegins rest
    have hnodup : ((as.map fun a => (key a,value a)).map Prod.fst).Nodup := by
      rw [List.map_map]
      exact hkeys
    simp only [readValue,hskip,if_neg hopen,hread,Option.map_some,Payload.entries_ofList hnodup]

end Containers

theorem loads_of_reads {s : String} {v : Json} (h : Reads floatText s.toList v) : loads floatText s = some v := by
  have hends : Ends [] := fun _ hc => (by cases hc)
  have hskip := h.skipBlanks []
  have hread := h.read (s.length + 1) [] (Nat.le_succ _) hends
  rw [List.append_nil] at hskip hread
  rw [loads,hskip,hread]
  rfl

/-! ### The compact text -/

mutual
/-- The condition holds of every floating-point number in the value. -/
def allFloats (p : String → Bool) : Json → Bool
  | float t => p t
  | arr items => allFloatsItems p items
  | obj members => allFloatsMembers p members
  | _ => true
def allFloatsItems (p : String → Bool) : List Json → Bool
  | [] => true
  | v :: rest => allFloats p v && allFloatsItems p rest
def allFloatsMembers (p : String → Bool) : List (String × Json) → Bool
  | [] => true
  | (_,v) :: rest => allFloats p v && allFloatsMembers p rest
end

theorem allFloatsItems_iff {p : String → Bool} (items : List Json) :
    allFloatsItems p items = true ↔ ∀ v ∈ items, allFloats p v = true := by
  induction items with
  | nil => simp [allFloatsItems]
  | cons v rest ih => simp [allFloatsItems,ih]

theorem allFloatsMembers_iff {p : String → Bool} (members : List (String × Json)) :
    allFloatsMembers p members = true ↔ ∀ e ∈ members, allFloats p e.2 = true := by
  induction members with
  | nil => simp [allFloatsMembers]
  | cons e rest ih => simp [allFloatsMembers,ih]

/-- The value is one that is read back from its text. -/
def Printed (floatText : String → String) (v : Json) : Prop := written v = true ∧ allFloats (isReadBack floatText) v = true

theorem printed_arr {vs : List Json} : Printed floatText (arr vs) ↔ ∀ v ∈ vs, Printed floatText v := by
  simp only [Printed,written,allFloats,writtenItems_iff,allFloatsItems_iff]
  exact ⟨fun h v hv => ⟨h.1 v hv,h.2 v hv⟩,fun h => ⟨fun v hv => (h v hv).1,fun v hv => (h v hv).2⟩⟩

theorem printed_obj {es : List (String × Json)} :
    Printed floatText (obj es) ↔ (es.map Prod.fst).Nodup ∧ ∀ e ∈ es, Printed floatText e.2 := by
  simp only [Printed,written,allFloats,Bool.and_eq_true,decide_eq_true_eq,writtenMembers_iff,allFloatsMembers_iff]
  constructor
  · rintro ⟨⟨hkeys,hwritten⟩,hfloats⟩
    exact ⟨hkeys,fun e he => ⟨hwritten e he,hfloats e he⟩⟩
  · rintro ⟨hkeys,h⟩
    exact ⟨⟨hkeys,fun e he => (h e he).1⟩,fun e he => (h e he).2⟩

theorem dumpsItems_eq_map (ensureAscii : Bool) (items : List Json) :
    dumpsItems {} ensureAscii items = items.map (dumpsChars {} ensureAscii) := by
  induction items with
  | nil => rfl
  | cons v rest ih => rw [dumpsItems,ih,List.map_cons]

theorem dumpsMembers_eq_map (ensureAscii : Bool) (members : List (String × Json)) : dumpsMembers {} ensureAscii members =
    members.map fun e => quoteChars ensureAscii e.1 ++ ':' :: dumpsChars {} ensureAscii e.2 := by
  induction members with
  | nil => rfl
  | cons e rest ih =>
    rw [dumpsMembers,ih,List.map_cons]
    rfl

theorem reads_dumps (ensureAscii : Bool) (v : Json) : Printed floatText v → Reads floatText (dumpsChars {} ensureAscii v) v := by
  refine of_parts (P := fun v => Printed floatText v → Reads floatText (dumpsChars {} ensureAscii v) v) ?_ ?_ ?_ v
  · intro v harr hobj h
    cases v with
    | arr items => exact absurd rfl (harr items)
    | obj members => exact absurd rfl (hobj members)
    | str s => exact reads_str ensureAscii s
    | float t =>
      refine reads_word ensureAscii h.1 fun u hu => ?_
      cases hu
      exact h.2
    | _ => exact reads_word ensureAscii rfl nofun
  · intro vs ih h
    have hitems := reads_arr (dumpsChars {} ensureAscii) (fun v => v) fun v hv => ih v hv (printed_arr.mp h v hv)
    rw [List.map_id'] at hitems
    rw [dumpsChars,dumpsItems_eq_map]
    exact hitems
  · intro es ih h
    obtain ⟨hkeys,hvalues⟩ := printed_obj.mp h
    have hmembers := reads_obj ensureAscii (fun e : String × Json => dumpsChars {} ensureAscii e.2) Prod.snd hkeys fun e he => ih e he (hvalues e he)
    rw [List.map_id'] at hmembers
    rw [dumpsChars,dumpsMembers_eq_map]
    exact hmembers

theorem loads_dumps (ensureAscii : Bool) {v : Json} (h : Printed floatText v) : loads floatText (dumps ensureAscii v) = some v := by
  refine loads_of_reads ?_
  rw [dumps,dumpsWith,String.toList_ofList]
  exact reads_dumps ensureAscii v h

theorem dumps_injective (ensureAscii : Bool) {v w : Json} (hv : Printed floatText v) (hw : Printed floatText w)
    (h : dumps ensureAscii v = dumps ensureAscii w) : v = w := by
  have hread := loads_dumps ensureAscii hv
  rw [h,loads_dumps ensureAscii hw] at hread
  exact (Option.some.inj hread).symm

theorem printed_sortKeys (v : Json) : Printed floatText v → Printed floatText (sortKeys v) := by
  refine of_parts (P := fun v => Printed floatText v → Printed floatText (sortKeys v)) ?_ ?_ ?_ v
  · intro v harr hobj h
    cases v with
    | arr items => exact absurd rfl (harr items)
    | obj members => exact absurd rfl (hobj members)
    | _ => exact h
  · intro vs ih h
    rw [sortKeys,sortItems_eq_map,printed_arr]
    intro w hw
    obtain ⟨v,hv,rfl⟩ := List.mem_map.mp hw
    exact ih v hv (printed_arr.mp h v hv)
  · intro es ih h
    obtain ⟨hkeys,hvalues⟩ := printed_obj.mp h
    rw [sortKeys_obj,printed_obj]
    refine ⟨(sortedMembers_keys_perm es).nodup_iff.mpr hkeys,fun f hf => ?_⟩
    obtain ⟨e,he,rfl⟩ := List.mem_map.mp ((sortedMembers_perm es).mem_iff.mp hf)
    exact ih e he (hvalues e he)

end Overseer.Library.Json
