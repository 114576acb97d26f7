import Overseer.Library.JsonText
import Std.Data.String.ToInt

/-! # Reading a JSON text back

The text of a quoted string ends where the string ends, and the text of a number or of a
word ends at the next mark, so that two texts that go on as the same one are the same.
-/
namespace Overseer.Library.Json

/-! ### Escapes -/

/-- The value of a lower-case hexadecimal digit. -/
def hexDigit (c : Char) : ℕ := if c.isDigit then c.toNat - 48 else c.toNat - 87

def hexNumber (cs : List Char) : ℕ := cs.foldl (fun n c => 16 * n + hexDigit c) 0

theorem hexDigit_digitChar {d : ℕ} (h : d < 16) : hexDigit (Nat.digitChar d) = d := by
  have hall : ∀ d < 16, hexDigit (Nat.digitChar d) = d := by decide
  exact hall d h

theorem hexNumber_concat (cs : List Char) (c : Char) : hexNumber (cs ++ [c]) = 16 * hexNumber cs + hexDigit c := by
  rw [hexNumber,List.foldl_append]
  rfl

theorem hexNumber_zeros (k : ℕ) (cs : List Char) : hexNumber (List.replicate k '0' ++ cs) = hexNumber cs := by
  induction k with
  | zero => rfl
  | succ k ih =>
    rw [List.replicate_succ,← ih]
    rfl

theorem hexNumber_toDigits (n : ℕ) : hexNumber (Nat.toDigits 16 n) = n := by
  induction n using Nat.strongRecOn with
  | ind n ih =>
    rw [Nat.toDigits_eq_if (by omega)]
    split
    · next hn =>
      change 16 * 0 + hexDigit (Nat.digitChar n) = n
      rw [hexDigit_digitChar hn]
      omega
    · next hn =>
      rw [hexNumber_concat,ih (n / 16) (by omega),hexDigit_digitChar (Nat.mod_lt n (by omega))]
      omega

theorem unicodeEscape_eq {n : ℕ} (h : n < 65536) : ∃ a b c d, unicodeEscape n = ['\\','u',a,b,c,d] ∧ hexNumber [a,b,c,d] = n := by
  have hlength : (Nat.toDigits 16 n).length ≤ 4 := (Nat.length_toDigits_le_iff (by omega) (by omega)).mpr (by omega)
  have hnumber := (hexNumber_zeros (4 - (Nat.toDigits 16 n).length) (Nat.toDigits 16 n)).trans (hexNumber_toDigits n)
  have hfour : (List.replicate (4 - (Nat.toDigits 16 n).length) '0' ++ Nat.toDigits 16 n).length = 4 := by
    rw [List.length_append,List.length_replicate]
    omega
  obtain ⟨a,b,c,d,hdigits⟩ := List.length_eq_four.mp hfour
  refine ⟨a,b,c,d,?_,by rw [← hdigits]; exact hnumber⟩
  rw [unicodeEscape,List.append_assoc,hdigits]
  rfl

/-- The character at the head of an escaped text, and what follows it. -/
def unescape : List Char → Option (Char × List Char)
  | '\\' :: 'u' :: a :: b :: c :: d :: rest =>
    let n := hexNumber [a,b,c,d]
    if 55296 ≤ n ∧ n < 56320 then
      match rest with
      | '\\' :: 'u' :: a' :: b' :: c' :: d' :: rest' =>
        some (Char.ofNat (65536 + (n - 55296) * 1024 + (hexNumber [a',b',c',d'] - 56320)),rest')
      | _ => none
    else some (Char.ofNat n,rest)
  | '\\' :: 'n' :: rest => some ('\n',rest)
  | '\\' :: 'r' :: rest => some ('\r',rest)
  | '\\' :: 't' :: rest => some ('\t',rest)
  | '\\' :: 'b' :: rest => some (Char.ofNat 8,rest)
  | '\\' :: 'f' :: rest => some (Char.ofNat 12,rest)
  | '\\' :: c :: rest => some (c,rest)
  | c :: rest => some (c,rest)
  | [] => none

theorem unescape_single {n : ℕ} (h : n < 65536) (hn : ¬ (55296 ≤ n ∧ n < 56320)) (rest : List Char) :
    unescape (unicodeEscape n ++ rest) = some (Char.ofNat n,rest) := by
  obtain ⟨a,b,c,d,htext,hnumber⟩ := unicodeEscape_eq h
  rw [htext]
  simp only [List.cons_append,List.nil_append,unescape,hnumber,if_neg hn]

theorem unescape_pair {n m : ℕ} (hn : 55296 ≤ n ∧ n < 56320) (hm : m < 65536) (rest : List Char) :
    unescape (unicodeEscape n ++ unicodeEscape m ++ rest) = some (Char.ofNat (65536 + (n - 55296) * 1024 + (m - 56320)),rest) := by
  obtain ⟨a,b,c,d,htext,hnumber⟩ := unicodeEscape_eq (n := n) (by omega)
  obtain ⟨a',b',c',d',htext',hnumber'⟩ := unicodeEscape_eq hm
  rw [htext,htext']
  simp only [List.cons_append,List.nil_append,unescape,hnumber,hnumber',if_pos hn]

theorem unescape_plain {c : Char} (h : c ≠ '\\') (rest : List Char) : unescape (c :: rest) = some (c,rest) := by
  rw [unescape]
  all_goals
    intros
    exact h (by assumption)

theorem unescape_escapeChar (ensureAscii : Bool) (c : Char) (rest : List Char) :
    unescape (escapeChar ensureAscii c ++ rest) = some (c,rest) := by
  have hvalid : c.toNat < 55296 ∨ (57343 < c.toNat ∧ c.toNat < 1114112) := c.valid
  have hofNat : Char.ofNat c.toNat = c := Char.ofNat_toNat c
  unfold escapeChar
  by_cases hquote : c = '"'
  · rw [if_pos hquote,hquote]
    rfl
  rw [if_neg hquote]
  by_cases hslash : c = '\\'
  · rw [if_pos hslash,hslash]
    rfl
  rw [if_neg hslash]
  by_cases hnewline : c = '\n'
  · rw [if_pos hnewline,hnewline]
    rfl
  rw [if_neg hnewline]
  by_cases hreturn : c = '\r'
  · rw [if_pos hreturn,hreturn]
    rfl
  rw [if_neg hreturn]
  by_cases htab : c = '\t'
  · rw [if_pos htab,htab]
    rfl
  rw [if_neg htab]
  by_cases hback : c.toNat = 8
  · rw [if_pos hback,← hofNat,hback]
    rfl
  rw [if_neg hback]
  by_cases hfeed : c.toNat = 12
  · rw [if_pos hfeed,← hofNat,hfeed]
    rfl
  rw [if_neg hfeed]
  by_cases hcontrol : c.toNat < 32
  · rw [if_pos hcontrol,unescape_single (by omega) (by omega),hofNat]
  rw [if_neg hcontrol]
  by_cases hwide : ensureAscii ∧ 126 < c.toNat
  · rw [if_pos hwide]
    by_cases hplane : c.toNat < 65536
    · rw [if_pos hplane,unescape_single (by omega) (by omega),hofNat]
    · rw [if_neg hplane,unescape_pair (by omega) (by omega)]
      have hcode : 65536 + (55296 + (c.toNat - 65536) / 1024 - 55296) * 1024 + (56320 + (c.toNat - 65536) % 1024 - 56320) = c.toNat := by
        omega
      rw [hcode,hofNat]
  · rw [if_neg hwide]
    exact unescape_plain hslash rest

theorem escapeChar_read {ensureAscii : Bool} {c d : Char} {x y : List Char}
    (h : escapeChar ensureAscii c ++ x = escapeChar ensureAscii d ++ y) : c = d ∧ x = y := by
  have hread := congrArg unescape h
  rw [unescape_escapeChar,unescape_escapeChar] at hread
  cases hread
  exact ⟨rfl,rfl⟩

/-! ### Quoted strings -/

theorem escapeChar_head (ensureAscii : Bool) (c : Char) : ∃ d x, escapeChar ensureAscii c = d :: x ∧ d ≠ '"' := by
  have hread := unescape_escapeChar ensureAscii c []
  rw [List.append_nil] at hread
  cases htext : escapeChar ensureAscii c with
  | nil =>
    rw [htext] at hread
    cases hread
  | cons d x =>
    refine ⟨d,x,rfl,?_⟩
    rintro rfl
    rw [htext,unescape_plain (by decide)] at hread
    cases hread
    rw [escapeChar,if_pos rfl] at htext
    cases htext

/-- Two quoted strings that go on as one text are the same string. -/
theorem quoteChars_read {ensureAscii : Bool} {s t : String} {x y : List Char}
    (h : quoteChars ensureAscii s ++ x = quoteChars ensureAscii t ++ y) : s = t ∧ x = y := by
  have hbody : ∀ (cs ds : List Char) (x y : List Char),
      cs.flatMap (escapeChar ensureAscii) ++ ('"' :: x) = ds.flatMap (escapeChar ensureAscii) ++ ('"' :: y) → cs = ds ∧ x = y := by
    intro cs
    induction cs with
    | nil =>
      intro ds x y h
      cases ds with
      | nil => exact ⟨rfl,(List.cons.inj h).2⟩
      | cons d ds =>
        obtain ⟨e,z,he,hne⟩ := escapeChar_head ensureAscii d
        rw [List.flatMap_cons,he] at h
        exact absurd (List.cons.inj h).1.symm hne
    | cons c cs ih =>
      intro ds x y h
      cases ds with
      | nil =>
        obtain ⟨e,z,he,hne⟩ := escapeChar_head ensureAscii c
        rw [List.flatMap_cons,he] at h
        exact absurd (List.cons.inj h).1 hne
      | cons d ds =>
        rw [List.flatMap_cons,List.flatMap_cons,List.append_assoc,List.append_assoc] at h
        obtain ⟨hcd,hrest⟩ := escapeChar_read h
        obtain ⟨hcs,hxy⟩ := ih ds x y hrest
        exact ⟨by rw [hcd,hcs],hxy⟩
  simp only [quoteChars,List.cons_append,List.append_assoc,List.nil_append] at h
  obtain ⟨hst,hxy⟩ := hbody _ _ _ _ (List.cons.inj h).2
  exact ⟨String.toList_inj.mp hst,hxy⟩

/-! ### Numbers and words -/

/-- The marks that end an item of a sequence or a mapping. -/
def isClosing (c : Char) : Bool := c ∈ [',',']','\x7d']

/-- Nothing follows, or a mark that ends the item. -/
def Ends (rest : List Char) : Prop := ∀ c, rest.head? = some c → isClosing c = true

/-- The characters of numbers and words. -/
def isPlain (c : Char) : Bool := c.isAlphanum || c = '-' || c = '+' || c = '.'

/-- The texts that floating-point numbers print as. -/
def isFloatText (t : String) : Bool :=
  t ∈ ["NaN","Infinity","-Infinity"] ||
    (t.toList.all (fun c => c.isDigit || c ∈ ['-','+','.','e']) && t.toList.any (· ∈ ['.','e']))

theorem isPlain_of_closing {c : Char} (h : isClosing c = true) : isPlain c = false := by
  have hc : c ∈ [',',']','\x7d'] := of_decide_eq_true h
  simp only [List.mem_cons,List.not_mem_nil,or_false] at hc
  rcases hc with rfl | rfl | rfl <;> decide

theorem plain_read {s t x y : List Char} (hs : s.all isPlain = true) (ht : t.all isPlain = true) (hx : Ends x) (hy : Ends y)
    (h : s ++ x = t ++ y) : s = t ∧ x = y := by
  have hword : ∀ {s x : List Char}, s.all isPlain = true → Ends x → (s ++ x).takeWhile isPlain = s := by
    intro s x hs hx
    have htail : x.takeWhile isPlain = [] := by
      cases x with
      | nil => rfl
      | cons c x => rw [List.takeWhile_cons_of_neg (by rw [isPlain_of_closing (hx c rfl)]; exact Bool.false_ne_true)]
    rw [List.takeWhile_append_of_pos (List.all_eq_true.mp hs),htail,List.append_nil]
  have hst : s = t := by rw [← hword hs hx,h,hword ht hy]
  rw [hst] at h
  exact ⟨hst,List.append_cancel_left h⟩

theorem isPlain_of_digit {c : Char} (h : c.isDigit = true) : isPlain c = true := by
  simp [isPlain,Char.isAlphanum,h]

/-- A number or a word. -/
def isWord : Json → Bool
  | null | bool _ | int _ => true
  | float t => isFloatText t
  | _ => false

/-- The characters of a text of an integer. -/
def isIntChar (c : Char) : Bool := c.isDigit || c = '-'

theorem intChars (n : ℤ) : (toString n).toList.all isIntChar = true := by
  have hnat : ∀ m : ℕ, (Nat.repr m).toList.all isIntChar = true := by
    intro m
    refine List.all_eq_true.mpr fun c hc => ?_
    rw [Nat.toList_repr] at hc
    simp [isIntChar,Nat.isDigit_of_mem_toDigits (by omega) (by omega) hc]
  rw [Int.toString_eq_repr,Int.repr_eq_if]
  split
  · exact hnat _
  · rw [String.toList_append,List.all_append,hnat,Bool.and_true]
    decide

theorem floatChars {t : String} (h : isFloatText t = true) : t.toList.all isPlain = true := by
  rw [isFloatText,Bool.or_eq_true,Bool.and_eq_true] at h
  rcases h with hword | ⟨hall,-⟩
  · have hmem : t ∈ ["NaN","Infinity","-Infinity"] := of_decide_eq_true hword
    simp only [List.mem_cons,List.not_mem_nil,or_false] at hmem
    rcases hmem with rfl | rfl | rfl <;> decide
  · refine List.all_eq_true.mpr fun c hc => ?_
    have hchar := List.all_eq_true.mp hall c hc
    simp only [List.mem_cons,List.not_mem_nil,or_false,Bool.or_eq_true,decide_eq_true_eq] at hchar
    rcases hchar with hdigit | rfl | rfl | rfl | rfl
    · exact isPlain_of_digit hdigit
    all_goals decide

theorem int_ne_float (n : ℤ) {t : String} (h : isFloatText t = true) : (toString n).toList ≠ t.toList := by
  intro heq
  have hint := intChars n
  rw [heq] at hint
  have hnone : ∀ c ∈ t.toList, c.isDigit = false → c ≠ '-' → False := by
    intro c hc hdigit hsign
    have hchar := List.all_eq_true.mp hint c hc
    simp [isIntChar,hdigit,hsign] at hchar
  rw [isFloatText,Bool.or_eq_true,Bool.and_eq_true] at h
  rcases h with hword | ⟨-,hany⟩
  · have hmem : t ∈ ["NaN","Infinity","-Infinity"] := of_decide_eq_true hword
    simp only [List.mem_cons,List.not_mem_nil,or_false] at hmem
    rcases hmem with rfl | rfl | rfl
    · exact hnone 'N' (by decide) (by decide) (by decide)
    · exact hnone 'I' (by decide) (by decide) (by decide)
    · exact hnone 'I' (by decide) (by decide) (by decide)
  · obtain ⟨c,hc,hmark⟩ := List.any_eq_true.mp hany
    have hmem : c ∈ ['.','e'] := of_decide_eq_true hmark
    simp only [List.mem_cons,List.not_mem_nil,or_false] at hmem
    rcases hmem with rfl | rfl
    · exact hnone '.' hc (by decide) (by decide)
    · exact hnone 'e' hc (by decide) (by decide)

theorem word_plain (seps : Separators) (ensureAscii : Bool) {v : Json} (h : isWord v = true) :
    (dumpsChars seps ensureAscii v).all isPlain = true := by
  cases v with
  | null => rfl
  | bool b => cases b <;> rfl
  | int n =>
    refine List.all_eq_true.mpr fun c hc => ?_
    have hchar := List.all_eq_true.mp (intChars n) c hc
    rw [isIntChar,Bool.or_eq_true] at hchar
    rcases hchar with hdigit | hsign
    · exact isPlain_of_digit hdigit
    · rw [of_decide_eq_true hsign]
      rfl
  | float t => exact floatChars h
  | str s => cases h
  | arr items => cases h
  | obj members => cases h

theorem word_ne_nil (seps : Separators) (ensureAscii : Bool) {v : Json} (h : isWord v = true) :
    dumpsChars seps ensureAscii v ≠ [] := by
  have hempty : isFloatText "" = false := by decide
  cases v with
  | null => exact List.cons_ne_nil _ _
  | bool b => cases b <;> exact List.cons_ne_nil _ _
  | int n =>
    rw [dumpsChars,Int.toString_eq_repr,Int.repr_eq_if]
    split
    · rw [Nat.toList_repr]
      exact Nat.toDigits_ne_nil
    · rw [String.toList_append]
      exact List.append_ne_nil_of_left_ne_nil (List.cons_ne_nil _ _) _
  | float t =>
    intro hnil
    rw [isWord,String.toList_inj.mp (hnil.trans String.toList_empty.symm),hempty] at h
    cases h
  | str s => cases h
  | arr items => cases h
  | obj members => cases h

/-- Numbers and words of one text are the same. -/
theorem word_eq (seps : Separators) (ensureAscii : Bool) {v w : Json} (hv : isWord v = true) (hw : isWord w = true)
    (h : dumpsChars seps ensureAscii v = dumpsChars seps ensureAscii w) : v = w := by
  have hword : ∀ (n : ℤ) (t : List Char), t.all isIntChar = false → (toString n).toList ≠ t := by
    intro n t ht heq
    rw [← heq,intChars] at ht
    cases ht
  have hfloat : ∀ {s t : String}, isFloatText t = true → isFloatText s = false → s.toList ≠ t.toList := by
    intro s t ht hs heq
    rw [String.toList_inj.mp heq,ht] at hs
    cases hs
  have hbool : ∀ b : Bool, ((if b then "true" else "false").toList.all isIntChar = false) ∧
      isFloatText (if b then "true" else "false") = false := by decide
  cases v <;> cases w <;> simp only [dumpsChars] at h
  case null.null => rfl
  case null.bool b => cases b <;> cases h
  case null.int n => exact absurd h.symm (hword n _ (by decide))
  case null.float t => exact absurd h (hfloat hw (by decide))
  case bool.null b => cases b <;> cases h
  case bool.bool b c =>
    cases b <;> cases c
    · rfl
    · cases h
    · cases h
    · rfl
  case bool.int b n => exact absurd h.symm (hword n _ (hbool b).1)
  case bool.float b t => exact absurd h (hfloat hw (hbool b).2)
  case int.null n => exact absurd h (hword n _ (by decide))
  case int.bool n b => exact absurd h (hword n _ (hbool b).1)
  case int.int n m => rw [Int.repr_injective (String.toList_inj.mp h)]
  case int.float n t => exact absurd h (int_ne_float n hw)
  case float.null t => exact absurd h.symm (hfloat hv (by decide))
  case float.bool t b => exact absurd h.symm (hfloat hv (hbool b).2)
  case float.int t n => exact absurd h.symm (int_ne_float n hv)
  case float.float t u => rw [String.toList_inj.mp h]
  all_goals first | exact absurd hw Bool.false_ne_true | exact absurd hv Bool.false_ne_true

/-! ### Values of a file -/

mutual
/-- The value is one that a text can hold: its numbers are numbers, its mappings name a key once. -/
def written : Json → Bool
  | float t => isFloatText t
  | arr items => writtenItems items
  | obj members => decide (members.map Prod.fst).Nodup && writtenMembers members
  | _ => true
def writtenItems : List Json → Bool
  | [] => true
  | v :: rest => written v && writtenItems rest
def writtenMembers : List (String × Json) → Bool
  | [] => true
  | (_,v) :: rest => written v && writtenMembers rest
end

theorem writtenItems_iff (items : List Json) : writtenItems items = true ↔ ∀ v ∈ items, written v = true := by
  induction items with
  | nil => simp [writtenItems]
  | cons v rest ih => simp [writtenItems,ih]

theorem writtenMembers_iff (members : List (String × Json)) : writtenMembers members = true ↔ ∀ e ∈ members, written e.2 = true := by
  induction members with
  | nil => simp [writtenMembers]
  | cons e rest ih => simp [writtenMembers,ih]

section Induction
variable {P : Json → Prop} (word : ∀ v, (∀ items, v ≠ arr items) → (∀ members, v ≠ obj members) → P v)
  (items : ∀ vs, (∀ v ∈ vs, P v) → P (arr vs)) (members : ∀ es, (∀ e ∈ es, P e.2) → P (obj es))

include word items members in
mutual
/-- What holds of a value when it holds of its parts. -/
theorem of_parts : ∀ v, P v
  | arr vs => items vs (of_items vs)
  | obj es => members es (of_members es)
  | null => word _ nofun nofun
  | bool _ => word _ nofun nofun
  | int _ => word _ nofun nofun
  | float _ => word _ nofun nofun
  | str _ => word _ nofun nofun
theorem of_items : ∀ vs : List Json, ∀ v ∈ vs, P v
  | [], _, hv => absurd hv List.not_mem_nil
  | w :: rest, v, hv => (List.mem_cons.mp hv).elim (fun h => h ▸ of_parts w) (of_items rest v)
theorem of_members : ∀ es : List (String × Json), ∀ e ∈ es, P e.2
  | [], _, he => absurd he List.not_mem_nil
  | (_,w) :: rest, e, he => (List.mem_cons.mp he).elim (fun h => h ▸ of_parts w) (of_members rest e)
end
end Induction

/-! ### Items between marks -/

section Separated
variable {α : Type} {text : α → List Char} {Same : α → α → Prop} {close : Char}

/-- The rest of a sequence, each item after a comma. -/
def following (text : α → List Char) (as : List α) : List Char := as.flatMap fun a => ',' :: text a

theorem intercalate_following (a : α) (as : List α) : [','].intercalate ((a :: as).map text) = text a ++ following text as := by
  induction as generalizing a with
  | nil => simp [following,List.intercalate]
  | cons b as ih =>
    have hcons : [','].intercalate ((a :: b :: as).map text) = text a ++ (',' :: [','].intercalate ((b :: as).map text)) := by
      simp [List.intercalate,List.intersperse]
    rw [hcons,ih b]
    rfl

theorem ends_following (hclose : isClosing close = true) (as : List α) (x : List Char) : Ends (following text as ++ close :: x) := by
  intro c hc
  cases as with
  | nil =>
    cases hc
    exact hclose
  | cons a as =>
    cases hc
    rfl

theorem following_read (hclose : isClosing close = true) (hcomma : close ≠ ',') {as bs : List α} {x y : List Char}
    (hread : ∀ a ∈ as, ∀ b ∈ bs, ∀ x y, Ends x → Ends y → text a ++ x = text b ++ y → Same a b ∧ x = y)
    (h : following text as ++ close :: x = following text bs ++ close :: y) : List.Forall₂ Same as bs ∧ x = y := by
  induction as generalizing bs with
  | nil =>
    cases bs with
    | nil => exact ⟨.nil,(List.cons.inj h).2⟩
    | cons b bs => exact absurd (List.cons.inj h).1 hcomma
  | cons a as ih =>
    cases bs with
    | nil => exact absurd (List.cons.inj h).1.symm hcomma
    | cons b bs =>
      have hcons : ∀ (c : α) (cs : List α) (z : List Char), following text (c :: cs) ++ close :: z =
          ',' :: (text c ++ (following text cs ++ close :: z)) := by
        intro c cs z
        simp [following]
      rw [hcons,hcons] at h
      obtain ⟨hab,hrest⟩ := hread a List.mem_cons_self b List.mem_cons_self _ _ (ends_following hclose as x)
        (ends_following hclose bs y) (List.cons.inj h).2
      obtain ⟨hsame,hxy⟩ := ih (fun a ha b hb => hread a (List.mem_cons_of_mem _ ha) b (List.mem_cons_of_mem _ hb)) hrest
      exact ⟨.cons hab hsame,hxy⟩

/-- Two sequences that go on as one text have the same items. -/
theorem separated_read (hclose : isClosing close = true) (hcomma : close ≠ ',') {as bs : List α} {x y : List Char}
    (hbegins : ∀ c ∈ as ++ bs, ∃ d z, text c = d :: z ∧ isClosing d = false)
    (hread : ∀ a ∈ as, ∀ b ∈ bs, ∀ x y, Ends x → Ends y → text a ++ x = text b ++ y → Same a b ∧ x = y)
    (h : [','].intercalate (as.map text) ++ close :: x = [','].intercalate (bs.map text) ++ close :: y) :
    List.Forall₂ Same as bs ∧ x = y := by
  have hempty : ∀ c ∈ as ++ bs, ∀ (cs : List α) (x z : List Char), close :: x ≠ [','].intercalate ((c :: cs).map text) ++ z := by
    intro c hc cs x z heq
    obtain ⟨d,w,hd,hopen⟩ := hbegins c hc
    rw [intercalate_following,hd] at heq
    rw [← (List.cons.inj heq).1,hclose] at hopen
    cases hopen
  cases as with
  | nil =>
    cases bs with
    | nil => exact ⟨.nil,(List.cons.inj h).2⟩
    | cons b bs => exact absurd h (hempty b (by simp) bs x _)
  | cons a as =>
    cases bs with
    | nil => exact absurd h.symm (hempty a (by simp) as y _)
    | cons b bs =>
      rw [intercalate_following,intercalate_following,List.append_assoc,List.append_assoc] at h
      obtain ⟨hab,hrest⟩ := hread a List.mem_cons_self b List.mem_cons_self _ _ (ends_following hclose as x)
        (ends_following hclose bs y) h
      obtain ⟨hsame,hxy⟩ := following_read hclose hcomma
        (fun a ha b hb => hread a (List.mem_cons_of_mem _ ha) b (List.mem_cons_of_mem _ hb)) hrest
      exact ⟨.cons hab hsame,hxy⟩

end Separated

end Overseer.Library.Json
