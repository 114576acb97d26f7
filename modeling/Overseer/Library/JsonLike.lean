import Overseer.Library.JsonParsing
import Overseer.Library.Like

/-! # Patterns over a dumped record

A pattern `"name":"value"` that is looked for in the text of a JSON mapping finds the members of that
name and value, and nothing in the other strings: a quotation mark inside a string follows a backslash.
-/
namespace Overseer.Library
open Json
namespace Like

/-! ### Quotation marks -/

/-- The characters of a string between its quotation marks. -/
def escaped (cs : List Char) : List Char := cs.flatMap (escapeChar true)

theorem quoteChars_eq (s : String) : quoteChars true s = '"' :: (escaped s.toList ++ ['"']) := rfl

theorem quote_notMem_unicodeEscape (n : ℕ) : '"' ∉ unicodeEscape n := by
  unfold unicodeEscape
  simp only [List.mem_append,not_or]
  refine ⟨⟨by decide,fun h => ?_⟩,fun h => ?_⟩
  · exact absurd (List.eq_of_mem_replicate h) (by decide)
  · exact absurd (hexValue?_of_mem_toDigits n _ h) (by decide)

theorem eq_quote_of_mem_escapeChar {c : Char} (h : '"' ∈ escapeChar true c) : c = '"' := by
  unfold escapeChar at h
  split at h
  · assumption
  repeat' split at h
  all_goals first
    | exact absurd h (quote_notMem_unicodeEscape _)
    | exact absurd h (by decide)
    | exact (List.mem_append.mp h).elim (fun h => absurd h (quote_notMem_unicodeEscape _)) fun h => absurd h (quote_notMem_unicodeEscape _)
    | exact (List.mem_singleton.mp h).symm

/-- Inside a string a quotation mark follows a backslash. -/
theorem backslash_before_quote {cs m rest : List Char} (h : escaped cs = m ++ '"' :: rest) : m.getLast? = some '\\' := by
  induction cs generalizing m with
  | nil =>
    cases m <;> cases h
  | cons c cs ih =>
    unfold escaped at h
    rw [List.flatMap_cons] at h
    rcases List.append_eq_append_iff.mp h with ⟨k,rfl,hk⟩ | ⟨k,hk,hrest⟩
    · have hlast := ih hk
      rw [List.getLast?_append,hlast]
      rfl
    · cases k with
      | nil =>
        have hlast := ih (m := []) hrest.symm
        cases hlast
      | cons q k =>
        obtain ⟨rfl,-⟩ := List.cons.inj hrest
        obtain rfl := eq_quote_of_mem_escapeChar (hk ▸ List.mem_append_right m List.mem_cons_self)
        have hescape : escapeChar true '"' = ['\\','"'] := rfl
        rw [hescape] at hk
        match m,hk with
        | [],hk => cases hk
        | ['\\'],_ => rfl
        | _ :: _ :: m,hk =>
          have hlength := congrArg List.length hk
          simp at hlength

/-- Where a quotation mark stands in a string that is being read: before the end of the string, at its end or behind it. -/
theorem quote_split {cs rest a b : List Char} (h : escaped cs ++ '"' :: rest = a ++ '"' :: b) :
    (∃ pre suf, cs = pre ++ suf ∧ pre ≠ [] ∧ b = escaped suf ++ '"' :: rest) ∨ b = rest ∨ ∃ a', rest = a' ++ '"' :: b := by
  induction cs generalizing a with
  | nil =>
    cases a with
    | nil =>
      cases h
      exact .inr (.inl rfl)
    | cons c a =>
      cases h
      exact .inr (.inr ⟨a,rfl⟩)
  | cons c cs ih =>
    unfold escaped at h
    rw [List.flatMap_cons,List.append_assoc] at h
    rcases List.append_eq_append_iff.mp h with ⟨k,rfl,hk⟩ | ⟨k,hk,hrest⟩
    · rcases ih hk with ⟨pre,suf,rfl,-,hb⟩ | hend | hbehind
      · exact .inl ⟨c :: pre,suf,rfl,nofun,hb⟩
      · exact .inr (.inl hend)
      · exact .inr (.inr hbehind)
    · cases k with
      | nil =>
        rcases ih (a := []) hrest.symm with ⟨pre,suf,rfl,-,hb⟩ | hend | hbehind
        · exact .inl ⟨c :: pre,suf,rfl,nofun,hb⟩
        · exact .inr (.inl hend)
        · exact .inr (.inr hbehind)
      | cons q k =>
        obtain ⟨rfl,hb⟩ := List.cons.inj hrest
        obtain rfl := eq_quote_of_mem_escapeChar (hk ▸ List.mem_append_right a List.mem_cons_self)
        have hescape : escapeChar true '"' = ['\\','"'] := rfl
        rw [hescape] at hk
        have hlast : k = [] := by
          match a,hk with
          | [],hk => cases hk
          | [_],hk =>
            cases hk
            rfl
          | _ :: _ :: a,hk =>
            have hlength := congrArg List.length hk
            simp at hlength
        refine .inl ⟨['"'],cs,rfl,nofun,?_⟩
        rw [hb,hlast]
        rfl

/-! ### Names and values of patterns -/

/-- What can stand beside a string in a dumped text, or has a meaning in a string. -/
def marks : List Char := ['"','\\',',','\x7d',']',':']

/-- What follows a value. -/
def ends : List Char := [',','\x7d',']']

def isPlain (p : Char) : Bool := p ≠ '%' && marks.all fun z => !matchesOne p z

/-- A pattern of plain characters, with single `_` between them. -/
def isWord : List Char → Bool
  | [] => false
  | [p] => isPlain p
  | p :: q :: w => (isPlain p || (p = '_' && isPlain q)) && isWord (q :: w)

/-- `"name":"value"`. -/
def memberPattern (name value : List Char) : List Char := '"' :: (name ++ '"' :: ':' :: '"' :: (value ++ ['"']))

theorem isPlain_mark {p z : Char} (hp : isPlain p = true) (hz : z ∈ marks) : matchesOne p z = false := by
  have hall := List.all_eq_true.mp (Bool.and_eq_true_iff.mp hp).2 z hz
  exact (Bool.not_eq_true' _).mp hall

theorem mem_marks_of_mem_ends {z : Char} (h : z ∈ ends) : z ∈ marks := by
  have hall : ends.Forall (· ∈ marks) := by decide
  exact List.forall_iff_forall_mem.mp hall z h

theorem isWord_last {w : List Char} (h : isWord w = true) : ∃ w' p, w = w' ++ [p] ∧ isPlain p = true := by
  induction w with
  | nil => cases h
  | cons p w ih =>
    cases w with
    | nil => exact ⟨[],p,rfl,h⟩
    | cons q w =>
      obtain ⟨w',r,hw,hr⟩ := ih (Bool.and_eq_true_iff.mp h).2
      exact ⟨p :: w',r,by rw [hw,List.cons_append],hr⟩

theorem isWord_cons {p : Char} {w : List Char} (h : isWord (p :: w) = true) :
    (isPlain p = true ∨ ∃ q w', w = q :: w' ∧ isPlain q = true) ∧ (w = [] ∨ isWord w = true) := by
  cases w with
  | nil => exact ⟨.inl h,.inl rfl⟩
  | cons q w =>
    rw [isWord,Bool.and_eq_true,Bool.or_eq_true,Bool.and_eq_true] at h
    exact ⟨h.1.imp_right fun h => ⟨q,w,rfl,h.2⟩,.inr h.2⟩

theorem isWord_drop {e rest : List Char} {p : Char} (h : isWord (e ++ p :: rest) = true) : isWord (p :: rest) = true := by
  induction e with
  | nil => exact h
  | cons q e ih =>
    rcases (isWord_cons h).2 with hnil | hrest
    · cases e <;> cases hnil
    · exact ih hrest

theorem isWord_noPercent {w : List Char} (h : isWord w = true) : '%' ∉ w := by
  induction w with
  | nil => cases h
  | cons p w ih =>
    intro hmem
    have hplain : ∀ q, isPlain q = true → q ≠ '%' := fun q hq => of_decide_eq_true (Bool.and_eq_true_iff.mp hq).1
    rcases List.mem_cons.mp hmem with hp | hw
    · cases w with
      | nil => exact hplain p h hp.symm
      | cons q w =>
        rw [isWord,Bool.and_eq_true,Bool.or_eq_true,Bool.and_eq_true] at h
        rcases h.1 with hq | hq
        · exact hplain p hq hp.symm
        · rw [← hp] at hq
          exact absurd hq.1 (by decide)
    · rcases (isWord_cons h).2 with hnil | hrest
      · rw [hnil] at hw
        cases hw
      · exact ih hrest hw

/-- Where a quotation mark ends a text that matches a word, the string that is read ends too. -/
theorem word_ends {w cs m R b : List Char} {z : Char} (hw : isWord w = true) (hm : Alike w m) (hz : z ∈ marks)
    (h : escaped cs ++ '"' :: z :: R = m ++ '"' :: b) : m = escaped cs ∧ z :: R = b := by
  rcases List.append_eq_append_iff.mp h with ⟨k,hk,hrest⟩ | ⟨k,hk,hrest⟩
  · cases k with
    | nil => exact ⟨by rw [hk,List.append_nil],(List.cons.inj hrest).2⟩
    | cons q k =>
      -- the string would end inside of the word, so a mark would match one of its plain characters
      obtain ⟨rfl,hR⟩ := List.cons.inj hrest
      rw [hk] at hm
      have hdrop := List.forall₂_drop_append w (escaped cs) ('"' :: k) hm
      cases hsplit : w.drop (escaped cs).length with
      | nil =>
        rw [hsplit] at hdrop
        cases hdrop
      | cons p rest =>
        rw [hsplit] at hdrop
        have hword : isWord (p :: rest) = true := by
          have htake : w = w.take (escaped cs).length ++ p :: rest := by rw [← hsplit,List.take_append_drop]
          exact isWord_drop (htake ▸ hw)
        cases hdrop with
        | cons hquote hbehind =>
          rcases (isWord_cons hword).1 with hp | ⟨q,rest',rfl,hq⟩
          · rw [isPlain_mark hp (by decide)] at hquote
            cases hquote
          · cases hbehind with
            | cons hqc _ =>
              obtain ⟨rfl,-⟩ := List.cons.inj hR
              rw [isPlain_mark hq hz] at hqc
              cases hqc
  · cases k with
    | nil => exact ⟨by rw [hk,List.append_nil],(List.cons.inj hrest).2.symm⟩
    | cons q k =>
      obtain ⟨rfl,-⟩ := List.cons.inj hrest
      have hlast := backslash_before_quote hk
      obtain ⟨w',p,rfl,hp⟩ := isWord_last hw
      obtain ⟨c,hc,hmatch⟩ : ∃ c, m.getLast? = some c ∧ matchesOne p c = true := by
        have hdrop := List.forall₂_drop w'.length hm
        rw [List.drop_left] at hdrop
        cases hdropped : m.drop w'.length with
        | nil =>
          rw [hdropped] at hdrop
          cases hdrop
        | cons c rest =>
          rw [hdropped] at hdrop
          cases hdrop with
          | cons hmatch hnil =>
            cases hnil
            refine ⟨c,?_,hmatch⟩
            rw [← List.take_append_drop w'.length m,hdropped,List.getLast?_concat]
      rw [hlast] at hc
      rw [← Option.some.inj hc,isPlain_mark hp (by decide)] at hmatch
      cases hmatch

/-! ### Where a member pattern occurs -/

section Occurrences
variable {name value R text : List Char} {z : Char}

/-- A text that matches a member pattern has its marks. -/
theorem alike_memberPattern {m : List Char} (h : Alike (memberPattern name value) m) :
    ∃ n v, m = '"' :: (n ++ '"' :: ':' :: '"' :: (v ++ ['"'])) ∧ Alike name n ∧ Alike value v := by
  have hquote : ∀ {c : Char}, matchesOne '"' c = true → c = '"' := fun h => eq_of_matchesOne (by decide) (by decide) h
  have hcolon : ∀ {c : Char}, matchesOne ':' c = true → c = ':' := fun h => eq_of_matchesOne (by decide) (by decide) h
  have hclosed : ∀ {w ps m : List Char}, Alike (w ++ '"' :: ps) m → ∃ w' m', m = w' ++ '"' :: m' ∧ Alike w w' ∧ Alike ps m' := by
    intro w ps m h
    induction w generalizing m with
    | nil =>
      cases h with
      | cons hc hrest => exact ⟨[],_,by rw [hquote hc]; rfl,.nil,hrest⟩
    | cons p w ih =>
      cases h with
      | cons hc hrest =>
        obtain ⟨w',m',rfl,hw,hm⟩ := ih hrest
        exact ⟨_ :: w',m',rfl,.cons hc hw,hm⟩
  unfold memberPattern at h
  cases h with
  | cons hc hrest =>
    obtain ⟨n,m',rfl,hn,hm'⟩ := hclosed hrest
    cases hm' with
    | cons hcol hrest' =>
      cases hrest' with
      | cons hopen hvalue =>
        obtain ⟨v,m'',rfl,hv,hnil⟩ := hclosed hvalue
        cases hnil
        exact ⟨n,v,by rw [hquote hc,hcolon hcol,hquote hopen],hn,hv⟩

/-- An occurrence that begins in a string begins with the string's end of a name, and a colon follows the string. -/
theorem occurs_quoted (hname : isWord name = true) (hfirst : ∃ p w, name = p :: w ∧ isPlain p = true) (hz : z ∈ marks) {s : String}
    (h : Occurs (memberPattern name value) (quoteChars true s ++ z :: R)) : Occurs (memberPattern name value) (z :: R) ∨
      ∃ pre suf v b, s.toList = pre ++ suf ∧ Alike name (escaped suf) ∧ z = ':' ∧ R = '"' :: (v ++ '"' :: b) ∧ Alike value v := by
  obtain ⟨a,m,b,htext,hm⟩ := h
  obtain ⟨n,v,rfl,hn,hv⟩ := alike_memberPattern hm
  have hbegins : ∀ {pre suf : List Char}, s.toList = pre ++ suf →
      escaped suf ++ '"' :: z :: R = n ++ '"' :: ':' :: '"' :: (v ++ '"' :: b) → ∃ pre suf v b, s.toList = pre ++ suf ∧
        Alike name (escaped suf) ∧ z = ':' ∧ R = '"' :: (v ++ '"' :: b) ∧ Alike value v := by
    intro pre suf hs h
    obtain ⟨rfl,hbehind⟩ := word_ends hname hn hz h
    obtain ⟨rfl,rfl⟩ := List.cons.inj hbehind
    exact ⟨pre,suf,v,b,hs,hn,rfl,rfl,hv⟩
  rw [quoteChars_eq,List.cons_append,List.append_assoc,List.singleton_append] at htext
  simp only [List.cons_append,List.append_assoc] at htext
  cases a with
  | nil => exact .inr (hbegins (List.nil_append s.toList).symm (List.cons.inj htext).2)
  | cons q a =>
    rcases quote_split (List.cons.inj htext).2 with ⟨pre,suf,hs,-,hb⟩ | hb | ⟨a',hb⟩
    · exact .inr (hbegins hs hb.symm)
    · -- the closing mark is followed by a mark, where the name begins with a plain character
      obtain ⟨p,w,rfl,hp⟩ := hfirst
      cases hn with
      | cons hpc _ =>
        obtain ⟨rfl,-⟩ := List.cons.inj hb
        rw [isPlain_mark hp hz] at hpc
        cases hpc
    · exact .inl ⟨a',_,b,by rw [hb]; simp,hm⟩

theorem occurs_end (hz : z ∈ ends) (h : Occurs (memberPattern name value) (z :: R)) : Occurs (memberPattern name value) R := by
  have hends : ends.Forall fun z => matchesOne '"' z = false := by decide
  exact h.of_cons (List.forall_iff_forall_mem.mp hends z hz)

theorem following_cons {α : Type} (f : α → List Char) (a : α) (as : List α) (rest : List Char) :
    following f (a :: as) ++ rest = ',' :: (f a ++ (following f as ++ rest)) := by
  rw [following,List.flatMap_cons,List.cons_append,List.cons_append,List.append_assoc]
  rfl

theorem following_head {α : Type} (f : α → List Char) (as : List α) (hz : z ∈ ends) (R : List Char) :
    ∃ z' R', following f as ++ z :: R = z' :: R' ∧ z' ∈ ends := by
  cases as with
  | nil => exact ⟨z,R,rfl,hz⟩
  | cons a as => exact ⟨',',_,following_cons f a as _,by decide⟩

/-- What occurs in a sequence occurs in one of its items or behind it. -/
theorem occurs_sequence {α : Type} {f : α → List Char} {Found : α → Prop} {as : List α}
    (hitem : ∀ a ∈ as, ∀ z R, z ∈ ends → Occurs (memberPattern name value) (f a ++ z :: R) →
      Found a ∨ Occurs (memberPattern name value) (z :: R)) (hz : z ∈ ends)
    (h : Occurs (memberPattern name value) ([','].intercalate (as.map f) ++ z :: R)) :
    (∃ a ∈ as, Found a) ∨ Occurs (memberPattern name value) R := by
  have hfollowing : ∀ bs : List α, (∀ b ∈ bs, b ∈ as) → Occurs (memberPattern name value) (following f bs ++ z :: R) →
      (∃ a ∈ as, Found a) ∨ Occurs (memberPattern name value) R := by
    intro bs
    induction bs with
    | nil => exact fun _ h => .inr (occurs_end hz h)
    | cons b bs ih =>
      intro hbs h
      rw [following_cons] at h
      obtain ⟨z',R',hrest,hz'⟩ := following_head f bs hz R
      have h' := occurs_end (by decide) h
      rw [hrest] at h'
      rcases hitem b (hbs b List.mem_cons_self) z' R' hz' h' with hfound | hbehind
      · exact .inl ⟨b,hbs b List.mem_cons_self,hfound⟩
      · rw [← hrest] at hbehind
        exact ih (fun c hc => hbs c (List.mem_cons_of_mem b hc)) hbehind
  cases as with
  | nil => exact .inr (occurs_end hz h)
  | cons a as =>
    rw [intercalate_following,List.append_assoc] at h
    obtain ⟨z',R',hrest,hz'⟩ := following_head f as hz R
    rw [hrest] at h
    rcases hitem a List.mem_cons_self z' R' hz' h with hfound | hbehind
    · exact .inl ⟨a,List.mem_cons_self,hfound⟩
    · rw [← hrest] at hbehind
      exact hfollowing as (fun b hb => List.mem_cons_of_mem a hb) hbehind

/-! ### Flat records -/

def isText : Json → Bool
  | .str _ => true
  | _ => false

/-- A value without mappings or numbers in it. -/
def isFlat : Json → Bool
  | .null => true
  | .str _ => true
  | .arr items => items.all isText
  | _ => false

theorem dumpsItems_map (vs : List Json) : dumpsItems {} true vs = vs.map (dumpsChars {} true) := by
  induction vs with
  | nil => rfl
  | cons v vs ih => rw [dumpsItems,ih,List.map_cons]

/-- The text of a member. -/
def memberChars (e : String × Json) : List Char := quoteChars true e.1 ++ ':' :: dumpsChars {} true e.2

theorem dumpsMembers_map (es : List (String × Json)) : dumpsMembers {} true es = es.map memberChars := by
  induction es with
  | nil => rfl
  | cons e es ih =>
    rw [dumpsMembers,ih,List.map_cons]
    rfl

theorem occurs_text (hname : isWord name = true) (hfirst : ∃ p w, name = p :: w ∧ isPlain p = true) (hz : z ∈ ends) {s : String}
    (h : Occurs (memberPattern name value) (quoteChars true s ++ z :: R)) : Occurs (memberPattern name value) (z :: R) := by
  rcases occurs_quoted hname hfirst (mem_marks_of_mem_ends hz) h with hbehind | ⟨_,_,_,_,-,-,rfl,-⟩
  · exact hbehind
  · exact absurd hz (by decide)

/-- Nothing occurs in a flat value. -/
theorem occurs_flat (hname : isWord name = true) (hfirst : ∃ p w, name = p :: w ∧ isPlain p = true) (hz : z ∈ ends) {v : Json}
    (hflat : isFlat v = true) (h : Occurs (memberPattern name value) (dumpsChars {} true v ++ z :: R)) :
    Occurs (memberPattern name value) (z :: R) := by
  cases v with
  | null =>
    have h₁ := Occurs.of_cons h (by decide)
    have h₂ := Occurs.of_cons h₁ (by decide)
    have h₃ := Occurs.of_cons h₂ (by decide)
    exact Occurs.of_cons h₃ (by decide)
  | str s => exact occurs_text hname hfirst hz h
  | arr items =>
    rw [dumpsChars,List.cons_append,List.append_assoc,List.singleton_append,dumpsItems_map] at h
    have hitems := Occurs.of_cons h (by decide)
    have hfound : ∀ a ∈ items, ∀ z R, z ∈ ends → Occurs (memberPattern name value) (dumpsChars {} true a ++ z :: R) →
        False ∨ Occurs (memberPattern name value) (z :: R) := by
      intro a ha z R hz h
      have htext := List.all_eq_true.mp hflat a ha
      cases a with
      | str s => exact .inr (occurs_text hname hfirst hz h)
      | _ => cases htext
    rcases occurs_sequence hfound (by decide) hitems with ⟨_,_,hfalse⟩ | hbehind
    · cases hfalse
    · exact hbehind
  | _ => cases hflat

/-- The member has a name and a text that match the pattern. -/
def MemberAlike (name value : List Char) (e : String × Json) : Prop :=
  (∃ pre suf, e.1.toList = pre ++ suf ∧ Alike name (escaped suf)) ∧ ∃ t : String, e.2 = .str t ∧ Alike value (escaped t.toList)

/-- In the text of a flat record a pattern finds members. -/
theorem member_of_occurs (hname : isWord name = true) (hfirst : ∃ p w, name = p :: w ∧ isPlain p = true) (hvalue : isWord value = true)
    {es : List (String × Json)} (hflat : ∀ e ∈ es, isFlat e.2 = true)
    (h : Occurs (memberPattern name value) (dumpsChars {} true (.obj es))) : ∃ e ∈ es, MemberAlike name value e := by
  rw [dumpsChars,dumpsMembers_map] at h
  have hmembers := Occurs.of_cons h (by decide)
  have hitem : ∀ e ∈ es, ∀ z R, z ∈ ends → Occurs (memberPattern name value) (memberChars e ++ z :: R) →
      MemberAlike name value e ∨ Occurs (memberPattern name value) (z :: R) := by
    intro e he z R hz h
    rw [memberChars,List.append_assoc,List.cons_append] at h
    rcases occurs_quoted hname hfirst (by decide) h with hbehind | ⟨pre,suf,v,b,hsplit,halike,-,htext,hv⟩
    · exact .inr (occurs_flat hname hfirst hz (hflat e he) (Occurs.of_cons hbehind (by decide)))
    · -- the value begins with a quotation mark, so it is a text
      refine .inl ⟨⟨pre,suf,hsplit,halike⟩,?_⟩
      have hvalueFlat := hflat e he
      cases hjson : e.2 with
      | str t =>
        rw [hjson,dumpsChars,quoteChars_eq,List.cons_append,List.append_assoc,List.singleton_append] at htext
        obtain ⟨rfl,-⟩ := word_ends hvalue hv (mem_marks_of_mem_ends hz) (List.cons.inj htext).2
        exact ⟨t,rfl,hv⟩
      | null =>
        rw [hjson] at htext
        exact absurd (List.cons.inj htext).1 (by decide)
      | arr items =>
        rw [hjson,dumpsChars] at htext
        exact absurd (List.cons.inj htext).1 (by decide)
      | _ =>
        rw [hjson] at hvalueFlat
        cases hvalueFlat
  rcases occurs_sequence hitem (by decide) hmembers with hfound | hbehind
  · exact hfound
  · obtain ⟨a,m,b,htext,hm⟩ := hbehind
    cases hm
    cases a <;> cases htext

theorem occurs_member {es : List (String × Json)} {k t : String} (he : (k,Json.str t) ∈ es) (hk : escaped k.toList = k.toList)
    (ht : escaped t.toList = t.toList) : Occurs (memberPattern k.toList t.toList) (dumpsChars {} true (.obj es)) := by
  have hmember : memberChars (k,.str t) = memberPattern k.toList t.toList := by
    rw [memberChars,dumpsChars,quoteChars_eq,quoteChars_eq,hk,ht,memberPattern]
    simp
  obtain ⟨pre,post,rfl⟩ := List.append_of_mem he
  rw [dumpsChars,dumpsMembers_map,List.map_append,List.map_cons,hmember]
  have hsequence : ∃ a b, [','].intercalate (pre.map memberChars ++ memberPattern k.toList t.toList :: post.map memberChars) =
      a ++ (memberPattern k.toList t.toList ++ b) := by
    induction pre with
    | nil =>
      cases post with
      | nil => exact ⟨[],[],by rw [List.map_nil,List.nil_append,List.intercalate_singleton]; simp⟩
      | cons e post =>
        refine ⟨[],[','] ++ [','].intercalate (memberChars e :: post.map memberChars),?_⟩
        rw [List.map_nil,List.map_cons,List.nil_append,List.intercalate_cons_cons,List.nil_append,List.append_assoc]
    | cons e pre ih =>
      obtain ⟨a,b,hab⟩ := ih (List.mem_append_right pre List.mem_cons_self)
      refine ⟨memberChars e ++ ([','] ++ a),b,?_⟩
      rw [List.map_cons,List.cons_append,List.intercalate_cons_of_ne_nil (by simp),hab]
      simp
  obtain ⟨a,b,hab⟩ := hsequence
  rw [hab]
  exact ⟨'\x7b' :: a,_,b ++ ['\x7d'],by simp,alike_self _⟩

end Occurrences

end Like
end Overseer.Library
