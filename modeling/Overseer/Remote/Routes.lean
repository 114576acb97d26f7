import Overseer.Remote.Containment
import Mathlib.Data.List.TakeWhile

/-! # What a route stands for

A route with names is turned into a regular expression. It matches the paths in which every
name is replaced by some text that is not empty and has no slash.
-/
namespace Overseer.Remote
open Overseer.Library

def isNameChar (c : Char) : Bool := c.isAlphanum || c = '_'

/-- A name begins here: a colon before a letter. -/
def startsName : List Char → Bool
  | c :: d :: _ => c = ':' && d.isAlpha
  | _ => false

/-- The paths that a route stands for: each name, as long as it goes on, is some text that is not empty and has no slash. -/
inductive Stands : List Char → List Char → Prop where
  | nil : Stands [] []
  | char {c : Char} {route path : List Char} (hname : startsName (c :: route) = false) (h : Stands route path) :
      Stands (c :: route) (c :: path)
  | name {first : Char} {name route text path : List Char} (hfirst : first.isAlpha = true) (hname : ∀ c ∈ name, isNameChar c = true)
      (hend : ∀ c ∈ route.head?, isNameChar c = false) (hne : text ≠ []) (hslash : '/' ∉ text) (h : Stands route path) :
      Stands (':' :: first :: (name ++ route)) (text ++ path)

/-- The paths that the parts of a regular expression match. -/
inductive Fits : List RoutePart → List Char → Prop where
  | nil : Fits [] []
  | char {c : Char} {parts : List RoutePart} {path : List Char} (h : Fits parts path) : Fits (.char c :: parts) (c :: path)
  | segment {parts : List RoutePart} {text path : List Char} (hne : text ≠ []) (hslash : '/' ∉ text) (h : Fits parts path) :
      Fits (.segment :: parts) (text ++ path)

theorem fits_char {c : Char} {parts : List RoutePart} {path : List Char} :
    Fits (.char c :: parts) path ↔ ∃ rest, path = c :: rest ∧ Fits parts rest := by
  constructor
  · rintro (_ | h)
    exact ⟨_,rfl,h⟩
  · rintro ⟨rest,rfl,h⟩
    exact .char h

theorem fits_segment {parts : List RoutePart} {path : List Char} :
    Fits (.segment :: parts) path ↔ ∃ text rest, path = text ++ rest ∧ text ≠ [] ∧ '/' ∉ text ∧ Fits parts rest := by
  constructor
  · intro h
    cases h with
    | segment hne hslash h => exact ⟨_,_,rfl,hne,hslash,h⟩
  · rintro ⟨text,rest,rfl,hne,hslash,h⟩
    exact .segment hne hslash h

theorem fits_segment_cons {parts : List RoutePart} {d : Char} {path : List Char} :
    Fits (.segment :: parts) (d :: path) ↔ d ≠ '/' ∧ (Fits parts path ∨ Fits (.segment :: parts) path) := by
  rw [fits_segment]
  constructor
  · rintro ⟨text,rest,hpath,hne,hslash,h⟩
    cases text with
    | nil => exact absurd rfl hne
    | cons e text =>
      obtain ⟨rfl,rfl⟩ := List.cons.inj hpath
      rw [List.mem_cons,not_or] at hslash
      refine ⟨fun heq => hslash.1 heq.symm,?_⟩
      cases text with
      | nil => exact .inl h
      | cons e text => exact .inr (.segment (List.cons_ne_nil _ _) hslash.2 h)
  · rintro ⟨hd,h | h⟩
    · exact ⟨[d],path,rfl,List.cons_ne_nil _ _,fun hmem => hd (List.mem_singleton.mp hmem).symm,h⟩
    · obtain ⟨text,rest,rfl,-,hslash,h⟩ := fits_segment.mp h
      refine ⟨d :: text,rest,rfl,List.cons_ne_nil _ _,?_,h⟩
      rw [List.mem_cons,not_or]
      exact ⟨fun heq => hd heq.symm,hslash⟩

theorem matchesParts_iff (parts : List RoutePart) (path : List Char) : matchesParts parts path = true ↔ Fits parts path := by
  induction parts, path using matchesParts.induct with
  | case1 => exact ⟨fun _ => .nil,fun _ => rfl⟩
  | case2 d path => exact ⟨nofun,nofun⟩
  | case3 part parts =>
    refine ⟨nofun,fun h => ?_⟩
    cases part with
    | char c => cases h
    | segment =>
      obtain ⟨text,rest,hnil,hne,-,-⟩ := fits_segment.mp h
      exact absurd (List.append_eq_nil_iff.mp hnil.symm).1 hne
    | never => cases h
  | case4 c parts d path ih =>
    rw [matchesParts,Bool.and_eq_true,decide_eq_true_eq,ih,fits_char]
    constructor
    · rintro ⟨rfl,h⟩
      exact ⟨path,rfl,h⟩
    · rintro ⟨rest,hcons,h⟩
      obtain ⟨rfl,rfl⟩ := List.cons.inj hcons
      exact ⟨rfl,h⟩
  | case5 parts d path => exact ⟨nofun,nofun⟩
  | case6 parts d path ih ih' =>
    rw [matchesParts,Bool.and_eq_true,Bool.or_eq_true,ih,ih',fits_segment_cons,decide_eq_true_eq]

/-! ### The parts of a route -/

/-- The route has no backslash before a colon. -/
def Unescaped (route : List Char) : Prop := ¬ ['\\',':'] <:+: route

theorem Unescaped.suffix {route rest : List Char} (h : Unescaped route) (hsuffix : rest <:+ route) : Unescaped rest :=
  fun hin => h (hin.trans hsuffix.isInfix)

theorem Unescaped.head {c d : Char} {rest : List Char} (h : Unescaped (c :: d :: rest)) : ¬ (c = '\\' ∧ d = ':') := by
  rintro ⟨rfl,rfl⟩
  exact h ⟨[],rest,rfl⟩

theorem routeParts_inName (route : List Char) : routeParts true route = routeParts false (route.dropWhile isNameChar) := by
  have hname : ∀ c : Char, (true = true ∧ (c.isAlphanum = true ∨ c = '_')) ↔ isNameChar c = true := by
    intro c
    simp [isNameChar]
  induction route with
  | nil => rfl
  | cons c route ih =>
    by_cases hc : isNameChar c = true
    · rw [List.dropWhile_cons_of_pos hc,← ih]
      cases route with
      | nil => exact if_pos ((hname c).mpr hc)
      | cons d rest => exact if_pos ((hname c).mpr hc)
    · rw [List.dropWhile_cons_of_neg hc]
      have hnot : ¬ (True ∧ (c.isAlphanum = true ∨ c = '_')) := fun hboth => hc ((hname c).mp ⟨rfl,hboth.2⟩)
      cases route with
      | nil => simp only [routeParts,hnot,Bool.false_eq_true,false_and,if_false]
      | cons d rest => simp only [routeParts,hnot,Bool.false_eq_true,false_and,if_false]

theorem head_dropWhile {p : Char → Bool} (cs : List Char) : ∀ c ∈ (cs.dropWhile p).head?, p c = false := by
  induction cs with
  | nil => nofun
  | cons d cs ih =>
    by_cases hd : p d = true
    · rwa [List.dropWhile_cons_of_pos hd]
    · rw [List.dropWhile_cons_of_neg hd]
      intro c hc
      obtain rfl : d = c := Option.some.inj hc
      exact Bool.eq_false_iff.mpr hd

theorem dropWhile_append {p : Char → Bool} {name route : List Char} (hname : ∀ c ∈ name, p c = true) (hend : ∀ c ∈ route.head?, p c = false) :
    (name ++ route).dropWhile p = route := by
  rw [List.dropWhile_append_of_pos hname]
  cases route with
  | nil => rfl
  | cons c route => exact List.dropWhile_cons_of_neg (by simp [hend c rfl])

theorem routeParts_cons {c d : Char} {rest : List Char} (h : Unescaped (c :: d :: rest)) : routeParts false (c :: d :: rest) =
    if startsName (c :: d :: rest) = true then .segment :: routeParts true (d :: rest) else .char c :: routeParts false (d :: rest) := by
  rw [routeParts,if_neg (by simp),if_neg h.head]
  simp only [startsName,Bool.and_eq_true,decide_eq_true_eq]

/-- The regular expression of a route matches the paths that the route stands for. -/
theorem fits_routeParts {route : List Char} (h : Unescaped route) (path : List Char) : Fits (routeParts false route) path ↔ Stands route path := by
  induction hlen : route.length using Nat.strong_induction_on generalizing route path with
  | _ n ih =>
    match route with
    | [] =>
      constructor
      · rintro ⟨⟩
        exact .nil
      · rintro ⟨⟩
        exact .nil
    | [c] =>
      rw [routeParts,if_neg (by simp),fits_char]
      constructor
      · rintro ⟨rest,rfl,⟨⟩⟩
        exact .char rfl .nil
      · rintro (_ | ⟨-,⟨⟩⟩)
        exact ⟨[],rfl,.nil⟩
    | c :: d :: rest =>
      rw [routeParts_cons h]
      have htail : Unescaped (d :: rest) := h.suffix (List.suffix_cons c _)
      by_cases hstart : startsName (c :: d :: rest) = true
      · rw [if_pos hstart]
        simp only [startsName,Bool.and_eq_true,decide_eq_true_eq] at hstart
        obtain ⟨rfl,hfirst⟩ := hstart
        have hd : isNameChar d = true := by simp [isNameChar,Char.isAlphanum,hfirst]
        rw [routeParts_inName,List.dropWhile_cons_of_pos hd,fits_segment]
        have hshorter : (rest.dropWhile isNameChar).length < n := by
          have hle := (List.dropWhile_sublist isNameChar (l := rest)).length_le
          rw [← hlen,List.length_cons,List.length_cons]
          omega
        have hrest := fun path => ih _ hshorter (htail.suffix ((List.dropWhile_suffix _).trans (List.suffix_cons d rest))) path rfl
        constructor
        · rintro ⟨text,path',rfl,hne,hslash,hfits⟩
          rw [← List.takeWhile_append_dropWhile (p := isNameChar) (l := rest)]
          exact .name hfirst (fun c hc => List.mem_takeWhile_imp hc) (head_dropWhile rest) hne hslash ((hrest _).mp hfits)
        · intro hstands
          cases hstands with
          | char hname => simp [startsName,hfirst] at hname
          | @name _ name route text path' _ hname hend hne hslash hstands =>
            refine ⟨text,path',rfl,hne,hslash,?_⟩
            rw [hrest,dropWhile_append hname hend]
            exact hstands
      · rw [if_neg hstart,fits_char]
        have hrest := fun path => ih (d :: rest).length (by rw [← hlen]; exact Nat.lt_succ_self _) htail path rfl
        constructor
        · rintro ⟨rest',rfl,hfits⟩
          exact .char (Bool.eq_false_iff.mpr hstart) ((hrest _).mp hfits)
        · intro hstands
          cases hstands with
          | char hname hstands => exact ⟨_,rfl,(hrest _).mpr hstands⟩
          | name hfirst => exact absurd (by simp [startsName,hfirst]) hstart

/-! ### Lists of routes and paths -/

theorem stands_of_no_colon {route path : List Char} (h : ':' ∉ route) (hstands : Stands route path) : path = route := by
  induction hstands with
  | nil => rfl
  | char hname hstands ih => rw [ih (List.not_mem_of_not_mem_cons h)]
  | name hfirst hname hend hne hslash hstands ih => exact absurd List.mem_cons_self h

/-- A route allows every path, itself, what lies behind it where it ends in a slash and a star, and what it stands for. -/
def RouteAllows (route path : String) : Prop :=
  route = "*" ∨ path = route ∨ (∃ start, route.toList = start ++ ['/','*'] ∧ start ++ ['/'] <+: path.toList) ∨
    Stands route.toList path.toList

theorem endsInStar_iff {route path : String} :
    ("/*".toList.isSuffixOf route.toList && hasPrefix path (String.ofList route.toList.dropLast)) = true ↔
      ∃ start, route.toList = start ++ ['/','*'] ∧ start ++ ['/'] <+: path.toList := by
  rw [Bool.and_eq_true,hasPrefix_iff]
  constructor
  · rintro ⟨hsuffix,hstarts⟩
    obtain ⟨start,hstart⟩ := List.isSuffixOf_iff_suffix.mp hsuffix
    have hstart : route.toList = start ++ ['/','*'] := hstart.symm
    rw [hstart,List.dropLast_append_of_ne_nil (List.cons_ne_nil _ _),String.toList_ofList] at hstarts
    exact ⟨start,hstart,hstarts⟩
  · rintro ⟨start,hstart,hstarts⟩
    rw [hstart,List.dropLast_append_of_ne_nil (List.cons_ne_nil _ _)]
    exact ⟨List.isSuffixOf_iff_suffix.mpr ⟨start,rfl⟩,by rw [String.toList_ofList]; exact hstarts⟩

/-- `_route_allowed`, for routes without a backslash before a colon. -/
theorem routeAllowed_iff {routes : List String} (h : ∀ route ∈ routes, Unescaped route.toList) (path : String) :
    routeAllowed path routes = true ↔ ∃ route ∈ routes, RouteAllows route path := by
  rw [routeAllowed,Bool.or_eq_true,decide_eq_true_eq,List.any_eq_true]
  have hroute : ∀ route ∈ routes,
      ((("/*".toList.isSuffixOf route.toList && hasPrefix path (String.ofList route.toList.dropLast)) ||
        (':' ∈ route.toList && matchesParts (routeParts false route.toList) path.toList) || path = route) = true ↔
      (∃ start, route.toList = start ++ ['/','*'] ∧ start ++ ['/'] <+: path.toList) ∨
        (':' ∈ route.toList ∧ Stands route.toList path.toList) ∨ path = route) := by
    intro route hmem
    rw [Bool.or_eq_true,Bool.or_eq_true,endsInStar_iff,Bool.and_eq_true,decide_eq_true_eq,decide_eq_true_eq,matchesParts_iff,
      fits_routeParts (h route hmem),or_assoc]
  constructor
  · rintro (hstar | ⟨route,hmem,hallowed⟩)
    · exact ⟨"*",hstar,.inl rfl⟩
    · rcases (hroute route hmem).mp hallowed with hbelow | ⟨-,hstands⟩ | hsame
      · exact ⟨route,hmem,.inr (.inr (.inl hbelow))⟩
      · exact ⟨route,hmem,.inr (.inr (.inr hstands))⟩
      · exact ⟨route,hmem,.inr (.inl hsame)⟩
  · rintro ⟨route,hmem,rfl | hsame | hbelow | hstands⟩
    · exact .inl hmem
    · exact .inr ⟨route,hmem,(hroute route hmem).mpr (.inr (.inr hsame))⟩
    · exact .inr ⟨route,hmem,(hroute route hmem).mpr (.inl hbelow)⟩
    · by_cases hcolon : ':' ∈ route.toList
      · exact .inr ⟨route,hmem,(hroute route hmem).mpr (.inr (.inl ⟨hcolon,hstands⟩))⟩
      · have hsame : path = route := String.ext (stands_of_no_colon hcolon hstands)
        exact .inr ⟨route,hmem,(hroute route hmem).mpr (.inr (.inr hsame))⟩

/-- A service path allows every path, itself, and what goes on behind it with a slash. -/
def PathAllows (servicePath path : String) : Prop := servicePath = "*" ∨ path = servicePath ∨ hasPrefix path (servicePath ++ "/") = true

theorem pathAllows_iff {paths : List String} {path : String} :
    pathMatchesServiceScope path paths = true ↔ ∃ servicePath ∈ paths, PathAllows servicePath path := by
  rw [pathMatchesServiceScope_iff]
  constructor
  · rintro (hstar | ⟨servicePath,hmem,h⟩)
    · exact ⟨"*",hstar,.inl rfl⟩
    · exact ⟨servicePath,hmem,.inr h⟩
  · rintro ⟨servicePath,hmem,rfl | h⟩
    · exact .inl hmem
    · exact .inr ⟨servicePath,hmem,h⟩

/-! ### Mutation scopes -/

/-- The item is in a list of a scope, which drops blanks. -/
def Listed (values : List String) (item : String) : Prop := item ≠ "" ∧ ∃ value ∈ values, strip value = item

theorem listed_iff {values : List String} {item : String} : item ∈ ((values.map strip).filter (· ≠ "")).eraseDups ↔ Listed values item := by
  rw [List.mem_eraseDups,List.mem_filter,List.mem_map,decide_eq_true_eq,Listed,and_comm]

theorem normalizedScopeList_iff {values items : List String} {allowWildcard : Bool} :
    normalizedScopeList values allowWildcard = .ok items ↔ (allowWildcard = true ∨ ¬ Listed values "*") ∧ (∃ item, Listed values item) ∧
      items = ((values.map strip).filter (· ≠ "")).eraseDups := by
  have hstar : "*" ∉ (values.map strip).filter (· ≠ "") ↔ ¬ Listed values "*" := by rw [← listed_iff,List.mem_eraseDups]
  have hsome : (values.map strip).filter (· ≠ "") ≠ [] ↔ ∃ item, Listed values item := by
    constructor
    · intro hne
      obtain ⟨item,hitem⟩ := List.exists_mem_of_ne_nil _ hne
      exact ⟨item,listed_iff.mp (List.mem_eraseDups.mpr hitem)⟩
    · rintro ⟨item,hitem⟩
      exact List.ne_nil_of_mem (List.mem_eraseDups.mp (listed_iff.mpr hitem))
  rw [← hstar,← hsome]
  unfold normalizedScopeList check
  by_cases hwild : allowWildcard = true ∨ "*" ∉ (values.map strip).filter (· ≠ "")
  · by_cases hne : (values.map strip).filter (· ≠ "") ≠ []
    · simp only [if_pos hwild,if_pos hne,bind,Except.bind,pure,Except.pure,Except.ok.injEq]
      exact ⟨fun h => ⟨hwild,hne,h.symm⟩,fun h => h.2.2.symm⟩
    · simp only [if_pos hwild,if_neg hne,bind,Except.bind]
      exact ⟨nofun,fun h => absurd h.2.1 hne⟩
  · simp only [if_neg hwild,bind,Except.bind]
    exact ⟨nofun,fun h => absurd h.1 hwild⟩

theorem listed_of_ok {values items : List String} {allowWildcard : Bool} (h : normalizedScopeList values allowWildcard = .ok items)
    {item : String} : item ∈ items ↔ Listed values item := by
  rw [(normalizedScopeList_iff.mp h).2.2,listed_iff]

theorem check_forM_ok {p : String → Bool} {f : String → Except RemoteError Unit} (hf : ∀ a, (∃ u, f a = .ok u) ↔ p a = true) (as : List String) :
    (∃ u, as.forM f = .ok u) ↔ ∀ a ∈ as, p a = true := by
  induction as with
  | nil => exact ⟨fun _ => nofun,fun _ => ⟨(),rfl⟩⟩
  | cons a as ih =>
    change (∃ u, (f a >>= fun _ => as.forM f) = .ok u) ↔ _
    rw [List.forall_mem_cons,← hf,← ih]
    cases ha : f a with
    | error e =>
      constructor
      · rintro ⟨u,hu⟩
        cases hu
      · rintro ⟨⟨u,hu⟩,-⟩
        cases hu
    | ok u => exact ⟨fun h => ⟨⟨u,rfl⟩,h⟩,fun h => h.2⟩

/-- The lists of a scope that `_mutation_scope_allowed` goes through without raising. -/
structure WellFormed (scope : MutationScope) : Prop where
  methods : (∃ m, Listed scope.methodList m) ∧ ¬ Listed scope.methodList "*"
  routes : (∃ r, Listed scope.routeList r) ∧ ∀ r, Listed scope.routeList r → r = "*" ∨ hasPrefix r "/" = true
  paths : scope.servicePaths ≠ [] → (∃ p, Listed scope.servicePaths p) ∧ ∀ p, Listed scope.servicePaths p →
    p ≠ "*" ∧ hasPrefix p "/" = true ∧ hasPart p "//" = false

/-- The method, the path by a route and, where service paths are given, the raw path are in the scope. -/
structure CoversRequest (scope : MutationScope) (method rawPath path : String) : Prop where
  method : Listed scope.methodList method
  route : ∃ r, Listed scope.routeList r ∧ RouteAllows r path
  path : scope.servicePaths ≠ [] → ∃ p, Listed scope.servicePaths p ∧ PathAllows p rawPath

/-- A list that is normalized and then checked item by item. -/
theorem normalized_iff {values items : List String} {allowWildcard : Bool} {p : String → Bool} {f : String → Except RemoteError Unit}
    (hf : ∀ a, (∃ u, f a = .ok u) ↔ p a = true) :
    (normalizedScopeList values allowWildcard >>= fun normalized => normalized.forM f >>= fun _ => pure normalized) = .ok items ↔
      (allowWildcard = true ∨ ¬ Listed values "*") ∧ (∃ r, Listed values r) ∧ (∀ r, Listed values r → p r = true) ∧
        items = ((values.map strip).filter (· ≠ "")).eraseDups := by
  cases hlist : normalizedScopeList values allowWildcard with
  | error e =>
    refine ⟨nofun,fun h => ?_⟩
    have hok := normalizedScopeList_iff.mpr ⟨h.1,h.2.1,rfl⟩
    rw [hlist] at hok
    cases hok
  | ok normalized =>
    obtain ⟨hwild,hsome,hitems⟩ := normalizedScopeList_iff.mp hlist
    have hlisted : (∀ r ∈ normalized, p r = true) ↔ ∀ r, Listed values r → p r = true :=
      forall_congr' fun r => by rw [listed_of_ok hlist]
    rw [← hlisted,← check_forM_ok hf]
    change (normalized.forM f >>= fun _ => pure normalized) = .ok items ↔ _
    cases hall : normalized.forM f with
    | error e =>
      refine ⟨nofun,?_⟩
      rintro ⟨-,-,⟨u,hu⟩,-⟩
      cases hu
    | ok u =>
      constructor
      · intro h
        cases h
        exact ⟨hwild,hsome,⟨u,rfl⟩,hitems⟩
      · rintro ⟨-,-,-,rfl⟩
        rw [hitems]
        rfl

theorem check_isOk {c : Prop} [Decidable c] {message : String} : (∃ u, check c message = .ok u) ↔ c := by
  by_cases hc : c
  · exact ⟨fun _ => hc,fun _ => ⟨(),if_pos hc⟩⟩
  · exact ⟨fun ⟨u,hu⟩ => (by rw [check,if_neg hc] at hu; cases hu),fun h => absurd h hc⟩

theorem normalizedRoutes_iff {values items : List String} : normalizedRoutes values = .ok items ↔
    (∃ r, Listed values r) ∧ (∀ r, Listed values r → r = "*" ∨ hasPrefix r "/" = true) ∧
      items = ((values.map strip).filter (· ≠ "")).eraseDups := by
  unfold normalizedRoutes
  rw [normalized_iff (p := fun r => r = "*" || hasPrefix r "/") fun r => ?_]
  · simp only [true_or,true_and,Bool.or_eq_true,decide_eq_true_eq]
  · by_cases hstar : r = "*"
    · exact ⟨fun _ => by simp [hstar],fun _ => ⟨(),if_pos hstar⟩⟩
    · rw [if_neg hstar,check_isOk,Bool.or_eq_true,decide_eq_true_eq]
      exact ⟨.inr,fun h => h.resolve_left hstar⟩

theorem normalizedServicePaths_iff {values items : List String} : normalizedServicePaths values false = .ok items ↔
    (∃ p, Listed values p) ∧ (∀ p, Listed values p → p ≠ "*" ∧ hasPrefix p "/" = true ∧ hasPart p "//" = false) ∧
      items = ((values.map strip).filter (· ≠ "")).eraseDups := by
  unfold normalizedServicePaths
  rw [normalized_iff (p := fun r => r = "*" || (hasPrefix r "/" && !hasPart r "//")) fun r => ?_]
  · simp only [Bool.false_eq_true,false_or,Bool.or_eq_true,decide_eq_true_eq,Bool.and_eq_true,Bool.not_eq_true']
    constructor
    · rintro ⟨hstar,hsome,hall,hitems⟩
      refine ⟨hsome,fun p hp => ?_,hitems⟩
      have hne : p ≠ "*" := by
        rintro rfl
        exact hstar hp
      exact ⟨hne,(hall p hp).resolve_left hne⟩
    · rintro ⟨hsome,hall,hitems⟩
      exact ⟨fun hstar => (hall _ hstar).1 rfl,hsome,fun p hp => .inr (hall p hp).2,hitems⟩
  · by_cases hstar : r = "*"
    · exact ⟨fun _ => by simp [hstar],fun _ => ⟨(),if_pos hstar⟩⟩
    · rw [if_neg hstar,Bool.or_eq_true,Bool.and_eq_true,Bool.not_eq_true',decide_eq_true_eq]
      constructor
      · rintro ⟨u,hu⟩
        by_cases hslash : hasPrefix r "/" = true
        · rw [check,if_pos hslash] at hu
          exact .inr ⟨hslash,check_isOk.mp ⟨u,hu⟩⟩
        · rw [check,if_neg hslash] at hu
          cases hu
      · intro h
        obtain ⟨hslash,hempty⟩ := h.resolve_left hstar
        rw [check,if_pos hslash]
        exact check_isOk.mpr hempty

/-- `_mutation_scope_allowed` answers for a well formed scope, and answers whether it covers the request. -/
theorem mutationScopeAllowed_iff (host : RemoteHost) {grant : TestToken} (method rawPath path : String)
    (hplain : ∀ r, Listed (grant.mutationScope.getD {}).routeList r → Unescaped r.toList) :
    ((∃ b, mutationScopeAllowed host grant method rawPath path = .ok b) ↔ WellFormed (grant.mutationScope.getD {})) ∧
    ∀ b, mutationScopeAllowed host grant method rawPath path = .ok b →
      (b = true ↔ CoversRequest (grant.mutationScope.getD {}) (host.upper method) rawPath path) := by
  unfold mutationScopeAllowed
  generalize grant.mutationScope.getD {} = scope at hplain
  dsimp only
  cases hmethods : normalizedScopeList scope.methodList false with
  | error e =>
    refine ⟨⟨fun h => (by obtain ⟨b,hb⟩ := h; cases hb),fun h => ?_⟩,fun b hb => (by cases hb)⟩
    have hok : normalizedScopeList scope.methodList false = .ok _ := normalizedScopeList_iff.mpr ⟨.inr h.methods.2,h.methods.1,rfl⟩
    rw [hmethods] at hok
    cases hok
  | ok methods =>
    cases hroutes : normalizedRoutes scope.routeList with
    | error e =>
      refine ⟨⟨fun h => (by obtain ⟨b,hb⟩ := h; cases hb),fun h => ?_⟩,fun b hb => (by cases hb)⟩
      have hok := normalizedRoutes_iff.mpr ⟨h.routes.1,h.routes.2,rfl⟩
      rw [hroutes] at hok
      cases hok
    | ok routes =>
      obtain ⟨hnostar,hsome,-⟩ := normalizedScopeList_iff.mp hmethods
      obtain ⟨hsomeRoute,hslash,hrouteItems⟩ := normalizedRoutes_iff.mp hroutes
      have hlistedMethod : ∀ m, m ∈ methods ↔ Listed scope.methodList m := fun m => listed_of_ok hmethods
      have hlistedRoute : ∀ r, r ∈ routes ↔ Listed scope.routeList r := fun r => by rw [hrouteItems,listed_iff]
      have hroutesNe : routes ≠ [] := by
        obtain ⟨r,hr⟩ := hsomeRoute
        exact List.ne_nil_of_mem ((hlistedRoute r).mpr hr)
      have hroute : routeAllowed path routes = true ↔ ∃ r, Listed scope.routeList r ∧ RouteAllows r path := by
        rw [routeAllowed_iff fun r hr => hplain r ((hlistedRoute r).mp hr)]
        exact exists_congr fun r => by rw [hlistedRoute]
      by_cases hnone : scope.servicePaths = []
      · simp only [bind,Except.bind,pure,Except.pure,if_pos hnone]
        refine ⟨⟨fun _ => ⟨⟨hsome,hnostar.resolve_left (by simp)⟩,⟨hsomeRoute,hslash⟩,fun h => absurd hnone h⟩,fun _ => ⟨_,rfl⟩⟩,fun b hb => ?_⟩
        cases hb
        simp only [hroutesNe,decide_false,Bool.false_or,decide_true,Bool.true_or,Bool.and_true,Bool.and_eq_true,decide_eq_true_eq]
        rw [hlistedMethod,hroute]
        exact ⟨fun h => ⟨h.1,h.2,fun h => absurd hnone h⟩,fun h => ⟨h.method,h.route⟩⟩
      · simp only [bind,Except.bind,pure,Except.pure,if_neg hnone]
        cases hpaths : normalizedServicePaths scope.servicePaths false with
        | error e =>
          refine ⟨⟨fun h => (by obtain ⟨b,hb⟩ := h; cases hb),fun h => ?_⟩,fun b hb => (by cases hb)⟩
          have hok := normalizedServicePaths_iff.mpr ⟨(h.paths hnone).1,(h.paths hnone).2,rfl⟩
          rw [hpaths] at hok
          cases hok
        | ok paths =>
          obtain ⟨hsomePath,hpathForm,hpathItems⟩ := normalizedServicePaths_iff.mp hpaths
          have hlistedPath : ∀ p, p ∈ paths ↔ Listed scope.servicePaths p := fun p => by rw [hpathItems,listed_iff]
          have hpathsNe : paths ≠ [] := by
            obtain ⟨p,hp⟩ := hsomePath
            exact List.ne_nil_of_mem ((hlistedPath p).mpr hp)
          have hpath : pathMatchesServiceScope rawPath paths = true ↔ ∃ p, Listed scope.servicePaths p ∧ PathAllows p rawPath := by
            rw [pathAllows_iff]
            exact exists_congr fun p => by rw [hlistedPath]
          refine ⟨⟨fun _ => ⟨⟨hsome,hnostar.resolve_left (by simp)⟩,⟨hsomeRoute,hslash⟩,fun _ => ⟨hsomePath,hpathForm⟩⟩,fun _ => ⟨_,rfl⟩⟩,
            fun b hb => ?_⟩
          cases hb
          simp only [hroutesNe,hpathsNe,decide_false,Bool.false_or,Bool.and_eq_true,decide_eq_true_eq]
          rw [hlistedMethod,hroute,hpath]
          exact ⟨fun h => ⟨h.1.1,h.1.2,fun _ => h.2⟩,fun h => ⟨⟨h.method,h.route⟩,h.path hnone⟩⟩

end Overseer.Remote
