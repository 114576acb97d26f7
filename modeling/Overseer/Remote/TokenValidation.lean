import Overseer.Remote.Routes

/-! # What a token authorizes

A validation walks through its checks in order and stops at the first that fails. Whatever the
order, a request is authorized when all of them hold, and what is written besides is the mark of
an expired grant or of an account that is disabled.
-/
namespace Overseer.Remote
open Overseer.Library

/-- The grant is the first one, by id, with the digest. -/
def FirstWithHash (s : ControlState) (tokenHash : String) (grant : TestToken) : Prop :=
  ∃ id, s.tokens.get? id = some grant ∧ grant.tokenHash = tokenHash ∧
    ∀ id' other, s.tokens.get? id' = some other → other.tokenHash = tokenHash → id.toList ≤ id'.toList

/-- The routes of a grant and of its scope have no backslash before a colon. -/
structure PlainRoutes (grant : TestToken) : Prop where
  routes : ∀ r ∈ grant.allowedRoutes, Unescaped r.toList
  scope : ∀ r, Listed (grant.mutationScope.getD {}).routeList r → Unescaped r.toList

/-- What it takes for a request to be authorized. A method is put in upper case once more for the mutation scope. -/
structure Authorizes (host : RemoteHost) (s : ControlState) (rawToken : String) (request : Request) (now : ℤ) (grant : TestToken)
    (account : Account) : Prop where
  prefixed : hasPrefix rawToken testTokenPrefix = true
  found : FirstWithHash s ("sha256:" ++ host.sha256 rawToken) grant
  registered : s.accounts.get? grant.accountId = some account
  enabled : account.enabled = true
  active : grant.status = .active
  unexpired : now < grant.expiresAt
  method : host.upper request.method ∈ grant.allowedMethods
  path : ∃ p ∈ grant.servicePaths, PathAllows p request.rawPath
  route : ∃ r ∈ grant.allowedRoutes, RouteAllows r request.normalizedPath
  mutation : host.upper request.method ∉ readMethods → grant.mutates = true ∧ WellFormed (grant.mutationScope.getD {}) ∧
    CoversRequest (grant.mutationScope.getD {}) (host.upper (host.upper request.method)) request.rawPath request.normalizedPath

def Reply.isAuthorized : Reply → Bool
  | .authorized .. => true
  | _ => false

/-- The answer denies for a scope violation of the account. -/
def Reply.violates (id : String) : Reply → Bool
  | .denied (some accountId) _ reason => accountId = id && id ≠ "" && reason ∈ scopeViolations
  | _ => false

/-- The answer denies because the grant has expired. -/
def Reply.expires (id : String) : Reply → Bool
  | .denied _ (some tokenId) reason => tokenId = id && reason = "token_expired"
  | _ => false

/-! ### The first grant -/

theorem grantWithHash_iff {s : ControlState} {tokenHash : String} {grant : TestToken} :
    grantWithHash s tokenHash = some grant ↔ FirstWithHash s tokenHash grant := by
  have htotal : Std.Total fun a b : String => a.toList ≤ b.toList := ⟨fun a b => le_total a.toList b.toList⟩
  have htrans : IsTrans String fun a b => a.toList ≤ b.toList := ⟨fun _ _ _ => le_trans⟩
  have hsorted := List.pairwise_insertionSort (fun a b : String => a.toList ≤ b.toList) s.tokens.keys
  have hmem : ∀ id, id ∈ s.tokens.keys.insertionSort (fun a b => a.toList ≤ b.toList) ↔ ∃ token, s.tokens.get? id = some token :=
    fun id => by rw [List.mem_insertionSort,Dict.mem_keys_iff]
  have hfilter : ∀ id (found : TestToken), (s.tokens.get? id).filter (fun grant => grant.tokenHash = tokenHash) = some found ↔
      s.tokens.get? id = some found ∧ found.tokenHash = tokenHash := by
    intro id found
    rw [Option.filter_eq_some_iff,decide_eq_true_eq]
  -- the grant that is found comes before every other one
  have hfirst : ∀ found, grantWithHash s tokenHash = some found → FirstWithHash s tokenHash found := by
    intro found h
    obtain ⟨pre,id,post,hsplit,hid,hpre⟩ := List.findSome?_eq_some_iff.mp h
    obtain ⟨hget,hhash⟩ := (hfilter id found).mp hid
    refine ⟨id,hget,hhash,fun id' other hget' hhash' => ?_⟩
    have hin := (hmem id').mpr ⟨other,hget'⟩
    rw [hsplit] at hin hsorted
    rcases List.mem_append.mp hin with hin | hin
    · have hnone := hpre id' hin
      rw [(hfilter id' other).mpr ⟨hget',hhash'⟩] at hnone
      cases hnone
    · rcases List.mem_cons.mp hin with rfl | hin
      · exact le_refl _
      · exact (List.pairwise_cons.mp (List.pairwise_append.mp hsorted).2.1).1 id' hin
  refine ⟨hfirst grant,fun h => ?_⟩
  obtain ⟨id,hget,hhash,hleast⟩ := h
  cases hfound : grantWithHash s tokenHash with
  | none =>
    have hnone := List.findSome?_eq_none_iff.mp hfound id ((hmem id).mpr ⟨grant,hget⟩)
    rw [(hfilter id grant).mpr ⟨hget,hhash⟩] at hnone
    cases hnone
  | some found =>
    obtain ⟨id',hget',hhash',hleast'⟩ := hfirst found hfound
    have hsame : id = id' := String.ext (le_antisymm (hleast id' found hget' hhash') (hleast' id grant hget hhash))
    rw [← hsame,hget] at hget'
    exact hget'.symm

/-! ### The scopes -/

section Scopes
variable (host : RemoteHost) {grant : TestToken} (request : Request)

/-- The checks of the scopes pass when all of them hold, name one of the five violations, or raise on a scope that no issue
accepts. -/
theorem scopeViolation_cases (hplain : PlainRoutes grant) :
    (scopeViolation host grant request = .ok none ↔ host.upper request.method ∈ grant.allowedMethods ∧
      (∃ p ∈ grant.servicePaths, PathAllows p request.rawPath) ∧ (∃ r ∈ grant.allowedRoutes, RouteAllows r request.normalizedPath) ∧
      (host.upper request.method ∉ readMethods → grant.mutates = true ∧ WellFormed (grant.mutationScope.getD {}) ∧
        CoversRequest (grant.mutationScope.getD {}) (host.upper (host.upper request.method)) request.rawPath request.normalizedPath)) ∧
    (∀ reason, scopeViolation host grant request = .ok (some reason) → reason ∈ scopeViolations) ∧
    ∀ e, scopeViolation host grant request = .error e → ¬ WellFormed (grant.mutationScope.getD {}) := by
  have hviolation : ∀ {reason : String} {r : Except RemoteError (Option String)} {P : Prop}, r = .ok (some reason) → reason ∈ scopeViolations → ¬ P →
      (r = .ok none ↔ P) ∧ (∀ reason, r = .ok (some reason) → reason ∈ scopeViolations) ∧
        ∀ e, r = .error e → ¬ WellFormed (grant.mutationScope.getD {}) := by
    rintro reason _ P rfl hmem hnot
    exact ⟨⟨nofun,fun h => absurd h hnot⟩,fun reason' h => by cases h; exact hmem,nofun⟩
  unfold scopeViolation
  dsimp only
  by_cases hmethod : host.upper request.method ∉ grant.allowedMethods
  · rw [if_pos hmethod]
    exact hviolation rfl (by decide) fun h => hmethod h.1
  rw [if_neg hmethod]
  by_cases hmutates : host.upper request.method ∉ readMethods ∧ grant.mutates = false
  · rw [if_pos hmutates]
    exact hviolation rfl (by decide) fun h => by simp [(h.2.2.2 hmutates.1).1] at hmutates
  rw [if_neg hmutates]
  by_cases hpath : pathMatchesServiceScope request.rawPath grant.servicePaths = false
  · rw [if_pos hpath]
    exact hviolation rfl (by decide) fun h => by simp [pathAllows_iff.mpr h.2.1] at hpath
  rw [if_neg hpath]
  have hpath' := pathAllows_iff.mp (Bool.not_eq_false _ ▸ hpath)
  by_cases hroute : routeAllowed request.normalizedPath grant.allowedRoutes = false
  · rw [if_pos hroute]
    exact hviolation rfl (by decide) fun h => by simp [(routeAllowed_iff hplain.routes _).mpr h.2.2.1] at hroute
  rw [if_neg hroute]
  have hroute' := (routeAllowed_iff hplain.routes _).mp (Bool.not_eq_false _ ▸ hroute)
  by_cases hread : host.upper request.method ∈ readMethods
  · rw [if_pos hread]
    exact ⟨⟨fun _ => ⟨not_not.mp hmethod,hpath',hroute',fun h => absurd hread h⟩,fun _ => rfl⟩,nofun,nofun⟩
  rw [if_neg hread]
  have hmutates' : grant.mutates = true := by
    by_contra hno
    exact hmutates ⟨hread,Bool.not_eq_true _ ▸ hno⟩
  obtain ⟨hformed,hcovers⟩ := mutationScopeAllowed_iff host (host.upper request.method) request.rawPath request.normalizedPath
    hplain.scope
  cases hscope : mutationScopeAllowed host grant (host.upper request.method) request.rawPath request.normalizedPath with
  | error e =>
    have hnot : ¬ WellFormed (grant.mutationScope.getD {}) := by
      intro hwell
      obtain ⟨b,hb⟩ := hformed.mpr hwell
      rw [hscope] at hb
      cases hb
    exact ⟨⟨nofun,fun h => absurd (h.2.2.2 hread).2.1 hnot⟩,nofun,fun _ _ => hnot⟩
  | ok b =>
    have hwell := hformed.mp ⟨b,hscope⟩
    have hb := hcovers b hscope
    cases b with
    | true => exact ⟨⟨fun _ => ⟨not_not.mp hmethod,hpath',hroute',fun _ => ⟨hmutates',hwell,hb.mp rfl⟩⟩,fun _ => rfl⟩,nofun,nofun⟩
    | false => exact hviolation rfl (by decide) fun h => Bool.false_ne_true (hb.mpr (h.2.2.2 hread).2.2)

end Scopes

/-! ### A validation -/

section Validation
variable {host : RemoteHost} {s : ControlState} {rawToken : String} {request : Request} {now : ℤ}

theorem firstWithHash_profile {tokenHash : String} {grant : TestToken} :
    FirstWithHash (withDefaultProfile s) tokenHash grant ↔ FirstWithHash s tokenHash grant := by
  unfold withDefaultProfile
  split <;> exact Iff.rfl

/-- What a validation of a token answers and writes. -/
structure Validation (host : RemoteHost) (s : ControlState) (rawToken : String) (request : Request) (now : ℤ)
    (r : Except RemoteError Reply) (s' : ControlState) : Prop where
  authorized : (∃ reply, r = .ok reply ∧ reply.isAuthorized = true) ↔ ∃ grant account, Authorizes host s rawToken request now grant account
  raised : ∀ e, r = .error e → s' = s ∧
    ∃ grant, FirstWithHash s ("sha256:" ++ host.sha256 rawToken) grant ∧ ¬ WellFormed (grant.mutationScope.getD {})
  accounts : ∀ reply, r = .ok reply → ∀ id, s'.accounts.get? id = (s.accounts.get? id).map fun account =>
    if reply.violates id = true ∧ account.autoDisableOnScopeViolation = true then { account with enabled := false } else account
  tokens : ∀ reply, r = .ok reply → ∀ id, s'.tokens.get? id = s.tokens.get? id ∨ reply.expires id = true ∧
    ∃ grant, FirstWithHash s ("sha256:" ++ host.sha256 rawToken) grant ∧ grant.expiresAt ≤ now ∧ grant.tokenId = id ∧
      s'.tokens.get? id = some { grant with status := .expired }
  leases : s'.leases = s.leases
  profiles : s'.profiles = s.profiles ∨ s'.profiles = (withDefaultProfile s).profiles

theorem authDenied_accounts (s : ControlState) (accountId tokenId : Option String) (reason id : String) :
    (authDenied s accountId tokenId reason).2.accounts.get? id = (s.accounts.get? id).map fun account =>
      if (Reply.denied accountId tokenId reason).violates id = true ∧ account.autoDisableOnScopeViolation = true then
        { account with enabled := false } else account := by
  have hsame : ∀ {reply : Reply}, (∀ account, s.accounts.get? id = some account →
      ¬ (reply.violates id = true ∧ account.autoDisableOnScopeViolation = true)) →
      s.accounts.get? id = (s.accounts.get? id).map fun account =>
        if reply.violates id = true ∧ account.autoDisableOnScopeViolation = true then { account with enabled := false } else account := by
    intro reply hnot
    cases haccount : s.accounts.get? id with
    | none => rfl
    | some account => rw [Option.map_some,if_neg (hnot account haccount)]
  unfold authDenied
  dsimp only
  cases accountId with
  | none => exact hsame fun account _ h => by simp [Reply.violates] at h
  | some accountId =>
    by_cases hempty : accountId = ""
    · have hgiven : given (some accountId) = none := by simp [given,hempty]
      rw [hgiven]
      exact hsame fun account _ h => by
        simp only [Reply.violates,Bool.and_eq_true,decide_eq_true_eq] at h
        exact h.1.1.2 (h.1.1.1 ▸ hempty)
    · have hgiven : given (some accountId) = some accountId := by simp [given,hempty]
      rw [hgiven]
      dsimp only
      cases haccount : s.accounts.get? accountId with
      | none =>
        refine hsame fun account haccount' h => ?_
        simp only [Reply.violates,Bool.and_eq_true,decide_eq_true_eq] at h
        rw [← h.1.1.1,haccount] at haccount'
        cases haccount'
      | some account =>
        dsimp only
        by_cases hdisables : reason ∈ scopeViolations ∧ account.autoDisableOnScopeViolation = true
        · rw [if_pos hdisables]
          change (s.accounts.set accountId { account with enabled := false }).get? id = _
          rw [Dict.get?_set]
          by_cases hid : id = accountId
          · subst hid
            rw [if_pos rfl,haccount,Option.map_some,if_pos]
            exact ⟨by simp [Reply.violates,hempty,hdisables.1],hdisables.2⟩
          · rw [if_neg hid]
            refine hsame fun account' _ h => ?_
            simp only [Reply.violates,Bool.and_eq_true,decide_eq_true_eq] at h
            exact hid h.1.1.1.symm
        · rw [if_neg hdisables]
          refine hsame fun account' haccount' h => ?_
          simp only [Reply.violates,Bool.and_eq_true,decide_eq_true_eq] at h
          rw [← h.1.1.1,haccount,Option.some.injEq] at haccount'
          exact hdisables ⟨h.1.2,haccount' ▸ h.2⟩

theorem authDenied_else (s : ControlState) (accountId tokenId : Option String) (reason : String) :
    (authDenied s accountId tokenId reason).1 = .denied accountId tokenId reason ∧
      (authDenied s accountId tokenId reason).2.tokens = s.tokens ∧ (authDenied s accountId tokenId reason).2.leases = s.leases ∧
      (authDenied s accountId tokenId reason).2.profiles = s.profiles := by
  refine ⟨rfl,?_⟩
  unfold authDenied
  dsimp only
  split
  · exact ⟨rfl,rfl,rfl⟩
  · split
    · exact ⟨rfl,rfl,rfl⟩
    · split <;> exact ⟨rfl,rfl,rfl⟩

/-- A denial from a copy of the file in which at most the grant is marked as expired. -/
theorem validation_denied {c : ControlState} {accountId tokenId : Option String} {reason : String}
    (hnot : ¬ ∃ grant account, Authorizes host s rawToken request now grant account)
    (haccounts : c.accounts = s.accounts) (hleases : c.leases = s.leases) (hprofiles : c.profiles = (withDefaultProfile s).profiles)
    (htokens : ∀ id, c.tokens.get? id = s.tokens.get? id ∨ (Reply.denied accountId tokenId reason).expires id = true ∧
      ∃ grant, FirstWithHash s ("sha256:" ++ host.sha256 rawToken) grant ∧ grant.expiresAt ≤ now ∧ grant.tokenId = id ∧
        c.tokens.get? id = some { grant with status := .expired }) :
    Validation host s rawToken request now (.ok (authDenied c accountId tokenId reason).1) (authDenied c accountId tokenId reason).2 := by
  obtain ⟨hreply,hsame,hsame',hsame''⟩ := authDenied_else c accountId tokenId reason
  refine ⟨⟨?_,fun h => absurd h hnot⟩,nofun,?_,?_,by rw [hsame',hleases],.inr (by rw [hsame'',hprofiles])⟩
  · rintro ⟨reply,hok,hauthorized⟩
    cases hok
    rw [hreply] at hauthorized
    cases hauthorized
  · rintro reply hok id
    cases hok
    rw [authDenied_accounts,haccounts,hreply]
  · rintro reply hok id
    cases hok
    rw [hsame,hreply]
    exact htokens id

theorem validate_perform (answers : ∀ q, RemoteAnswer q) (htesting : hasPrefix rawToken testTokenPrefix = true) :
    (validateRemoteTestingToken host rawToken request).perform answers s =
      match validated host (withDefaultProfile s) rawToken request (answers .clock) with
      | .ok (reply,s') => (.ok reply,s')
      | .error e => (.error e,s) := by
  unfold validateRemoteTestingToken
  rw [if_neg (by simp [htesting])]
  cases hvalidated : validated host (withDefaultProfile s) rawToken request (answers .clock) with
  | error e =>
    change ((liftExcept (validated host (withDefaultProfile s) rawToken request (answers .clock))).bind _).perform answers s = _
    rw [hvalidated,liftExcept_error]
    rfl
  | ok answer =>
    change ((liftExcept (validated host (withDefaultProfile s) rawToken request (answers .clock))).bind _).perform answers s = _
    rw [hvalidated,liftExcept_ok]
    rfl

/-- A validation authorizes exactly the requests that its grant, its account and its scopes cover, and apart from the mark of
an expired grant and of an account that a scope violation disables it leaves the file as it was. -/
theorem token_validation (answers : ∀ q, RemoteAnswer q)
    (hplain : ∀ grant, FirstWithHash s ("sha256:" ++ host.sha256 rawToken) grant → PlainRoutes grant) :
    Validation host s rawToken request (answers .clock) ((validateRemoteTestingToken host rawToken request).perform answers s).1
      ((validateRemoteTestingToken host rawToken request).perform answers s).2 := by
  by_cases htesting : hasPrefix rawToken testTokenPrefix = true
  · rw [validate_perform answers htesting]
    generalize (answers .clock : ℤ) = now
    have hprofile : (withDefaultProfile s).tokens = s.tokens ∧ (withDefaultProfile s).accounts = s.accounts ∧
        (withDefaultProfile s).leases = s.leases := by
      unfold withDefaultProfile
      split <;> exact ⟨rfl,rfl,rfl⟩
    obtain ⟨htokens,haccounts,hleases⟩ := hprofile
    have hdenied : ∀ {accountId tokenId : Option String} {reason : String},
        (¬ ∃ grant account, Authorizes host s rawToken request now grant account) → Validation host s rawToken request now
          (.ok (authDenied (withDefaultProfile s) accountId tokenId reason).1) (authDenied (withDefaultProfile s) accountId tokenId reason).2 :=
      fun hnot => validation_denied hnot haccounts hleases rfl fun id => .inl (by rw [htokens])
    have hunique : ∀ {grant grant'}, FirstWithHash s ("sha256:" ++ host.sha256 rawToken) grant →
        FirstWithHash s ("sha256:" ++ host.sha256 rawToken) grant' → grant' = grant := by
      intro grant grant' h h'
      exact Option.some.inj ((grantWithHash_iff.mpr h').symm.trans (grantWithHash_iff.mpr h))
    unfold validated
    cases hgrant : grantWithHash (withDefaultProfile s) ("sha256:" ++ host.sha256 rawToken) with
    | none =>
      refine hdenied ?_
      rintro ⟨grant,account,h⟩
      rw [grantWithHash_iff.mpr (firstWithHash_profile.mpr h.found)] at hgrant
      cases hgrant
    | some grant =>
      have hfound := firstWithHash_profile.mp (grantWithHash_iff.mp hgrant)
      dsimp only
      rw [haccounts]
      cases haccount : (s.accounts.get? grant.accountId).filter (·.enabled) with
      | none =>
        refine hdenied ?_
        rintro ⟨grant',account,h⟩
        obtain rfl := hunique hfound h.found
        rw [h.registered,Option.filter_some,if_pos h.enabled] at haccount
        cases haccount
      | some account =>
        obtain ⟨hregistered,henabled⟩ := Option.filter_eq_some_iff.mp haccount
        dsimp only
        by_cases hactive : grant.status ≠ .active
        · rw [if_pos hactive]
          refine hdenied ?_
          rintro ⟨grant',account',h⟩
          obtain rfl := hunique hfound h.found
          exact hactive h.active
        rw [if_neg hactive]
        by_cases hexpired : grant.expiresAt ≤ now
        · rw [if_pos hexpired]
          refine validation_denied ?_ haccounts hleases rfl fun id => ?_
          · rintro ⟨grant',account',h⟩
            obtain rfl := hunique hfound h.found
            exact absurd h.unexpired (not_lt.mpr hexpired)
          · change ((withDefaultProfile s).tokens.set grant.tokenId { grant with status := .expired }).get? id = _ ∨ _ ∧
              ∃ g, _ ∧ _ ∧ _ ∧ ((withDefaultProfile s).tokens.set grant.tokenId { grant with status := .expired }).get? id = _
            rw [htokens,Dict.get?_set]
            by_cases hid : id = grant.tokenId
            · rw [if_pos hid]
              exact .inr ⟨by simp [Reply.expires,hid],grant,hfound,hexpired,hid.symm,rfl⟩
            · rw [if_neg hid]
              exact .inl rfl
        rw [if_neg hexpired]
        obtain ⟨hnone,hsome,herror⟩ := scopeViolation_cases host request (hplain grant hfound)
        cases hscope : scopeViolation host grant request with
        | error e =>
          have hnot := herror e hscope
          refine ⟨⟨fun h => (by obtain ⟨reply,hok,-⟩ := h; cases hok),?_⟩,fun _ _ => ⟨rfl,grant,hfound,hnot⟩,nofun,nofun,rfl,.inl rfl⟩
          rintro ⟨grant',account',h⟩
          obtain rfl := hunique hfound h.found
          rw [hnone.mpr ⟨h.method,h.path,h.route,h.mutation⟩] at hscope
          cases hscope
        | ok violation =>
          cases violation with
          | some reason =>
            refine hdenied ?_
            rintro ⟨grant',account',h⟩
            obtain rfl := hunique hfound h.found
            rw [hnone.mpr ⟨h.method,h.path,h.route,h.mutation⟩] at hscope
            cases hscope
          | none =>
            obtain ⟨hmethod,hpath,hroute,hmutation⟩ := hnone.mp hscope
            refine ⟨⟨fun _ => ⟨grant,account,htesting,hfound,hregistered,henabled,not_not.mp hactive,not_le.mp hexpired,hmethod,hpath,hroute,
              hmutation⟩,fun _ => ⟨_,rfl,rfl⟩⟩,nofun,?_,fun reply hok id => .inl (congrArg (Dict.get? · id) htokens),hleases,.inr rfl⟩
            rintro reply hok id
            cases hok
            change (withDefaultProfile s).accounts.get? id = _
            rw [haccounts]
            cases s.accounts.get? id <;> rfl
  · have hunrelated : (validateRemoteTestingToken host rawToken request).perform answers s = (.ok .unrelated,s) := by
      unfold validateRemoteTestingToken
      rw [if_pos (Bool.eq_false_iff.mpr htesting)]
      rfl
    rw [hunrelated]
    refine ⟨⟨?_,?_⟩,nofun,?_,fun _ _ _ => .inl rfl,rfl,.inl rfl⟩
    · rintro ⟨reply,hok,hauthorized⟩
      cases hok
      cases hauthorized
    · rintro ⟨grant,account,h⟩
      exact absurd h.prefixed htesting
    · rintro reply hok id
      cases hok
      cases s.accounts.get? id <;> rfl

end Validation
/-! ### Concrete validations -/

def tankAccount : Account where
  accountId := "tank"
  agentKind := "windows"
  agentId := "tank-msi"
  enabled := true
  allowedProjects := ["*"]
  allowedServicePaths := ["*"]
  allowedGatewayOrigins := ["*"]
  gatewayPrincipal := "owner"

/-- A grant that reads under the routes given. -/
def readGrant (routes : List String) : TestToken where
  tokenId := "rtt.tank"
  tokenHash := "sha256:qrt_raw"
  accountId := "tank"
  leaseId := none
  jobId := none
  project := "Overseer"
  threadId := none
  servicePaths := ["/Overseer"]
  gatewayOrigins := ["*"]
  allowedMethods := readMethods
  allowedRoutes := routes
  mutates := false
  mutationScope := none
  expiresAt := 60000000

def grantedState (routes : List String) (account : Account) : ControlState :=
  { accounts := Dict.empty.set "tank" account, tokens := Dict.empty.set "rtt.tank" (readGrant routes) }

theorem granted_found {routes : List String} {account : Account} {tokenHash : String} {grant : TestToken}
    (h : FirstWithHash (grantedState routes account) tokenHash grant) : grant = readGrant routes := by
  obtain ⟨id,hget,-⟩ := h
  change (Dict.empty.set "rtt.tank" (readGrant routes)).get? id = some grant at hget
  rw [Dict.get?_set] at hget
  split at hget
  · exact (Option.some.inj hget).symm
  · cases hget

def itemRequest : Request := ⟨"GET","/Overseer/items","/items/7"⟩

/-- The answer to the request and the file after it. -/
def itemAnswer (routes : List String) (account : Account) (request : Request) : Except RemoteError Reply × ControlState :=
  (validateRemoteTestingToken plainHost "qrt_raw" request).perform plainAnswers (grantedState routes account)

theorem plain_of_routes {routes : List String} {account : Account} (h : ∀ r ∈ routes, Unescaped r.toList) :
    ∀ grant, FirstWithHash (grantedState routes account) ("sha256:" ++ plainHost.sha256 "qrt_raw") grant → PlainRoutes grant := by
  intro grant hfound
  rw [granted_found hfound]
  refine ⟨h,?_⟩
  rintro r ⟨-,value,hvalue,-⟩
  cases hvalue

theorem token_validation_item : Validation plainHost (grantedState ["/items/:id"] tankAccount) "qrt_raw" itemRequest 0
      (itemAnswer ["/items/:id"] tankAccount itemRequest).1 (itemAnswer ["/items/:id"] tankAccount itemRequest).2 ∧
    (∃ reply, (itemAnswer ["/items/:id"] tankAccount itemRequest).1 = .ok reply ∧ reply.isAuthorized = true) := by
  refine ⟨token_validation plainAnswers (plain_of_routes ?_),?_⟩
  · change ∀ r ∈ ["/items/:id"], ¬ ['\\',':'] <:+: r.toList
    decide +kernel
  · refine ⟨.authorized "tank" "rtt.tank" "Overseer" none false "owner",?_,rfl⟩
    decide +kernel

/-- A route that is a star alone allows the request, and an account that is not disabled on a violation stays enabled. -/
theorem starred_route_authorizes : (∃ reply, (itemAnswer ["*"] tankAccount itemRequest).1 = .ok reply ∧ reply.isAuthorized = true) ∧
    itemRequest.normalizedPath ≠ "*" ∧ ¬ ['/','*'] <:+ "*".toList ∧ ¬ Stands "*".toList itemRequest.normalizedPath.toList ∧
    ∃ (account : Account) (reply : Reply), account.enabled = true ∧
      (itemAnswer ["*"] account { itemRequest with method := "POST" }).1 = .ok reply ∧ reply.violates "tank" = true ∧
      (itemAnswer ["*"] account { itemRequest with method := "POST" }).2.accounts.get? "tank" = some account := by
  refine ⟨⟨.authorized "tank" "rtt.tank" "Overseer" none false "owner",?_,rfl⟩,by decide,by decide,?_,
    { tankAccount with autoDisableOnScopeViolation := false },.denied (some "tank") (some "rtt.tank") "method_not_allowed",rfl,?_,?_,?_⟩
  · decide +kernel
  · intro hstands
    have hsame := stands_of_no_colon (by decide) hstands
    revert hsame
    decide
  · decide +kernel
  · decide +kernel
  · decide +kernel

end Overseer.Remote
