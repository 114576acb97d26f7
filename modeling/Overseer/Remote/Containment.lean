import Overseer.Remote.Revocation
import Overseer.Library.Sequential
import Overseer.Library.Fallible

/-! # Tokens and the scope of their account

The scope of a token is checked when it is used, the scope of its account never. A token stays
within its account and its lease when it was issued within them and neither is narrowed later.
-/
namespace Overseer.Remote
open Overseer.Library

abbrev RemoteLog := List (Σ q, RemoteAnswer q)

/-- The one list of paths covers whatever the other does. -/
def CoversPaths (wide narrow : List String) : Prop :=
  "*" ∈ wide ∨ ∀ path ∈ narrow, path ≠ "*" ∧ pathMatchesServiceScope path wide = true

structure Covers (account : Account) (project : String) (servicePaths : List String) : Prop where
  project : project ∈ account.allowedProjects ∨ "*" ∈ account.allowedProjects
  paths : CoversPaths account.allowedServicePaths servicePaths

theorem pathMatchesServiceScope_iff {rawPath : String} {paths : List String} : pathMatchesServiceScope rawPath paths = true ↔
    "*" ∈ paths ∨ ∃ path ∈ paths, rawPath = path ∨ hasPrefix rawPath (path ++ "/") = true := by
  simp [pathMatchesServiceScope]

theorem CoversPaths.matches {wide narrow : List String} (h : CoversPaths wide narrow) {rawPath : String}
    (hraw : pathMatchesServiceScope rawPath narrow = true) : pathMatchesServiceScope rawPath wide = true := by
  rw [pathMatchesServiceScope_iff] at hraw ⊢
  rcases h with hall | h
  · exact .inl hall
  · rcases hraw with hstar | ⟨path,hpath,hmatch⟩
    · exact absurd rfl (h _ hstar).1
    · rcases pathMatchesServiceScope_iff.mp (h path hpath).2 with hall | ⟨top,htop,hbelow⟩
      · exact .inl hall
      · refine .inr ⟨top,htop,?_⟩
        rcases hbelow with rfl | hbelow
        · exact hmatch
        · -- what lies below a path that lies below `top` lies below `top`
          right
          rw [hasPrefix_iff] at hbelow ⊢
          rcases hmatch with rfl | hmatch
          · exact hbelow
          · have hlonger : path.toList <+: (path ++ "/").toList := by
              rw [String.toList_append]
              exact List.prefix_append _ _
            exact hbelow.trans (hlonger.trans (hasPrefix_iff.mp hmatch))

/-! ### The invariant -/

/-- The token's account covers it, and its lease outlasts it. -/
structure TokenWithin (s : ControlState) (token : TestToken) : Prop where
  account : ∃ account, s.accounts.get? token.accountId = some account ∧ Covers account token.project token.servicePaths
  lease : ∀ leaseId, given token.leaseId = some leaseId →
    ∃ lease, s.leases.get? leaseId = some lease ∧ lease.status = .active ∧ token.expiresAt ≤ lease.expiresAt

structure Within (s : ControlState) : Prop where
  filed : s.tokens.Filed (·.tokenId)
  tokens : ∀ id token, s.tokens.get? id = some token → token.status = .active → TokenWithin s token

/-- The call keeps the scope of an account around its tokens. -/
def Scoped (s : ControlState) : RemoteCall → Prop
  | .account call => ∀ account, call.account = .ok account → ∀ id token, s.tokens.get? id = some token → token.status = .active →
      token.accountId = account.accountId → Covers account token.project token.servicePaths
  | .token call => ∀ account, s.accounts.get? call.accountId = some account →
      ∀ paths, normalizedServicePaths call.servicePaths true = .ok paths → Covers account call.project paths
  | _ => True

/-- At this reading of the clock a token is issued to end with its lease, and a lease requested
again outlasts the tokens issued for it. -/
def Timely (s : ControlState) (now : ℤ) : RemoteCall → Prop
  | .token call => ∀ leaseId lease, given call.leaseId = some leaseId → s.leases.get? leaseId = some lease →
      now + call.ttl * 60000000 ≤ lease.expiresAt
  | .lease call => ∀ id token, s.tokens.get? id = some token → token.status = .active →
      given token.leaseId = some (strip call.leaseId) → token.expiresAt ≤ now + call.ttlMinutes * 60000000
  | _ => True

def Allowed (s : ControlState) (call : RemoteCall) (log : RemoteLog) : Prop :=
  Scoped s call ∧ ∀ now : ℤ, (⟨RemoteQuery.clock,now⟩ : Σ q, RemoteAnswer q) ∈ log → Timely s now call

/-- Calls carried out one after another. -/
inductive Sequence (host : RemoteHost) (allowed : ControlState → RemoteCall → RemoteLog → Prop) (s₀ : ControlState) :
    ControlState → Prop where
  | nil : Sequence host allowed s₀ s₀
  | snoc {s s' : ControlState} {call : RemoteCall} {log : RemoteLog} {r : Except RemoteError Reply}
      (h : Sequence host allowed s₀ s) (hallowed : allowed s call log) (hrun : Prog.Solo (call.program host) s log r s') :
      Sequence host allowed s₀ s'

variable {host : RemoteHost} {s s' : ControlState}

@[simp] theorem withDefaultProfile_leases (s : ControlState) : (withDefaultProfile s).leases = s.leases := by
  unfold withDefaultProfile
  split <;> rfl

theorem within_withDefaultProfile : Within (withDefaultProfile s) ↔ Within s := by
  constructor
  · intro h
    refine ⟨by simpa using h.filed,fun id token hget hactive => ?_⟩
    obtain ⟨haccount,hlease⟩ := h.tokens id token (by simpa using hget) hactive
    exact ⟨by simpa using haccount,by simpa using hlease⟩
  · intro h
    refine ⟨by simpa using h.filed,fun id token hget hactive => ?_⟩
    obtain ⟨haccount,hlease⟩ := h.tokens id token (by simpa using hget) hactive
    exact ⟨by simpa using haccount,by simpa using hlease⟩

theorem Within.setAccount (h : Within s) {account : Account} (hcovers : ∀ id token, s.tokens.get? id = some token →
    token.status = .active → token.accountId = account.accountId → Covers account token.project token.servicePaths) :
    Within (s.setAccount account) := by
  refine ⟨h.filed,fun id token hget hactive => ⟨?_,(h.tokens id token hget hactive).lease⟩⟩
  by_cases heq : token.accountId = account.accountId
  · exact ⟨account,by simp [ControlState.setAccount,heq],hcovers id token hget hactive heq⟩
  · obtain ⟨a,ha,hcov⟩ := (h.tokens id token hget hactive).account
    exact ⟨a,by simpa [ControlState.setAccount,heq] using ha,hcov⟩

theorem Within.disable (h : Within s) {id : String} {account : Account} (haccount : s.accounts.get? id = some account) :
    Within { s with accounts := s.accounts.set id { account with enabled := false } } := by
  refine ⟨h.filed,fun id' token hget hactive => ⟨?_,(h.tokens id' token hget hactive).lease⟩⟩
  obtain ⟨a,ha,hcov⟩ := (h.tokens id' token hget hactive).account
  by_cases heq : token.accountId = id
  · rw [heq,haccount] at ha
    cases ha
    exact ⟨{ account with enabled := false },by simp [heq],hcov.project,hcov.paths⟩
  · exact ⟨a,by simpa [heq] using ha,hcov⟩

theorem Within.authDenied (h : Within s) (accountId tokenId : Option String) (reason : String) :
    Within (authDenied s accountId tokenId reason).2 := by
  simp only [Remote.authDenied]
  cases given accountId with
  | none => exact h
  | some id =>
    cases haccount : s.accounts.get? id with
    | none => simpa [haccount] using h
    | some account =>
      simp only [haccount]
      split
      · exact h.disable haccount
      · exact h

theorem Within.setToken (h : Within s) {id : String} {token : TestToken} (hid : token.tokenId = id)
    (htoken : token.status = .active → TokenWithin s token) : Within { s with tokens := s.tokens.set id token } := by
  have hset := Dict.Filed.set h.filed token
  rw [hid] at hset
  refine ⟨hset,fun id' token' hget hactive => ?_⟩
  have hwithin : TokenWithin s token' := by
    rw [Dict.get?_set] at hget
    split at hget
    · cases hget
      exact htoken hactive
    · exact h.tokens id' token' hget hactive
  exact ⟨hwithin.account,hwithin.lease⟩

theorem Within.setLease (h : Within s) {leaseId : String} {lease : Lease} (hlease : ∀ id token, s.tokens.get? id = some token →
    token.status = .active → given token.leaseId = some leaseId → lease.status = .active ∧ token.expiresAt ≤ lease.expiresAt) :
    Within { s with leases := s.leases.set leaseId lease } := by
  refine ⟨h.filed,fun id token hget hactive => ⟨(h.tokens id token hget hactive).account,fun leaseId' hgiven => ?_⟩⟩
  by_cases heq : leaseId' = leaseId
  · subst heq
    exact ⟨lease,by simp,hlease id token hget hactive hgiven⟩
  · obtain ⟨l,hl,hrest⟩ := (h.tokens id token hget hactive).lease leaseId' hgiven
    exact ⟨l,by simpa [heq] using hl,hrest⟩

/-! ### What the checks of an issue give -/

theorem check_ok {c : Prop} [Decidable c] {message : String} {u : Unit} (h : check c message = .ok u) : c := by
  unfold check at h
  split at h
  · assumption
  · cases h

theorem expiry_ok {now ttlMinutes t : ℤ} (h : expiry now ttlMinutes = .ok t) : t = now + ttlMinutes * 60000000 := by
  unfold expiry at h
  split at h
  · exact (Except.ok.inj h).symm
  · cases h

structure TokenCall.Granted (call : TokenCall) (now : ℤ) (grant : TestToken) : Prop where
  account : grant.accountId = call.accountId
  lease : grant.leaseId = call.leaseId
  project : grant.project = call.project
  paths : normalizedServicePaths call.servicePaths true = .ok grant.servicePaths
  expires : grant.expiresAt = now + call.ttl * 60000000

theorem TokenCall.grant_ok {call : TokenCall} {namedAt now : ℤ} {drawn : String × String} {grant : TestToken}
    (h : call.grant host namedAt now drawn = .ok grant) : call.Granted now grant := by
  obtain ⟨expiresAt,hexpires,h⟩ := except_bind_ok h
  obtain ⟨servicePaths,hpaths,h⟩ := except_bind_ok h
  obtain ⟨gatewayOrigins,-,h⟩ := except_bind_ok h
  obtain ⟨allowedRoutes,-,h⟩ := except_bind_ok h
  cases h
  exact ⟨rfl,rfl,rfl,hpaths,expiry_ok hexpires⟩

theorem TokenCall.checkLease_ok {call : TokenCall} {now : ℤ} {leaseId : String} {u : Unit} (h : call.checkLease s now = .ok u)
    (hgiven : given call.leaseId = some leaseId) : ∃ lease, s.leases.get? leaseId = some lease ∧ lease.status = .active := by
  simp only [TokenCall.checkLease,hgiven] at h
  cases hlease : s.leases.get? leaseId with
  | none =>
    rw [hlease] at h
    cases h
  | some lease =>
    rw [hlease] at h
    obtain ⟨_,hcheck,-⟩ := except_bind_ok h
    have hactive := check_ok hcheck
    unfold leaseStatus at hactive
    split at hactive
    · cases hactive
    · exact ⟨lease,rfl,hactive⟩

theorem covers_default {accountId project : String} {servicePaths : List String} {account : Account}
    (h : AccountCall.account { accountId := accountId } = .ok account) : Covers account project servicePaths := by
  obtain ⟨id,-,h⟩ := except_bind_ok h
  have hstar : normalizedScopeList ["*"] true = .ok ["*"] := by rfl
  have hpaths : normalizedServicePaths ["*"] true = .ok ["*"] := by rfl
  obtain ⟨agentId,-,h⟩ := except_bind_ok h
  obtain ⟨projects,hprojects,h⟩ := except_bind_ok h
  obtain ⟨paths,hpaths',h⟩ := except_bind_ok h
  obtain ⟨origins,-,h⟩ := except_bind_ok h
  obtain ⟨principal,-,h⟩ := except_bind_ok h
  cases h
  have hp : projects = ["*"] := Except.ok.inj (hprojects.symm.trans hstar)
  have hq : paths = ["*"] := Except.ok.inj (hpaths'.symm.trans hpaths)
  exact ⟨.inr (by simp [hp]),.inl (by simp [hq])⟩

/-! ### Calls -/

variable {valid : (q : RemoteQuery) → RemoteAnswer q → Prop} {α β : Type} {Post : Except RemoteError β → ControlState → Prop}

theorem wp_saveControlState_bind {held : Held} {f : Unit → RemoteProg β} (hs : Within s) (h : (f ()).Wp valid Within Post s') :
    (saveControlState held s' >>= f).Wp valid Within Post s := ⟨hs,h⟩

theorem wp_liftExcept_bind {r : Except RemoteError α} {f : α → RemoteProg β} (hs : Within s) (herror : ∀ e, Post (.error e) s)
    (h : ∀ a, r = .ok a → (f a).Wp valid Within Post s) : (liftExcept r >>= f).Wp valid Within Post s := by
  cases r with
  | error e =>
    rw [liftExcept_error]
    exact ⟨hs,herror e⟩
  | ok a =>
    rw [liftExcept_ok]
    exact h a rfl

theorem wp_pure {b : β} (hs : Within s) (h : Post (.ok b) s) : (pure b : RemoteProg β).Wp valid Within Post s := ⟨hs,h⟩

/-- The account that is recorded covers the tokens it has. -/
theorem wp_recordAccount {call : AccountCall} (hs : Within s) (hscoped : Scoped s (.account call))
    {Post : Except RemoteError Reply → ControlState → Prop} (herror : ∀ e s', Post (.error e) s')
    (hpost : ∀ account, call.account = .ok account → Post (.ok (.accountRecorded account.accountId))
      ((withDefaultProfile s).setAccount account)) :
    (recordRemoteTestingAccountStatus call).Wp valid Within Post s := by
  refine Prog.wp_require_bind hs (fun _ => herror _ _) fun _ => Prog.wp_read_bind hs ?_
  refine wp_liftExcept_bind hs (fun e => herror e s) fun account haccount => ?_
  have hstored : Within ((withDefaultProfile s).setAccount account) :=
    (within_withDefaultProfile.mpr hs).setAccount fun id token hget => hscoped account haccount id token (by simpa using hget)
  exact wp_saveControlState_bind hs (wp_saveControlState_bind hstored (wp_pure hstored (hpost account haccount)))

/-- The copy an issue works on is of a file whose leases are as they were; the account it finds was
there before or covers everything. -/
theorem wp_accountRegistered_bind {accountId : String} {f : ControlState → RemoteProg β} (hs : Within s)
    (herror : ∀ e s', Post (.error e) s') (h : ∀ s₁, Within s₁ → s₁.leases = s.leases →
      (∀ account, s₁.accounts.get? accountId = some account → s.accounts.get? accountId = some account ∨
        ∀ project servicePaths, Covers account project servicePaths) →
      (f (withDefaultProfile s₁)).Wp valid Within Post s₁) :
    (accountRegistered accountId >>= f).Wp valid Within Post s := by
  refine Prog.Wp.bind (Prog.wp_read_bind hs ?_)
  split
  · exact ⟨hs,h s hs rfl fun account haccount => .inl haccount⟩
  · next hnew =>
    have hscoped : Scoped s (.account { accountId := accountId }) := fun account haccount _ _ _ _ _ => covers_default haccount
    refine Prog.Wp.bind (wp_recordAccount hs hscoped (fun e s' => herror e s') fun account haccount => ?_)
    have hstored : Within ((withDefaultProfile s).setAccount account) :=
      (within_withDefaultProfile.mpr hs).setAccount fun _ _ _ _ _ => covers_default haccount
    refine ⟨hstored,hstored,h _ hstored (by simp [ControlState.setAccount]) fun a ha => ?_⟩
    by_cases heq : accountId = account.accountId
    · simp only [ControlState.setAccount,heq,Dict.get?_set,↓reduceIte,Option.some.injEq] at ha
      rw [← ha]
      exact .inr fun _ _ => covers_default haccount
    · left
      simpa [ControlState.setAccount,heq] using ha

/-- A call that is allowed keeps every active token within its account and lease. -/
theorem wp_program {call : RemoteCall} {log : RemoteLog} (hs : Within s) (hallowed : Allowed s call log) :
    (call.program host).Wp (fun q a => (⟨q,a⟩ : Σ q, RemoteAnswer q) ∈ log) Within (fun _ _ => True) s := by
  have hdefault := within_withDefaultProfile.mpr hs
  obtain ⟨hscoped,htimely⟩ := hallowed
  cases call with
  | account call => exact wp_recordAccount hs hscoped (fun _ _ => trivial) fun _ _ => trivial
  | profile profileId =>
    refine Prog.wp_read_bind hs (wp_liftExcept_bind hs (fun _ => trivial) fun id _ => ?_)
    have hstored : Within { withDefaultProfile s with profiles :=
        if id ∈ (withDefaultProfile s).profiles then (withDefaultProfile s).profiles else (withDefaultProfile s).profiles ++ [id] } :=
      ⟨hdefault.filed,fun id token hget hactive =>
        ⟨(hdefault.tokens id token hget hactive).account,(hdefault.tokens id token hget hactive).lease⟩⟩
    exact wp_saveControlState_bind hs (wp_pure hstored trivial)
  | lease call =>
    refine Prog.wp_require_bind hs (fun _ => trivial) fun _ => Prog.wp_require_bind hs (fun _ => trivial) fun _ => ?_
    refine Prog.wp_read_bind hs (Prog.wp_ask_bind hs fun now hnow => ?_)
    refine wp_liftExcept_bind hs (fun _ => trivial) fun lease hlease => ?_
    obtain ⟨_,-,hlease⟩ := except_bind_ok hlease
    obtain ⟨leaseId,hid,hlease⟩ := except_bind_ok hlease
    obtain ⟨expiresAt,hexpires,hlease⟩ := except_bind_ok hlease
    cases hlease
    have hstripped : leaseId = strip call.leaseId := by
      unfold requiredId at hid
      split at hid
      · cases hid
      · exact (Except.ok.inj hid).symm
    subst hstripped
    have hstored := @Within.setLease _ hdefault (strip call.leaseId)
      ⟨strip call.leaseId,call.profileId,call.project,call.jobTypes,[],expiresAt,.active⟩ fun id token hget hactive hgiven =>
        ⟨rfl,by rw [expiry_ok hexpires]; exact htimely now hnow id token (by simpa using hget) hactive hgiven⟩
    exact wp_saveControlState_bind hs (wp_pure hstored trivial)
  | job call =>
    refine Prog.wp_require_bind hs (fun _ => trivial) fun _ => wp_liftExcept_bind hs (fun _ => trivial) fun _ _ => ?_
    refine Prog.wp_read_bind hs (Prog.wp_ask_bind hs fun now _ => ?_)
    refine wp_liftExcept_bind hs (fun _ => trivial) fun lease hlease => Prog.wp_ask_bind hs fun createdAt _ => ?_
    have hfound : (withDefaultProfile s).leases.get? call.leaseId = some lease := by
      unfold JobCall.checkLease at hlease
      split at hlease
      · cases hlease
      · next l hl =>
        obtain ⟨_,-,hlease⟩ := except_bind_ok hlease
        obtain ⟨_,-,hlease⟩ := except_bind_ok hlease
        obtain ⟨_,-,hlease⟩ := except_bind_ok hlease
        obtain ⟨_,-,hlease⟩ := except_bind_ok hlease
        split at hlease
        · cases hlease
          exact hl
        · obtain ⟨_,-,hlease⟩ := except_bind_ok hlease
          cases hlease
          exact hl
    have hstored := @Within.setLease _ hdefault call.leaseId
      { lease with jobIds := lease.jobIds ++ [call.jobId host createdAt] } fun id token hget hactive hgiven => by
        obtain ⟨l,hl,hstatus,hexpires⟩ := (hdefault.tokens id token hget hactive).lease _ hgiven
        rw [hfound] at hl
        cases hl
        exact ⟨hstatus,hexpires⟩
    exact wp_saveControlState_bind hs (wp_pure hstored trivial)
  | token call =>
    refine Prog.wp_require_bind hs (fun _ => trivial) fun _ => ?_
    refine wp_accountRegistered_bind hs (fun _ _ => trivial) fun s₁ hs₁ hleases haccounts => ?_
    refine wp_liftExcept_bind hs₁ (fun _ => trivial) fun _ haccount => Prog.wp_ask_bind hs₁ fun checkedAt _ => ?_
    refine wp_liftExcept_bind hs₁ (fun _ => trivial) fun _ hlease => wp_liftExcept_bind hs₁ (fun _ => trivial) fun _ _ => ?_
    refine Prog.wp_ask_bind hs₁ fun namedAt _ => Prog.wp_ask_bind hs₁ fun drawn _ => Prog.wp_ask_bind hs₁ fun now hnow => ?_
    refine wp_liftExcept_bind hs₁ (fun _ => trivial) fun grant hgrant => ?_
    have hgranted := TokenCall.grant_ok hgrant
    refine wp_saveControlState_bind hs₁ (wp_pure ((within_withDefaultProfile.mpr hs₁).setToken rfl fun _ => ?_) trivial)
    constructor
    · cases hfound : s₁.accounts.get? call.accountId with
      | none =>
        have hnone := check_ok haccount
        simp [hfound] at hnone
      | some account =>
        refine ⟨account,by simpa [hgranted.account] using hfound,?_⟩
        rcases haccounts account hfound with hbefore | hall
        · rw [hgranted.project]
          exact hscoped account hbefore _ hgranted.paths
        · exact hall _ _
    · intro leaseId hgiven
      rw [hgranted.lease] at hgiven
      obtain ⟨lease,hl,hactive⟩ := TokenCall.checkLease_ok hlease hgiven
      refine ⟨lease,hl,hactive,?_⟩
      rw [hgranted.expires]
      exact htimely now hnow leaseId lease hgiven (by simpa [hleases] using hl)
  | revoke tokenId =>
    refine Prog.wp_read_bind hs (Prog.wp_orRaise_bind hs (fun _ => trivial) fun grant hgrant => ?_)
    have hstored := @Within.setToken _ hdefault _ { grant with status := .revoked } (hdefault.filed tokenId grant hgrant)
      fun h => by cases h
    exact wp_saveControlState_bind hs (wp_pure hstored trivial)
  | validate rawToken request =>
    change (validateRemoteTestingToken host rawToken request).Wp _ Within _ s
    unfold validateRemoteTestingToken
    split
    · exact wp_pure hs trivial
    · refine Prog.wp_read_bind hs (Prog.wp_ask_bind hs fun now _ => wp_liftExcept_bind hs (fun _ => trivial) fun r hr => ?_)
      obtain ⟨reply,s'⟩ := r
      refine wp_saveControlState_bind hs (wp_pure ?_ trivial)
      rcases validated_cases hr with ⟨c,accountId,tokenId,reason,hc,-,rfl⟩ | ⟨grant,account,-,rfl,-⟩
      · refine Within.authDenied ?_ _ _ _
        rcases hc with rfl | ⟨grant,hgrant,-,rfl⟩
        · exact hdefault
        · exact hdefault.setToken rfl fun h => by cases h
      · exact hdefault

theorem Sequence.within {s₀ : ControlState} (h : Sequence host Allowed s₀ s) (h₀ : Within s₀) : Within s := by
  induction h with
  | nil => exact h₀
  | snoc _ hallowed hrun ih => exact (wp_program (ih) hallowed).cut hrun.cut fun e he => he

/-! ### What a validation authorizes -/

/-- The account is there, enabled, allows the project and covers the path; the lease the token was
issued for is active. -/
structure Contained (s : ControlState) (now : ℤ) (rawPath accountId tokenId project : String) : Prop where
  account : ∃ account, s.accounts.get? accountId = some account ∧ account.enabled = true ∧
    (project ∈ account.allowedProjects ∨ "*" ∈ account.allowedProjects) ∧
    pathMatchesServiceScope rawPath account.allowedServicePaths = true
  token : ∃ token, s.tokens.get? tokenId = some token ∧ token.accountId = accountId ∧ token.project = project ∧
    ∀ leaseId, given token.leaseId = some leaseId → ∃ lease, s.leases.get? leaseId = some lease ∧ leaseStatus lease now = .active

/-- What a validation that follows allowed calls authorizes lies within the account and the lease. -/
def AuthorizesWithin (s : ControlState) (log : RemoteLog) (rawPath : String) : Except RemoteError Reply → Prop
  | .ok (.authorized accountId tokenId project ..) =>
      ∃ now : ℤ, (⟨RemoteQuery.clock,now⟩ : Σ q, RemoteAnswer q) ∈ log ∧ Contained s now rawPath accountId tokenId project
  | _ => True

theorem Authorized.contained {rawToken : String} {request : Request} {now : ℤ} {grant : TestToken} {account : Account}
    (h : Authorized host (withDefaultProfile s) rawToken request now grant account) (hs : Within s) :
    Contained s now request.rawPath grant.accountId grant.tokenId grant.project := by
  have hdefault := within_withDefaultProfile.mpr hs
  have hget : s.tokens.get? grant.tokenId = some grant := by
    simpa using grantWithHash_get hdefault.filed h.found
  have hregistered : s.accounts.get? grant.accountId = some account := by
    simpa using h.registered
  obtain ⟨⟨a,ha,hcovers⟩,hlease⟩ := hs.tokens _ grant hget h.active
  rw [hregistered] at ha
  cases ha
  refine ⟨⟨account,hregistered,h.enabled,hcovers.project,hcovers.paths.matches h.path⟩,grant,hget,rfl,rfl,fun leaseId hgiven => ?_⟩
  obtain ⟨lease,hl,hactive,hexpires⟩ := hlease leaseId hgiven
  refine ⟨lease,hl,?_⟩
  have hlater : ¬ lease.expiresAt ≤ now := not_le.mpr (lt_of_lt_of_le h.unexpired hexpires)
  rw [leaseStatus,if_neg hlater,hactive]

/-- After calls that kept to the scope of the accounts and to the end of the leases, a validation
authorizes only within the account and the lease of the token. -/
theorem tokens_contained (host : RemoteHost) {s₀ s s' : ControlState} (h₀ : Within s₀) (hrun : Sequence host Allowed s₀ s)
    {rawToken : String} {request : Request} {log : RemoteLog} {r : Except RemoteError Reply}
    (hvalidate : Prog.Solo (validateRemoteTestingToken host rawToken request) s log r s') :
    AuthorizesWithin s log request.rawPath r := by
  have hs := hrun.within h₀
  have hwp : (validateRemoteTestingToken host rawToken request).Wp (fun q a => (⟨q,a⟩ : Σ q, RemoteAnswer q) ∈ log)
      (fun _ => True) (fun r _ => AuthorizesWithin s log request.rawPath r) s := by
    unfold validateRemoteTestingToken
    split
    · exact ⟨trivial,trivial⟩
    · refine Prog.wp_read_bind trivial (Prog.wp_ask_bind trivial fun now hnow => ?_)
      cases hvalidated : validated host (withDefaultProfile s) rawToken request now with
      | error e =>
        rw [liftExcept_error]
        exact ⟨trivial,trivial⟩
      | ok r =>
        obtain ⟨reply,s'⟩ := r
        rw [liftExcept_ok]
        refine ⟨trivial,trivial,?_⟩
        rcases validated_cases hvalidated with ⟨_,_,_,_,-,rfl,-⟩ | ⟨grant,account,hauthorized,-,rfl⟩
        · trivial
        · exact ⟨now,hnow,hauthorized.contained hs⟩
  exact hwp.solo hvalidate fun e he => he

/-! ### Concrete calls -/

def narrowAccount : RemoteCall := .account { accountId := "tank", allowedProjects := ["Roadex"], allowedServicePaths := ["/Roadex"] }
def wideToken : RemoteCall := .token { accountId := "tank" }
def plainValidation : RemoteProg Reply := validateRemoteTestingToken plainHost "qrt_raw" ⟨"GET","/Overseer","/"⟩

/-- The file after a call, with the answers of `plainAnswers`. -/
def afterCall (s : ControlState) (call : RemoteCall) : ControlState := ((call.program plainHost).perform plainAnswers s).2

def leaseCall : RemoteCall := .lease { leaseId := "lease-1", project := "Roadex" }
def leasedToken : RemoteCall := .token { accountId := "tank", leaseId := some "lease-1", project := "Roadex", servicePaths := ["/Roadex"] }
def leasedValidation : RemoteProg Reply := validateRemoteTestingToken plainHost "qrt_raw" ⟨"GET","/Roadex","/"⟩

/-- The account of one project, with a lease and a token for it. -/
def leasedState : ControlState := afterCall (afterCall (afterCall {} narrowAccount) leaseCall) leasedToken

theorem leasedState_sequence : Sequence plainHost Allowed {} leasedState := by
  have hclock : ∀ {log : RemoteLog}, (∀ e ∈ log, e.2 = plainAnswers e.1) → ∀ now : ℤ, (⟨RemoteQuery.clock,now⟩ : Σ q, RemoteAnswer q) ∈ log →
      now = 0 := fun hlog now hnow => hlog _ hnow
  have htokens : (afterCall {} narrowAccount).tokens.keys = [] := by decide +kernel
  obtain ⟨log₁,h₁,-⟩ := Prog.perform_solo plainAnswers (narrowAccount.program plainHost) {}
  obtain ⟨log₂,h₂,-⟩ := Prog.perform_solo plainAnswers (leaseCall.program plainHost) (afterCall {} narrowAccount)
  obtain ⟨log₃,h₃,hlog₃⟩ := Prog.perform_solo plainAnswers (leasedToken.program plainHost) (afterCall (afterCall {} narrowAccount) leaseCall)
  have hallowed₁ : Allowed {} narrowAccount log₁ := by
    refine ⟨fun account _ id token hget => ?_,fun _ _ => trivial⟩
    cases hget
  have hallowed₂ : Allowed (afterCall {} narrowAccount) leaseCall log₂ := by
    refine ⟨trivial,fun now _ id token hget => ?_⟩
    have hmem := (Dict.mem_keys_iff _ _).mpr ⟨token,hget⟩
    rw [htokens] at hmem
    cases hmem
  have hallowed₃ : Allowed (afterCall (afterCall {} narrowAccount) leaseCall) leasedToken log₃ := by
    refine ⟨?_,fun now hnow => ?_⟩
    · intro account haccount paths hpaths
      have hstored : ((afterCall (afterCall {} narrowAccount) leaseCall).accounts.get? "tank").map
          (fun a => (a.allowedProjects,a.allowedServicePaths)) = some (["Roadex"],["/Roadex"]) := by decide +kernel
      rw [haccount] at hstored
      obtain ⟨hprojects,hscope⟩ := Prod.mk.inj (Option.some.inj hstored)
      obtain rfl : ["/Roadex"] = paths := Except.ok.inj hpaths
      refine ⟨.inl ?_,.inr fun path hpath => ?_⟩
      · rw [hprojects]
        exact List.mem_singleton.mpr rfl
      · obtain rfl := List.mem_singleton.mp hpath
        rw [hscope]
        exact ⟨by decide,by decide +kernel⟩
    · intro leaseId lease hgiven hlease
      have hexpires : ((afterCall (afterCall {} narrowAccount) leaseCall).leases.get? "lease-1").map (·.expiresAt) =
          some (120 * 60000000) := by decide +kernel
      obtain rfl : "lease-1" = leaseId := Option.some.inj hgiven
      rw [hlease] at hexpires
      obtain rfl := hclock hlog₃ now hnow
      have hend : lease.expiresAt = 120 * 60000000 := Option.some.inj hexpires
      rw [hend]
      decide
  exact .snoc (.snoc (.snoc .nil hallowed₁ h₁) hallowed₂ h₂) hallowed₃ h₃

theorem tokens_contained_default : ∃ s' log,
    Prog.Solo leasedValidation leasedState log (.ok (.authorized "tank" issuedId "Roadex" none false "owner")) s' ∧
    (leasedState.accounts.get? "tank").map (·.allowedProjects) = some ["Roadex"] ∧
    (leasedState.tokens.get? issuedId).map (·.leaseId) = some (some "lease-1") ∧
    ∃ now : ℤ, (⟨RemoteQuery.clock,now⟩ : Σ q, RemoteAnswer q) ∈ log ∧ Contained leasedState now "/Roadex" "tank" issuedId "Roadex" := by
  have hnone : ∀ id, ({} : ControlState).tokens.get? id = none := fun _ => rfl
  have h₀ : Within {} := by
    refine ⟨Dict.Filed.empty _,fun id token hget _ => ?_⟩
    rw [hnone] at hget
    cases hget
  obtain ⟨log,hsolo,-⟩ := Prog.perform_solo plainAnswers leasedValidation leasedState
  have hreply : (leasedValidation.perform plainAnswers leasedState).1 = .ok (.authorized "tank" issuedId "Roadex" none false "owner") := by
    decide +kernel
  rw [hreply] at hsolo
  exact ⟨_,log,hsolo,by decide +kernel,by decide +kernel,tokens_contained plainHost h₀ leasedState_sequence hsolo⟩

/-- An account for one project is given a token for another one, and a validation authorizes it. -/
theorem token_beyond_account : ∃ s s' log r, Sequence plainHost (fun _ _ _ => True) {} s ∧
    Prog.Solo plainValidation s log r s' ∧ ¬ AuthorizesWithin s log "/Overseer" r := by
  have hstep : ∀ {s : ControlState} (call : RemoteCall), Sequence plainHost (fun _ _ _ => True) {} s →
      Sequence plainHost (fun _ _ _ => True) {} (afterCall s call) := by
    intro s call hs
    obtain ⟨log,hsolo,-⟩ := Prog.perform_solo plainAnswers (call.program plainHost) s
    exact .snoc hs trivial hsolo
  obtain ⟨log,hsolo,-⟩ := Prog.perform_solo plainAnswers plainValidation
    (afterCall (afterCall {} narrowAccount) wideToken)
  refine ⟨_,_,log,_,hstep wideToken (hstep narrowAccount .nil),hsolo,?_⟩
  have hreply : (plainValidation.perform plainAnswers (afterCall (afterCall {} narrowAccount) wideToken)).1 =
      .ok (.authorized "tank" issuedId "Overseer" none false "owner") := by decide +kernel
  rw [hreply]
  rintro ⟨now,-,⟨account,haccount,-,hproject,-⟩,-⟩
  have hstored : (afterCall (afterCall {} narrowAccount) wideToken).accounts.get? "tank" = some account →
      account.allowedProjects = ["Roadex"] := by
    have hprojects : ((afterCall (afterCall {} narrowAccount) wideToken).accounts.get? "tank").map (·.allowedProjects) =
        some ["Roadex"] := by decide +kernel
    intro h
    rw [h] at hprojects
    exact Option.some.inj hprojects
  rw [hstored haccount] at hproject
  revert hproject
  decide

end Overseer.Remote
