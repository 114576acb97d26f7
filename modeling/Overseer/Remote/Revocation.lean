import Overseer.Remote.Control
import Overseer.Library.Continued
import Overseer.Library.Schedule

/-! # Revocations and disabled accounts under concurrent requests

Every operation writes back the copy of the file it read, so a write that comes between can be
undone. As long as each write finds the file as the operation last read or wrote it, a revoked
token stays revoked and a disabled account disabled.
-/
namespace Overseer.Remote
open Overseer.Library

inductive RemoteCall where
  | account (call : AccountCall)
  | profile (profileId : String)
  | lease (call : LeaseCall)
  | job (call : JobCall)
  | token (call : TokenCall)
  | revoke (tokenId : String)
  | validate (rawToken : String) (request : Request)

def RemoteCall.program (host : RemoteHost) : RemoteCall → RemoteProg Reply
  | .account call => recordRemoteTestingAccountStatus call
  | .profile profileId => recordRemoteTestingProfileStatus profileId
  | .lease call => requestRemoteTestingLeaseStatus call
  | .job call => enqueueRemoteTestJobStatus host call
  | .token call => issueRemoteTestingTokenStatus host call
  | .revoke tokenId => revokeRemoteTestingTokenStatus tokenId
  | .validate rawToken request => validateRemoteTestingToken host rawToken request

def remoteSystem (host : RemoteHost) (guard : ControlState → Held → ControlState → Prop) :
    System ControlState Held RemoteAnswer RemoteError Reply where
  start p := ∃ call : RemoteCall, p = call.program host
  valid _ _ _ := True
  guard := guard

/-- A write that changes the file finds it as the operation last read or wrote it, and an issue
finds the id it has drawn unused. -/
structure Undisturbed (s : ControlState) (held : Held) (s' : ControlState) : Prop where
  copy : s' ≠ s → ∀ c, held.copy = some c → withDefaultProfile s = c
  fresh : ∀ id, held.issuing = some id → s.tokens.get? id = none

def TokenRevoked (id : String) (s : ControlState) : Prop := ∃ token, s.tokens.get? id = some token ∧ token.status = .revoked
def TokenActive (id : String) (s : ControlState) : Prop := ∃ token, s.tokens.get? id = some token ∧ token.status = .active
def AccountDisabled (id : String) (s : ControlState) : Prop := ∃ account, s.accounts.get? id = some account ∧ account.enabled = false

/-- What one write of the file does: tokens stay under their ids, a revoked one stays revoked,
and a disabled account stays disabled unless the write records it. -/
structure Lasting (recording : Option String) (s s' : ControlState) : Prop where
  filed : s.tokens.Filed (·.tokenId) → s'.tokens.Filed (·.tokenId)
  revoked : ∀ id, TokenRevoked id s → TokenRevoked id s'
  disabled : ∀ id, recording ≠ some id → AccountDisabled id s → AccountDisabled id s'

variable {host : RemoteHost} {recording : Option String} {s s' : ControlState}

theorem TokenRevoked.not_active {id : String} (h : TokenRevoked id s) : ¬ TokenActive id s := by
  rintro ⟨token,htoken,hactive⟩
  obtain ⟨token',htoken',hrevoked⟩ := h
  rw [htoken] at htoken'
  cases htoken'
  rw [hactive] at hrevoked
  cases hrevoked

@[simp] theorem withDefaultProfile_tokens (s : ControlState) : (withDefaultProfile s).tokens = s.tokens := by
  unfold withDefaultProfile
  split <;> rfl

@[simp] theorem withDefaultProfile_accounts (s : ControlState) : (withDefaultProfile s).accounts = s.accounts := by
  unfold withDefaultProfile
  split <;> rfl

theorem Lasting.of_eq (htokens : s'.tokens = s.tokens) (haccounts : s'.accounts = s.accounts) : Lasting recording s s' := by
  constructor
  · rw [htokens]
    exact id
  · simp only [TokenRevoked,htokens]
    exact fun _ h => h
  · simp only [AccountDisabled,haccounts]
    exact fun _ _ h => h

theorem Lasting.trans_of_eq {s₀ : ControlState} (h : Lasting recording s s') (htokens : s₀.tokens = s.tokens)
    (haccounts : s₀.accounts = s.accounts) : Lasting recording s₀ s' := by
  constructor
  · rw [htokens]
    exact h.filed
  · simpa only [TokenRevoked,htokens] using h.revoked
  · simpa only [AccountDisabled,haccounts] using h.disabled

theorem lasting_setAccount (s : ControlState) (account : Account) :
    Lasting (some account.accountId) s (s.setAccount account) := by
  refine ⟨id,fun _ h => h,fun id hid h => ?_⟩
  obtain ⟨a,ha,hdisabled⟩ := h
  have hne : id ≠ account.accountId := fun h => hid (by rw [h])
  exact ⟨a,by simpa [ControlState.setAccount,hne] using ha,hdisabled⟩

theorem lasting_setToken {id : String} {token : TestToken} (hid : token.tokenId = id)
    (h : token.status = .revoked ∨ ¬ TokenRevoked id s) :
    Lasting recording s { s with tokens := s.tokens.set id token } := by
  constructor
  · intro hfiled
    have hset := Dict.Filed.set hfiled token
    rwa [hid] at hset
  · rintro id' ⟨token',htoken',hrevoked⟩
    by_cases heq : id' = id
    · subst heq
      rcases h with h | h
      · exact ⟨token,by simp,h⟩
      · exact absurd ⟨token',htoken',hrevoked⟩ h
    · exact ⟨token',by simpa [heq] using htoken',hrevoked⟩
  · exact fun _ _ h => h

theorem lasting_disable {account : Account} {id : String} :
    Lasting recording s { s with accounts := s.accounts.set id { account with enabled := false } } := by
  refine ⟨fun h => h,fun _ h => h,fun id' _ h => ?_⟩
  obtain ⟨a,ha,hdisabled⟩ := h
  by_cases heq : id' = id
  · exact ⟨{ account with enabled := false },by simp [heq],rfl⟩
  · exact ⟨a,by simpa [heq] using ha,hdisabled⟩

theorem Lasting.trans {s'' : ControlState} (h : Lasting recording s s') (h' : Lasting recording s' s'') :
    Lasting recording s s'' where
  filed hs := h'.filed (h.filed hs)
  revoked id hs := h'.revoked id (h.revoked id hs)
  disabled id hid hs := h'.disabled id hid (h.disabled id hid hs)

theorem lasting_authDenied (accountId tokenId : Option String) (reason : String) :
    Lasting recording s (authDenied s accountId tokenId reason).2 := by
  have hself : Lasting recording s s := .of_eq rfl rfl
  simp only [authDenied]
  cases given accountId with
  | none => exact hself
  | some id =>
    cases haccount : s.accounts.get? id with
    | none => simpa [haccount] using hself
    | some account =>
      simp only [haccount]
      split
      · exact lasting_disable
      · exact hself

/-! ### A validation -/

theorem grantWithHash_get {tokenHash : String} {grant : TestToken} (hfiled : s.tokens.Filed (·.tokenId))
    (h : grantWithHash s tokenHash = some grant) : s.tokens.get? grant.tokenId = some grant := by
  obtain ⟨id,-,hfound⟩ := List.exists_of_findSome?_eq_some h
  have hget : s.tokens.get? id = some grant := (Option.filter_eq_some_iff.mp hfound).1
  have hid : grant.tokenId = id := hfiled id grant hget
  rwa [hid]

/-- What it takes to be authorized. -/
structure Authorized (host : RemoteHost) (s : ControlState) (rawToken : String) (request : Request) (now : ℤ) (grant : TestToken)
    (account : Account) : Prop where
  found : grantWithHash s ("sha256:" ++ host.sha256 rawToken) = some grant
  registered : s.accounts.get? grant.accountId = some account
  enabled : account.enabled = true
  active : grant.status = .active
  unexpired : now < grant.expiresAt
  path : pathMatchesServiceScope request.rawPath grant.servicePaths = true

/-- A validation denies, on the file as it is or with the grant marked as expired, or it authorizes
and leaves the file alone. -/
theorem validated_cases {rawToken : String} {request : Request} {now : ℤ} {reply : Reply}
    (h : validated host s rawToken request now = .ok (reply,s')) :
    (∃ c accountId tokenId reason, (c = s ∨ ∃ grant, grantWithHash s ("sha256:" ++ host.sha256 rawToken) = some grant ∧
        grant.status = .active ∧ c = s.setToken { grant with status := .expired }) ∧
      reply = .denied accountId tokenId reason ∧ s' = (authDenied c accountId tokenId reason).2) ∨
    ∃ grant account, Authorized host s rawToken request now grant account ∧ s' = s ∧
      reply = .authorized grant.accountId grant.tokenId grant.project grant.threadId grant.mutates account.gatewayPrincipal := by
  have hdenied : ∀ {c : ControlState} {accountId tokenId : Option String} {reason : String},
      (pure (authDenied c accountId tokenId reason) : Except RemoteError (Reply × ControlState)) = .ok (reply,s') →
      reply = .denied accountId tokenId reason ∧ s' = (authDenied c accountId tokenId reason).2 := by
    intro c accountId tokenId reason h
    have hpair : authDenied c accountId tokenId reason = (reply,s') := Except.ok.inj h
    rw [hpair]
    rw [authDenied,Prod.mk.injEq] at hpair
    exact ⟨hpair.1.symm,rfl⟩
  simp only [validated] at h
  cases hgrant : grantWithHash s ("sha256:" ++ host.sha256 rawToken) with
  | none =>
    rw [hgrant] at h
    exact .inl ⟨s,_,_,_,.inl rfl,hdenied h⟩
  | some grant =>
    simp only [hgrant] at h
    cases haccount : (s.accounts.get? grant.accountId).filter (·.enabled) with
    | none =>
      rw [haccount] at h
      exact .inl ⟨s,_,_,_,.inl rfl,hdenied h⟩
    | some account =>
      obtain ⟨hstored,henabled⟩ := Option.filter_eq_some_iff.mp haccount
      simp only [haccount] at h
      by_cases hactive : grant.status = .active
      · rw [if_neg (not_not.mpr hactive)] at h
        by_cases hexpired : grant.expiresAt ≤ now
        · rw [if_pos hexpired] at h
          exact .inl ⟨_,_,_,_,.inr ⟨grant,rfl,hactive,rfl⟩,hdenied h⟩
        · rw [if_neg hexpired] at h
          cases hscope : scopeViolation host grant request with
          | error e =>
            rw [hscope] at h
            cases h
          | ok violation =>
            rw [hscope] at h
            cases violation with
            | some reason => exact .inl ⟨s,_,_,_,.inl rfl,hdenied h⟩
            | none =>
              cases h
              have hpath : pathMatchesServiceScope request.rawPath grant.servicePaths = true := by
                by_contra hno
                rw [Bool.not_eq_true] at hno
                simp only [scopeViolation,hno] at hscope
                split at hscope
                · cases hscope
                · split at hscope <;> cases hscope
              exact .inr ⟨grant,account,⟨hgrant,hstored,henabled,hactive,not_le.mp hexpired,hpath⟩,rfl,rfl⟩
      · rw [if_pos hactive] at h
        exact .inl ⟨s,_,_,_,.inl rfl,hdenied h⟩

theorem lasting_validated {rawToken : String} {request : Request} {now : ℤ} {reply : Reply} (hfiled : s.tokens.Filed (·.tokenId))
    (h : validated host s rawToken request now = .ok (reply,s')) : Lasting recording s s' := by
  rcases validated_cases h with ⟨c,accountId,tokenId,reason,hc,-,rfl⟩ | ⟨grant,account,-,rfl,-⟩
  · have hlast : Lasting recording s c := by
      rcases hc with rfl | ⟨grant,hgrant,hactive,rfl⟩
      · exact .of_eq rfl rfl
      · have hget := grantWithHash_get hfiled hgrant
        exact lasting_setToken rfl (.inr fun hr => hr.not_active ⟨grant,hget,hactive⟩)
    exact hlast.trans (lasting_authDenied _ _ _)
  · exact .of_eq rfl rfl

def Reply.revokes (id : String) : Reply → Prop
  | .revoked tokenId => tokenId = id
  | _ => False

def Reply.authorizes (id : String) : Reply → Prop
  | .authorized _ tokenId .. => tokenId = id
  | _ => False

theorem validated_reply {rawToken : String} {request : Request} {now : ℤ} {reply : Reply} (id : String)
    (h : validated host s rawToken request now = .ok (reply,s')) : ¬ reply.revokes id := by
  rcases validated_cases h with ⟨_,_,_,_,-,rfl,-⟩ | ⟨_,_,-,-,rfl⟩
  · exact fun h => h
  · exact fun h => h

/-! ### Every operation -/

/-- What every write of every operation does, whatever the file holds by then. -/
def Write (s : ControlState) (held : Held) (s' : ControlState) : Prop :=
  Undisturbed s held s' → s.tokens.Filed (·.tokenId) → Lasting held.recording s s'

instance : Prog.Idle Write := ⟨fun _ _ _ _ => .of_eq rfl rfl⟩

theorem steps_saveControlState {held : Held} {c : ControlState} (hc : held.copy = some c)
    (h : c.tokens.Filed (·.tokenId) → (∀ id, held.issuing = some id → c.tokens.get? id = none) → Lasting held.recording c s') :
    (saveControlState held s').Steps Write := by
  refine Prog.steps_transaction fun s hu hfiled => ?_
  change Lasting held.recording s s'
  by_cases hsame : s' = s
  · rw [hsame]
    exact .of_eq rfl rfl
  · have hcopy := hu.copy hsame c hc
    have hlast := h (by rw [← hcopy]; simpa using hfiled) fun id hid => by rw [← hcopy]; simpa using hu.fresh id hid
    exact hlast.trans_of_eq (by rw [← hcopy]; simp) (by rw [← hcopy]; simp)

theorem steps_liftExcept_bind {α β : Type} {r : Except RemoteError α} {f : α → RemoteProg β}
    (h : ∀ a, r = .ok a → (f a).Steps Write) : (liftExcept r >>= f).Steps Write := by
  cases r with
  | error e =>
    rw [liftExcept_error]
    trivial
  | ok a =>
    rw [liftExcept_ok]
    exact h a rfl

theorem steps_orRaise_bind {α β : Type} {o : Option α} {e : RemoteError} {f : α → RemoteProg β}
    (h : ∀ a, o = some a → (f a).Steps Write) : (orRaise o e >>= f).Steps Write := by
  cases o with
  | none => trivial
  | some a => exact h a rfl

theorem steps_loadControlState : loadControlState.Steps Write := Prog.steps_read _

theorem steps_recordAccount (call : AccountCall) : (recordRemoteTestingAccountStatus call).Steps Write := by
  refine Prog.steps_bind (Prog.steps_require _ _) fun _ => Prog.steps_bind steps_loadControlState fun state => ?_
  refine steps_liftExcept_bind fun account _ => ?_
  refine Prog.steps_bind (steps_saveControlState rfl fun _ _ => lasting_setAccount state account) fun _ => ?_
  exact Prog.steps_bind (steps_saveControlState rfl fun _ _ => .of_eq rfl rfl) fun _ => Prog.steps_pure _

theorem steps_issueFrom (call : TokenCall) (state : ControlState) : (issueFrom host call state).Steps Write := by
  refine steps_liftExcept_bind fun _ _ => Prog.steps_bind (Prog.steps_ask _) fun checkedAt => ?_
  refine steps_liftExcept_bind fun _ _ => steps_liftExcept_bind fun _ _ => ?_
  refine Prog.steps_bind (Prog.steps_ask _) fun namedAt => Prog.steps_bind (Prog.steps_ask _) fun drawn => ?_
  refine Prog.steps_bind (Prog.steps_ask _) fun now => steps_liftExcept_bind fun grant _ => ?_
  refine Prog.steps_bind (steps_saveControlState rfl fun _ hfresh => ?_) fun _ => Prog.steps_pure _
  have hnew : ¬ TokenRevoked grant.tokenId state := by
    rintro ⟨token,htoken,-⟩
    rw [hfresh _ rfl] at htoken
    cases htoken
  exact lasting_setToken rfl (.inr hnew)

theorem steps_accountRegistered (accountId : String) : (accountRegistered accountId).Steps Write := by
  refine Prog.steps_bind steps_loadControlState fun state => ?_
  split
  · exact Prog.steps_pure _
  · exact Prog.steps_bind (steps_recordAccount _) fun _ => steps_loadControlState

theorem steps_program (host : RemoteHost) (call : RemoteCall) : (call.program host).Steps Write := by
  cases call with
  | account call => exact steps_recordAccount call
  | profile profileId =>
    refine Prog.steps_bind steps_loadControlState fun state => steps_liftExcept_bind fun profileId _ => ?_
    exact Prog.steps_bind (steps_saveControlState rfl fun _ _ => .of_eq rfl rfl) fun _ => Prog.steps_pure _
  | lease call =>
    refine Prog.steps_bind (Prog.steps_require _ _) fun _ => Prog.steps_bind (Prog.steps_require _ _) fun _ => ?_
    refine Prog.steps_bind steps_loadControlState fun state => Prog.steps_bind (Prog.steps_ask _) fun now => ?_
    refine steps_liftExcept_bind fun lease _ => ?_
    exact Prog.steps_bind (steps_saveControlState rfl fun _ _ => .of_eq rfl rfl) fun _ => Prog.steps_pure _
  | job call =>
    refine Prog.steps_bind (Prog.steps_require _ _) fun _ => steps_liftExcept_bind fun _ _ => ?_
    refine Prog.steps_bind steps_loadControlState fun state => Prog.steps_bind (Prog.steps_ask _) fun now => ?_
    refine steps_liftExcept_bind fun lease _ => Prog.steps_bind (Prog.steps_ask _) fun createdAt => ?_
    exact Prog.steps_bind (steps_saveControlState rfl fun _ _ => .of_eq rfl rfl) fun _ => Prog.steps_pure _
  | token call =>
    refine Prog.steps_bind (Prog.steps_require _ _) fun _ => ?_
    exact Prog.steps_bind (steps_accountRegistered _) fun state => steps_issueFrom call state
  | revoke tokenId =>
    refine Prog.steps_bind steps_loadControlState fun state => steps_orRaise_bind fun grant hgrant => ?_
    refine Prog.steps_bind (steps_saveControlState rfl fun hfiled _ => ?_) fun _ => Prog.steps_pure _
    exact lasting_setToken (hfiled tokenId grant hgrant) (.inl rfl)
  | validate rawToken request =>
    change (validateRemoteTestingToken host rawToken request).Steps Write
    unfold validateRemoteTestingToken
    split
    · exact Prog.steps_pure _
    · refine Prog.steps_bind steps_loadControlState fun state => Prog.steps_bind (Prog.steps_ask _) fun now => ?_
      refine steps_liftExcept_bind fun r hr => ?_
      refine Prog.steps_bind (steps_saveControlState rfl fun hfiled _ => ?_) fun _ => Prog.steps_pure _
      exact lasting_validated hfiled hr

/-! ### What an operation may answer -/

/-- The discipline of undisturbed writes. -/
def revocationDiscipline (host : RemoteHost) : Discipline ControlState Held RemoteAnswer RemoteError Reply where
  sys := remoteSystem host Undisturbed
  ok s := s.tokens.Filed (·.tokenId)
  step s s' := ∀ id, TokenRevoked id s → TokenRevoked id s'
  idle _ _ h := h

variable {u : ControlState} {id : String}

theorem after_revoked (h : (revocationDiscipline host).After u s) (hu : TokenRevoked id u) : TokenRevoked id s :=
  h.lift (L := fun s s' => ∀ id, TokenRevoked id s → TokenRevoked id s') (fun _ _ h => h) (fun _ _ _ h h' id hs => h' id (h id hs))
    (fun _ _ _ h => h) id hu

theorem write_disciplined (s : ControlState) (held : Held) (s' : ControlState) (hok : (revocationDiscipline host).ok s)
    (hg : (revocationDiscipline host).sys.guard s held s') (h : Write s held s') :
    (revocationDiscipline host).step s s' ∧ (revocationDiscipline host).ok s' :=
  ⟨(h hg hok).revoked,(h hg hok).filed hok⟩

/-- Only a revocation answers that it has revoked, only a validation that it authorizes. -/
theorem returns_program (call : RemoteCall) : (call.program host).Returns fun reply =>
    (∀ id, reply.revokes id → ∃ tokenId, call = .revoke tokenId) ∧
      ∀ id, reply.authorizes id → ∃ rawToken request, call = .validate rawToken request := by
  have hbind : ∀ {α β : Type} {Ret : β → Prop} (p : RemoteProg α) (f : α → RemoteProg β), (∀ a, (f a).Returns Ret) →
      (p >>= f).Returns Ret := fun p f hf => Prog.Returns.bind (Prog.returns_true p) fun a _ => hf a
  cases call with
  | account call =>
    refine hbind _ _ fun _ => hbind _ _ fun _ => hbind _ _ fun _ => hbind _ _ fun _ => hbind _ _ fun _ => ?_
    exact ⟨fun _ h => h.elim,fun _ h => h.elim⟩
  | profile profileId =>
    refine hbind _ _ fun _ => hbind _ _ fun _ => hbind _ _ fun _ => ?_
    exact ⟨fun _ h => h.elim,fun _ h => h.elim⟩
  | lease call =>
    refine hbind _ _ fun _ => hbind _ _ fun _ => hbind _ _ fun _ => hbind _ _ fun _ => hbind _ _ fun _ => hbind _ _ fun _ => ?_
    exact ⟨fun _ h => h.elim,fun _ h => h.elim⟩
  | job call =>
    refine hbind _ _ fun _ => hbind _ _ fun _ => hbind _ _ fun _ => hbind _ _ fun _ => hbind _ _ fun _ => hbind _ _ fun _ =>
      hbind _ _ fun _ => ?_
    exact ⟨fun _ h => h.elim,fun _ h => h.elim⟩
  | token call =>
    refine hbind _ _ fun _ => hbind _ _ fun _ => hbind _ _ fun _ => hbind _ _ fun _ => hbind _ _ fun _ => hbind _ _ fun _ =>
      hbind _ _ fun _ => hbind _ _ fun _ => hbind _ _ fun _ => hbind _ _ fun _ => hbind _ _ fun _ => ?_
    exact ⟨fun _ h => h.elim,fun _ h => h.elim⟩
  | revoke tokenId =>
    refine hbind _ _ fun _ => hbind _ _ fun _ => hbind _ _ fun _ => ?_
    exact ⟨fun _ _ => ⟨tokenId,rfl⟩,fun _ h => h.elim⟩
  | validate rawToken request =>
    change (validateRemoteTestingToken host rawToken request).Returns _
    unfold validateRemoteTestingToken
    split
    · exact ⟨fun _ h => h.elim,fun _ h => h.elim⟩
    · refine hbind _ _ fun state => hbind _ _ fun now => ?_
      cases hvalidated : validated host state rawToken request now with
      | error e =>
        rw [liftExcept_error]
        trivial
      | ok r =>
        rw [liftExcept_ok]
        refine hbind (saveControlState { copy := some state } r.2) (fun _ => pure r.1) fun _ => ?_
        exact ⟨fun id h => absurd h (validated_reply id hvalidated),fun _ _ => ⟨rawToken,request,rfl⟩⟩

theorem from_revokes (call : RemoteCall) :
    (revocationDiscipline host).From (fun reply s => ∀ id, reply.revokes id → TokenRevoked id s) (call.program host) u := by
  have hsteps := Discipline.from_of_steps (u := u) (D := revocationDiscipline host) (steps_program host call) (returns_program call)
    write_disciplined
  cases call with
  | revoke tokenId =>
    refine Discipline.from_read_bind fun s _ hok => Discipline.from_orRaise_bind fun grant hgrant => ?_
    refine Discipline.from_bind (M := fun _ s => TokenRevoked tokenId s) ?_ ?_
    · refine Discipline.from_transaction fun s₁ _ hok₁ _ s₂ hrun hg => ?_
      cases hrun
      have hsave : (saveControlState { copy := some (withDefaultProfile s) } { withDefaultProfile s with
          tokens := (withDefaultProfile s).tokens.set tokenId { grant with status := .revoked } }).Steps Write :=
        steps_saveControlState rfl fun hfiled _ => lasting_setToken (hfiled tokenId grant hgrant) (.inl rfl)
      obtain ⟨hstep,hok₂⟩ := write_disciplined s₁ _ _ hok₁ hg (hsave.1 s₁)
      exact ⟨hstep,hok₂,{ grant with status := .revoked },by simp,rfl⟩
    · rintro - u' - hrevoked id rfl
      exact hrevoked
  | account call => exact hsteps.mono fun reply _ _ h id hr => nomatch (h.1 id hr).choose_spec
  | profile profileId => exact hsteps.mono fun reply _ _ h id hr => nomatch (h.1 id hr).choose_spec
  | lease call => exact hsteps.mono fun reply _ _ h id hr => nomatch (h.1 id hr).choose_spec
  | job call => exact hsteps.mono fun reply _ _ h id hr => nomatch (h.1 id hr).choose_spec
  | token call => exact hsteps.mono fun reply _ _ h id hr => nomatch (h.1 id hr).choose_spec
  | validate rawToken request => exact hsteps.mono fun reply _ _ h id hr => nomatch (h.1 id hr).choose_spec

/-- A validation begun when a token is revoked does not authorize it. -/
theorem from_authorizes (call : RemoteCall) (hu : TokenRevoked id u) :
    (revocationDiscipline host).From (fun reply _ => ¬ reply.authorizes id) (call.program host) u := by
  have hsteps := Discipline.from_of_steps (u := u) (D := revocationDiscipline host) (steps_program host call) (returns_program call)
    write_disciplined
  cases call with
  | validate rawToken request =>
    change (revocationDiscipline host).From _ (validateRemoteTestingToken host rawToken request) u
    unfold validateRemoteTestingToken
    split
    · exact fun h => h
    · refine Discipline.from_read_bind fun s hs hok => Discipline.from_ask_bind fun now => ?_
      have hrevoked : TokenRevoked id (withDefaultProfile s) := by
        simpa [TokenRevoked] using after_revoked hs hu
      have hfiled : (withDefaultProfile s).tokens.Filed (·.tokenId) := by
        have hok' : s.tokens.Filed (·.tokenId) := hok
        simpa using hok'
      cases hvalidated : validated host (withDefaultProfile s) rawToken request now with
      | error e =>
        rw [liftExcept_error]
        trivial
      | ok r =>
        rw [liftExcept_ok]
        obtain ⟨reply,s'⟩ := r
        have hlast : Lasting none _ s' := lasting_validated hfiled hvalidated
        have hreply : ¬ reply.authorizes id := by
          rcases validated_cases hvalidated with ⟨_,_,_,_,-,rfl,-⟩ | ⟨grant,account,hauthorized,-,rfl⟩
          · exact fun h => h
          · rintro rfl
            exact hrevoked.not_active ⟨grant,grantWithHash_get hfiled hauthorized.found,hauthorized.active⟩
        change (revocationDiscipline host).From _
          (saveControlState { copy := some (withDefaultProfile s) } s' >>= fun _ => pure reply) s
        refine Discipline.from_of_steps ?_ (Prog.Returns.bind (Prog.returns_true _) fun _ _ => hreply) write_disciplined
        exact Prog.steps_bind (steps_saveControlState rfl fun _ _ => hlast) fun _ => Prog.steps_pure _
  | account call => exact hsteps.mono fun reply _ _ h hr => by obtain ⟨_,_,hcall⟩ := h.2 id hr; cases hcall
  | profile profileId => exact hsteps.mono fun reply _ _ h hr => by obtain ⟨_,_,hcall⟩ := h.2 id hr; cases hcall
  | lease call => exact hsteps.mono fun reply _ _ h hr => by obtain ⟨_,_,hcall⟩ := h.2 id hr; cases hcall
  | job call => exact hsteps.mono fun reply _ _ h hr => by obtain ⟨_,_,hcall⟩ := h.2 id hr; cases hcall
  | token call => exact hsteps.mono fun reply _ _ h hr => by obtain ⟨_,_,hcall⟩ := h.2 id hr; cases hcall
  | revoke tokenId => exact hsteps.mono fun reply _ _ h hr => by obtain ⟨_,_,hcall⟩ := h.2 id hr; cases hcall

/-! ### Runs -/

/-- Undisturbed writes none of which records the account. -/
def NotRecording (accountId : String) (s : ControlState) (held : Held) (s' : ControlState) : Prop :=
  Undisturbed s held s' ∧ held.recording ≠ some accountId

/-- From a file whose tokens lie under their ids, in every run whose writes find the file as their
operation last read or wrote it: once a revocation has answered, the token stays revoked and no
validation started later authorizes it; and a disabled account stays disabled as long as it is
not recorded again. -/
theorem revocation_survives (host : RemoteHost) {s₀ : ControlState} (h₀ : s₀.tokens.Filed (·.tokenId))
    {w w' : World ControlState Held RemoteAnswer RemoteError Reply}
    (hw : World.Reachable (remoteSystem host Undisturbed) (World.init s₀) w) :
    (∀ (i : ℕ) (id : String), w.threads[i]? = some (Prog.ret (Reply.revoked id)) → World.Reachable (remoteSystem host Undisturbed) w w' →
      TokenRevoked id w'.trace.store ∧
      ∀ (j : ℕ) (reply : Reply), w.threads.length ≤ j → w'.threads[j]? = some (Prog.ret reply) → ¬ reply.authorizes id) ∧
    ∀ accountId, AccountDisabled accountId w.trace.store →
      World.Reachable (remoteSystem host (NotRecording accountId)) w w' → AccountDisabled accountId w'.trace.store := by
  have hstart : ∀ p, (remoteSystem host Undisturbed).start p → p.Steps Write := by
    rintro p ⟨call,rfl⟩
    exact steps_program host call
  obtain ⟨hfiled,hthreads⟩ := hw.along hstart (fun s held s' (hs : s.tokens.Filed (·.tokenId)) hg h => (h hg hs).filed hs)
    (fun p hp => by simp [World.init] at hp) h₀
  constructor
  · intro i id hi hrun
    have hrevokes : ∀ p, (remoteSystem host Undisturbed).start p → ∀ u, (revocationDiscipline host).After s₀ u →
        (revocationDiscipline host).ok u →
        (revocationDiscipline host).From (fun reply s => ∀ id, reply.revokes id → TokenRevoked id s) p u := by
      rintro p ⟨call,rfl⟩ u _ _
      exact from_revokes call
    obtain ⟨-,-,hreplies⟩ := World.Reachable.since (revocationDiscipline host) (w := World.init s₀) hrevokes h₀ (fun p hp => by simp [World.init] at hp) hw
    obtain ⟨u,hu,hret⟩ := hreplies i _ (Nat.zero_le _) hi
    have hrevoked : TokenRevoked id w.trace.store := after_revoked hu (hret id rfl)
    have hold : ∀ p ∈ w.threads, ∃ u, (revocationDiscipline host).After u w.trace.store ∧
        (revocationDiscipline host).From (fun _ _ => True) p u := fun p hp =>
      ⟨_,.refl _,Discipline.from_of_steps (hthreads p hp) (Prog.returns_true p) write_disciplined⟩
    have hrefuses : ∀ p, (remoteSystem host Undisturbed).start p → ∀ u, (revocationDiscipline host).After w.trace.store u →
        (revocationDiscipline host).ok u → (revocationDiscipline host).From (fun reply _ => ¬ reply.authorizes id) p u := by
      rintro p ⟨call,rfl⟩ u hu _
      exact from_authorizes call (after_revoked hu hrevoked)
    obtain ⟨⟨-,hafter⟩,-,hlate⟩ := World.Reachable.since (revocationDiscipline host) hrefuses hfiled hold hrun
    refine ⟨after_revoked hafter hrevoked,fun j reply hj hreply => ?_⟩
    obtain ⟨_,_,hnot⟩ := hlate j _ hj hreply
    exact hnot
  · intro accountId hdisabled hrun
    have hkept : ∀ s held s', s.tokens.Filed (·.tokenId) ∧ AccountDisabled accountId s →
        (remoteSystem host (NotRecording accountId)).guard s held s' → Write s held s' →
        s'.tokens.Filed (·.tokenId) ∧ AccountDisabled accountId s' := by
      rintro s held s' ⟨hs,hd⟩ ⟨hg,hnot⟩ h
      exact ⟨(h hg hs).filed hs,(h hg hs).disabled accountId hnot hd⟩
    have hwriters : ∀ p, (remoteSystem host (NotRecording accountId)).start p → p.Steps Write := hstart
    exact (World.Reachable.along hwriters hkept hthreads ⟨hfiled,hdisabled⟩ hrun).1.2

/-! ### Concrete runs -/

def plainHost : RemoteHost where
  sha256 text := text
  strftime _ := "20260101T000000Z"
  upper text := text
  lower text := text
  isWord c := c.isAlphanum

/-- Every clock reads zero, and every draw gives the same text. -/
def plainAnswers : (q : RemoteQuery) → RemoteAnswer q
  | .clock => (0 : ℤ)
  | .drawn => ("aa","raw")

def issuedId : String := "rtt.tank.20260101T000000Z.aa"

def startCall (call : RemoteCall) : Move ControlState Held RemoteAnswer RemoteError Reply := .start (call.program plainHost)

def validation : RemoteCall := .validate "qrt_raw" ⟨"GET","/Overseer","/"⟩

theorem startCall_allowed (guard : ControlState → Held → ControlState → Prop) (call : RemoteCall) :
    ∀ mv ∈ [startCall call], mv.Allowed (remoteSystem plainHost guard) := World.allowed_start _ ⟨call,rfl⟩

/-- `Undisturbed`, decided. -/
def undisturbed (s : ControlState) (held : Held) (s' : ControlState) : Bool :=
  (s' = s || held.copy.all (withDefaultProfile s = ·)) && held.issuing.all fun id => (s.tokens.get? id).isNone

theorem undisturbed_spec (s : ControlState) (held : Held) (s' : ControlState) (h : undisturbed s held s' = true) :
    Undisturbed s held s' := by
  simp only [undisturbed,Bool.and_eq_true,Bool.or_eq_true,decide_eq_true_eq] at h
  obtain ⟨hcopy,hfresh⟩ := h
  constructor
  · intro hne c hc
    rcases hcopy with hsame | hcopy
    · exact absurd hsame hne
    · simpa [hc] using hcopy
  · intro id hid
    simpa [hid] using hfresh

/-- A token is issued and revoked. -/
def revokedInTurn : List (Move ControlState Held RemoteAnswer RemoteError Reply) :=
  [startCall (.token { accountId := "tank" })] ++ World.steps 0 10 plainAnswers ++ [startCall (.revoke issuedId)] ++
    World.steps 1 2 plainAnswers

/-- The answer of a validation that was denied. -/
def Reply.isDenied : Reply → Bool
  | .denied _ _ _ => true
  | _ => false

/-- The revocation has answered, and the validation that follows is denied. -/
def deniedAfter (w w' : World ControlState Held RemoteAnswer RemoteError Reply) : Bool :=
  (w.threads[1]?.bind Prog.result? = some (.revoked issuedId)) && w.threads.length ≤ 2 &&
    (w'.threads[2]?.bind Prog.result?).any Reply.isDenied

theorem revocation_survives_issued : ∃ w w', World.Reachable (remoteSystem plainHost Undisturbed) (World.init {}) w ∧
    World.Reachable (remoteSystem plainHost Undisturbed) w w' ∧ w.threads[1]? = some (Prog.ret (Reply.revoked issuedId)) ∧
    TokenRevoked issuedId w'.trace.store ∧ ∃ reply : Reply, w.threads.length ≤ 2 ∧ w'.threads[2]? = some (Prog.ret reply) ∧
      reply.isDenied = true ∧ ¬ reply.authorizes issuedId := by
  have hearly : ∀ mv ∈ revokedInTurn, mv.Allowed (remoteSystem plainHost Undisturbed) := by
    simp only [revokedInTurn,List.forall_mem_append]
    exact ⟨⟨⟨startCall_allowed _ _,World.allowed_steps _ _ _⟩,startCall_allowed _ _⟩,World.allowed_steps _ _ _⟩
  have hlate : ∀ mv ∈ [startCall validation] ++ World.steps 2 3 plainAnswers, mv.Allowed (remoteSystem plainHost Undisturbed) := by
    simp only [List.forall_mem_append]
    exact ⟨startCall_allowed _ _,World.allowed_steps _ _ _⟩
  obtain ⟨w,w',hw,hw',hcheck⟩ := World.exists_continued (World.init {}) revokedInTurn ([startCall validation] ++ World.steps 2 3 plainAnswers)
    deniedAfter (fun _ _ _ (_ : true = true) => trivial) undisturbed_spec hearly hlate (by decide +kernel)
  simp only [deniedAfter,Bool.and_eq_true,decide_eq_true_eq] at hcheck
  obtain ⟨⟨hrevoked,hlength⟩,hvalidated⟩ := hcheck
  obtain ⟨p,hp,hres⟩ := Option.bind_eq_some_iff.mp hrevoked
  rw [Prog.eq_ret hres] at hp
  obtain ⟨reply,hreply,hdenied⟩ := (Option.any_eq_true _ _).mp hvalidated
  obtain ⟨p',hp',hres'⟩ := Option.bind_eq_some_iff.mp hreply
  rw [Prog.eq_ret hres'] at hp'
  obtain ⟨hgone,hnever⟩ := (revocation_survives plainHost (Dict.Filed.empty _) hw).1 1 issuedId hp hw'
  exact ⟨w,w',hw,hw',hp,hgone,reply,hlength,hp',hdenied,hnever 2 reply hlength hp'⟩

/-- A token is issued; a validation has read the file when the token is revoked. -/
def revokedMeanwhile : List (Move ControlState Held RemoteAnswer RemoteError Reply) :=
  [startCall (.token { accountId := "tank" })] ++ World.steps 0 10 plainAnswers ++ [startCall validation] ++
    World.steps 1 1 plainAnswers ++ [startCall (.revoke issuedId)] ++ World.steps 2 2 plainAnswers

/-- That validation goes on, and another one follows. -/
def writtenBack : List (Move ControlState Held RemoteAnswer RemoteError Reply) :=
  World.steps 1 2 plainAnswers ++ [startCall validation] ++ World.steps 3 3 plainAnswers

def undone (w w' : World ControlState Held RemoteAnswer RemoteError Reply) : Bool :=
  (w.threads[2]?.bind Prog.result? = some (.revoked issuedId)) && w.threads.length ≤ 3 &&
    (w'.threads[3]?.bind Prog.result? = some (.authorized "tank" issuedId "Overseer" none false "owner")) &&
    ((w'.trace.store.tokens.get? issuedId).map (·.status) = some .active)

/-- The revocation has answered, the validation it overlapped writes its copy back, and the token
is active and authorizes again. -/
theorem revocation_undone : ∃ w w', World.Reachable (remoteSystem plainHost fun _ _ _ => True) (World.init {}) w ∧
    World.Reachable (remoteSystem plainHost fun _ _ _ => True) w w' ∧
    w.threads[2]? = some (Prog.ret (Reply.revoked issuedId)) ∧ ¬ TokenRevoked issuedId w'.trace.store ∧
    ∃ reply : Reply, w.threads.length ≤ 3 ∧ w'.threads[3]? = some (Prog.ret reply) ∧ reply.authorizes issuedId := by
  have hearly : ∀ mv ∈ revokedMeanwhile, mv.Allowed (remoteSystem plainHost fun _ _ _ => True) := by
    simp only [revokedMeanwhile,List.forall_mem_append]
    exact ⟨⟨⟨⟨⟨startCall_allowed _ _,World.allowed_steps _ _ _⟩,startCall_allowed _ _⟩,World.allowed_steps _ _ _⟩,
      startCall_allowed _ _⟩,World.allowed_steps _ _ _⟩
  have hlate : ∀ mv ∈ writtenBack, mv.Allowed (remoteSystem plainHost fun _ _ _ => True) := by
    simp only [writtenBack,List.forall_mem_append]
    exact ⟨⟨World.allowed_steps _ _ _,startCall_allowed _ _⟩,World.allowed_steps _ _ _⟩
  obtain ⟨w,w',hw,hw',hcheck⟩ := World.exists_continued (World.init {}) revokedMeanwhile writtenBack undone
    (fun _ _ _ (_ : true = true) => trivial) (fun _ _ _ (_ : true = true) => trivial) hearly hlate (by decide +kernel)
  simp only [undone,Bool.and_eq_true,decide_eq_true_eq] at hcheck
  obtain ⟨⟨⟨hrevoked,hlength⟩,hauthorized⟩,hactive⟩ := hcheck
  obtain ⟨p,hp,hres⟩ := Option.bind_eq_some_iff.mp hrevoked
  obtain ⟨p',hp',hres'⟩ := Option.bind_eq_some_iff.mp hauthorized
  rw [Prog.eq_ret hres] at hp
  rw [Prog.eq_ret hres'] at hp'
  refine ⟨w,w',hw,hw',hp,fun hr => hr.not_active ?_,_,hlength,hp',rfl⟩
  obtain ⟨token,htoken,hstatus⟩ := Option.map_eq_some_iff.mp hactive
  exact ⟨token,htoken,hstatus⟩

end Overseer.Remote
