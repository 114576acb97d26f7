import Overseer.Broker.Keys
import Overseer.Library.Discipline
import Overseer.Library.Schedule
import Overseer.Library.Fallible

/-! # Issuing keys under concurrent requests

What a provider allows is looked at when a token is requested, not when it is issued, and a grant
and the mark on its request are two saves. As long as the operations of one request find it as
they loaded it and providers are not narrowed under open requests, each request has one grant and
each grant is allowed when it is issued.
-/
namespace Overseer.Broker
open Overseer.Library Overseer.Core

def Allows (p : KeyProviderRecord) (subject : String) (scopes : List String) : Prop :=
  isAllowed subject p.allowedSubjects ∧ ∀ scope ∈ scopes, isAllowed scope p.allowedScopes

def KeyBrokerTokenRequest.IsOpen (r : KeyBrokerTokenRequest) : Prop := r.status = .pendingApproval ∨ r.status = .approved

/-- Of low risk, or approved by someone. -/
def KeyBrokerTokenRequest.Cleared (r : KeyBrokerTokenRequest) : Prop := r.riskLevel = .low ∨ r.approvedBy.isSome = true

/-- What the runs in question have of their saves. -/
structure Orderly (s : BrokerStore) (held : Held) (s' : BrokerStore) : Prop where
  /-- the request is stored as it was loaded -/
  request : ∀ r, held.request = some r → s.requests.get? r.id = some r
  /-- the provider a request was checked against is stored as it was loaded -/
  provider : ∀ p, held.provider = some p → s.providers.get? p.id = some p
  /-- a provider that is recorded allows what its open requests ask for -/
  recorded : ∀ p, held.recorded = some p → ∀ id r, s.requests.get? id = some r → r.IsOpen → r.providerId = p.id →
    Allows p r.subject r.requestedScopes
  /-- a new request has an unused id -/
  newRequest : ∀ r, held.newRequest = some r → s.requests.get? r.id = none
  /-- a new grant has an unused id, and an earlier grant of its request has been marked on it -/
  newGrant : ∀ g, held.newGrant = some g → s.grants.get? g.id = none ∧
    ∀ id g', s.grants.get? id = some g' → g'.requestId = g.requestId →
      ∃ r, s.requests.get? g.requestId = some r ∧ r.status = .issued

structure Ok (s : BrokerStore) : Prop where
  providers : s.providers.Filed (·.id)
  requests : s.requests.Filed (·.id)
  grants : s.grants.Filed (·.id)
  allowed : ∀ id r, s.requests.get? id = some r → r.IsOpen →
    ∃ p, s.providers.get? r.providerId = some p ∧ Allows p r.subject r.requestedScopes
  cleared : ∀ id r, s.requests.get? id = some r → r.status = .approved ∨ r.status = .issued → r.Cleared
  one : ∀ id id' g g', s.grants.get? id = some g → s.grants.get? id' = some g' → g.requestId = g'.requestId → id = id'

/-- A grant is issued: its request is approved or of low risk, and its provider allows it now. -/
def IssuesAllowed (s s' : BrokerStore) : Prop := ∀ id g, s'.grants.get? id = some g → s.grants.get? id = none →
  (∃ r, s.requests.get? g.requestId = some r ∧ r.status = .approved ∧ r.Cleared) ∧
    ∃ p, s.providers.get? g.providerId = some p ∧ Allows p g.subject g.scopes

/-- Every grant stays, for the request it was issued for. -/
def GrantsKept (s s' : BrokerStore) : Prop := ∀ id g, s.grants.get? id = some g →
  ∃ g', s'.grants.get? id = some g' ∧ g'.requestId = g.requestId

structure Change (s s' : BrokerStore) : Prop where
  kept : GrantsKept s s'
  issued : IssuesAllowed s s'

variable {host : BrokerHost} {s s' u : BrokerStore}

theorem GrantsKept.refl (s : BrokerStore) : GrantsKept s s := fun _ g hg => ⟨g,hg,rfl⟩

theorem GrantsKept.trans {s'' : BrokerStore} (h : GrantsKept s s') (h' : GrantsKept s' s'') : GrantsKept s s'' := by
  intro id g hg
  obtain ⟨g',hg',hsame⟩ := h id g hg
  obtain ⟨g'',hg'',hsame'⟩ := h' id g' hg'
  exact ⟨g'',hg'',hsame'.trans hsame⟩

theorem Change.of_grants (h : s'.grants = s.grants) : Change s s' := by
  constructor
  · intro id g hg
    exact ⟨g,by rw [h]; exact hg,rfl⟩
  · intro id g hg hnone
    rw [h,hnone] at hg
    cases hg

theorem Change.refl (s : BrokerStore) : Change s s := .of_grants rfl

/-! ### Writes -/

theorem Ok.setProvider (h : Ok s) {p : KeyProviderRecord} (hp : ∀ id r, s.requests.get? id = some r → r.IsOpen →
    r.providerId = p.id → Allows p r.subject r.requestedScopes) : Ok (s.setProvider p) where
  providers := h.providers.set p
  requests := h.requests
  grants := h.grants
  allowed id r hr hopen := by
    by_cases heq : r.providerId = p.id
    · exact ⟨p,by simp [BrokerStore.setProvider,heq],hp id r hr hopen heq⟩
    · obtain ⟨q,hq,hallows⟩ := h.allowed id r hr hopen
      exact ⟨q,by simpa [BrokerStore.setProvider,heq] using hq,hallows⟩
  cleared := h.cleared
  one := h.one

theorem Ok.setRequest (h : Ok s) {r : KeyBrokerTokenRequest}
    (hallowed : r.IsOpen → ∃ p, s.providers.get? r.providerId = some p ∧ Allows p r.subject r.requestedScopes)
    (hcleared : r.status = .approved ∨ r.status = .issued → r.Cleared) : Ok (s.setRequest r) where
  providers := h.providers
  requests := h.requests.set r
  grants := h.grants
  allowed id r' hr' := by
    simp only [BrokerStore.setRequest,Dict.get?_set] at hr'
    split at hr'
    · cases hr'
      exact hallowed
    · exact h.allowed id r' hr'
  cleared id r' hr' := by
    simp only [BrokerStore.setRequest,Dict.get?_set] at hr'
    split at hr'
    · cases hr'
      exact hcleared
    · exact h.cleared id r' hr'
  one := h.one

/-- A grant is stored that is the first of its request, or replaces one of the same request. -/
theorem Ok.setGrant (h : Ok s) {g : KeyBrokerTokenGrant}
    (hone : ∀ id g', s.grants.get? id = some g' → g'.requestId = g.requestId → id = g.id) : Ok (s.setGrant g) where
  providers := h.providers
  requests := h.requests
  grants := h.grants.set g
  allowed := h.allowed
  cleared := h.cleared
  one id id' g₁ g₂ hg₁ hg₂ hsame := by
    simp only [BrokerStore.setGrant,Dict.get?_set] at hg₁ hg₂
    split at hg₁
    · next hid =>
      cases hg₁
      split at hg₂
      · next hid' => rw [hid,hid']
      · rw [hid]
        exact (hone id' g₂ hg₂ hsame.symm).symm
    · split at hg₂
      · next hid' =>
        cases hg₂
        rw [hid']
        exact hone id g₁ hg₁ hsame
      · exact h.one id id' g₁ g₂ hg₁ hg₂ hsame

/-! ### The discipline -/

def brokerDiscipline (host : BrokerHost) : Discipline BrokerStore Held BrokerAnswer BrokerError String where
  sys := brokerSystem host Orderly
  ok := Ok
  step := Change
  idle := Change.refl

section Programs
variable {β : Type} {Ret : β → BrokerStore → Prop}

theorem from_loadRequest_bind {id : String} {f : KeyBrokerTokenRequest → BrokerProg β}
    (h : ∀ s r, Ok s → s.requests.get? id = some r → (brokerDiscipline host).From Ret (f r) s) :
    (brokerDiscipline host).From Ret (loadKeyBrokerTokenRequest id >>= f) u := by
  have hload : (brokerDiscipline host).From (fun r s => Ok s ∧ s.requests.get? id = some r) (loadKeyBrokerTokenRequest id) u := by
    refine Discipline.from_read_bind fun s _ hok => (Discipline.from_orRaise _ _).mono ?_
    rintro r s' - ⟨rfl,hr⟩
    exact ⟨hok,hr⟩
  exact Discipline.from_bind hload fun r s _ hs => h s r hs.1 hs.2

theorem from_loadProvider_bind {id : String} {f : KeyProviderRecord → BrokerProg β}
    (h : ∀ s p, Ok s → s.providers.get? id = some p → (brokerDiscipline host).From Ret (f p) s) :
    (brokerDiscipline host).From Ret (loadKeyProvider id >>= f) u := by
  have hload : (brokerDiscipline host).From (fun p s => Ok s ∧ s.providers.get? id = some p) (loadKeyProvider id) u := by
    refine Discipline.from_read_bind fun s _ hok => (Discipline.from_orRaise _ _).mono ?_
    rintro p s' - ⟨rfl,hp⟩
    exact ⟨hok,hp⟩
  exact Discipline.from_bind hload fun p s _ hs => h s p hs.1 hs.2

theorem from_loadGrant_bind {id : String} {f : KeyBrokerTokenGrant → BrokerProg β}
    (h : ∀ s g, Ok s → s.grants.get? id = some g → (brokerDiscipline host).From Ret (f g) s) :
    (brokerDiscipline host).From Ret (loadKeyBrokerTokenGrant id >>= f) u := by
  have hload : (brokerDiscipline host).From (fun g s => Ok s ∧ s.grants.get? id = some g) (loadKeyBrokerTokenGrant id) u := by
    refine Discipline.from_read_bind fun s _ hok => (Discipline.from_orRaise _ _).mono ?_
    rintro g s' - ⟨rfl,hg⟩
    exact ⟨hok,hg⟩
  exact Discipline.from_bind hload fun g s _ hs => h s g hs.1 hs.2

theorem from_liftExcept_bind {α : Type} {r : Except BrokerError α} {f : α → BrokerProg β}
    (h : ∀ a, r = .ok a → (brokerDiscipline host).From Ret (f a) u) : (brokerDiscipline host).From Ret (liftExcept r >>= f) u := by
  cases r with
  | error e =>
    rw [liftExcept_error]
    trivial
  | ok a =>
    rw [liftExcept_ok]
    exact h a rfl

theorem from_save_bind {held : Held} {next : BrokerStore → BrokerStore} {f : Unit → BrokerProg β}
    (h : ∀ s, (brokerDiscipline host).After u s → Ok s → Orderly s held (next s) → Change s (next s) ∧ Ok (next s))
    (hf : ∀ s, (brokerDiscipline host).From Ret (f ()) s) :
    (brokerDiscipline host).From Ret ((Prog.transaction held (Tx.write next) : BrokerProg Unit) >>= f) u := by
  refine Discipline.from_bind (M := fun _ _ => True) (Discipline.from_transaction fun s hs hok _ s' hrun hg => ?_) fun _ s _ _ => hf s
  cases hrun
  obtain ⟨hchange,hok'⟩ := h s hs hok hg
  exact ⟨hchange,hok',trivial⟩

end Programs

theorem after_grants (h : (brokerDiscipline host).After u s) : GrantsKept u s :=
  h.lift GrantsKept.refl (fun _ _ _ h h' => h.trans h') fun _ _ _ h => h.kept

theorem check_ok {c : Prop} [Decidable c] {message : String} {u : Unit} (h : check c message = .ok u) : c := by
  unfold check at h
  split at h
  · assumption
  · cases h

theorem assertScopesAllowed_ok {allowed scopes : List String} {u : Unit} (h : assertScopesAllowed allowed scopes = .ok u) :
    ∀ scope ∈ scopes, isAllowed scope allowed := by
  induction scopes with
  | nil => exact fun _ h => nomatch h
  | cons scope rest ih =>
    obtain ⟨_,hscope,hrest⟩ := except_bind_ok h
    intro x hx
    rcases List.mem_cons.mp hx with rfl | hx
    · exact check_ok hscope
    · exact ih hrest x hx

theorem RequestCall.request_ok {call : RequestCall} {p : KeyProviderRecord} {now : ℤ} {hex : String} {r : KeyBrokerTokenRequest}
    (h : call.request host p now hex = .ok r) :
    r.providerId = p.id ∧ Allows p r.subject r.requestedScopes ∧ (r.status = .approved → r.riskLevel = .low) ∧ r.status ≠ .issued := by
  obtain ⟨subject,-,h⟩ := except_bind_ok h
  obtain ⟨scopes,-,h⟩ := except_bind_ok h
  obtain ⟨_,hsubject,h⟩ := except_bind_ok h
  obtain ⟨_,hscopes,h⟩ := except_bind_ok h
  obtain ⟨id,-,h⟩ := except_bind_ok h
  cases h
  refine ⟨rfl,⟨check_ok hsubject,assertScopesAllowed_ok hscopes⟩,?_,?_⟩
  · simp only
    split <;> simp_all
  · simp only
    split <;> simp

theorem from_record (call : ProviderCall) : (brokerDiscipline host).From (fun _ _ => True) (recordKeyProviderStatus call) u := by
  unfold recordKeyProviderStatus
  generalize call.provider = checked
  refine Discipline.from_read_bind fun s _ _ => from_liftExcept_bind fun p _ => ?_
  exact from_save_bind (fun s _ hok hg => ⟨.of_grants rfl,hok.setProvider (hg.recorded p rfl)⟩) fun s => Discipline.from_pure trivial

theorem from_request (call : RequestCall) : (brokerDiscipline host).From (fun _ _ => True) (requestKeyBrokerTokenStatus host call) u := by
  unfold requestKeyBrokerTokenStatus
  refine from_loadProvider_bind fun s p _ _ => Discipline.from_require_bind fun _ => ?_
  refine Discipline.from_ask_bind fun now => Discipline.from_ask_bind fun hex => from_liftExcept_bind fun r hr => ?_
  obtain ⟨hprovider,hallows,hlow,hissued⟩ := RequestCall.request_ok hr
  refine from_save_bind (fun s _ hok hg => ⟨.of_grants rfl,hok.setRequest ?_ ?_⟩) fun s => Discipline.from_pure trivial
  · exact fun _ => ⟨p,by rw [hprovider]; exact hg.provider p rfl,hallows⟩
  · rintro (happroved | h)
    · exact .inl (hlow happroved)
    · exact absurd h hissued

theorem from_approve (requestId approvedBy approvalId : String) :
    (brokerDiscipline host).From (fun _ _ => True) (approveKeyBrokerTokenRequestStatus requestId approvedBy approvalId) u := by
  unfold approveKeyBrokerTokenRequestStatus
  refine from_loadRequest_bind fun s r _ _ => Discipline.from_require_bind fun hopen => ?_
  refine from_save_bind (fun s _ hok hg => ⟨.of_grants rfl,hok.setRequest (fun _ => ?_) fun _ => .inr rfl⟩)
    fun s => Discipline.from_pure trivial
  exact hok.allowed _ r (hg.request r rfl) hopen

/-- The first grant of an approved request. -/
theorem Ok.issue (h : Ok s) {r : KeyBrokerTokenRequest} {g : KeyBrokerTokenGrant} {held : Held} (hg : Orderly s held s')
    (hr : held.request = some r) (hnew : held.newGrant = some g) (happroved : r.status = .approved)
    (hof : g.requestId = r.id ∧ g.providerId = r.providerId ∧ g.subject = r.subject ∧ g.scopes = r.requestedScopes) :
    Change s (s.setGrant g) ∧ Ok (s.setGrant g) := by
  obtain ⟨hid,hprovider,hsubject,hscopes⟩ := hof
  have hstored := hg.request r hr
  obtain ⟨hfresh,hmarked⟩ := hg.newGrant g hnew
  -- the request is approved, so no grant of it has been marked
  have hfirst : ∀ id g', s.grants.get? id = some g' → g'.requestId ≠ g.requestId := by
    intro id g' hg' hsame
    obtain ⟨r',hr',hissued⟩ := hmarked id g' hg' hsame
    rw [hid,hstored] at hr'
    cases hr'
    rw [happroved] at hissued
    cases hissued
  refine ⟨⟨fun id' g' hg' => ?_,fun id' g' hg' hnone => ?_⟩,h.setGrant fun id' g' hg' hsame => absurd hsame (hfirst id' g' hg')⟩
  · have hne : id' ≠ g.id := by
      rintro rfl
      rw [hfresh] at hg'
      cases hg'
    exact ⟨g',by simpa [BrokerStore.setGrant,hne] using hg',rfl⟩
  · rw [BrokerStore.setGrant,Dict.get?_set] at hg'
    split at hg'
    · cases hg'
      obtain ⟨q,hq,hallows⟩ := h.allowed _ r hstored (.inr happroved)
      rw [hid,hprovider,hsubject,hscopes]
      exact ⟨⟨r,hstored,happroved,h.cleared _ r hstored (.inl happroved)⟩,q,hq,hallows⟩
    · rw [hnone] at hg'
      cases hg'

theorem Ok.regrant (h : Ok s) {g g' : KeyBrokerTokenGrant} (hg' : s.grants.get? g.id = some g') (hsame : g'.requestId = g.requestId) :
    Change s (s.setGrant g) ∧ Ok (s.setGrant g) := by
  refine ⟨⟨fun id x hx => ?_,fun id x hx hnone => ?_⟩,h.setGrant fun id x hx hreq => ?_⟩
  · by_cases heq : id = g.id
    · rw [heq,hg'] at hx
      cases hx
      exact ⟨g,by simp [BrokerStore.setGrant,heq],hsame.symm⟩
    · exact ⟨x,by simpa [BrokerStore.setGrant,heq] using hx,rfl⟩
  · rw [BrokerStore.setGrant,Dict.get?_set] at hx
    split at hx
    · next heq =>
      rw [heq,hg'] at hnone
      cases hnone
    · rw [hnone] at hx
      cases hx
  · exact h.one id g.id x g' hx hg' (hreq.trans hsame.symm)

theorem from_issue (requestId : String) : (brokerDiscipline host).From (fun _ _ => True) (issueKeyBrokerTokenStatus host requestId) u := by
  unfold issueKeyBrokerTokenStatus
  refine from_loadRequest_bind fun s r _ _ => Discipline.from_require_bind fun happroved => ?_
  refine from_loadProvider_bind fun s p hok hp => Discipline.from_require_bind fun _ => ?_
  have hid : p.id = r.providerId := hok.providers _ p hp
  generalize safeId p.id "provider_id" = named
  refine Discipline.from_ask_bind fun minted => Discipline.from_orRaise_bind fun token _ => Discipline.from_ask_bind fun now => ?_
  refine from_liftExcept_bind fun id _ => Discipline.from_ask_bind fun hex => ?_
  refine Discipline.from_ask_bind fun written => Discipline.from_require_bind fun _ => ?_
  refine from_save_bind (fun s _ hok hg => hok.issue hg rfl rfl happroved ⟨rfl,hid,rfl,rfl⟩) fun s => ?_
  refine from_save_bind (fun s _ hok hg => ⟨.of_grants rfl,hok.setRequest ?_ fun _ => ?_⟩) fun s => Discipline.from_pure trivial
  · rintro (h | h) <;> cases h
  · exact hok.cleared _ r (hg.request r rfl) (.inl happroved)

theorem from_revoke (grantId : String) : (brokerDiscipline host).From (fun _ _ => True) (revokeKeyBrokerTokenStatus grantId) u := by
  unfold revokeKeyBrokerTokenStatus
  refine from_loadGrant_bind fun s₁ g hok₁ hg₁ => ?_
  have hid : g.id = grantId := hok₁.grants _ g hg₁
  refine from_save_bind (fun s hs hok _ => ?_) fun s => Discipline.from_pure trivial
  obtain ⟨g',hg',hsame⟩ := after_grants hs _ g hg₁
  exact hok.regrant (g := { g with status := .revoked }) (by rw [hid]; exact hg') hsame

theorem sound_program (host : BrokerHost) (call : BrokerCall) : (brokerDiscipline host).Sound (call.program host) := by
  refine ⟨fun u => ?_⟩
  cases call with
  | record call => exact from_record call
  | request call => exact from_request call
  | approve requestId approvedBy approvalId => exact from_approve requestId approvedBy approvalId
  | issue requestId => exact from_issue requestId
  | revoke grantId => exact from_revoke grantId

/-! ### Runs -/

/-- Over the whole run a request has one grant; whenever a grant is stored first its request is
approved or of low risk, and its provider, as it is stored then, allows the subject and the scopes. -/
structure IssuanceSafe (t : Trace BrokerStore BrokerAnswer) : Prop where
  one : ∀ s ∈ t.history, ∀ s' ∈ t.history, ∀ id id' g g', s.grants.get? id = some g → s'.grants.get? id' = some g' →
    g.requestId = g'.requestId → id = id'
  issued : List.IsChain (fun s' s => IssuesAllowed s s') t.history

/-- In every run whose saves are orderly, issuing keys is safe. -/
theorem issuance_safe (host : BrokerHost) {s₀ : BrokerStore} (h₀ : Ok s₀) {w : World BrokerStore Held BrokerAnswer BrokerError String}
    (h : World.Reachable (brokerSystem host Orderly) (World.init s₀) w) : IssuanceSafe w.trace := by
  obtain ⟨hok,hchain⟩ := h.disciplined (brokerDiscipline host) (fun p hp => by obtain ⟨call,rfl⟩ := hp; exact sound_program host call) h₀
  -- every grant there ever was is stored now, for its request
  have hkept : ∀ s ∈ w.trace.history, ∀ id g, s.grants.get? id = some g →
      ∃ g', w.trace.store.grants.get? id = some g' ∧ g'.requestId = g.requestId := by
    intro s hs
    have hpairs : w.trace.history.Pairwise fun s' s => GrantsKept s s' :=
      World.pairwise_of_chain hchain (fun _ _ h => h.kept) fun _ _ _ h h' => h.trans h'
    rcases List.mem_cons.mp hs with rfl | hs
    · exact GrantsKept.refl _
    · exact (List.pairwise_cons.mp hpairs).1 s hs
  refine ⟨fun s hs s' hs' id id' g g' hg hg' hsame => ?_,hchain.imp fun _ _ h => h.issued⟩
  obtain ⟨x,hx,hreq⟩ := hkept s hs id g hg
  obtain ⟨x',hx',hreq'⟩ := hkept s' hs' id' g' hg'
  exact (hok _ w.trace.store_mem_history).one id id' x x' hx hx' (hreq.trans (hsame.trans hreq'.symm))

/-! ### Concrete runs -/

def plainHost : BrokerHost where
  sha256 text := text
  strftime _ := "20260101T000000Z"
  lower text := text

def plainAnswers (hex : String) : (q : BrokerQuery) → BrokerAnswer q
  | .clock => (0 : ℤ)
  | .hex => hex
  | .mint _ _ => some "obs_token"
  | .tokenFile _ _ => true

abbrev BrokerMove := Move BrokerStore Held BrokerAnswer BrokerError String

def startCall (call : BrokerCall) : BrokerMove := .start (call.program plainHost)

theorem startCall_allowed (guard : BrokerStore → Held → BrokerStore → Prop) (call : BrokerCall) :
    ∀ mv ∈ [startCall call], mv.Allowed (brokerSystem plainHost guard) := World.allowed_start _ ⟨call,rfl⟩

def grantedFor (s : BrokerStore) (id : String) : Option String := (s.grants.get? id).map (·.requestId)

def requestedId : String := "kbr.static.20260101T000000Z.aa"

def staticProvider : ProviderCall := ⟨"static","static_token","",["*"],["read"],true⟩
def readRequest : RequestCall := ⟨"static","project",["read"],15⟩

/-- A provider of low risk is recorded and a token requested. -/
def requested : List BrokerMove :=
  [startCall (.record staticProvider)] ++ World.steps 0 2 (plainAnswers "aa") ++ [startCall (.request readRequest)] ++
    World.steps 1 4 (plainAnswers "aa")

theorem requested_allowed (guard : BrokerStore → Held → BrokerStore → Prop) :
    ∀ mv ∈ requested, mv.Allowed (brokerSystem plainHost guard) := by
  simp only [requested,List.forall_mem_append]
  exact ⟨⟨⟨startCall_allowed _ _,World.allowed_steps _ _ _⟩,startCall_allowed _ _⟩,World.allowed_steps _ _ _⟩

instance (r : KeyBrokerTokenRequest) : Decidable r.IsOpen := inferInstanceAs (Decidable (_ ∨ _))
instance (p : KeyProviderRecord) (subject : String) (scopes : List String) : Decidable (Allows p subject scopes) :=
  inferInstanceAs (Decidable (_ ∧ _))

/-- `Orderly`, decided. -/
def orderly (s : BrokerStore) (held : Held) : Bool :=
  held.request.all (fun r => s.requests.get? r.id = some r) && held.provider.all (fun p => s.providers.get? p.id = some p) &&
    held.recorded.all (fun p => s.requests.values.all fun r => r.IsOpen → r.providerId = p.id → Allows p r.subject r.requestedScopes) &&
    held.newRequest.all (fun r => s.requests.get? r.id = none) &&
    held.newGrant.all fun g => s.grants.get? g.id = none && s.grants.values.all fun g' => g'.requestId = g.requestId →
      (s.requests.get? g.requestId).any (·.status = .issued)

theorem orderly_spec (s : BrokerStore) (held : Held) (s' : BrokerStore) (h : orderly s held = true) : Orderly s held s' := by
  simp only [orderly,Bool.and_eq_true] at h
  obtain ⟨⟨⟨⟨hrequest,hprovider⟩,hrecorded⟩,hnewRequest⟩,hnewGrant⟩ := h
  constructor
  · intro r hr
    simpa [hr] using hrequest
  · intro p hp
    simpa [hp] using hprovider
  · intro p hp id r hr
    simp only [hp,Option.all_some,List.all_eq_true,decide_eq_true_eq] at hrecorded
    exact hrecorded r (Dict.mem_values_of_get? hr)
  · intro r hr
    simpa [hr] using hnewRequest
  · intro g hg
    simp only [hg,Option.all_some,Bool.and_eq_true,decide_eq_true_eq,List.all_eq_true] at hnewGrant
    refine ⟨hnewGrant.1,fun id g' hg' hsame => ?_⟩
    obtain ⟨r,hr,hissued⟩ := (Option.any_eq_true _ _).mp (hnewGrant.2 g' (Dict.mem_values_of_get? hg') hsame)
    exact ⟨r,hr,of_decide_eq_true hissued⟩

/-- One issue of the request. -/
def issuedOnce : List BrokerMove := requested ++ [startCall (.issue requestedId)] ++ World.steps 2 8 (plainAnswers "bb")

theorem issuance_safe_once : ∃ w, World.Reachable (brokerSystem plainHost Orderly) (World.init {}) w ∧
    grantedFor w.trace.store "kbg.static.20260101T000000Z.bb" = some requestedId ∧ IssuanceSafe w.trace := by
  have hmoves : ∀ mv ∈ issuedOnce, mv.Allowed (brokerSystem plainHost Orderly) := by
    simp only [issuedOnce,List.forall_mem_append]
    exact ⟨⟨requested_allowed _,startCall_allowed _ _⟩,World.allowed_steps _ _ _⟩
  obtain ⟨w,hw,hcheck⟩ := World.exists_reachable (World.init {}) issuedOnce
    (fun w => grantedFor w.trace.store "kbg.static.20260101T000000Z.bb" = some requestedId)
    (fun _ _ _ (_ : true = true) => trivial) (fun s held s' (h : orderly s held = true) => orderly_spec s held s' h) hmoves
    (by decide +kernel)
  have hempty : Ok {} := by
    refine ⟨Dict.Filed.empty _,Dict.Filed.empty _,Dict.Filed.empty _,?_,?_,?_⟩ <;> exact fun _ _ => by simp
  exact ⟨w,hw,of_decide_eq_true hcheck,issuance_safe plainHost hempty hw⟩

/-- Two issues of the request, the second begun before the first has saved. -/
def issuedTwice : List BrokerMove :=
  requested ++ [startCall (.issue requestedId)] ++ World.steps 2 6 (plainAnswers "bb") ++ [startCall (.issue requestedId)] ++
    World.steps 3 7 (plainAnswers "cc") ++ World.steps 2 1 (plainAnswers "bb")

/-- Both issues find the request approved, and it has two grants. -/
theorem issuance_unsafe : ∃ w, World.Reachable (brokerSystem plainHost fun _ _ _ => True) (World.init {}) w ∧
    ¬ IssuanceSafe w.trace := by
  have hmoves : ∀ mv ∈ issuedTwice, mv.Allowed (brokerSystem plainHost fun _ _ _ => True) := by
    simp only [issuedTwice,List.forall_mem_append]
    exact ⟨⟨⟨⟨⟨requested_allowed _,startCall_allowed _ _⟩,World.allowed_steps _ _ _⟩,startCall_allowed _ _⟩,
      World.allowed_steps _ _ _⟩,World.allowed_steps _ _ _⟩
  obtain ⟨w,hw,hcheck⟩ := World.exists_reachable (World.init {}) issuedTwice
    (fun w => grantedFor w.trace.store "kbg.static.20260101T000000Z.bb" = some requestedId &&
      grantedFor w.trace.store "kbg.static.20260101T000000Z.cc" = some requestedId)
    (fun _ _ _ (_ : true = true) => trivial) (fun _ _ _ (_ : true = true) => trivial) hmoves (by decide +kernel)
  simp only [Bool.and_eq_true,decide_eq_true_eq] at hcheck
  obtain ⟨g,hg,hreq⟩ := Option.map_eq_some_iff.mp hcheck.1
  obtain ⟨g',hg',hreq'⟩ := Option.map_eq_some_iff.mp hcheck.2
  refine ⟨w,hw,fun hsafe => ?_⟩
  have hsame := hsafe.one _ w.trace.store_mem_history _ w.trace.store_mem_history _ _ g g' hg hg' (hreq.trans hreq'.symm)
  exact absurd hsame (by decide)

end Overseer.Broker
