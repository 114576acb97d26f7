import Overseer.Psychlo.RoundResults

/-! # The ceiling of two rounds

Three transactions admit a round. One admits it next to nothing; the other two verify, in
the same transaction, an authorization for the second stream. So a second unfinished round
is there only by such a verification, and a third is never there.
-/
namespace Overseer.Psychlo
open Overseer.Library Overseer.Agent

/-- The two requests are for one project. -/
def sameProject (a b : Payload) : Bool := (a.get "projectId").alike (b.get "projectId")

/-- A canary authorization that is delivered, unexpired at `now` and approved by a human. -/
structure LiveCanary (host : Host) (s : BridgeStore) (now : String) where
  id : String
  row : ProtocolRow
  authorization : Payload
  decision : DecisionRow
  projects : List Payload
  stored : (s.protocol .canaryAuthorization).get? id = some row
  delivered : row.state = .delivered
  parsed : host.parseCanaryAuthorization row.payload = .ok authorization
  digest : authorization.get "digest" = .str row.digest
  unexpired : ∃ observed deadline, host.fromisoformat now = some observed ∧
    host.fromisoformat (authorization.get "deadline").text = some deadline ∧ Host.before observed deadline = .ok true
  decided : s.decisions.get? (authorization.get "decisionId").text = some decision
  approved : decision.status = .approved
  bound : boundProjects authorization = .ok projects

/-- The authorization names the identity of the request. -/
def LiveCanary.Binds {host : Host} {s : BridgeStore} {now : String} (c : LiveCanary host s now) (request : Payload) : Prop :=
  ∃ p ∈ c.projects, boundTo request p = true

/-- A delivered ceiling change, bound to an approved authorization of two streams whose
canary evidence is verified. -/
structure OpenCeiling (host : Host) (s : BridgeStore) where
  change : ProtocolRow
  authorizationId : String
  row : ProtocolRow
  authorization : Payload
  decision : DecisionRow
  stored : change ∈ (s.protocol .ceilingChange).values
  delivered : change.state = .delivered ∨ change.state = .settled
  binds : change.payload.str? "authorizationId" = some authorizationId
  authorized : (s.protocol .ceilingAuthorization).get? authorizationId = some row
  authorizationDelivered : row.state = .delivered ∨ row.state = .settled
  parsed : host.parseConcurrencyCeilingAuthorization row.payload = .ok authorization
  digest : authorization.get "digest" = .str row.digest
  two : (authorization.get "ceiling").alike (.int 2) = true
  evidence : verifyCanaryEvidence host s authorization = .ok ()
  decided : s.decisions.get? (authorization.get "decisionId").text = some decision
  approved : decision.status = .approved
  decisionBound : (decision.request.get "resultProvenanceId").alike (authorization.get "digest") = true

theorem verifyCanary_ok {host : Host} {s : BridgeStore} {request : Payload} {authorizationId : String} {revision : Json}
    {now : String} (h : verifyCanary host s request authorizationId revision now = .ok ()) :
    ∃ c : LiveCanary host s now, c.Binds request ∧ (activeRounds s).length < 2 ∧
      ∀ other ∈ activeRounds s, c.Binds other ∧ sameProject other request = false := by
  unfold verifyCanary at h
  obtain ⟨row,hrow,h⟩ := check_bind h
  obtain ⟨_,hdelivered,h⟩ := check_bind h
  obtain ⟨authorization,hparsed,h⟩ := check_bind h
  obtain ⟨_,hdigest,h⟩ := check_bind h
  obtain ⟨_,-,h⟩ := check_bind h
  obtain ⟨deadline,hdeadline,h⟩ := check_bind h
  obtain ⟨observed,hobserved,h⟩ := check_bind h
  obtain ⟨later,hlater,h⟩ := check_bind h
  obtain ⟨_,hunexpired,h⟩ := check_bind h
  obtain ⟨_,happroved,h⟩ := check_bind h
  obtain ⟨projects,hprojects,h⟩ := check_bind h
  obtain ⟨_,hbound,h⟩ := check_bind h
  obtain ⟨_,hcount,h⟩ := check_bind h
  rw [check_ok] at hdelivered hdigest hunexpired happroved hbound hcount h
  rw [found_ok] at hrow hdeadline hobserved
  rw [told_ok] at hparsed
  obtain ⟨decision,hdecision,hstatus⟩ := Option.map_eq_some_iff.mp happroved
  let c : LiveCanary host s now := {
    id := authorizationId, row, authorization, decision, projects
    stored := hrow, delivered := hdelivered, parsed := hparsed, digest := hdigest
    unexpired := ⟨observed,deadline,hobserved,hdeadline,hunexpired ▸ hlater⟩
    decided := hdecision, approved := hstatus, bound := hprojects }
  refine ⟨c,?_,hcount,fun other hother => ?_⟩
  · obtain ⟨p,hp,hb⟩ := (Option.any_eq_true _ _).mp hbound
    exact ⟨p,List.mem_of_find?_eq_some hp,hb⟩
  · obtain ⟨hany,hdiffer⟩ := h other hother
    obtain ⟨p,hp,hb⟩ := List.any_eq_true.mp hany
    exact ⟨⟨p,hp,hb⟩,hdiffer⟩

/-- The later of two changes. -/
def laterChange (best : Option ProtocolRow) (r : ProtocolRow) : Option ProtocolRow :=
  match best with
  | some b => if textLe b.updatedAt r.updatedAt then some r else some b
  | none => some r

theorem laterChange_cases {best : Option ProtocolRow} {r change : ProtocolRow} (h : laterChange best r = some change) :
    change = r ∨ best = some change := by
  unfold laterChange at h
  split at h
  · split at h
    · exact .inl (Option.some.inj h).symm
    · exact .inr h
  · exact .inl (Option.some.inj h).symm

theorem latestChange_mem {s : BridgeStore} {change : ProtocolRow} (h : latestChange s = some change) :
    change ∈ (s.protocol .ceilingChange).values ∧ (change.state = .delivered ∨ change.state = .settled) := by
  have key : ∀ (rows : List ProtocolRow) (best : Option ProtocolRow) (r : ProtocolRow),
      rows.foldl laterChange best = some r → best = some r ∨ r ∈ rows := by
    intro rows
    induction rows with
    | nil => exact fun best r h => .inl h
    | cons row rest ih =>
      intro best r h
      rcases ih _ r h with hr | hr
      · rcases laterChange_cases hr with rfl | hbest
        · exact .inr List.mem_cons_self
        · exact .inl hbest
      · exact .inr (List.mem_cons_of_mem _ hr)
  rcases key _ none change h with hnone | hmem
  · cases hnone
  · simpa using List.mem_filter.mp hmem

theorem verifyCeiling_ok {host : Host} {s : BridgeStore} (h : verifyCeiling host s = .ok ()) :
    Nonempty (OpenCeiling host s) := by
  unfold verifyCeiling at h
  obtain ⟨change,hchange,h⟩ := check_bind h
  obtain ⟨_,-,h⟩ := check_bind h
  obtain ⟨authorizationId,hid,h⟩ := check_bind h
  obtain ⟨_,-,h⟩ := check_bind h
  obtain ⟨row,hrow,h⟩ := check_bind h
  obtain ⟨_,hdelivered,h⟩ := check_bind h
  obtain ⟨authorization,hparsed,h⟩ := check_bind h
  obtain ⟨_,hdigest,h⟩ := check_bind h
  obtain ⟨_,hceiling,h⟩ := check_bind h
  obtain ⟨_,hevidence,h⟩ := check_bind h
  rw [check_ok] at hdelivered hdigest hceiling
  rw [found_ok] at hchange hid hrow
  rw [told_ok] at hparsed
  unfold verifyCeilingDecision at h
  obtain ⟨decision,hdecision,h⟩ := check_bind h
  obtain ⟨_,hstatus,h⟩ := check_bind h
  rw [check_ok] at hstatus h
  rw [found_ok] at hdecision
  exact ⟨{
    change, authorizationId, row, authorization, decision
    stored := (latestChange_mem hchange).1, delivered := (latestChange_mem hchange).2
    binds := hid, authorized := hrow, authorizationDelivered := hdelivered, parsed := hparsed, digest := hdigest
    two := hceiling.1, evidence := hevidence, decided := hdecision, approved := hstatus, decisionBound := h.2 }⟩

/-! ### What a commit does to the unfinished rounds -/

def activeOf (row : RoundRow) : Option Payload := if row.result = none then some row.request else none

theorem activeRounds_eq (s : BridgeStore) : activeRounds s = s.rounds.values.filterMap activeOf := by
  unfold activeRounds
  induction s.rounds.values with
  | nil => rfl
  | cons row rest ih =>
    rw [List.filterMap_cons,List.filter_cons]
    by_cases hrow : row.result = none
    · simp [activeOf,hrow,ih]
    · simp [activeOf,hrow,ih]

/-- Rounds are finished, none is added. -/
def ActiveShrinks (s s' : BridgeStore) : Prop := (activeRounds s').Sublist (activeRounds s)

instance : IsPreorder BridgeStore ActiveShrinks where
  refl _ := List.Sublist.refl _
  trans _ _ _ h h' := h'.trans h

theorem shrinks_updateRound {roundId : String} {f : RoundRow → RoundRow} (h : ∀ row, (f row).request = row.request ∧
    (row.result ≠ none → (f row).result ≠ none)) : Tx.Keeps ActiveShrinks (updateRound roundId f) := by
  refine ⟨fun s => ?_⟩
  rw [updateRound,Tx.post_write]
  cases hrow : s.rounds.get? roundId with
  | none => exact List.Sublist.refl _
  | some row =>
    unfold ActiveShrinks
    rw [activeRounds_eq,activeRounds_eq]
    refine Dict.filterMap_set_sublist activeOf hrow ?_
    by_cases hnew : (f row).result = none
    · have hold : row.result = none := by
        by_contra hsome
        exact (h row).2 hsome hnew
      left
      rw [activeOf,if_pos hnew,activeOf,if_pos hold,(h row).1]
    · right
      rw [activeOf,if_neg hnew]

instance (roundId startedAt : String) : Tx.Keeps ActiveShrinks (markDispatchStarted roundId startedAt) :=
  shrinks_updateRound fun row => by split <;> simp

instance (roundId : String) (receipt : Payload) : Tx.Keeps ActiveShrinks (markDispatched roundId receipt) :=
  shrinks_updateRound fun row => by simp

instance (roundId : String) (result : Payload) (completedAt : String) :
    Tx.Keeps ActiveShrinks (recordResult roundId result completedAt) :=
  shrinks_updateRound fun row => by split <;> simp

instance (roundId : String) : Tx.Keeps ActiveShrinks (markForwarded roundId) := shrinks_updateRound fun row => by simp

/-- In state `s`, by a clock that was read, the two streams were verified. -/
def Verified (host : Host) (own : List (Σ q, Answer q)) (s : BridgeStore) (a b : Payload) : Prop :=
  (∃ (now : String) (c : LiveCanary host s now), ⟨.clock,now⟩ ∈ own ∧ c.Binds a ∧ c.Binds b) ∨ Nonempty (OpenCeiling host s)

/-- The commit adds one round: the only one, or a verified second of another project. -/
def Admits (host : Host) (own : List (Σ q, Answer q)) (s s' : BridgeStore) : Prop := ∃ request,
  activeRounds s' = activeRounds s ++ [request] ∧ (activeRounds s = [] ∨ ∃ other, activeRounds s = [other] ∧
    sameProject other request = false ∧ Verified host own s other request)

def CeilingStep (host : Host) (own : List (Σ q, Answer q)) (s s' : BridgeStore) : Prop :=
  ActiveShrinks s s' ∨ Admits host own s s'

theorem CeilingStep.mono {host : Host} {own own' : List (Σ q, Answer q)} {s s' : BridgeStore} (h : own ⊆ own')
    (hs : CeilingStep host own s s') : CeilingStep host own' s s' := by
  refine hs.imp_right ?_
  rintro ⟨request,hactive,hverified⟩
  refine ⟨request,hactive,hverified.imp_right ?_⟩
  rintro ⟨other,hother,hdiffer,hverified⟩
  refine ⟨other,hother,hdiffer,hverified.imp_left ?_⟩
  rintro ⟨now,c,hnow,hbinds⟩
  exact ⟨now,c,h hnow,hbinds⟩

theorem post_insertRound (host : Host) (request receipt : Payload) (capability : String) (canary : Option String)
    (s : BridgeStore) : (insertRound host request receipt capability canary).Post s fun _ s' =>
      activeRounds s' = activeRounds s ++ [request] := by
  unfold Tx.Post
  cases h : insertRound host request receipt capability canary s with
  | error e => trivial
  | ok r =>
    obtain ⟨roundId,row,-,hnone,rfl,hres,-,hs⟩ := insertRound_ok h
    change activeRounds r.2 = _
    rw [hs,activeRounds_eq,activeRounds_eq,Dict.values_set_of_none row hnone,List.filterMap_append]
    simp [activeOf,hres]

theorem admits_of_verified {host : Host} {own : List (Σ q, Answer q)} {s s' : BridgeStore} {request : Payload}
    (hactive : activeRounds s' = activeRounds s ++ [request]) (hcount : (activeRounds s).length < 2)
    (hother : ∀ other ∈ activeRounds s, sameProject other request = false ∧ Verified host own s other request) :
    Admits host own s s' := by
  refine ⟨request,hactive,?_⟩
  match hrounds : activeRounds s, hcount with
  | [], _ => exact .inl rfl
  | [other], _ =>
    rw [hrounds] at hother
    exact .inr ⟨other,rfl,hother other List.mem_cons_self⟩

section Owned
variable {own : List (Σ q, Answer q)} {s s' : BridgeStore} {host : Host} {request receipt : Payload} {capability : String}

theorem recordCanaryRound_admits {authorizationId : String} {revision : Json} {now : String} (hnow : ⟨.clock,now⟩ ∈ own)
    (h : recordCanaryRound host request receipt capability authorizationId revision now s = .ok ((),s')) :
    Admits host own s s' := by
  have hpost : (recordCanaryRound host request receipt capability authorizationId revision now).Post s fun _ s' =>
      verifyCanary host s request authorizationId revision now = .ok () ∧ activeRounds s' = activeRounds s ++ [request] := by
    unfold recordCanaryRound
    rw [Tx.post_bind,Tx.post_read,Tx.post_bind,post_liftCheck]
    exact fun _ hverify => (post_insertRound _ _ _ _ _ s).mono fun _ _ hactive => ⟨hverify,hactive⟩
  obtain ⟨hverify,hactive⟩ := hpost.of_ok h
  obtain ⟨c,hc,hcount,hother⟩ := verifyCanary_ok hverify
  refine admits_of_verified hactive hcount fun other hmem => ?_
  exact ⟨(hother other hmem).2,.inl ⟨now,c,hnow,(hother other hmem).1,hc⟩⟩

theorem recordDurableCeilingRound_admits
    (h : recordDurableCeilingRound host request receipt capability s = .ok ((),s')) : Admits host own s s' := by
  have hpost : (recordDurableCeilingRound host request receipt capability).Post s fun _ s' =>
      verifyCeiling host s = .ok () ∧ ((activeRounds s).length < 2 ∧ ∀ other ∈ activeRounds s,
        sameProject other request = false) ∧ activeRounds s' = activeRounds s ++ [request] := by
    unfold recordDurableCeilingRound
    rw [Tx.post_bind,Tx.post_read,Tx.post_bind,post_liftCheck]
    intro u hverify
    rw [Tx.post_bind,Tx.post_require]
    exact fun hfree => (post_insertRound _ _ _ _ _ s).mono fun _ _ hactive => ⟨hverify,hfree,hactive⟩
  obtain ⟨hverify,⟨hcount,hother⟩,hactive⟩ := hpost.of_ok h
  refine admits_of_verified hactive hcount fun other hmem => ?_
  exact ⟨hother other hmem,.inr (verifyCeiling_ok hverify)⟩

theorem recordSingleStreamRound_admits
    (h : recordSingleStreamRound host request receipt capability s = .ok ((),s')) : Admits host own s s' := by
  have hpost : (recordSingleStreamRound host request receipt capability).Post s fun _ s' =>
      activeRounds s = [] ∧ activeRounds s' = activeRounds s ++ [request] := by
    unfold recordSingleStreamRound
    rw [Tx.post_bind,Tx.post_read,Tx.post_bind,Tx.post_require]
    exact fun hfree => (post_insertRound _ _ _ _ _ s).mono fun _ _ hactive => ⟨hfree,hactive⟩
  obtain ⟨hfree,hactive⟩ := hpost.of_ok h
  exact ⟨request,hactive,.inl hfree⟩

theorem owned_admission {t : BridgeTx Unit} {held : Held} (h : ∀ s s', t s = .ok ((),s') → Admits host own s s') :
    (Prog.transaction held t : BridgeProg Unit).Owned (CeilingStep host) own := by
  refine Prog.owned_transaction fun s => ?_
  unfold Tx.next
  cases ht : t s with
  | error e => exact .inl (List.Sublist.refl _)
  | ok r => exact .inr (h s r.2 ht)

end Owned

/-! ### Programs -/

/-- No question is marked. -/
def unmarked (_ : BridgeQuery) : Prop := False

instance (q : BridgeQuery) : Prog.Unmarked unmarked q := ⟨fun h => h⟩

section Programs
variable {α : Type} (b : Bridge)

theorem owned_tame {host : Host} {p : BridgeProg α} (hp : Prog.Tame ActiveShrinks unmarked p) (own : List (Σ q, Answer q)) :
    p.Owned (CeilingStep host) own := Prog.Owned.of_steps hp.steps (fun _ _ _ h => .inl h) own

instance (request : Payload) (capability : String) (receipt : Payload) :
    Prog.Tame ActiveShrinks unmarked (b.dispatchReserved request capability receipt) := by
  unfold Bridge.dispatchReserved
  dsimp only
  infer_instance

theorem owned_reserveRound (request receipt : Payload) (capability : String) (own : List (Σ q, Answer q)) :
    (b.reserveRound request receipt capability).Owned (CeilingStep b.host) own := by
  unfold Bridge.reserveRound
  refine Prog.owned_bind (owned_tame inferInstance own) fun durable own₁ _ => ?_
  split
  · exact Prog.owned_ask_bind fun now => owned_admission fun _ _ => recordDurableCeilingRound_admits
  · refine Prog.owned_bind (owned_tame inferInstance own₁) fun canary own₂ _ => ?_
    cases canary with
    | none => exact owned_admission fun _ _ => recordSingleStreamRound_admits
    | some canary =>
      refine Prog.owned_ask_bind fun now => owned_admission fun _ _ => ?_
      exact recordCanaryRound_admits List.mem_cons_self

theorem owned_requestRound (request : Payload) (own : List (Σ q, Answer q)) :
    (b.requestRound request).Owned (CeilingStep b.host) own := by
  unfold Bridge.requestRound
  refine Prog.owned_bind (owned_tame inferInstance own) fun _ own₁ _ => ?_
  refine Prog.owned_bind (owned_tame inferInstance own₁) fun _ own₂ _ => ?_
  refine Prog.owned_bind (owned_tame inferInstance own₂) fun _ own₃ _ => ?_
  refine Prog.owned_bind (owned_tame inferInstance own₃) fun existing own₄ _ => ?_
  cases existing with
  | some existing =>
    refine owned_tame ?_ own₄
    dsimp only
    infer_instance
  | none =>
    refine Prog.owned_ask_bind fun capability => ?_
    refine Prog.owned_bind (owned_reserveRound b _ _ _ _) fun _ own₅ _ => ?_
    exact owned_tame inferInstance own₅

instance (roundId : String) (seen : Option Payload) (result : Payload) :
    Prog.Tame ActiveShrinks unmarked (Bridge.storeResult roundId seen result) := by
  unfold Bridge.storeResult
  infer_instance

instance (kind : PeerKind) (messageId : String) (payload : Payload) :
    Prog.Tame ActiveShrinks unmarked (ask (.sender kind messageId payload) : BridgeProg (Option Payload)) := Prog.tame_ask _

instance (roundId : String) (result : Payload) : Prog.Tame ActiveShrinks unmarked (Bridge.forwardResult roundId result) := by
  unfold Bridge.forwardResult
  infer_instance

instance (capability : String) (result : Payload) :
    Prog.Tame ActiveShrinks unmarked (b.receiveRoundResult capability result) := by
  unfold Bridge.receiveRoundResult
  dsimp only
  infer_instance

/-- The round calls of bridges on one host, and whatever else leaves the rounds alone. -/
def roundCallOn (host : Host) (p : BridgeProg Unit) : Prop :=
  (∃ (b : Bridge) (request : Payload), b.host = host ∧ p = (b.requestRound request >>= fun _ => pure ())) ∨
  (∃ (b : Bridge) (capability : String) (result : Payload), b.host = host ∧ p = b.receiveRoundResult capability result) ∨
  Elsewhere p

def ceilingSystem (host : Host) : BridgeSystem := ⟨roundCallOn host,fun _ _ _ => True,fun _ _ _ => True⟩

theorem owned_roundCall {host : Host} {p : BridgeProg Unit} (hp : roundCallOn host p) : p.Owned (CeilingStep host) [] := by
  rcases hp with ⟨b,request,rfl,rfl⟩ | ⟨b,capability,result,-,rfl⟩ | helse
  · exact Prog.owned_bind (owned_requestRound b request []) fun _ _ _ => trivial
  · exact owned_tame inferInstance []
  · refine Prog.Owned.of_steps helse.steps (fun _ s s' h => .inl ?_) []
    unfold ActiveShrinks activeRounds
    rw [h]

end Programs

/-! ### Whole runs -/

/-- What holds of one state of a run, `own` being the answers of each thread. -/
def CeilingHolds (host : Host) (own : ℕ → List (Σ q, Answer q)) (history : List BridgeStore) (s : BridgeStore) : Prop :=
  (activeRounds s).length ≤ 2 ∧ ∀ a b, activeRounds s = [a,b] → sameProject a b = false ∧
    ∃ u u' i, [u',u] <:+: history ∧ activeRounds u = [a] ∧ activeRounds u' = [a,b] ∧ Verified host (own i) u a b

theorem CeilingHolds.cons {host : Host} {own : ℕ → List (Σ q, Answer q)} {history : List BridgeStore} {s : BridgeStore}
    (h : CeilingHolds host own history s) (s' : BridgeStore) : CeilingHolds host own (s' :: history) s := by
  refine ⟨h.1,fun a b hab => ?_⟩
  obtain ⟨hdiffer,u,u',i,hblock,hrest⟩ := h.2 a b hab
  exact ⟨hdiffer,u,u',i,hblock.trans (List.suffix_cons s' history).isInfix,hrest⟩

/-- One commit keeps the ceiling. -/
theorem CeilingHolds.step {host : Host} {own : ℕ → List (Σ q, Answer q)} {history : List BridgeStore} {s s' : BridgeStore}
    {i : ℕ} (h : CeilingHolds host own (s :: history) s) (hstep : CeilingStep host (own i) s s') :
    CeilingHolds host own (s' :: s :: history) s' := by
  rcases hstep with hshrink | ⟨request,hactive,hempty | ⟨other,hother,hdiffer,hverified⟩⟩
  · refine ⟨hshrink.length_le.trans h.1,fun a b hab => ?_⟩
    -- the two rounds of the later state are the two of the earlier one
    have hsame : activeRounds s = [a,b] := by
      have hlen := h.1
      unfold ActiveShrinks at hshrink
      rw [hab] at hshrink
      exact (hshrink.eq_of_length_le (by simpa using hlen)).symm
    exact (h.cons s').2 a b hsame
  · rw [hempty] at hactive
    refine ⟨by simp [hactive],fun a b hab => ?_⟩
    rw [hactive] at hab
    simp at hab
  · rw [hother] at hactive
    refine ⟨by simp [hactive],fun a b hab => ?_⟩
    rw [hactive] at hab
    simp only [List.cons_append,List.nil_append,List.cons.injEq,and_true] at hab
    obtain ⟨rfl,rfl⟩ := hab
    exact ⟨hdiffer,s,s',i,⟨[],history,rfl⟩,hother,hactive,hverified⟩

theorem ceiling_chain {host : Host} {own : ℕ → List (Σ q, Answer q)} {history : List BridgeStore}
    (hchain : List.IsChain (fun s' s => ∃ i, CeilingStep host (own i) s s') history)
    (hfirst : ∀ s, history.getLast? = some s → (activeRounds s).length ≤ 1) :
    ∀ s ∈ history, CeilingHolds host own history s := by
  induction history with
  | nil => exact fun s hs => by cases hs
  | cons s' rest ih =>
    cases rest with
    | nil =>
      intro s hs
      obtain rfl := List.mem_singleton.mp hs
      have hlen := hfirst s rfl
      refine ⟨by omega,fun a b hab => ?_⟩
      rw [hab] at hlen
      simp at hlen
    | cons s₁ rest =>
      obtain ⟨⟨i,hstep⟩,hrest⟩ := List.isChain_cons_cons.mp hchain
      have hold := ih hrest fun s hs => hfirst s (by simpa using hs)
      intro s hs
      rcases List.mem_cons.mp hs with rfl | hs
      · exact (hold s₁ List.mem_cons_self).step hstep
      · exact (hold s hs).cons s'

/-- The round ceiling, over every interleaving of round calls on one host with anything that leaves
the rounds alone: never more than two unfinished rounds; two of them are of different projects,
and the later one was added by a commit in whose state a live canary binds both or a
delivered ceiling change is open. -/
theorem round_ceiling {host : Host} {s₀ : BridgeStore} {w : BridgeWorld} (h₀ : (activeRounds s₀).length ≤ 1)
    (h : World.Reachable (ceilingSystem host) (World.init s₀) w) : ∀ s ∈ w.trace.history,
      (activeRounds s).length ≤ 2 ∧ ∀ a b, activeRounds s = [a,b] → sameProject a b = false ∧
        ∃ u u' i, [u',u] <:+: w.trace.history ∧ activeRounds u = [a] ∧ activeRounds u' = [a,b] ∧
          ((∃ (now : String) (c : LiveCanary host u now), (i,⟨.clock,now⟩) ∈ w.trace.log ∧ c.Binds a ∧ c.Binds b) ∨
            Nonempty (OpenCeiling host u)) := by
  have hchain : List.IsChain (fun s' s => ∃ i, CeilingStep host (World.answersOf w.trace i) s s') w.trace.history :=
    World.Reachable.owned_chain (fun _ _ _ _ => CeilingStep.mono) (fun p hp => owned_roundCall hp) h
  have hfirst : ∀ s, w.trace.history.getLast? = some s → (activeRounds s).length ≤ 1 := by
    have hlast : w.trace.history.getLast? = some s₀ := h.getLast?_history
    intro s hs
    obtain rfl : s₀ = s := Option.some.inj (hlast.symm.trans hs)
    exact h₀
  intro s hs
  obtain ⟨hlen,htwo⟩ := ceiling_chain hchain hfirst s hs
  refine ⟨hlen,fun a b hab => ?_⟩
  obtain ⟨hdiffer,u,u',i,hblock,hu,hu',hverified⟩ := htwo a b hab
  refine ⟨hdiffer,u,u',i,hblock,hu,hu',hverified.imp_left ?_⟩
  rintro ⟨now,c,hnow,hbinds⟩
  exact ⟨now,c,World.mem_answersOf.mp hnow,hbinds⟩

/-! ### Two streams by a canary -/

/-- The SHA-256 of the authorization below. -/
def canaryDigest : String := "ea2c00fad26bcc494bf6f62b0375d21a700576ad061890970198e2311ab1bbef"

/-- The host on the texts that occur here. -/
def canaryHost : Host where
  sha256 _ := canaryDigest
  fromisoformat text :=
    if text = "2030-01-01T00:00:00Z" then some ⟨true,1893456000000000⟩
    else if text = "2030-01-01T12:00:00Z" then some ⟨true,1893499200000000⟩
    else if text = "2030-01-02T00:00:00Z" then some ⟨true,1893542400000000⟩
    else none

def canaryProjectOf (projectId : String) : Json := .obj [("projectId",.str projectId),("planId",.str "plan"),
  ("planVersion",.str "1"),("leadId",.str ("lead." ++ projectId))]

def canaryPayload : Payload := .ofList [("authorizationId",.str "auth1"),("targetTemporaryCeiling",.int 2),
  ("expectedGlobalCeiling",.int 1),("expectedRevision",.int 0),("projects",.arr [canaryProjectOf "p1",canaryProjectOf "p2"]),
  ("workflowId",.str "workflow"),("decisionVersion",.str "1"),("decisionId",.str "roadex:concurrency-canary:auth1"),
  ("question",.str ("Approve the exact live concurrency canary " ++ canaryDigest)),("deadline",.str "2030-01-02T00:00:00Z"),
  ("correlationId",.str "c1"),("idempotencyKey",.str "k1"),("occurredAt",.str "2030-01-01T00:00:00Z"),
  ("digest",.str canaryDigest)]

def canaryRow : ProtocolRow where
  idempotencyKey := "k1"
  digest := canaryDigest
  payload := canaryPayload
  state := .delivered

def approvedDecision : DecisionRow where
  request := .empty
  receipt := .empty
  status := .approved

/-- The first of the two projects is at work. -/
def canaryStore : BridgeStore where
  rounds := Dict.empty.set "r1" reservedRound
  protocol kind := if kind = .canaryAuthorization then Dict.empty.set "auth1" canaryRow else .empty
  decisions := Dict.empty.set "roadex:concurrency-canary:auth1" approvedDecision

def canaryAnswers (token : String) : (q : BridgeQuery) → Answer q
  | .clock => "2030-01-01T12:00:00Z"
  | .token => token
  | q => plainAnswers q

def canaryBridge : Bridge := { host := canaryHost }

def requestCall (roundId projectId : String) : BridgeProg Unit :=
  canaryBridge.requestRound (roundRequest roundId projectId) >>= fun _ => pure ()

/-- The bridge asks for a round of the second project and reserves it. -/
def secondStream : List (Move BridgeStore Held Answer AgentError Unit) :=
  [.start (requestCall "r2" "p2")] ++ World.steps 0 11 (canaryAnswers "t2")

theorem round_ceiling_canary : ∃ w : BridgeWorld, (activeRounds w.trace.store).length = 2 ∧
    ∀ a b, activeRounds w.trace.store = [a,b] → sameProject a b = false ∧ ∃ u, activeRounds u = [a] ∧
      ((∃ (now : String) (c : LiveCanary canaryHost u now), c.Binds a ∧ c.Binds b) ∨ Nonempty (OpenCeiling canaryHost u)) := by
  have hcall : ∀ roundId projectId, ∀ mv ∈ [Move.start (requestCall roundId projectId)], mv.Allowed (ceilingSystem canaryHost) :=
    fun roundId projectId => World.allowed_start (ceilingSystem canaryHost) (.inl ⟨canaryBridge,_,rfl,rfl⟩)
  have hallowed : ∀ mv ∈ secondStream, mv.Allowed (ceilingSystem canaryHost) := by
    simp only [secondStream,List.forall_mem_append]
    exact ⟨hcall _ _,World.allowed_steps _ _ _⟩
  have hplay : ((World.init canaryStore).play (fun _ _ _ => true) (fun _ _ _ => true) secondStream).any (fun w =>
      decide ((activeRounds w.trace.store).length = 2)) = true := by decide +kernel
  obtain ⟨w,hw,hc⟩ := World.exists_reachable _ _ _ (fun _ _ _ _ => trivial) (fun _ _ _ _ => trivial) hallowed hplay
  refine ⟨w,of_decide_eq_true hc,fun a b hab => ?_⟩
  obtain ⟨hdiffer,u,u',i,-,hu,-,hverified⟩ := (round_ceiling (by decide) hw w.trace.store w.trace.store_mem_history).2 a b hab
  refine ⟨hdiffer,u,hu,hverified.imp_left ?_⟩
  rintro ⟨now,c,-,hbinds⟩
  exact ⟨now,c,hbinds⟩

end Overseer.Psychlo
