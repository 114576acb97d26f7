import Overseer.Psychlo.Intents
import Overseer.Psychlo.RoundResults

/-! # Every work request is dispatched at most once

Any number of bridges drive the work requests of one store. Whoever inserts the intent holds
the only ticket for the call, so the lead and the supervisor are called at most once for a
request, however the passes interleave and wherever they stop; and the intent that a call
finds bears the identity that the dispatcher prepared.
-/
namespace Overseer.Psychlo
open Overseer.Library Overseer.Agent

/-- Any bridge's passes over the work requests, and whatever else runs over the same store. -/
def coordinationCall (p : BridgeProg Unit) : Prop :=
  (∃ (b : Bridge) (value : Payload), p = ignoring (b.receiveCoordinationWorkRequest value)) ∨
  (∃ (b : Bridge) (limit : ℕ), p = ignoring (b.tick limit)) ∨
  (∃ b : Bridge, p = ignoring b.recoverProtocolRecords) ∨ Bystander p

def coordinationSystem : BridgeSystem where
  start := coordinationCall
  valid _ _ _ := True
  guard _ _ _ := True

def coordinationDiscipline : Discipline BridgeStore Held Answer AgentError Unit where
  sys := coordinationSystem
  ok _ := True
  step := IntentsKept
  idle _ := .of_eq fun _ => rfl

abbrev Coordinated {α : Type} (p : BridgeProg α) : Prop := coordinationDiscipline.Licensed coordinationTickets Intended p

instance (priority := low) coordinated_of_bystander {α : Type} {p : BridgeProg α} [Bystander p] : Coordinated p := by
  have hadmits : ∀ s s', coordinationDiscipline.ok s → IntentsKept s s' →
      coordinationDiscipline.step s s' ∧ coordinationDiscipline.ok s' := fun _ _ _ h => ⟨h,trivial⟩
  exact Discipline.licensed_of_tame hadmits intended_of_unmarked

theorem Coordinated.bind {α β : Type} {p : BridgeProg α} {f : α → BridgeProg β} (hp : Coordinated p)
    (hf : ∀ a, Coordinated (f a)) : Coordinated (p >>= f) := Discipline.licensed_bind

theorem kept_after {u s : BridgeStore} (h : coordinationDiscipline.After u s) : IntentsKept u s :=
  h.lift (fun _ => .of_eq fun _ => rfl) (fun s s' s'' => (inferInstance : IsPreorder BridgeStore IntentsKept).trans s s' s'')
    fun _ _ _ hstep => hstep

/-! ### Inserting an intent -/

theorem intents_setIntents (s : BridgeStore) (kind : IntentKind) (d : Dict CoordinationIntent) :
    (s.setIntents kind d).intents kind = d := by
  cases kind <;> rfl

theorem insertIntent_ok {kind : IntentKind} {i : IntentSpec} {s s' : BridgeStore} {inserted : Bool}
    (h : insertIntent kind i s = .ok (inserted,s')) :
    (inserted = false ∧ s' = s) ∨ (inserted = true ∧ (s.intents kind).get? i.requestId = none ∧
      s' = s.setIntents kind ((s.intents kind).set i.requestId i.row)) := by
  have hpost : (insertIntent kind i).Post s fun inserted s' => (inserted = false ∧ s' = s) ∨
      (inserted = true ∧ (s.intents kind).get? i.requestId = none ∧
        s' = s.setIntents kind ((s.intents kind).set i.requestId i.row)) := by
    unfold insertIntent
    rw [Tx.post_bind,Tx.post_read]
    cases hrow : (s.intents kind).get? i.requestId with
    | some row => simp
    | none => simp
  exact hpost.of_ok h

theorem insertIntent_kept {kind : IntentKind} {i : IntentSpec} {s s' : BridgeStore} {inserted : Bool}
    (h : insertIntent kind i s = .ok (inserted,s')) : IntentsKept s s' := by
  rcases insertIntent_ok h with ⟨-,rfl⟩ | ⟨-,hnone,rfl⟩
  · exact .of_eq fun _ => rfl
  · intro kind' id row hrow
    by_cases hk : kind' = kind
    · subst hk
      rw [intents_setIntents,Dict.get?_set]
      split
      · next hid =>
        rw [hid,hnone] at hrow
        cases hrow
      · exact ⟨row,hrow,rfl⟩
    · have hother : (s.setIntents kind ((s.intents kind).set i.requestId i.row)).intents kind' = s.intents kind' := by
        cases kind <;> cases kind' <;> first | rfl | exact absurd rfl hk
      exact ⟨row,by rw [hother,hrow],rfl⟩

/-- Who inserted the intent. -/
def Won (kind : IntentKind) (i : IntentSpec) (s : BridgeStore) : Prop :=
  ∃ row, (s.intents kind).get? i.requestId = some row ∧ row.externalId = i.externalId

theorem Won.after {kind : IntentKind} {i : IntentSpec} {u s : BridgeStore} (h : Won kind i u)
    (hs : coordinationDiscipline.After u s) : Won kind i s := by
  obtain ⟨row,hrow,hid⟩ := h
  obtain ⟨row',hrow',hid'⟩ := kept_after hs kind _ row hrow
  exact ⟨row',hrow',hid'.trans hid⟩

theorem insertIntent_won {kind : IntentKind} {i : IntentSpec} {s s' : BridgeStore}
    (h : insertIntent kind i s = .ok (true,s')) : Won kind i s' ∧ coordinationTickets.Issues (kind,i.requestId) s s' := by
  rcases insertIntent_ok h with ⟨hfalse,-⟩ | ⟨-,hnone,rfl⟩
  · cases hfalse
  · have hnew : ((s.setIntents kind ((s.intents kind).set i.requestId i.row)).intents kind).get? i.requestId = some i.row := by
      rw [intents_setIntents,Dict.get?_set,if_pos rfl]
    refine ⟨⟨i.row,hnew,rfl⟩,fun hgone => hgone hnone,?_⟩
    change _ ≠ none
    rw [hnew]
    simp

section Create
variable {kind : IntentKind} {i : IntentSpec} {u : BridgeStore}

theorem pays_createCoordinationIntent (own : IntentKind × String → Prop) : coordinationDiscipline.Pays coordinationTickets
    (fun own' r _ => r.2 = true → own' (kind,i.requestId)) own (createCoordinationIntent kind i) u := by
  unfold createCoordinationIntent
  refine Discipline.pays_require_bind fun _ => ?_
  have hinsert : coordinationDiscipline.Pays coordinationTickets (fun own' inserted _ => inserted = true →
      own' (kind,i.requestId)) own (atomically (insertIntent kind i) : BridgeProg Bool) u := by
    refine Discipline.pays_transaction fun s _ _ inserted s' hrun _ => ?_
    refine ⟨⟨insertIntent_kept hrun,trivial⟩,fun hwon => ?_⟩
    subst hwon
    exact .inr (insertIntent_won hrun).2
  refine Discipline.pays_bind hinsert ?_
  · intro own' inserted u' _ hinserted
    have hrest : coordinationDiscipline.From (fun r _ => r.2 = inserted)
        (do
          let intent ← orRaise (← atomically (coordinationIntent kind i.requestId)) ⟨.type,"intent is missing"⟩
          return (intent,inserted) : BridgeProg (CoordinationIntent × Bool)) u' :=
      Discipline.from_read_bind fun s _ _ => Discipline.from_orRaise_bind fun intent _ => rfl
    refine (Discipline.pays_of_from hrest ?_).imp fun own'' r u'' h hwon => h.1 _ (hinserted (h.2.symm.trans hwon))
    exact (inferInstance : Prog.Silent coordinationTickets.marked _).asks

theorem vouched_createCoordinationIntent (own : List (Σ q, Answer q)) : coordinationDiscipline.Vouched Intended
    (fun _ r u' => r.2 = true → Won kind i u') own (createCoordinationIntent kind i) u := by
  unfold createCoordinationIntent
  refine Discipline.vouched_require_bind fun _ => ?_
  have hinsert : coordinationDiscipline.Vouched Intended (fun _ inserted u' => inserted = true → Won kind i u') own
      (atomically (insertIntent kind i) : BridgeProg Bool) u := by
    refine Discipline.vouched_transaction fun s _ _ inserted s' hrun _ => ?_
    refine ⟨⟨insertIntent_kept hrun,trivial⟩,fun hwon => ?_⟩
    subst hwon
    exact (insertIntent_won hrun).1
  refine Discipline.vouched_bind hinsert fun own' inserted u' _ _ hinserted => ?_
  have hread : coordinationDiscipline.Vouched Intended (fun _ _ u'' => inserted = true → Won kind i u'') own'
      (atomically (coordinationIntent kind i.requestId) : BridgeProg (Option CoordinationIntent)) u' := by
    refine Discipline.vouched_transaction fun s hs _ a s' hrun _ => ?_
    cases hrun
    exact ⟨⟨.of_eq fun _ => rfl,trivial⟩,fun hwon => (hinserted hwon).after hs⟩
  refine Discipline.vouched_bind hread fun own'' intent u'' _ _ h => ?_
  exact Discipline.vouched_orRaise_bind fun intent _ => h

end Create

/-! ### The two calls -/

section Calls
variable (b : Bridge)

theorem reviewContext_requestId (request binding : Payload) (requestId : String) (results : List (String × ProtocolRow))
    (trigger : ProtocolRow) : (Bridge.reviewContext request binding requestId results trigger).get "requestId" = .str requestId := by
  simp [Bridge.reviewContext,Payload.get,Dict.merge,Dict.get?_set]

theorem vouched_dispatchPending {α : Type} {requestId error : String} {own : List (Σ q, Answer q)} {u : BridgeStore}
    {Ret : List (Σ q, Answer q) → α → BridgeStore → Prop} :
    coordinationDiscipline.Vouched Intended Ret own (Bridge.dispatchPending requestId error) u := by
  unfold Bridge.dispatchPending
  refine Discipline.vouched_bind ((inferInstance : Coordinated (transitionProtocol _ _ _ _)).vouched own u) ?_
  exact fun _ _ _ _ _ _ => trivial

theorem vouched_prepareLead (value : Payload) (own : List (Σ q, Answer q)) (u : BridgeStore) :
    coordinationDiscipline.Vouched Intended (fun own' dispatchId _ => ∃ v,
      ⟨.prepare (value.get "leadId").text (value.get "scope").text (value.get "id").text,some v⟩ ∈ own' ∧ dispatchId = v.text)
      own (b.prepareLead value) u := by
  unfold Bridge.prepareLead
  refine Discipline.vouched_require_bind fun _ => ?_
  refine Discipline.vouched_ask_bind (fun _ _ => trivial) fun answer => ?_
  refine Discipline.vouched_orRaise_bind fun v hv => ?_
  refine Discipline.vouched_require_bind fun _ => ?_
  exact ⟨v,hv ▸ List.mem_cons_self,rfl⟩

instance (value : Payload) : Coordinated (b.dispatchLead value) where
  pays own u := by
    unfold Bridge.dispatchLead
    refine Discipline.pays_bind ((inferInstance : Coordinated (rescue (b.prepareLead value) _)).pays own u) ?_
    intro own' dispatchId u' _ _
    refine Discipline.pays_bind (pays_createCoordinationIntent own') ?_
    rintro own'' ⟨dispatch,winner⟩ u'' _ hwon
    dsimp only at hwon ⊢
    split
    · next hw =>
      refine Discipline.Pays.handle ?_ fun own₃ e u₃ _ => (inferInstance : Coordinated (Bridge.dispatchPending _ _)).pays own₃ u₃
      refine Discipline.pays_ask_bind ?_ fun raw => ?_
      · rintro c hc
        cases hc
        exact hwon hw
      · exact (inferInstance : Coordinated _).pays _ _
    · trivial
  vouched own u := by
    unfold Bridge.dispatchLead
    refine Discipline.vouched_bind ((vouched_prepareLead b value own u).handle fun _ _ _ _ => vouched_dispatchPending) ?_
    rintro own' dispatchId u' _ - ⟨v,hv,rfl⟩
    refine Discipline.vouched_bind (vouched_createCoordinationIntent own') ?_
    rintro own'' ⟨dispatch,winner⟩ u'' _ hsub hwon
    dsimp only at hwon ⊢
    split
    · next hw =>
      refine Discipline.Vouched.handle ?_ fun _ _ _ _ => vouched_dispatchPending
      refine Discipline.vouched_ask_bind (fun s hs => ?_) fun raw => ?_
      · obtain ⟨row,hrow,hid⟩ := (hwon hw).after hs
        exact ⟨row,v,hrow,hsub hv,hid⟩
      · exact (inferInstance : Coordinated _).vouched _ _
    · trivial

instance (request binding : Payload) (requestId leadId key : String) (results : List (String × ProtocolRow)) (trigger : ProtocolRow) :
    Coordinated (b.dispatchReview requestId leadId (Bridge.reviewContext request binding requestId results trigger) key) where
  pays own u := by
    have hid := reviewContext_requestId request binding requestId results trigger
    generalize Bridge.reviewContext request binding requestId results trigger = context at hid
    unfold Bridge.dispatchReview
    refine Discipline.pays_require_bind fun _ => ?_
    refine Discipline.pays_ask_bind (fun c hc => by cases hc) fun answer => ?_
    refine Discipline.pays_orRaise_bind fun v _ => ?_
    refine Discipline.pays_require_bind fun _ => ?_
    refine Discipline.pays_bind (pays_createCoordinationIntent _) ?_
    rintro own' ⟨review,winner⟩ u' _ hwon
    dsimp only at hwon ⊢
    split
    · next hw =>
      refine Discipline.Pays.handle ?_ fun _ _ _ _ => trivial
      refine Discipline.pays_ask_bind ?_ fun sent => ?_
      · rintro c hc
        cases hc
        rw [hid]
        exact hwon hw
      · exact (inferInstance : Coordinated _).pays _ _
    · trivial
  vouched own u := by
    have hid := reviewContext_requestId request binding requestId results trigger
    generalize Bridge.reviewContext request binding requestId results trigger = context at hid
    unfold Bridge.dispatchReview
    refine Discipline.vouched_require_bind fun _ => ?_
    refine Discipline.vouched_ask_bind (fun _ _ => trivial) fun answer => ?_
    refine Discipline.vouched_orRaise_bind fun v hv => ?_
    refine Discipline.vouched_require_bind fun _ => ?_
    refine Discipline.vouched_bind (vouched_createCoordinationIntent _) ?_
    rintro own' ⟨review,winner⟩ u' _ hsub hwon
    dsimp only at hwon ⊢
    split
    · next hw =>
      refine Discipline.Vouched.handle ?_ fun _ _ _ _ => trivial
      refine Discipline.vouched_ask_bind (fun s hs => ?_) fun sent => ?_
      · obtain ⟨row,hrow,hext⟩ := (hwon hw).after hs
        refine ⟨row,v,?_,hsub (hv ▸ List.mem_cons_self),hext⟩
        rw [hid]
        exact hrow
      · exact (inferInstance : Coordinated _).vouched _ _
    · trivial

end Calls

/-! ### The passes -/

section Passes
variable (b : Bridge)

instance (requestId : String) : Coordinated (b.maybeDispatchSupervisor requestId) := by
  unfold Bridge.maybeDispatchSupervisor
  refine .bind inferInstance fun record => ?_
  cases record with
  | none => infer_instance
  | some record =>
    have : ∀ requests ids, Bystander (deliveredResults requests ids) := bystander_deliveredResults
    refine .bind inferInstance fun binding => .bind inferInstance fun requests => .bind inferInstance fun _ => ?_
    refine .bind inferInstance fun review => ?_
    cases review with
    | some review => infer_instance
    | none =>
      refine .bind inferInstance fun results => ?_
      split
      · infer_instance
      · split <;> infer_instance

instance (requestId : String) : Coordinated (b.collectSupervisorReview requestId) := by
  unfold Bridge.collectSupervisorReview
  refine .bind inferInstance fun _ => .bind inferInstance fun _ => .bind inferInstance fun review => ?_
  cases review with
  | none => infer_instance
  | some review =>
    refine .bind inferInstance fun review => ?_
    cases review with
    | none => infer_instance
    | some review =>
      dsimp only
      split
      · infer_instance
      · split
        · infer_instance
        · refine .bind inferInstance fun answer => .bind inferInstance fun value => ?_
          cases value <;> dsimp only <;> infer_instance

instance (request value : Payload) : Coordinated (b.persistParticipantResult request value) := by
  unfold Bridge.persistParticipantResult
  refine .bind inferInstance fun recorded => .bind inferInstance fun row => ?_
  infer_instance

instance (value : Payload) : Coordinated (b.ensureDispatch value) := by
  unfold Bridge.ensureDispatch
  refine .bind inferInstance fun dispatch => ?_
  cases dispatch <;> dsimp only <;> infer_instance

instance (requestId : String) (value result : Payload) (dispatchId : BridgeProg String) [Coordinated dispatchId] :
    Coordinated (b.reportResult requestId value result dispatchId) := by
  unfold Bridge.reportResult
  infer_instance

instance (requestId : String) : Coordinated (b.driveCoordinationRequest requestId) := by
  unfold Bridge.driveCoordinationRequest
  refine .bind inferInstance fun found => .bind inferInstance fun record => .bind inferInstance fun review => ?_
  cases review with
  | some review => infer_instance
  | none =>
    refine .bind inferInstance fun result => ?_
    cases result with
    | some result => infer_instance
    | none =>
      refine .bind inferInstance fun dispatch => ?_
      dsimp only
      split
      · refine .bind inferInstance fun result => ?_
        cases result <;> dsimp only <;> infer_instance
      · infer_instance

instance (value : Payload) : Coordinated (b.receiveCoordinationWorkRequest value) := by
  unfold Bridge.receiveCoordinationWorkRequest
  refine .bind inferInstance fun _ => .bind inferInstance fun _ => .bind inferInstance fun _ => ?_
  infer_instance

instance (kind : ProtocolKind) (id error : String) (report : Bridge.PassReport) (work : BridgeProg Unit) [Coordinated work] :
    Coordinated (Bridge.attempt kind id error report work) := by
  unfold Bridge.attempt
  infer_instance

theorem coordinated_pollAll (report : Bridge.PassReport) (records : List (String × ProtocolRow)) :
    Coordinated (b.pollAll report records) := by
  induction records generalizing report with
  | nil =>
    unfold Bridge.pollAll
    infer_instance
  | cons record rest ih =>
    unfold Bridge.pollAll
    infer_instance

instance (limit : ℕ) : Coordinated (b.tick limit) := by
  have : ∀ records, Coordinated (b.pollAll {} records) := coordinated_pollAll b {}
  unfold Bridge.tick
  infer_instance

instance (kind : ProtocolKind) (id : String) (row : ProtocolRow) : Coordinated (b.recoverRecord kind id row) := by
  unfold Bridge.recoverRecord
  split <;> infer_instance

theorem coordinated_recoverAll (kind : ProtocolKind) (report : Bridge.PassReport) (records : List (String × ProtocolRow)) :
    Coordinated (b.recoverAll kind report records) := by
  induction records generalizing report with
  | nil =>
    unfold Bridge.recoverAll
    infer_instance
  | cons record rest ih =>
    unfold Bridge.recoverAll
    infer_instance

theorem coordinated_recoverKinds (report : Bridge.PassReport) (kinds : List ProtocolKind) :
    Coordinated (b.recoverKinds report kinds) := by
  induction kinds generalizing report with
  | nil =>
    unfold Bridge.recoverKinds
    infer_instance
  | cons kind rest ih =>
    have : ∀ records, Coordinated (b.recoverAll kind report records) := coordinated_recoverAll b kind report
    unfold Bridge.recoverKinds
    infer_instance

instance : Coordinated b.recoverProtocolRecords := coordinated_recoverKinds b {} Bridge.recoveredKinds

end Passes

theorem coordinated_of_call {p : BridgeProg Unit} (hp : coordinationCall p) : Coordinated p := by
  rcases hp with ⟨b,value,rfl⟩ | ⟨b,limit,rfl⟩ | ⟨b,rfl⟩ | hp
  · infer_instance
  · infer_instance
  · infer_instance
  · infer_instance

/-! ### Runs -/

/-- How often the lead was called for a request. -/
def leadCalls (t : BridgeTrace) (requestId : String) : ℕ := t.log.countP fun e => match e.2.1 with
  | .dispatch _ _ id => id = requestId
  | _ => false

/-- How often the supervisor was called for a request. -/
def supervisorCalls (t : BridgeTrace) (requestId : String) : ℕ := t.log.countP fun e => match e.2.1 with
  | .dispatchReview _ context _ => (context.get "requestId").text = requestId
  | _ => false

theorem put_lead (t : BridgeTrace) (requestId : String) :
    coordinationTickets.put t.log (.dispatch,requestId) = leadCalls t requestId := by
  refine congrArg (fun f => t.log.countP f) (funext fun e => ?_)
  obtain ⟨i,q,a⟩ := e
  cases q <;> simp [coordinationTickets]

theorem put_supervisor (t : BridgeTrace) (requestId : String) :
    coordinationTickets.put t.log (.review,requestId) = supervisorCalls t requestId := by
  refine congrArg (fun f => t.log.countP f) (funext fun e => ?_)
  obtain ⟨i,q,a⟩ := e
  cases q <;> simp [coordinationTickets]

/-- In every run the lead and the supervisor are called at most once for a work request; and
a pass that is about to call one finds the intent stored, under the identity that the
dispatcher gave this very pass when it was asked to prepare. -/
theorem coordination_dispatched_once {s₀ : BridgeStore} {w : BridgeWorld} (h : World.Reachable coordinationSystem (World.init s₀) w) :
    (∀ requestId, leadCalls w.trace requestId ≤ 1 ∧ supervisorCalls w.trace requestId ≤ 1) ∧
    (∀ i leadId scope requestId k, w.threads[i]? = some (.call (.dispatch leadId scope requestId) k) →
      ∃ row v, w.trace.store.dispatches.get? requestId = some row ∧
        (i,⟨.prepare leadId scope requestId,some v⟩) ∈ w.trace.log ∧ row.externalId = v.text) ∧
    ∀ i leadId context key k, w.threads[i]? = some (.call (.dispatchReview leadId context key) k) →
      ∃ row v, w.trace.store.reviews.get? (context.get "requestId").text = some row ∧
        (i,⟨.prepareReview leadId context key,some v⟩) ∈ w.trace.log ∧ row.externalId = v.text := by
  have honce := World.Reachable.tickets (D := coordinationDiscipline) (T := coordinationTickets)
    (fun p hp u => (coordinated_of_call hp).pays _ u) ?_ trivial h
  · have hrule : ∀ {i : ℕ} {q : BridgeQuery} {k : Answer q → BridgeProg Unit}, w.threads[i]? = some (.call q k) →
        Intended (World.answersOf w.trace i) w.trace.store q := World.Reachable.vouched (D := coordinationDiscipline)
      (fun p hp u => (coordinated_of_call hp).vouched _ u) trivial h
    refine ⟨fun requestId => ?_,fun i leadId scope requestId k hi => ?_,fun i leadId context key k hi => ?_⟩
    · rw [← put_lead,← put_supervisor]
      exact ⟨(honce _).1,(honce _).1⟩
    · obtain ⟨row,v,hrow,hv,hid⟩ := hrule hi
      exact ⟨row,v,hrow,World.mem_answersOf.mp hv,hid⟩
    · obtain ⟨row,v,hrow,hv,hid⟩ := hrule hi
      exact ⟨row,v,hrow,World.mem_answersOf.mp hv,hid⟩
  · intro c s s' _ hkept hgone
    obtain ⟨row,hrow⟩ := Option.ne_none_iff_exists'.mp hgone
    obtain ⟨row',hrow',-⟩ := hkept c.1 c.2 row hrow
    change _ ≠ none
    rw [hrow']
    simp

/-- A work request that waits for its lead. -/
def waitingRequest : ProtocolRow where
  idempotencyKey := "w"
  digest := ""
  payload := .ofList [("id",.str "w"),("leadId",.str "l"),("scope",.str "s")]

def waitingStore : BridgeStore where
  protocol kind := if kind = .coordinationWorkRequest then Dict.empty.set "w" waitingRequest else .empty

/-- One polling pass: it reads the request, prepares the dispatch, stores the intent and calls the lead. -/
def oneTick : List (Move BridgeStore Held Answer AgentError Unit) :=
  [.start (ignoring (exampleBridge.tick 1))] ++ World.steps 0 11 plainAnswers

theorem coordination_dispatched_once_tick : ∃ w : BridgeWorld, World.Reachable coordinationSystem (World.init waitingStore) w ∧
    leadCalls w.trace "w" = 1 ∧ ∀ requestId, leadCalls w.trace requestId ≤ 1 ∧ supervisorCalls w.trace requestId ≤ 1 := by
  have hallowed : ∀ mv ∈ oneTick, mv.Allowed coordinationSystem := by
    simp only [oneTick,List.forall_mem_append]
    exact ⟨World.allowed_start coordinationSystem (.inr (.inl ⟨exampleBridge,1,rfl⟩)),World.allowed_steps _ _ _⟩
  have hplay : ((World.init waitingStore).play (fun _ _ _ => true) (fun _ _ _ => true) oneTick).any
      (fun w => leadCalls w.trace "w" = 1) = true := by decide +kernel
  obtain ⟨w,hw,hc⟩ := World.exists_reachable _ _ _ (fun _ _ _ _ => trivial) (fun _ _ _ _ => trivial) hallowed hplay
  exact ⟨w,hw,of_decide_eq_true hc,(coordination_dispatched_once hw).1⟩

end Overseer.Psychlo
