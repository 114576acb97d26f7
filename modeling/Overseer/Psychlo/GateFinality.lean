import Overseer.Psychlo.GateRows
import Overseer.Psychlo.RoundResults

/-! # When a settled gate stays settled

A forward that comes after the settlement writes `reconciled` over a refused execution and
lifts the block. In the runs in which no forward does, a refused execution blocks its project
for ever, an approved one holds nothing back, and receipt and decision agree.
-/
namespace Overseer.Psychlo
open Overseer.Library Overseer.Agent

/-- Any bridge's calls about external rounds, restarts included, and whatever else runs over
the same store. -/
def gateCall (p : BridgeProg Unit) : Prop :=
  (∃ (b : Bridge) (payload : Payload), p = ignoring (b.receiveExternalRound payload)) ∨
  (∃ request : Payload, p = ignoring (Bridge.stageDecision request)) ∨
  (∃ (decisionId : String) (choice : Bridge.Choice) (decidedBy reason : String), p = Bridge.decide decisionId choice decidedBy reason) ∨
  (∃ payload : Payload, p = ignoring (Bridge.receiveExternalDecisionOutcome payload)) ∨
  p = Bridge.recoverDecisionIntents ∨
  p.Steps fun s _ s' => s'.external = s.external ∧ s'.decisions = s.decisions

def gateSystem : BridgeSystem where
  start := gateCall
  valid _ _ _ := True
  guard _ _ _ := True

/-- The runs in which every write of a forward leaves what is settled. -/
def heedfulSystem : BridgeSystem where
  start := gateCall
  valid _ _ _ := True
  guard s held _ := ∀ f, held.forwarding = some f → ForwardAllowed s f

def gateDiscipline : Discipline BridgeStore Held Answer AgentError Unit where
  sys := heedfulSystem
  ok := GateInv
  step := GateStep
  idle _ := .of_eq rfl rfl

instance : Discipline.Admits gateDiscipline GateKept := ⟨fun _ _ hs h => h hs⟩

/-! ### Programs -/

section Sound

instance {α : Type} (c : Check α) : gateDiscipline.Sound (liftProg c) := by
  cases c <;> exact ⟨fun _ => trivial⟩

instance : gateDiscipline.Sound (ask .clock : BridgeProg String) := ⟨fun _ _ => trivial⟩
instance : gateDiscipline.Sound (ask .storeClock : BridgeProg String) := ⟨fun _ _ => trivial⟩
instance (kind : PeerKind) (id : String) (payload : Payload) :
    gateDiscipline.Sound (ask (.sender kind id payload) : BridgeProg (Option Payload)) := ⟨fun _ _ => trivial⟩

instance (id : String) : Tx.Keeps GateKept (externalExecution id) := by
  unfold externalExecution
  infer_instance

instance (id : String) : Tx.Keeps GateKept (decisionOf id) := by
  unfold decisionOf
  infer_instance

instance (id : String) : Tx.Keeps GateKept (decisionIntent id) := by
  unfold decisionIntent
  infer_instance

instance (decisionId : String) (intent : DecisionIntent) : Tx.Keeps GateKept (insertDecisionIntent decisionId intent) := by
  have hwrite : Tx.Keeps GateKept (Tx.write fun s : BridgeStore =>
      { s with decisionIntents := s.decisionIntents.set decisionId intent } : BridgeTx Unit) :=
    ⟨fun s hs => ⟨.of_eq rfl rfl,hs.of_eq rfl rfl⟩⟩
  unfold insertDecisionIntent
  infer_instance

instance (id decisionId workflowId : String) : gateDiscipline.Sound (linkExternalGate id decisionId workflowId) := by
  unfold linkExternalGate
  infer_instance

theorem sound_writeForward {f : Forwarding} (hc : (f.copy.get "decisionStatus").hashable = true) (forwarded : Bool) :
    gateDiscipline.Sound (writeForward f forwarded) := by
  refine ⟨fun u => Discipline.from_transaction fun s _ hs _ s' hrun hguard => ?_⟩
  obtain ⟨hstep,hinv⟩ := gate_writeForward hs hc (hguard f rfl) hrun
  exact ⟨hstep,hinv,trivial⟩

instance (id : String) : gateDiscipline.Sound (markExternalForwarded id) := by
  refine ⟨fun u => ?_⟩
  unfold markExternalForwarded
  refine Discipline.from_read_bind fun s _ hs => Discipline.from_orRaise_bind fun record hrecord => ?_
  exact (sound_writeForward (hs.hashed id record hrecord) true).sound s

theorem hashable_found {s : BridgeStore} (hs : GateInv s) (id : String) :
    ((foundReceipt (s.external.get? id)).get "decisionStatus").hashable = true := by
  cases hrow : s.external.get? id with
  | none => rfl
  | some row => exact hs.hashed id row hrow

instance (id : String) : gateDiscipline.Sound (forwardExternal.forwardFailed id) := by
  refine ⟨fun u => ?_⟩
  unfold forwardExternal.forwardFailed
  refine Discipline.from_read_bind fun s _ hs => ?_
  have hc := hashable_found hs id
  exact (sound_writeForward hc false).sound s

instance (id : String) (envelope : Payload) : gateDiscipline.Sound (forwardExternal id envelope) := by
  refine ⟨fun u => ?_⟩
  unfold forwardExternal
  refine Discipline.from_ask_bind fun answer => ?_
  cases answer with
  | none => exact (inferInstance : gateDiscipline.Sound (forwardExternal.forwardFailed id)).sound u
  | some response =>
    dsimp only
    split
    · refine Discipline.from_read_bind fun s _ hs => ?_
      have hc := hashable_found hs id
      split
      · refine Discipline.from_require_bind fun _ => ?_
        exact ((sound_writeForward hc false).bind fun _ => inferInstance).sound s
      · exact (inferInstance : gateDiscipline.Sound (markExternalForwarded id)).sound s
    · exact (inferInstance : gateDiscipline.Sound (forwardExternal.forwardFailed id)).sound u

theorem sound_recordExternal {id : String} {row : ExternalRow}
    (hgate : ∀ d, row.gateDecisionId = some d → d = gateId id ∧ (row.payload.get "explicitGate").truthy = true)
    (hh : (row.receipt.get "decisionStatus").hashable = true) : gateDiscipline.Sound (recordExternal id row) := by
  have hinsert : Tx.Keeps GateKept (insertExternal id row) := keeps_of_run fun s _ s' hs hrun => gate_insertExternal hs hgate hh hrun
  unfold recordExternal
  infer_instance

instance (envelope : Payload) (decisionId : String) : gateDiscipline.Sound (ensureExternalDecision envelope decisionId) := by
  unfold ensureExternalDecision
  refine .bind inferInstance fun _ => .bind inferInstance fun existing => ?_
  cases existing <;> dsimp only <;> infer_instance

theorem externalRow_gate {envelope : Payload} {now d : String} (h : (Bridge.externalRow envelope now).gateDecisionId = some d) :
    d = gateId (envelope.get "reconciliationId").text ∧ ((Bridge.externalRow envelope now).payload.get "explicitGate").truthy = true := by
  simp only [Bridge.externalRow] at h ⊢
  split at h
  · next hgate => exact ⟨(Option.some.inj h).symm,hgate⟩
  · cases h

theorem externalRow_hashable (envelope : Payload) (now : String) :
    ((Bridge.externalRow envelope now).receipt.get "decisionStatus").hashable = true := by
  simp only [Bridge.externalRow]
  split
  · simp [Payload.get,Payload.ofList,Dict.merge,Json.hashable]
  · simp [Payload.get,Payload.ofList,Dict.merge,Json.hashable]

instance (envelope : Payload) (now : String) :
    gateDiscipline.Sound (recordExternal (envelope.get "reconciliationId").text (Bridge.externalRow envelope now)) :=
  sound_recordExternal (fun _ h => externalRow_gate h) (externalRow_hashable envelope now)

section Bridge
variable (b : Bridge)

instance (id : String) (envelope : Payload) : gateDiscipline.Sound (b.checkBinding id envelope) := by
  unfold Bridge.checkBinding
  refine .bind inferInstance fun binding => ?_
  cases binding <;> dsimp only <;> infer_instance

instance (envelope : Payload) (gate : Option String) : gateDiscipline.Sound (Bridge.receiveExternalRound.ensureGate envelope gate) := by
  unfold Bridge.receiveExternalRound.ensureGate
  cases gate <;> dsimp only <;> infer_instance

instance (payload : Payload) : gateDiscipline.Sound (b.receiveExternalRound payload) := by
  unfold Bridge.receiveExternalRound
  refine .bind inferInstance fun envelope => .bind inferInstance fun _ => .bind inferInstance fun existing => ?_
  cases existing <;> dsimp only <;> infer_instance

instance (request : Payload) : gateDiscipline.Sound (Bridge.stageDecision request) := by
  unfold Bridge.stageDecision
  refine .bind inferInstance fun decisionId => ?_
  dsimp only
  split
  · infer_instance
  · next hid =>
    refine .bind inferInstance fun existing => ?_
    have := keeps_recordDecision (Bool.not_eq_true _ ▸ hid) request (Bridge.stagedReceipt request decisionId)
    cases existing <;> dsimp only <;> infer_instance

instance (decisionId : String) (request outcome : Payload) (v : Verdict) :
    gateDiscipline.Sound (recordDecisionIntent decisionId request outcome v) := by
  unfold recordDecisionIntent
  refine .bind inferInstance fun existing => ?_
  cases existing <;> dsimp only <;> infer_instance

instance (decisionId : String) : gateDiscipline.Sound (Bridge.deliverDecisionIntent decisionId) := by
  unfold Bridge.deliverDecisionIntent
  refine .bind inferInstance fun intent => ?_
  cases intent <;> dsimp only <;> infer_instance

instance (request : Payload) (v : Verdict) : gateDiscipline.Sound (Bridge.decideExternal request v) := by
  unfold Bridge.decideExternal
  refine .bind inferInstance fun found => .bind inferInstance fun external => .bind inferInstance fun _ => ?_
  refine .bind inferInstance fun workflowId => .bind inferInstance fun _ => .bind inferInstance fun _ => ?_
  infer_instance

instance (decisionId : String) (choice : Bridge.Choice) (decidedBy reason : String) :
    gateDiscipline.Sound (Bridge.decide decisionId choice decidedBy reason) := by
  unfold Bridge.decide
  refine .bind inferInstance fun _ => .bind inferInstance fun found => .bind inferInstance fun now => ?_
  refine .bind inferInstance fun record => ?_
  dsimp only
  split
  · infer_instance
  · next hid =>
    have := keeps_decideStaged (Bool.not_eq_true _ ▸ hid) ⟨choice.status,decidedBy,now,reason⟩
    infer_instance

instance (payload : Payload) : gateDiscipline.Sound (Bridge.receiveExternalDecisionOutcome payload) := by
  unfold Bridge.receiveExternalDecisionOutcome
  refine .bind inferInstance fun status => .bind inferInstance fun found => .bind inferInstance fun record => ?_
  refine .bind inferInstance fun _ => .bind inferInstance fun stored => .bind inferInstance fun decision => ?_
  refine .bind inferInstance fun _ => .bind inferInstance fun _ => .bind inferInstance fun _ => ?_
  refine .bind inferInstance fun _ => .bind inferInstance fun final => .bind inferInstance fun _ => ?_
  refine .bind inferInstance fun _ => .bind inferInstance fun stored => .bind inferInstance fun decision => ?_
  infer_instance

theorem sound_deliverAll (ids : List String) : gateDiscipline.Sound (Bridge.deliverAll ids) := by
  induction ids with
  | nil =>
    unfold Bridge.deliverAll
    infer_instance
  | cons id rest ih =>
    unfold Bridge.deliverAll
    infer_instance

instance : gateDiscipline.Sound Bridge.recoverDecisionIntents := by
  have : ∀ ids, gateDiscipline.Sound (Bridge.deliverAll ids) := sound_deliverAll
  unfold Bridge.recoverDecisionIntents
  infer_instance

end Bridge

theorem sound_of_gateCall {p : BridgeProg Unit} (hp : gateCall p) : gateDiscipline.Sound p := by
  rcases hp with ⟨b,payload,rfl⟩ | ⟨request,rfl⟩ | ⟨decisionId,choice,decidedBy,reason,rfl⟩ | ⟨payload,rfl⟩ | rfl | hp
  · infer_instance
  · infer_instance
  · infer_instance
  · infer_instance
  · infer_instance
  · have hadmits : ∀ s s', gateDiscipline.ok s → s'.external = s.external ∧ s'.decisions = s.decisions →
        gateDiscipline.step s s' ∧ gateDiscipline.ok s' := fun s s' hs h => ⟨.of_eq h.1 h.2,hs.of_eq h.1 h.2⟩
    exact ⟨fun u => Discipline.from_steps hp hadmits⟩

end Sound

/-! ### What the gates say -/

theorem anyM_true {α : Type} {f : α → Check Bool} {l : List α} (hok : ∀ a ∈ l, ∃ b, f a = .ok b)
    (h : ∃ a ∈ l, f a = .ok true) : l.anyM f = .ok true := by
  induction l with
  | nil =>
    obtain ⟨a,ha,-⟩ := h
    cases ha
  | cons a rest ih =>
    obtain ⟨b,hb⟩ := hok a List.mem_cons_self
    rw [List.anyM,hb]
    cases b with
    | true => rfl
    | false =>
      obtain ⟨a',ha',htrue⟩ := h
      refine ih (fun x hx => hok x (List.mem_cons_of_mem _ hx)) ⟨a',?_,htrue⟩
      rcases List.mem_cons.mp ha' with rfl | ha'
      · rw [hb] at htrue
        cases htrue
      · exact ha'

theorem blocksFor_ok {row : ExternalRow} (hh : (row.receipt.get "decisionStatus").hashable = true) (projectId : String) :
    ∃ b, row.blocksFor projectId = .ok b := by
  unfold ExternalRow.blocksFor memberOf
  rw [if_pos hh]
  split
  · exact ⟨false,rfl⟩
  · split
    · exact ⟨_,rfl⟩
    · exact ⟨false,rfl⟩

theorem RowSettled.blocks {row : ExternalRow} {st : DecisionStatus} (h : RowSettled row st) (hst : st = .rejected ∨ st = .expired)
    (hgate : (row.payload.get "explicitGate").truthy = true) {projectId : String} (hp : row.payload.get "projectId" = .str projectId) :
    row.blocksFor projectId = .ok true := by
  have hstatus : row.status = st.value := h.refusal (by rcases hst with rfl | rfl <;> decide)
  have hproject : (row.payload.get "projectId").alike (.str projectId) = true := by
    rw [hp]
    exact Json.alike_refl _
  unfold ExternalRow.blocksFor
  rw [if_neg (by rw [hstatus]; rcases hst with rfl | rfl <;> decide),if_pos ⟨hproject,hgate⟩,h.told]
  rcases hst with rfl | rfl <;> decide

theorem RowSettled.frees {row : ExternalRow} (h : RowSettled row .approved) (projectId : String) :
    row.pendsFor projectId = .ok false ∧ row.blocksFor projectId = .ok false := by
  constructor
  · unfold ExternalRow.pendsFor
    rw [h.told]
    split
    · rfl
    · split
      · decide
      · rfl
  · unfold ExternalRow.blocksFor
    exact if_pos (h.approval rfl).1

/-! ### Runs -/

/-- The decision of the reconciliation is settled. -/
def SettledAs (s : BridgeStore) (id projectId : String) (st : DecisionStatus) : Prop :=
  st ≠ .staged ∧ ∃ row dec, s.external.get? id = some row ∧ row.payload.get "projectId" = .str projectId ∧
    row.gateDecisionId = some (gateId id) ∧ s.decisions.get? (gateId id) = some dec ∧ dec.status = st

theorem SettledAs.kept {s s' : BridgeStore} {id projectId : String} {st : DecisionStatus} (hstep : GateStep s s')
    (h : SettledAs s id projectId st) : SettledAs s' id projectId st := by
  obtain ⟨hst,row,dec,hrow,hp,hg,hdec,hstatus⟩ := h
  obtain ⟨row',hrow',hp',hg'⟩ := hstep.rows id row hrow
  obtain ⟨dec',hdec',hstatus'⟩ := hstep.decisions _ dec hdec (hstatus ▸ hst)
  exact ⟨hst,row',dec',hrow',by rw [hp',hp],by rw [hg',hg],hdec',hstatus'.trans hstatus⟩

/-- What a settled decision means for the gates of the store: the execution tells the same,
a refusal blocks the project, an approval holds nothing back. -/
def GateFinal (s : BridgeStore) (id projectId : String) (st : DecisionStatus) : Prop :=
  ∃ row dec, s.external.get? id = some row ∧ s.decisions.get? (gateId id) = some dec ∧ dec.status = st ∧
    row.receipt.get "decisionStatus" = .str st.value ∧
    (st = .rejected ∨ st = .expired → externalGateBlocked s projectId = .ok true) ∧
    (st = .approved → ∀ p, row.pendsFor p = .ok false ∧ row.blocksFor p = .ok false)

theorem GateInv.final {s : BridgeStore} (hs : GateInv s) {id projectId : String} {st : DecisionStatus}
    (h : SettledAs s id projectId st) : GateFinal s id projectId st := by
  obtain ⟨hst,row,dec,hrow,hp,hg,hdec,rfl⟩ := h
  have hsettled := hs.agrees id row hrow _ dec hg hdec hst
  refine ⟨row,dec,hrow,hdec,rfl,hsettled.told,fun hrefused => ?_,fun happroved p => ?_⟩
  · refine anyM_true (fun r hr => ?_) ⟨row,Dict.mem_values_of_get? hrow,?_⟩
    · obtain ⟨k,hk⟩ := (Dict.mem_values_iff _ _).mp hr
      exact blocksFor_ok (hs.hashed k r hk) projectId
    · exact hsettled.blocks hrefused (hs.named id row _ hrow hg).2 hp
  · rw [happroved] at hsettled
    exact hsettled.frees p

theorem GateInv.empty {s : BridgeStore} (he : s.external = .empty) (hd : s.decisions = .empty) : GateInv s := by
  constructor
  · intro id row d hrow
    simp [he] at hrow
  · intro id row hrow
    simp [he] at hrow
  · intro id dec hdec
    simp [hd] at hdec
  · intro id row hrow
    simp [he] at hrow

/-- In every run whose forwards leave settled decisions alone: what was once settled is
final in every later state. -/
theorem settled_gate_final {s₀ : BridgeStore} {w : BridgeWorld} (he : s₀.external = .empty) (hd : s₀.decisions = .empty)
    (h : World.Reachable heedfulSystem (World.init s₀) w) {s : BridgeStore} (hs : s ∈ w.trace.history)
    {id projectId : String} {st : DecisionStatus} (hsettled : SettledAs s id projectId st) :
    GateFinal w.trace.store id projectId st := by
  obtain ⟨hok,hchain⟩ := World.Reachable.disciplined gateDiscipline (fun _ hp => sound_of_gateCall hp) (.empty he hd) h
  have hpairs : w.trace.history.Pairwise fun s' s => GateStep s s' :=
    World.pairwise_of_chain hchain (fun _ _ hstep => hstep) fun _ _ _ => GateStep.trans
  have hnow : SettledAs w.trace.store id projectId st := by
    rcases List.mem_cons.mp hs with rfl | hs
    · exact hsettled
    · exact hsettled.kept (List.rel_of_pairwise_cons hpairs hs)
  exact (hok _ w.trace.store_mem_history).final hnow

/-! ### A forward that comes late -/

def gateDigest : String := "aaaaaaaaaaaaaaaaaaaaaaaaaaaaaaaaaaaaaaaaaaaaaaaaaaaaaaaaaaaaaaaa"
def gateHead : String := "aaaaaaaaaaaaaaaaaaaaaaaaaaaaaaaaaaaaaaaa"

/-- A host with one digest and one time. -/
def gateBridge : Bridge := { host := { sha256 := fun _ => gateDigest, fromisoformat := fun _ => some ⟨true,0⟩ } }

/-- A round that ran outside and stopped at a gate. -/
def gateEnvelope : Payload := .ofList [("reconciliationId",.str "r"),("externalExecutionId",.str "e"),("projectId",.str "p"),
  ("aTeamId",.str "t"),("planId",.str "q"),("planVersion",.str "1"),("projectLeadId",.str "l"),("threadId",.str "h"),
  ("startingCheckpoint",.str "a"),("terminalCheckpoint",.str "b"),("correlationId",.str "c"),("idempotencyKey",.str "i"),
  ("repository",.obj [("pathIdentity",.str "/"),("beforeHead",.str gateHead),("afterHead",.str gateHead),("dirtyDigest",.str gateDigest)]),
  ("terminalStatus",.str "blocked"),("deliveredScope",.str "d"),("remainingWork",.str "w"),("blockers",.arr [.str "b"]),
  ("evidenceIds",.arr []),("occurredAt",.str "o"),("schemaVersion",.str "psychlo.external-round.v1"),("digest",.str gateDigest),
  ("explicitGate",.str "g")]

/-- The peer is away. -/
def awayAnswers : (q : BridgeQuery) → Answer q
  | .sender _ _ _ => none
  | q => plainAnswers q

/-- The calls that end with a human refusal: the round is received while the peer is away,
its decision staged and denied. -/
def refusal : List (Move BridgeStore Held Answer AgentError Unit) :=
  [.start (ignoring (gateBridge.receiveExternalRound gateEnvelope))] ++ World.steps 0 10 awayAnswers ++
  [.start (ignoring (Bridge.stageDecision (externalDecisionRequest gateEnvelope "w")))] ++ World.steps 1 1 plainAnswers ++
  [.start (Bridge.decide (gateId "r") .deny "h" "")] ++ World.steps 2 11 plainAnswers

/-- The round is received again, and the peer takes it now. -/
def lateForward : List (Move BridgeStore Held Answer AgentError Unit) :=
  refusal ++ [.start (ignoring (gateBridge.receiveExternalRound gateEnvelope))] ++ World.steps 3 10 plainAnswers

/-- The decision is settled as rejected, and whether the project is blocked. -/
def refusedAnd (blocked : Bool) (s : BridgeStore) : Bool :=
  (match externalGateBlocked s "p" with
    | .ok b => b == blocked
    | .error _ => false) &&
  (s.external.get? "r").any (fun row => row.payload.get "projectId" = .str "p" && row.gateDecisionId = some (gateId "r")) &&
  (s.decisions.get? (gateId "r")).any (·.status = .rejected)

theorem settledAs_of_refusedAnd {blocked : Bool} {s : BridgeStore} (h : refusedAnd blocked s = true) :
    SettledAs s "r" "p" .rejected ∧ externalGateBlocked s "p" = .ok blocked := by
  rw [refusedAnd,Bool.and_eq_true,Bool.and_eq_true] at h
  obtain ⟨⟨hblocked,hrow⟩,hdec⟩ := h
  obtain ⟨row,hrow,hbound⟩ := (Option.any_eq_true _ _).mp hrow
  obtain ⟨dec,hdec,hstatus⟩ := (Option.any_eq_true _ _).mp hdec
  rw [Bool.and_eq_true] at hbound
  constructor
  · exact ⟨by decide,row,dec,hrow,of_decide_eq_true hbound.1,of_decide_eq_true hbound.2,hdec,of_decide_eq_true hstatus⟩
  · split at hblocked
    · next b hb => rw [hb,eq_of_beq hblocked]
    · cases hblocked

theorem allowed_refusal {sys : BridgeSystem} (hsys : sys.start = gateCall) : ∀ mv ∈ refusal, mv.Allowed sys := by
  have hstart : ∀ p, gateCall p → ∀ mv ∈ [Move.start p], mv.Allowed sys :=
    fun p hp => World.allowed_start sys (by rw [hsys]; exact hp)
  simp only [refusal,List.forall_mem_append]
  refine ⟨⟨⟨⟨⟨?_,World.allowed_steps _ _ _⟩,?_⟩,World.allowed_steps _ _ _⟩,?_⟩,World.allowed_steps _ _ _⟩
  · exact hstart _ (.inl ⟨_,_,rfl⟩)
  · exact hstart _ (.inr (.inl ⟨_,rfl⟩))
  · exact hstart _ (.inr (.inr (.inl ⟨_,_,_,_,rfl⟩)))

theorem late_forward_lifts_block : ¬ ∀ (s₀ : BridgeStore) (w : BridgeWorld), s₀.external = .empty → s₀.decisions = .empty →
    World.Reachable gateSystem (World.init s₀) w → ∀ s ∈ w.trace.history, ∀ (id projectId : String) (st : DecisionStatus),
      SettledAs s id projectId st → GateFinal w.trace.store id projectId st := by
  have hallowed : ∀ mv ∈ lateForward, mv.Allowed gateSystem := by
    simp only [lateForward,List.forall_mem_append]
    exact ⟨⟨allowed_refusal rfl,World.allowed_start gateSystem (.inl ⟨_,_,rfl⟩)⟩,World.allowed_steps _ _ _⟩
  have hplay : ((World.init ({} : BridgeStore)).play (fun _ _ _ => true) (fun _ _ _ => true) lateForward).any
      (fun w => refusedAnd false w.trace.store) = true := by decide +kernel
  obtain ⟨w,hw,hc⟩ := World.exists_reachable _ _ _ (fun _ _ _ _ => trivial) (fun _ _ _ _ => trivial) hallowed hplay
  obtain ⟨hsettled,hblocked⟩ := settledAs_of_refusedAnd hc
  intro hall
  obtain ⟨-,-,-,-,-,-,hfinal,-⟩ := hall _ w rfl rfl hw _ w.trace.store_mem_history _ _ _ hsettled
  rw [hblocked] at hfinal
  cases hfinal (.inl rfl)

/-- A forward finds no settled decision. -/
def findsOpen (s : BridgeStore) (held : Held) (_ : BridgeStore) : Bool := held.forwarding.all fun f =>
  ((f.brought.get? "decisionStatus").all Json.hashable) && (s.external.get? f.reconciliationId).all fun row =>
    row.gateDecisionId.all fun d => (s.decisions.get? d).all (·.status = .staged)

def otherDigest : String := "bbbbbbbbbbbbbbbbbbbbbbbbbbbbbbbbbbbbbbbbbbbbbbbbbbbbbbbbbbbbbbbb"

/-- The host on the text of the round of another project. -/
def otherBridge : Bridge := { host := { sha256 := fun _ => otherDigest, fromisoformat := fun _ => some ⟨true,0⟩ } }

def otherEnvelope : Payload := gateEnvelope.merge [("reconciliationId",.str "r2"),("externalExecutionId",.str "e2"),
  ("projectId",.str "p2"),("idempotencyKey",.str "i2"),("digest",.str otherDigest)]

/-- After the refusal the round of another project is received and forwarded. -/
def forwardAside : List (Move BridgeStore Held Answer AgentError Unit) :=
  refusal ++ [.start (ignoring (otherBridge.receiveExternalRound otherEnvelope))] ++ World.steps 3 10 plainAnswers

def forwardedOther (s : BridgeStore) : Bool := (s.external.get? "r2").any (·.forwarded)

/-- The round was refused before that of the other project was forwarded. -/
def forwardedSince (w : BridgeWorld) : Bool :=
  w.trace.past.any (fun s => refusedAnd true s && !forwardedOther s) && forwardedOther w.trace.store

theorem past_of_forwardedSince {w : BridgeWorld} (h : forwardedSince w = true) : forwardedOther w.trace.store = true ∧
    ∃ s ∈ w.trace.past, SettledAs s "r" "p" .rejected ∧ forwardedOther s = false := by
  rw [forwardedSince,Bool.and_eq_true,List.any_eq_true] at h
  obtain ⟨⟨s,hs,hrefused⟩,hforwarded⟩ := h
  rw [Bool.and_eq_true,Bool.not_eq_true'] at hrefused
  exact ⟨hforwarded,s,hs,(settledAs_of_refusedAnd hrefused.1).1,hrefused.2⟩

theorem settled_gate_final_refusal : ∃ w : BridgeWorld, ∃ s ∈ w.trace.past, SettledAs s "r" "p" .rejected ∧
    forwardedOther s = false ∧ forwardedOther w.trace.store = true ∧ GateFinal w.trace.store "r" "p" .rejected := by
  have hallowed : ∀ mv ∈ forwardAside, mv.Allowed heedfulSystem := by
    simp only [forwardAside,List.forall_mem_append]
    exact ⟨⟨allowed_refusal rfl,World.allowed_start heedfulSystem (.inl ⟨otherBridge,otherEnvelope,rfl⟩)⟩,World.allowed_steps _ _ _⟩
  have hplay : ((World.init ({} : BridgeStore)).play (fun _ _ _ => true) findsOpen forwardAside).any forwardedSince = true := by
    decide +kernel
  have hguard : ∀ s h s', findsOpen s h s' = true → heedfulSystem.guard s h s' := by
    intro s h s' hopen f hf
    rw [findsOpen,hf,Option.all_some,Bool.and_eq_true] at hopen
    refine ⟨fun v hv => by simpa [hv] using hopen.1,fun row d dec hrow hd hdec hst => ?_⟩
    have hstaged : dec.status = .staged := by simpa [hrow,hd,hdec] using hopen.2
    exact absurd hstaged hst
  obtain ⟨w,hw,hc⟩ := World.exists_reachable _ _ _ (fun _ _ _ _ => trivial) hguard hallowed hplay
  obtain ⟨hforwarded,s,hs,hsettled,hnot⟩ := past_of_forwardedSince hc
  exact ⟨w,s,hs,hsettled,hnot,hforwarded,settled_gate_final rfl rfl hw (List.mem_cons_of_mem _ hs) hsettled⟩

end Overseer.Psychlo
