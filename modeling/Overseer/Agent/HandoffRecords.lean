import Overseer.Agent.HandoffSteps
import Overseer.Library.Discipline

/-! # The records of handoffs

What holds of the stored packages, transitions, epochs, sessions and import results
in every state, and what one commit may change of them: identities never change, a
stored result is never replaced, a transition moves along one edge at a time and
completes only under a durable acknowledgement.
-/
namespace Overseer.Agent
open Overseer.Library

def AgentHandoffPackage.incomingEpochId (p : AgentHandoffPackage) : Option String :=
  evidenceText p.evidence "incoming_epoch_id"

def AgentHandoffPackage.importResultId (p : AgentHandoffPackage) : Option String :=
  evidenceText p.evidence "import_result_id"

/-- The import result a package names is stored, and is one for its incoming epoch. -/
def ImportBound (s : AgentStore) (p : AgentHandoffPackage) : Prop :=
  ∀ id, p.importResultId = some id → ∃ r, s.results.get? id = some r ∧ p.incomingEpochId = some r.driverEpochId

structure HandoffOk (s : AgentStore) : Prop where
  sessions : Dict.Filed AgentSession.id s.sessions
  epochs : Dict.Filed DriverEpoch.id s.epochs
  handoffs : Dict.Filed AgentHandoffPackage.id s.handoffs
  transitions : Dict.Filed AgentInstanceTransition.instanceId s.transitions
  incoming : ∀ h p, s.handoffs.get? h = some p → ∃ k e, p.incomingEpochId = some k ∧ s.epochs.get? k = some e ∧
    e.instanceId = p.instanceId ∧ e.providerId = p.incomingProviderId
  unique : ∀ h h' p p', s.handoffs.get? h = some p → s.handoffs.get? h' = some p' →
    p.incomingEpochId = p'.incomingEpochId → h = h'
  imported : ∀ h p, s.handoffs.get? h = some p → ImportBound s p
  transition : ∀ x t, s.transitions.get? x = some t → ∃ p, s.handoffs.get? t.handoffId = some p ∧
    p.incomingEpochId = some t.incomingEpochId ∧ p.instanceId = x

/-! ### What a commit keeps, table by table -/

/-- Stored rows stay as they are. -/
def Grew {α : Type} (d d' : Dict α) : Prop := ∀ k v, d.get? k = some v → d'.get? k = some v

/-- Every row is still there and related to what it was. -/
def RowsKept {α : Type} (R : α → α → Prop) (d d' : Dict α) : Prop :=
  ∀ k v, d.get? k = some v → ∃ v', d'.get? k = some v' ∧ R v v'

/-- The immutable fields of an epoch. -/
structure SameEpoch (e e' : DriverEpoch) : Prop where
  id : e.id = e'.id
  instanceId : e.instanceId = e'.instanceId
  sessionId : e.sessionId = e'.sessionId
  providerId : e.providerId = e'.providerId

structure SamePackage (p p' : AgentHandoffPackage) : Prop where
  id : p.id = p'.id
  instanceId : p.instanceId = p'.instanceId
  incomingProviderId : p.incomingProviderId = p'.incomingProviderId
  outgoingEpochId : p.outgoingEpochId = p'.outgoingEpochId
  incomingEpochId : p.incomingEpochId = p'.incomingEpochId

structure SameHandoff (t t' : AgentInstanceTransition) : Prop where
  handoffId : t.handoffId = t'.handoffId
  outgoingEpochId : t.outgoingEpochId = t'.outgoingEpochId
  incomingEpochId : t.incomingEpochId = t'.incomingEpochId

/-- An external session identity stays once it is set. -/
def KeepsExternal (a b : AgentSession) : Prop := ∀ x, a.externalSessionId = some x → b.externalSessionId = some x

theorem SameEpoch.refl (e : DriverEpoch) : SameEpoch e e := ⟨rfl,rfl,rfl,rfl⟩
theorem SameEpoch.symm {e e' : DriverEpoch} (h : SameEpoch e e') : SameEpoch e' e :=
  ⟨h.1.symm,h.2.symm,h.3.symm,h.4.symm⟩
theorem SameEpoch.trans {e e' e'' : DriverEpoch} (h : SameEpoch e e') (h' : SameEpoch e' e'') : SameEpoch e e'' :=
  ⟨h.1.trans h'.1,h.2.trans h'.2,h.3.trans h'.3,h.4.trans h'.4⟩

theorem SamePackage.refl (p : AgentHandoffPackage) : SamePackage p p := ⟨rfl,rfl,rfl,rfl,rfl⟩
theorem SamePackage.trans {p p' p'' : AgentHandoffPackage} (h : SamePackage p p') (h' : SamePackage p' p'') :
    SamePackage p p'' := ⟨h.1.trans h'.1,h.2.trans h'.2,h.3.trans h'.3,h.4.trans h'.4,h.5.trans h'.5⟩

theorem KeepsExternal.refl (a : AgentSession) : KeepsExternal a a := fun _ h => h
theorem KeepsExternal.trans {a b c : AgentSession} (h : KeepsExternal a b) (h' : KeepsExternal b c) :
    KeepsExternal a c := fun x hx => h' x (h x hx)

section Rows
variable {α : Type} {R : α → α → Prop} {d d' d'' : Dict α}

theorem Grew.refl (d : Dict α) : Grew d d := fun _ _ h => h
theorem Grew.trans (h : Grew d d') (h' : Grew d' d'') : Grew d d'' := fun k v hv => h' k v (h k v hv)

theorem Grew.set {k : String} {v : α} (h : ∀ v', d.get? k = some v' → v' = v) : Grew d (d.set k v) := by
  intro k' v' hv
  rw [Dict.get?_set]
  split
  · next hk =>
    subst hk
    rw [h v' hv]
  · exact hv

theorem RowsKept.refl (hR : ∀ v, R v v) (d : Dict α) : RowsKept R d d := fun _ v h => ⟨v,h,hR v⟩

theorem RowsKept.trans (hR : ∀ {a b c}, R a b → R b c → R a c) (h : RowsKept R d d') (h' : RowsKept R d' d'') :
    RowsKept R d d'' := by
  intro k v hv
  obtain ⟨v',hv',hr⟩ := h k v hv
  obtain ⟨v'',hv'',hr'⟩ := h' k v' hv'
  exact ⟨v'',hv'',hR hr hr'⟩

theorem RowsKept.set (hR : ∀ v, R v v) {k : String} {v : α} (h : ∀ v', d.get? k = some v' → R v' v) :
    RowsKept R d (d.set k v) := by
  intro k' v' hv
  rw [Dict.get?_set]
  split
  · next hk =>
    subst hk
    exact ⟨v,rfl,h v' hv⟩
  · exact ⟨v',hv,hR v'⟩

end Rows

theorem sameEpoch_of_identity {e e' : DriverEpoch} (h : epochTable.identity e e' = true) : SameEpoch e e' := by
  simp only [epochTable,decide_eq_true_eq] at h
  exact ⟨h.1,h.2.1,h.2.2.1,h.2.2.2.1⟩

theorem RowsKept.saveEpoch {s : AgentStore} {e : DriverEpoch} (h : epochTable.Saves s e) :
    RowsKept SameEpoch s.epochs (s.epochs.set e.id e) :=
  .set SameEpoch.refl fun e' he' => sameEpoch_of_identity (h.identity e' he')

theorem Grew.saveResult {s : AgentStore} {r : AgentDispatchResult} (h : resultTable.Saves s r) :
    Grew s.results (s.results.set r.id r) :=
  .set fun r' hr' => by simpa [resultTable] using h.identity r' hr'

/-! ### Acknowledged completion -/

/-- A durable result acknowledges the import for the incoming epoch and its session. -/
def Acknowledged (s : AgentStore) (t : AgentInstanceTransition) : Prop :=
  ∃ e session id r, s.epochs.get? t.incomingEpochId = some e ∧ s.sessions.get? e.sessionId = some session ∧
    s.results.get? id = some r ∧ r.requestId = s!"handoff.{t.handoffId}" ∧ r.state ∈ acknowledgedStates ∧
    r.instanceId = e.instanceId ∧ r.providerId = e.providerId ∧ r.sessionId = e.sessionId ∧
    r.driverEpochId = e.id ∧ r.externalSessionId ≠ none ∧ r.externalSessionId = session.externalSessionId

/-- What one commit can do to the transition of an instance. -/
inductive TransitionMove (s s' : AgentStore) : Option AgentInstanceTransition → Option AgentInstanceTransition → Prop
  | idle (t : Option AgentInstanceTransition) : TransitionMove s s' t t
  | start {t : Option AgentInstanceTransition} {t' : AgentInstanceTransition}
      (ended : ∀ old, t = some old → old.state = .completed ∨ old.state = .rolledBack)
      (fresh : s.handoffs.get? t'.handoffId = none) (importing : t'.state = .importing) :
      TransitionMove s s' t (some t')
  | move {t t' : AgentInstanceTransition} (same : SameHandoff t t') (edge : t'.state ∈ t.state.successors)
      (acknowledged : t'.state = .completed → Acknowledged s' t') : TransitionMove s s' (some t) (some t')

/-- Epochs that are closed stay closed. -/
def ClosedStays (s s' : AgentStore) : Prop :=
  RowsKept (fun e e' => e.closedAt ≠ none → e'.closedAt ≠ none) s.epochs s'.epochs

/-- The epochs that a transaction stores again as it loaded them are open in the store
if they were open when they were loaded. -/
def Held.StillOpen (held : Held) (s : AgentStore) : Prop :=
  ∀ e ∈ held.epochs, e.closedAt = none → ∀ row, s.epochs.get? e.id = some row → row.closedAt = none

structure Commit (guard : AgentStore → Held → AgentStore → Prop) (s s' : AgentStore) : Prop where
  results : Grew s.results s'.results
  sessions : RowsKept KeepsExternal s.sessions s'.sessions
  epochs : RowsKept SameEpoch s.epochs s'.epochs
  handoffs : RowsKept SamePackage s.handoffs s'.handoffs
  transitions : ∀ x, TransitionMove s s' (s.transitions.get? x) (s'.transitions.get? x)
  closed : (∀ held, guard s held s' → held.StillOpen s) → ClosedStays s s'

theorem Commit.refl (guard : AgentStore → Held → AgentStore → Prop) (s : AgentStore) : Commit guard s s where
  results := .refl _
  sessions := .refl KeepsExternal.refl _
  epochs := .refl SameEpoch.refl _
  handoffs := .refl SamePackage.refl _
  transitions _ := .idle _
  closed _ := .refl (fun _ h => h) _

/-- The discipline of the managers' operations on handoff records. -/
def handoffDiscipline (calls : ManagerCall → Prop) (guard : AgentStore → Held → AgentStore → Prop) :
    Discipline AgentStore Held Answer AgentError Unit where
  sys := managerSystem calls guard
  ok := HandoffOk
  step := Commit (managerSystem calls guard).guard
  idle := Commit.refl _

/-! ### Commits that rewrite rows -/

/-- The records of `s'` are those of `s`, rewritten row by row. -/
structure Rewritten (s s' : AgentStore) : Prop where
  sessionsFiled : Dict.Filed AgentSession.id s'.sessions
  results : Grew s.results s'.results
  epochs : RowsKept SameEpoch s.epochs s'.epochs
  epochsFiled : Dict.Filed DriverEpoch.id s'.epochs
  handoffs : RowsKept SamePackage s.handoffs s'.handoffs
  handoffRows : ∀ h p', s'.handoffs.get? h = some p' → ∃ p, s.handoffs.get? h = some p ∧ SamePackage p p' ∧
    ImportBound s' p'
  transitionRows : ∀ x t', s'.transitions.get? x = some t' → t'.instanceId = x ∧
    ∃ t, s.transitions.get? x = some t ∧ SameHandoff t t'

theorem HandoffOk.rewritten {s s' : AgentStore} (hs : HandoffOk s) (h : Rewritten s s') : HandoffOk s' where
  sessions := h.sessionsFiled
  epochs := h.epochsFiled
  handoffs k p' hp' := by
    obtain ⟨p,hp,hsame,-⟩ := h.handoffRows k p' hp'
    exact hsame.id ▸ hs.handoffs k p hp
  transitions x t' ht' := (h.transitionRows x t' ht').1
  incoming k p' hp' := by
    obtain ⟨p,hp,hsame,-⟩ := h.handoffRows k p' hp'
    obtain ⟨i,e,hi,he,hx,hprov⟩ := hs.incoming k p hp
    obtain ⟨e',he',hee'⟩ := h.epochs i e he
    exact ⟨i,e',hsame.incomingEpochId ▸ hi,he',hee'.instanceId ▸ hx.trans hsame.instanceId,
      hee'.providerId ▸ hprov.trans hsame.incomingProviderId⟩
  unique k k' p' q' hp' hq' heq := by
    obtain ⟨p,hp,hsp,-⟩ := h.handoffRows k p' hp'
    obtain ⟨q,hq,hsq,-⟩ := h.handoffRows k' q' hq'
    exact hs.unique k k' p q hp hq (hsp.incomingEpochId.trans (heq.trans hsq.incomingEpochId.symm))
  imported k p' hp' := (h.handoffRows k p' hp').choose_spec.2.2
  transition x t' ht' := by
    obtain ⟨-,t,ht,hsame⟩ := h.transitionRows x t' ht'
    obtain ⟨p,hp,hi,hx⟩ := hs.transition x t ht
    obtain ⟨p',hp',hpp'⟩ := h.handoffs _ p hp
    exact ⟨p',hsame.handoffId ▸ hp',hpp'.incomingEpochId ▸ hsame.incomingEpochId ▸ hi,hpp'.instanceId ▸ hx⟩

end Overseer.Agent
