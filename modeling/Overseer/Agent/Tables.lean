import Overseer.Agent.Store

/-! # What the statements on a table do

One lemma per statement: the cases of an insertion and of an update, and what a
save inside a transaction leaves behind.
-/
namespace Overseer.Agent
open Overseer.Library

variable {α : Type} (T : Table α)

theorem update_cases {r : α} {s s' : AgentStore} {a : Unit} (h : T.update r s = .ok (a,s')) :
    (T.rows s).get? (T.id r) = none ∧ s' = s ∨
      (T.rows s).get? (T.id r) ≠ none ∧ T.taken s r = false ∧ s' = T.put s r := by
  unfold Table.update at h
  split at h
  · next hn =>
    cases h
    exact .inl ⟨by simpa using hn,rfl⟩
  · next hn =>
    split at h
    · cases h
    · next ht =>
      cases h
      exact .inr ⟨by simpa using hn,by simpa using ht,rfl⟩

theorem insert_cases {r : α} {s s' : AgentStore} {a : Unit} (h : T.insert r s = .ok (a,s')) :
    (T.rows s).get? (T.id r) = none ∧ T.taken s r = false ∧ T.fenced s r = false ∧ s' = T.put s r := by
  unfold Table.insert at h
  split at h
  · cases h
  · next hn =>
    cases h
    simpa [and_assoc] using hn

theorem mem_sorted (s : AgentStore) (r : α) : r ∈ T.sorted s ↔ ∃ k, (T.rows s).get? k = some r := by
  simp only [Table.sorted,List.mem_map,List.mem_insertionSort,Prod.exists,exists_eq_right,Dict.mem_entries_iff]

/-- What a save may assume of the row it writes. -/
structure Table.Saves (s : AgentStore) (r : α) : Prop where
  free : T.taken s r = false
  identity : ∀ existing, (T.rows s).get? (T.id r) = some existing → T.identity existing (T.stored r) = true
  fenced : (T.rows s).get? (T.id r) = none → T.fenced s r = false

theorem post_saveAgentRecord (r : α) (s : AgentStore) :
    Tx.Post (saveAgentRecord T r : AgentTx Unit) s fun _ s' => s' = T.put s r ∧ T.Saves s r := by
  simp only [saveAgentRecord,Tx.post_bind,Tx.post_atomically,Tx.post_read]
  cases hrow : (T.rows s).get? (T.id r) with
  | some existing =>
    simp only [Tx.post_bind,Tx.post_require,Tx.post_atomically]
    intro hid
    unfold Tx.Post
    split
    · next a s' hrun =>
      rcases update_cases T hrun with ⟨hn,-⟩ | ⟨-,hfree,rfl⟩
      · simp [hrow] at hn
      · exact ⟨rfl,hfree,fun e he => by rw [hrow] at he; cases he; exact hid,fun hn => by simp [hrow] at hn⟩
    · trivial
  | none =>
    simp only [Tx.post_atomically]
    unfold Tx.Post
    split
    · next a s' hrun =>
      obtain ⟨-,hfree,hfence,rfl⟩ := insert_cases T hrun
      exact ⟨rfl,hfree,fun e he => by simp [hrow] at he,fun _ => hfence⟩
    · trivial

theorem post_rejectAgentSecondaryCollision (r : α) (label : String) (s : AgentStore) :
    Tx.Post (rejectAgentSecondaryCollision T r label : AgentTx Unit) s fun _ s' => s' = s := by
  simp only [rejectAgentSecondaryCollision,Tx.post_bind,Tx.post_atomically,Tx.post_read]
  cases (T.rows s).values.find? fun row => T.clash row r with
  | some row => simp
  | none => simp

theorem post_saveAgentDispatch (d : AgentDispatchRequest) (s : AgentStore) :
    Tx.Post (saveAgentDispatch d : AgentTx Unit) s fun _ s' =>
      s' = dispatchTable.put s d ∧ dispatchTable.Saves s d := by
  rw [saveAgentDispatch,Tx.post_bind]
  refine (post_rejectAgentSecondaryCollision dispatchTable d _ s).mono ?_
  rintro _ _ rfl
  exact post_saveAgentRecord dispatchTable d _

@[simp] theorem post_loadAgentRecord (id : String) (s : AgentStore) (Q : α → AgentStore → Prop) :
    Tx.Post (loadAgentRecord T id : AgentTx α) s Q ↔ ∀ r, (T.rows s).get? id = some r → Q r s := by
  simp [loadAgentRecord]

@[simp] theorem post_loadAgentOperation (x : String) (s : AgentStore)
    (Q : AgentOperationReservation → AgentStore → Prop) : Tx.Post (loadAgentOperation x : AgentTx _) s Q ↔
      ∀ row, s.operations.get? x = some row → Q row.payload s := by
  simp [loadAgentOperation]

@[simp] theorem post_listAgentRecords (s : AgentStore) (Q : List α → AgentStore → Prop) :
    Tx.Post (listAgentRecords T : AgentTx (List α)) s Q ↔ Q (T.sorted s) s := Iff.rfl

theorem loadAgentRecord_run (id : String) (s : AgentStore) : (loadAgentRecord T id : AgentTx α) s =
    match (T.rows s).get? id with
    | some r => .ok (r,s)
    | none => .error (keyError id) := by
  change (orRaise ((T.rows s).get? id) (keyError id) : AgentTx α) s = _
  cases (T.rows s).get? id <;> rfl

@[simp] theorem post_unlessMissing_load (id : String) (s : AgentStore) (Q : Option α → AgentStore → Prop) :
    Tx.Post (unlessMissing (loadAgentRecord T id) : AgentTx (Option α)) s Q ↔ Q ((T.rows s).get? id) s := by
  have hload := loadAgentRecord_run T id s
  have hrun : (unlessMissing (loadAgentRecord T id) : AgentTx (Option α)) s = .ok ((T.rows s).get? id,s) := by
    unfold unlessMissing
    change Tx.rescue (Tx.bind (loadAgentRecord T id) fun a => pure (some a)) _ s = _
    cases hrow : (T.rows s).get? id with
    | some r =>
      rw [hrow] at hload
      simp only [Tx.rescue,Tx.bind,hload]
      rfl
    | none =>
      rw [hrow] at hload
      simp only [Tx.rescue,Tx.bind,hload]
      rfl
  simp only [Tx.Post,hrun]

theorem post_saveAgentSession (session : AgentSession) (s : AgentStore) :
    Tx.Post (saveAgentSession session : AgentTx Unit) s fun _ s' => s' = sessionTable.put s session ∧
      sessionTable.Saves s session ∧ ∀ e, s.sessions.get? session.id = some e → e.externalSessionId ≠ none →
        session.externalSessionId = e.externalSessionId := by
  rw [saveAgentSession,Tx.post_bind]
  refine (post_unlessMissing_load sessionTable session.id s _).mpr ?_
  rw [Tx.post_bind,Tx.post_require]
  intro hext
  exact (post_saveAgentRecord sessionTable session s).mono fun _ _ h => ⟨h.1,h.2,fun e he => hext e he⟩

theorem post_saveDriverEpoch (e : DriverEpoch) (s : AgentStore) :
    Tx.Post (saveDriverEpoch e : AgentTx Unit) s fun _ s' => s' = epochTable.put s e ∧ epochTable.Saves s e := by
  rw [saveDriverEpoch,Tx.post_bind]
  refine (post_rejectAgentSecondaryCollision epochTable e _ s).mono ?_
  rintro _ _ rfl
  exact post_saveAgentRecord epochTable e _

@[simp] theorem post_loadAgentTransition (x : String) (s : AgentStore)
    (Q : AgentInstanceTransition → AgentStore → Prop) : Tx.Post (loadAgentTransition x : AgentTx _) s Q ↔
      ∀ t, s.transitions.get? x = some t → Q t s := by
  simp [loadAgentTransition]

/-- A transition that is saved moves the row of its handoff along one edge. -/
@[simp] theorem post_saveAgentTransition (t : AgentInstanceTransition) (s : AgentStore)
    (Q : Unit → AgentStore → Prop) : Tx.Post (saveAgentTransition t : AgentTx Unit) s Q ↔
      ∀ current, s.transitions.get? t.instanceId = some current → current.handoffId = t.handoffId →
        current.outgoingEpochId = t.outgoingEpochId → current.incomingEpochId = t.incomingEpochId →
        t.state ∈ current.state.successors → Q () (s.putTransition t) := by
  simp only [saveAgentTransition,Tx.post_bind,post_loadAgentTransition,Tx.post_require,Tx.post_atomically,and_imp]
  refine forall₂_congr fun current hrow => forall_congr' fun hid => ?_
  simp only [updateAgentTransition,Tx.Post,hrow,hid,and_self,↓reduceIte]

section Keeps
variable {R : AgentStore → AgentStore → Prop} [IsPreorder AgentStore R]

instance (id : String) : Tx.Keeps R (loadAgentRecord T id : AgentTx α) := by
  unfold loadAgentRecord
  infer_instance

instance : Tx.Keeps R (listAgentRecords T : AgentTx (List α)) := by
  unfold listAgentRecords
  infer_instance

instance (load : AgentTx α) [Tx.Keeps R load] : Tx.Keeps R (unlessMissing load) := by
  unfold unlessMissing
  infer_instance

instance (x : String) : Tx.Keeps R (loadAgentOperation x : AgentTx _) := by
  unfold loadAgentOperation
  infer_instance

instance (x : String) : Tx.Keeps R (loadAgentTransition x : AgentTx _) := by
  unfold loadAgentTransition
  infer_instance

instance (r : α) (label : String) : Tx.Keeps R (rejectAgentSecondaryCollision T r label : AgentTx Unit) :=
  Tx.keeps_of_reads ⟨post_rejectAgentSecondaryCollision T r label⟩

omit [IsPreorder AgentStore R] in
theorem keeps_saveAgentRecord {r : α} (h : ∀ s, T.Saves s r → R s (T.put s r)) :
    Tx.Keeps R (saveAgentRecord T r : AgentTx Unit) := by
  refine ⟨fun s => (post_saveAgentRecord T r s).mono ?_⟩
  rintro _ _ ⟨rfl,hsaves⟩
  exact h s hsaves

end Keeps

/-- A package as it is signed. -/
def signedPackage (hmac : AgentHandoffPackage → String) (p : AgentHandoffPackage) : AgentHandoffPackage :=
  let versioned := { p with attestationVersion := some attestationVersion, signature := none }
  { versioned with signature := some (hmac versioned) }

theorem post_signAndSaveAgentHandoff (hmac : AgentHandoffPackage → String) (p : AgentHandoffPackage)
    (s : AgentStore) : Tx.Post (signAndSaveAgentHandoff hmac p : AgentTx _) s fun signed s' =>
      signed = signedPackage hmac p ∧ s' = handoffTable.put s signed ∧ handoffTable.Saves s signed := by
  simp only [signAndSaveAgentHandoff,Tx.post_atomically,Tx.post_bind,Tx.post_pure]
  exact (post_saveAgentRecord handoffTable _ s).mono fun _ _ h => ⟨rfl,h.1,h.2⟩

end Overseer.Agent
