import Overseer.Psychlo.Coordination
import Overseer.Psychlo.RoundResults
import Overseer.Library.Discipline
import Overseer.Library.Commits

/-! # Opening the store

A store that is opened brings its schema up to date and derives the terminals of
participant results again from the peer records.
-/
namespace Overseer.Psychlo
open Overseer.Library Overseer.Agent

/-- The text of the index, without its blanks. -/
def digestIndex : String :=
  "createuniqueindexprotocol_kind_digest_uniqueonprotocol_records(kind,digest)wherekind!='cross-project-participant-result'"

/-- The kinds whose digests the index keeps apart. -/
def indexedKinds : List ProtocolKind := [.registryCandidate,.adoptionEvidence,.externalRoundBinding,
  .ingressConflictReconciliation,.crossProjectTeamBinding,.crossProjectCommand,.coordinationWorkRequest,
  .crossProjectSupervisorReview,.canaryAuthorization,.canaryResult,.ceilingAuthorization,.ceilingChange]

/-- No two records of such a kind share a digest. -/
def DigestsApart (s : BridgeStore) : Prop := ∀ kind ∈ indexedKinds, ((s.protocol kind).values.map (·.digest)).Nodup

instance (s : BridgeStore) : Decidable (DigestsApart s) := by
  unfold DigestsApart
  infer_instance

/-- `CREATE UNIQUE INDEX IF NOT EXISTS`. -/
def ensureDigestIndex : BridgeTx Unit := do
  let s ← Tx.read id
  if s.schema.index = none then do
    require (DigestsApart s) ⟨.integrity,"UNIQUE constraint failed: protocol_records"⟩
    Tx.write fun s => { s with schema := { s.schema with index := some digestIndex } }
  else pure ()

def checkDigestIndex : BridgeTx Unit := do
  let s ← Tx.read id
  require (s.schema.index = some digestIndex) (valueError "protocol digest index binding is invalid")

def createProtocolDigestIndex : BridgeTx Unit := do
  ensureDigestIndex
  checkDigestIndex

/-- The rows go into a table without the old constraint. -/
def rebuildTable : BridgeTx Unit := do
  let s ← Tx.read id
  if s.schema.tableUnique then Tx.write fun s => { s with schema := {} } else pure ()

def migrateProtocolDigestUniqueness : BridgeTx Unit := do
  rebuildTable
  createProtocolDigestIndex

/-- The request whose terminal a peer record is, when the record is bound to one. -/
def terminalOf (resultId : String) (row : ProtocolRow) : Option String :=
  (row.payload.str? "requestId").filter fun requestId => isBlank requestId = false ∧
    row.payload.get "resultId" = .str resultId ∧ row.payload.get "digest" = .str row.digest

/-- `INSERT OR IGNORE INTO coordination_terminals`. -/
def insertTerminal (requestId : String) (row : TerminalRow) : BridgeTx Unit := Tx.write fun s =>
  if s.terminals.get? requestId = none ∧ ∀ other ∈ s.terminals.values, other.resultId ≠ row.resultId then
    { s with terminals := s.terminals.set requestId row }
  else s

def backfillTerminal (resultId : String) (row : ProtocolRow) : BridgeTx Unit :=
  match terminalOf resultId row with
  | none => pure ()
  | some requestId => do
    let existing ← Tx.read (·.terminals.get? requestId)
    require (existing.all fun t => t.resultId = resultId ∧ t.digest = row.digest ∧ dumpWire t.payload = dumpWire row.payload)
      (valueError "participant result terminal conflict")
    insertTerminal requestId ⟨resultId,row.digest,row.payload⟩

def backfillEach : List (String × ProtocolRow) → BridgeTx Unit
  | [] => pure ()
  | (resultId,row) :: rest => do
    backfillTerminal resultId row
    backfillEach rest

def backfillCoordinationTerminals : BridgeTx Unit := do
  let rows ← Tx.read (·.protocol .crossProjectParticipantResult)
  backfillEach rows.entries

/-- `PsychloBridgeStore(...)` on a file that is there. -/
def openStore : BridgeProg Unit := do
  atomically migrateProtocolDigestUniqueness
  atomically backfillCoordinationTerminals

/-! ### Terminals and records in pairs -/

/-- The terminal of a request and the record of its result say the same. -/
structure Pair (requestId : String) (terminal : TerminalRow) (row : ProtocolRow) : Prop where
  digest : row.digest = terminal.digest
  payload : row.payload = terminal.payload
  request : row.payload.get "requestId" = .str requestId
  result : row.payload.get "resultId" = .str terminal.resultId

/-- Every terminal has its record and every record its terminal. -/
structure Paired (s : BridgeStore) : Prop where
  record : ∀ requestId terminal, s.terminals.get? requestId = some terminal →
    ∃ row, (s.protocol .crossProjectParticipantResult).get? terminal.resultId = some row ∧ Pair requestId terminal row
  terminal : ∀ resultId row, (s.protocol .crossProjectParticipantResult).get? resultId = some row →
    ∃ requestId terminal, s.terminals.get? requestId = some terminal ∧ terminal.resultId = resultId ∧ Pair requestId terminal row

/-- The schema can be brought up to date. -/
structure Openable (s : BridgeStore) : Prop where
  apart : DigestsApart s
  index : s.schema.index = none ∨ s.schema.index = some digestIndex

/-- Nothing is taken away from either table and no content changes. -/
structure TerminalsKept (s s' : BridgeStore) : Prop where
  terminals : ∀ requestId terminal, s.terminals.get? requestId = some terminal → s'.terminals.get? requestId = some terminal
  records : ∀ resultId row, (s.protocol .crossProjectParticipantResult).get? resultId = some row →
    ∃ row', (s'.protocol .crossProjectParticipantResult).get? resultId = some row' ∧
      row'.digest = row.digest ∧ row'.payload = row.payload ∧ row'.idempotencyKey = row.idempotencyKey

/-- Both tables are as they were. -/
structure SameTables (s s' : BridgeStore) : Prop where
  terminals : s'.terminals = s.terminals
  records : s'.protocol = s.protocol

variable {s s' : BridgeStore}

theorem TerminalsKept.refl (s : BridgeStore) : TerminalsKept s s := ⟨fun _ _ h => h,fun _ row h => ⟨row,h,rfl,rfl,rfl⟩⟩

theorem TerminalsKept.trans {s'' : BridgeStore} (h : TerminalsKept s s') (h' : TerminalsKept s' s'') : TerminalsKept s s'' := by
  constructor
  · exact fun requestId terminal ht => h'.terminals _ _ (h.terminals _ _ ht)
  · intro resultId row hrow
    obtain ⟨row',hrow',hdigest,hpayload,hkey⟩ := h.records resultId row hrow
    obtain ⟨row'',hrow'',hdigest',hpayload',hkey'⟩ := h'.records resultId row' hrow'
    exact ⟨row'',hrow'',hdigest'.trans hdigest,hpayload'.trans hpayload,hkey'.trans hkey⟩

theorem SameTables.kept (h : SameTables s s') : TerminalsKept s s' := by
  constructor
  · intro requestId terminal ht
    rw [h.terminals]
    exact ht
  · intro resultId row hrow
    rw [h.records]
    exact ⟨row,hrow,rfl,rfl,rfl⟩

theorem SameTables.paired (h : SameTables s s') (hs : Paired s) : Paired s' := by
  obtain ⟨hterminals,hrecords⟩ := h
  constructor
  · rw [hterminals,hrecords]
    exact hs.record
  · rw [hterminals,hrecords]
    exact hs.terminal

/-! ### Opening -/

theorem require_run {c : Prop} [Decidable c] {e : AgentError} (h : c) : (require c e : BridgeTx Unit) s = .ok ((),s) := by
  unfold require
  rw [if_pos h]
  rfl

theorem createProtocolDigestIndex_run (hs : Openable s) : ∃ s', createProtocolDigestIndex s = .ok ((),s') ∧ SameTables s s' ∧ Openable s' := by
  have hcheck : ∀ {s' : BridgeStore}, ensureDigestIndex s = .ok ((),s') → s'.schema.index = some digestIndex →
      createProtocolDigestIndex s = .ok ((),s') :=
    fun hensure hindex => (Tx.bind_of_ok hensure).trans (require_run hindex)
  cases hindex : s.schema.index with
  | none =>
    let s' : BridgeStore := { s with schema := { s.schema with index := some digestIndex } }
    have hcreate : ensureDigestIndex s = .ok ((),s') := by
      change (if s.schema.index = none then _ else _ : BridgeTx Unit) s = _
      rw [if_pos hindex]
      exact Tx.bind_of_ok (require_run hs.apart)
    exact ⟨s',hcheck hcreate rfl,⟨rfl,rfl⟩,hs.apart,.inr rfl⟩
  | some index =>
    have hindex' : s.schema.index = some digestIndex := hs.index.resolve_left (by rw [hindex]; exact Option.some_ne_none index)
    have hskip : ensureDigestIndex s = .ok ((),s) := by
      change (if s.schema.index = none then _ else _ : BridgeTx Unit) s = _
      rw [if_neg (by rw [hindex]; exact Option.some_ne_none index)]
      rfl
    exact ⟨s,hcheck hskip hindex',⟨rfl,rfl⟩,hs⟩

theorem migrate_run (hs : Openable s) : ∃ s', migrateProtocolDigestUniqueness s = .ok ((),s') ∧ SameTables s s' ∧ Openable s' := by
  cases hunique : s.schema.tableUnique with
  | true =>
    have hopen : Openable { s with schema := {} } := ⟨hs.apart,.inl rfl⟩
    obtain ⟨s',hrun,hsame,hopen'⟩ := createProtocolDigestIndex_run hopen
    have hmove : rebuildTable s = .ok ((),{ s with schema := {} }) := by
      change (if s.schema.tableUnique = true then _ else _ : BridgeTx Unit) s = _
      rw [if_pos hunique]
      rfl
    exact ⟨s',(Tx.bind_of_ok hmove).trans hrun,⟨hsame.terminals,hsame.records⟩,hopen'⟩
  | false =>
    obtain ⟨s',hrun,hsame,hopen'⟩ := createProtocolDigestIndex_run hs
    have hskip : rebuildTable s = .ok ((),s) := by
      change (if s.schema.tableUnique = true then _ else _ : BridgeTx Unit) s = _
      rw [if_neg (by rw [hunique]; exact Bool.false_ne_true)]
      rfl
    exact ⟨s',(Tx.bind_of_ok hskip).trans hrun,hsame,hopen'⟩

theorem terminalOf_paired (hs : Paired s) {resultId requestId : String} {row : ProtocolRow}
    (hrow : (s.protocol .crossProjectParticipantResult).get? resultId = some row) (h : terminalOf resultId row = some requestId) :
    s.terminals.get? requestId = some ⟨resultId,row.digest,row.payload⟩ := by
  obtain ⟨requestId',terminal,ht,hid,hpair⟩ := hs.terminal resultId row hrow
  have hrequest := (Option.filter_eq_some_iff.mp h).1
  have hsame : requestId' = requestId := by
    have hget := hpair.request
    unfold Payload.str? at hrequest
    obtain ⟨v,hv,hstr⟩ := Option.bind_eq_some_iff.mp hrequest
    rw [Payload.get,hv,Option.getD_some] at hget
    rw [hget] at hstr
    exact Option.some.inj hstr
  rw [← hsame,ht,← hid,hpair.digest,hpair.payload]

theorem backfillTerminal_run (hs : Paired s) {resultId : String} {row : ProtocolRow}
    (hrow : (s.protocol .crossProjectParticipantResult).get? resultId = some row) : backfillTerminal resultId row s = .ok ((),s) := by
  unfold backfillTerminal
  cases hbound : terminalOf resultId row with
  | none => rfl
  | some requestId =>
    have ht := terminalOf_paired hs hrow hbound
    have hread : (Tx.read (·.terminals.get? requestId) : BridgeTx (Option TerminalRow)) s =
        .ok (some ⟨resultId,row.digest,row.payload⟩,s) := congrArg (fun o => Except.ok (o,s)) ht
    have hinsert : insertTerminal requestId ⟨resultId,row.digest,row.payload⟩ s = .ok ((),s) := by
      have hthere : ¬ (s.terminals.get? requestId = none ∧ ∀ other ∈ s.terminals.values, other.resultId ≠ resultId) := by
        rw [ht]
        exact fun h => Option.some_ne_none _ h.1
      exact congrArg (fun s' => Except.ok ((),s')) (if_neg hthere)
    refine (Tx.bind_of_ok hread).trans ((Tx.bind_of_ok (require_run ?_)).trans hinsert)
    simp

theorem backfill_run (hs : Paired s) : backfillCoordinationTerminals s = .ok ((),s) := by
  have heach : ∀ rows : List (String × ProtocolRow), (∀ e ∈ rows, (s.protocol .crossProjectParticipantResult).get? e.1 = some e.2) →
      backfillEach rows s = .ok ((),s) := by
    intro rows hrows
    induction rows with
    | nil => rfl
    | cons e rest ih =>
      have hfirst := backfillTerminal_run hs (hrows e List.mem_cons_self)
      exact (Tx.bind_of_ok hfirst).trans (ih fun e' he' => hrows e' (List.mem_cons_of_mem _ he'))
  exact heach _ fun e he => (Dict.mem_entries_iff _ e.1 e.2).mp he

/-! ### Admitting a result -/

/-- The store with the terminal of a request and the record of its result. -/
def BridgeStore.putTerminal (s : BridgeStore) (requestId : String) (terminal : TerminalRow) (key now : String) : BridgeStore :=
  { s with protocol := fun k => if k = .crossProjectParticipantResult then (s.protocol .crossProjectParticipantResult).set terminal.resultId
             { idempotencyKey := key, digest := terminal.digest, payload := terminal.payload, updatedAt := now } else s.protocol k,
           terminals := s.terminals.set requestId terminal }

theorem records_putTerminal (s : BridgeStore) (requestId : String) (terminal : TerminalRow) (key now : String) :
    (s.putTerminal requestId terminal key now).protocol .crossProjectParticipantResult =
      (s.protocol .crossProjectParticipantResult).set terminal.resultId
        { idempotencyKey := key, digest := terminal.digest, payload := terminal.payload, updatedAt := now } := by
  simp [BridgeStore.putTerminal]

section Admit
variable {requestId resultId key digest now : String} {payload : Payload} {inserted : Bool}

/-- The terminal is there, or it and its record are new. -/
theorem admitTerminal_ok (h : admitTerminal requestId resultId key digest payload now s = .ok (inserted,s')) :
    (s' = s ∧ ∃ terminal, s.terminals.get? requestId = some terminal ∧ terminal.resultId = resultId) ∨
    (s.terminals.get? requestId = none ∧ (s.protocol .crossProjectParticipantResult).get? resultId = none ∧
      s' = s.putTerminal requestId ⟨resultId,digest,payload⟩ key now) := by
  have hpost : (admitTerminal requestId resultId key digest payload now).Post s fun _ s' =>
      (s' = s ∧ ∃ terminal, s.terminals.get? requestId = some terminal ∧ terminal.resultId = resultId) ∨
      (s.terminals.get? requestId = none ∧ (s.protocol .crossProjectParticipantResult).get? resultId = none ∧
        s' = s.putTerminal requestId ⟨resultId,digest,payload⟩ key now) := by
    unfold admitTerminal insertProtocol
    rw [Tx.post_bind,Tx.post_read]
    cases hrow : s.terminals.get? requestId with
    | some terminal =>
      simp only [Tx.post_bind,Tx.post_require,Tx.post_pure]
      exact fun hsame => .inl ⟨trivial,terminal,rfl,hsame.1⟩
    | none =>
      simp only [Tx.post_bind,Tx.post_read,Tx.post_require,Tx.post_write,Tx.post_pure]
      exact fun hfresh _ _ => .inr ⟨trivial,hfresh.1,rfl⟩
  exact hpost.of_ok h

theorem paired_put (hs : Paired s) (hfresh : s.terminals.get? requestId = none)
    (hnew : (s.protocol .crossProjectParticipantResult).get? resultId = none) (hrequest : payload.get "requestId" = .str requestId)
    (hresult : payload.get "resultId" = .str resultId) : Paired (s.putTerminal requestId ⟨resultId,digest,payload⟩ key now) := by
  constructor
  · intro requestId' terminal ht
    change (s.terminals.set requestId _).get? requestId' = some terminal at ht
    rw [records_putTerminal]
    rw [Dict.get?_set] at ht
    split at ht
    · next hid =>
      cases ht
      rw [hid]
      refine ⟨_,by rw [Dict.get?_set,if_pos rfl],rfl,rfl,hrequest,hresult⟩
    · obtain ⟨row,hrow,hpair⟩ := hs.record requestId' terminal ht
      have hne : terminal.resultId ≠ resultId := fun h => (by rw [h,hnew] at hrow; cases hrow)
      exact ⟨row,by rw [Dict.get?_set,if_neg hne]; exact hrow,hpair⟩
  · intro resultId' row hrow
    rw [records_putTerminal,Dict.get?_set] at hrow
    change ∃ requestId' terminal, (s.terminals.set requestId _).get? requestId' = some terminal ∧ _
    split at hrow
    · next hid =>
      cases hrow
      exact ⟨requestId,_,by rw [Dict.get?_set,if_pos rfl],hid.symm,rfl,rfl,hrequest,hresult⟩
    · obtain ⟨requestId',terminal,ht,hid,hpair⟩ := hs.terminal resultId' row hrow
      have hne : requestId' ≠ requestId := fun h => (by rw [h,hfresh] at ht; cases ht)
      exact ⟨requestId',terminal,by rw [Dict.get?_set,if_neg hne]; exact ht,hid,hpair⟩

theorem kept_put (hfresh : s.terminals.get? requestId = none) (hnew : (s.protocol .crossProjectParticipantResult).get? resultId = none) :
    TerminalsKept s (s.putTerminal requestId ⟨resultId,digest,payload⟩ key now) := by
  constructor
  · intro requestId' terminal ht
    have hne : requestId' ≠ requestId := fun h => (by rw [h,hfresh] at ht; cases ht)
    change (s.terminals.set requestId _).get? requestId' = some terminal
    rw [Dict.get?_set,if_neg hne]
    exact ht
  · intro resultId' row hrow
    have hne : resultId' ≠ resultId := fun h => (by rw [h,hnew] at hrow; cases hrow)
    refine ⟨row,?_,rfl,rfl,rfl⟩
    rw [records_putTerminal,Dict.get?_set,if_neg hne]
    exact hrow

theorem openable_put (hs : Openable s) (terminal : TerminalRow) : Openable (s.putTerminal requestId terminal key now) := by
  refine ⟨fun kind hkind => ?_,hs.index⟩
  have hne : kind ≠ .crossProjectParticipantResult := by
    rintro rfl
    exact absurd hkind (by decide)
  have hsame : (s.putTerminal requestId terminal key now).protocol kind = s.protocol kind := if_neg hne
  rw [hsame]
  exact hs.apart kind hkind

end Admit

/-! ### Calls and re-openings together -/

inductive TerminalCall : BridgeProg Unit → Prop where
  | record (requestId resultId key digest : String) (payload : Payload) :
    TerminalCall (ignoring (recordCoordinationParticipantTerminal requestId resultId key digest payload))
  | reopen : TerminalCall openStore

/-- Results are recorded and the store is opened again and again, in any order. -/
def terminalSystem : BridgeSystem where
  start := TerminalCall
  valid _ _ _ := True
  guard _ _ _ := True

def terminalDiscipline : Discipline BridgeStore Held Answer AgentError Unit where
  sys := terminalSystem
  ok s := Paired s ∧ Openable s
  step := TerminalsKept
  idle := .refl

theorem sound_openStore : terminalDiscipline.Sound openStore := by
  have hmigrate : terminalDiscipline.Sound (atomically migrateProtocolDigestUniqueness : BridgeProg Unit) := by
    refine ⟨fun u => Discipline.from_transaction fun s _ hs a s' hrun _ => ?_⟩
    obtain ⟨s'',hok,hsame,hopen⟩ := migrate_run hs.2
    rw [hok] at hrun
    cases hrun
    exact ⟨hsame.kept,⟨hsame.paired hs.1,hopen⟩,trivial⟩
  have hbackfill : terminalDiscipline.Sound (atomically backfillCoordinationTerminals : BridgeProg Unit) := by
    refine ⟨fun u => Discipline.from_transaction fun s _ hs a s' hrun _ => ?_⟩
    rw [backfill_run hs.1] at hrun
    cases hrun
    exact ⟨.refl s,hs,trivial⟩
  unfold openStore
  infer_instance

theorem sound_recordTerminal (requestId resultId key digest : String) (payload : Payload) :
    terminalDiscipline.Sound (recordCoordinationParticipantTerminal requestId resultId key digest payload) := by
  refine ⟨fun u => Discipline.from_require_bind fun hbound => Discipline.from_ask_bind fun now => ?_⟩
  have hadmit : terminalDiscipline.Sound (atomically (admitTerminal requestId resultId key digest payload now) : BridgeProg Bool) := by
    refine ⟨fun u => Discipline.from_transaction fun s _ hs inserted s' hrun _ => ?_⟩
    rcases admitTerminal_ok hrun with ⟨rfl,-⟩ | ⟨hfresh,hnew,rfl⟩
    · exact ⟨.refl _,hs,trivial⟩
    · exact ⟨kept_put hfresh hnew,⟨paired_put hs.1 hfresh hnew (Json.eq_str_of_alike hbound.1) (Json.eq_str_of_alike hbound.2),
        openable_put hs.2 _⟩,trivial⟩
  have hread : terminalDiscipline.Sound (atomically (protocolRecord .crossProjectParticipantResult resultId) : BridgeProg _) :=
    inferInstanceAs (Discipline.Sound _ (atomically (Tx.read _)))
  exact Discipline.Sound.sound u

theorem sound_terminalCall {p : BridgeProg Unit} (h : TerminalCall p) : terminalDiscipline.Sound p := by
  cases h with
  | record requestId resultId key digest payload =>
    have hrecord := sound_recordTerminal requestId resultId key digest payload
    infer_instance
  | reopen => exact sound_openStore

/-! ### Rejected calls -/

/-- A call that raised wrote nothing, or raised because the record it had just admitted was gone. -/
theorem recordTerminal_rejected {requestId resultId key digest : String} {payload : Payload} {own : List (BridgeStore × BridgeStore)}
    {e : AgentError} (h : Prog.Goes (ignoring (recordCoordinationParticipantTerminal requestId resultId key digest payload)) own (.fail e)) :
    (∀ c ∈ own, c.2 = c.1) ∨ ∃ s s' s'' now inserted, own = [(s,s'),(s'',s'')] ∧
      admitTerminal requestId resultId key digest payload now s = .ok (inserted,s') ∧
      (s''.protocol .crossProjectParticipantResult).get? resultId = none := by
  have hgoes : Prog.Goes (recordCoordinationParticipantTerminal requestId resultId key digest payload) own (.fail e) := by
    rcases h.bind_fail with hfail | ⟨_,_,_,-,-,hend⟩
    · exact hfail
    · exact hend.ret_fail.elim
  rcases hgoes.require_fail with rfl | ⟨-,hgoes⟩
  · exact .inl fun _ hc => (by cases hc)
  obtain ⟨now,hgoes⟩ := hgoes.ask_fail
  obtain ⟨s,own',rfl,⟨inserted,s',hrun,hread⟩ | ⟨hrun,rfl⟩⟩ := hgoes.transaction_fail
  · have hnext : (admitTerminal requestId resultId key digest payload now).next s = s' := by simp only [Tx.next,hrun]
    rw [hnext]
    obtain ⟨s'',own'',rfl,⟨row,s₂,hrow,hend⟩ | ⟨hrow,-⟩⟩ := hread.transaction_fail
    · cases hrow
      rcases hend.orRaise_fail with ⟨hnone,rfl⟩ | ⟨row,-,hend⟩
      · exact .inr ⟨s,s',s'',now,inserted,rfl,hrun,hnone⟩
      · exact hend.ret_fail.elim
    · cases hrow
  · left
    intro c hc
    rw [List.mem_singleton.mp hc]
    simp only [Tx.next,hrun]

theorem admitted_record {requestId resultId key digest now : String} {payload : Payload} {inserted : Bool} (hs' : Paired s')
    (h : admitTerminal requestId resultId key digest payload now s = .ok (inserted,s')) :
    ∃ row, (s'.protocol .crossProjectParticipantResult).get? resultId = some row := by
  rcases admitTerminal_ok h with ⟨rfl,terminal,ht,hid⟩ | ⟨-,-,rfl⟩
  · obtain ⟨row,hrow,-⟩ := hs'.record requestId terminal ht
    exact ⟨row,hid ▸ hrow⟩
  · rw [records_putTerminal]
    exact ⟨_,by rw [Dict.get?_set,if_pos rfl]⟩

/-! ### Whole runs -/

/-- However calls and re-openings follow each other: terminals and records stay in pairs, nothing
of them changes or disappears, opening the store again neither raises nor changes them, and a
call that is rejected leaves both tables as it found them. -/
theorem terminals_paired {s₀ : BridgeStore} {w : BridgeWorld} (h₀ : Paired s₀) (hopen : Openable s₀)
    (h : World.Reachable terminalSystem (World.init s₀) w) :
    (∀ s ∈ w.trace.history, Paired s) ∧
    (w.trace.history.Pairwise fun later earlier => TerminalsKept earlier later) ∧
    (∀ s ∈ w.trace.history, ∃ s', migrateProtocolDigestUniqueness s = .ok ((),s') ∧ SameTables s s' ∧
      backfillCoordinationTerminals s' = .ok ((),s')) ∧
    ∀ i own w' requestId resultId key digest payload e,
      w.threads[i]? = some (ignoring (recordCoordinationParticipantTerminal requestId resultId key digest payload)) →
      World.Runs terminalSystem i w own w' → w'.threads[i]? = some (.fail e) → ∀ c ∈ own, SameTables c.1 c.2 := by
  let Later : BridgeStore → BridgeStore → Prop := fun later earlier => TerminalsKept earlier later
  have htrans : Trans Later Later Later := ⟨fun h h' => TerminalsKept.trans h' h⟩
  obtain ⟨hok,hchain⟩ := World.Reachable.disciplined terminalDiscipline (fun p hp => sound_terminalCall hp) ⟨h₀,hopen⟩ h
  have hlater : w.trace.history.IsChain Later := hchain
  refine ⟨fun s hs => (hok s hs).1,hlater.pairwise,fun s hs => ?_,?_⟩
  · obtain ⟨s',hrun,hsame,-⟩ := migrate_run (hok s hs).2
    exact ⟨s',hrun,hsame,backfill_run (hsame.paired (hok s hs).1)⟩
  · intro i own w' requestId resultId key digest payload e hi hruns hfail
    obtain ⟨p',hp',hgoes⟩ := hruns.thread hi
    rw [hfail] at hp'
    cases hp'
    have hreach := h.trans hruns.reachable
    obtain ⟨hok',hchain'⟩ := World.Reachable.disciplined terminalDiscipline (fun p hp => sound_terminalCall hp) ⟨h₀,hopen⟩ hreach
    have hlater' : w'.trace.history.IsChain Later := hchain'
    rcases recordTerminal_rejected hgoes with hsame | ⟨s,s',s'',now,inserted,rfl,hrun,hnone⟩
    · intro c hc
      rw [hsame c hc]
      exact ⟨rfl,rfl⟩
    · have hleft : [s'',s'].Sublist w'.trace.history := hruns.left_sublist
      have hkept : TerminalsKept s' s'' := List.rel_of_pairwise_cons (hlater'.pairwise.sublist hleft) List.mem_cons_self
      have hthere := admitted_record (hok' s' (hleft.subset (by simp))).1 hrun
      obtain ⟨row,hrow⟩ := hthere
      obtain ⟨row',hrow',-⟩ := hkept.records resultId row hrow
      rw [hnone] at hrow'
      cases hrow'

/-! ### One result -/

/-- The result of a work request. -/
def participantResult : Payload := .ofList [("requestId",.str "work"),("resultId",.str "result"),("digest",.str "digest")]

/-- A file with the old constraint and no rows. -/
def olderStore : BridgeStore := { schema := { tableUnique := true } }

theorem olderStore_paired : Paired olderStore := by
  constructor
  · intro requestId terminal ht
    cases ht
  · intro resultId row hrow
    cases hrow

theorem olderStore_openable : Openable olderStore := ⟨by decide +kernel,.inl rfl⟩

/-- The older file is opened, a result is recorded twice, and the file is opened again. -/
def resultTwice : List (Move BridgeStore Held Answer AgentError Unit) :=
  let record : BridgeProg Unit := ignoring (recordCoordinationParticipantTerminal "work" "result" "key" "digest" participantResult)
  [.start openStore] ++ World.steps 0 2 plainAnswers ++ [.start record] ++ World.steps 1 3 plainAnswers ++
  [.start record] ++ World.steps 2 3 plainAnswers ++ [.start openStore] ++ World.steps 3 2 plainAnswers

theorem terminals_paired_twice : ∃ w : BridgeWorld,
    ((w.trace.store.terminals.get? "work").any fun row => row.resultId = "result") = true ∧
    (∀ s ∈ w.trace.history, Paired s) ∧ w.trace.history.Pairwise fun later earlier => TerminalsKept earlier later := by
  have hallowed : ∀ mv ∈ resultTwice, mv.Allowed terminalSystem := by
    simp only [resultTwice,List.forall_mem_append]
    exact ⟨⟨⟨⟨⟨⟨⟨World.allowed_start _ .reopen,World.allowed_steps _ _ _⟩,World.allowed_start _ (.record _ _ _ _ _)⟩,
      World.allowed_steps _ _ _⟩,World.allowed_start _ (.record _ _ _ _ _)⟩,World.allowed_steps _ _ _⟩,
      World.allowed_start _ .reopen⟩,World.allowed_steps _ _ _⟩
  have hplay : ((World.init olderStore).play (fun _ _ _ => true) (fun _ _ _ => true) resultTwice).any (fun w =>
      (w.trace.store.terminals.get? "work").any fun row => row.resultId = "result") = true := by decide +kernel
  obtain ⟨w,hw,hc⟩ := World.exists_reachable _ _ _ (fun _ _ _ _ => trivial) (fun _ _ _ _ => trivial) hallowed hplay
  obtain ⟨hpaired,hkept,-⟩ := terminals_paired olderStore_paired olderStore_openable hw
  exact ⟨w,hc,hpaired,hkept⟩

end Overseer.Psychlo
