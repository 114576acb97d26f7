import Overseer.Psychlo.Rounds
import Overseer.Library.Sequential

/-! # Token samples

`record_telemetry_checkpoint` and the table behind it. The samples of a round form a stream
in the order they were stored; every sample but the first one carries how far its counters
are beyond those of the sample before.
-/
namespace Overseer.Psychlo
open Overseer.Library Overseer.Agent

/-! ### The program -/

/-- The payloads of a round's samples, in the order of their rows. -/
def telemetryStream (roundId : String) (s : BridgeStore) : List Payload :=
  (s.telemetry.values.filter fun row => row.roundId = roundId).map (·.payload)

def BridgeStore.putTelemetry (s : BridgeStore) (checkpointId : String) (row : TelemetryRow) : BridgeStore :=
  { s with telemetry := s.telemetry.set checkpointId row }

/-- `INSERT INTO telemetry_checkpoints`; false when the id or the digest is taken. -/
def insertTelemetry (checkpointId : String) (row : TelemetryRow) : BridgeTx Bool := do
  let rows ← Tx.read (·.telemetry)
  if rows.get? checkpointId = none ∧ ∀ other ∈ rows.values, other.digest ≠ row.digest then do
    Tx.write (·.putTelemetry checkpointId row)
    return true
  else return false

structure TelemetryReceipt where
  inserted : Bool
  replay : Bool
  checkpoint : Payload

/-- A counter of a sample. The contract leaves none of them out. -/
def counterOf (counters : Payload) (k : String) : ℤ := (counters.get k).asInt?.getD 0

/-- The mapping at `k`. -/
def mappingAt (p : Payload) (k : String) : Payload := (Payload.ofJson? (p.get k)).getD .empty

/-- The sample with its delta, when it may follow the last one of its stream. -/
def nextSample (prior : Option Payload) (checkpoint : Payload) : Check Payload :=
  let current := mappingAt checkpoint "cumulative"
  match prior with
  | none => do
    check (checkpoint.get "sampleKind" = .str "baseline") (valueError "telemetry baseline is required")
    return checkpoint.set "delta" (.obj (current.keys.map fun k => (k,.int 0)))
  | some prior => do
    check (prior.get "sampleKind" ≠ .str "terminal" ∧ checkpoint.get "sampleKind" ≠ .str "baseline")
      (valueError "telemetry stream is terminal or baseline already exists")
    let previous := mappingAt prior "cumulative"
    check (∀ k ∈ previous.keys, counterOf previous k ≤ counterOf current k)
      (valueError "telemetry cumulative counters must be monotonic")
    check ((prior.get "providerSnapshotId").alike (checkpoint.get "providerSnapshotId") = true)
      (valueError "telemetry provider snapshot binding changed")
    return checkpoint.set "delta" (.obj (previous.keys.map fun k => (k,.int (counterOf current k - counterOf previous k))))

/-- The payload with the schema version that a sender may leave out. -/
def withSchema (payload : Payload) : Payload :=
  payload.set "schemaVersion" ((payload.get? "schemaVersion").getD (.str Host.telemetrySchema))

/-- `record_telemetry` of the store. -/
def recordTelemetry (checkpoint : Payload) (digest : String) : BridgeProg Bool := do
  let checkpointId := (checkpoint.get "checkpointId").text
  let inserted ← atomically (insertTelemetry checkpointId ⟨(checkpoint.get "roundId").text,checkpoint,digest⟩)
  if inserted then return true
  let existing ← atomically (Tx.read (·.telemetry.get? checkpointId))
  let stored ← if (existing.map fun row => row.payload.alike checkpoint) = some true then pure (some digest)
    else atomically (Tx.read fun s => (s.telemetry.get? checkpointId).map (·.digest))
  require (stored = some digest) (valueError "telemetry checkpoint conflict")
  return false

namespace Bridge
variable (b : Bridge)

/-- What identifies a sample: everything but its delta. -/
def telemetryDigest (checkpoint : Payload) : String := b.host.canonicalDigest (checkpoint.erase "delta")

def recordTelemetryCheckpoint (payload : Payload) : BridgeProg TelemetryReceipt := do
  let checkpoint ← liftProg (b.host.parseTelemetryCheckpoint (withSchema payload))
  let digest := b.telemetryDigest checkpoint
  let checkpointId := (checkpoint.get "checkpointId").text
  match ← atomically (Tx.read (·.telemetry.get? checkpointId)) with
  | some existing => do
    let stored ← atomically (Tx.read fun s => (s.telemetry.get? checkpointId).map (·.digest))
    if stored = some digest then return ⟨false,true,existing.payload⟩
    require (existing.payload.alike checkpoint) (valueError "telemetry checkpoint conflict")
    return ⟨false,true,existing.payload⟩
  | none => do
    let stream ← atomically (Tx.read (telemetryStream (checkpoint.get "roundId").text))
    let sample ← liftProg (nextSample stream.getLast? checkpoint)
    let inserted ← recordTelemetry sample digest
    return ⟨inserted,!inserted,sample⟩

end Bridge

/-! ### The contract of a sample -/

theorem idField_ok {v : Json} {name s : String} (h : idField v name = .ok s) : v = .str s := by
  unfold idField textField at h
  cases v <;> simp only [Json.asStr?] at h <;> try cases h
  split at h
  · cases h
    rfl
  · cases h

theorem parseTelemetryCheckpoint_eq {host : Host} {p q : Payload} (h : host.parseTelemetryCheckpoint p = .ok q) : q = p := by
  unfold Host.parseTelemetryCheckpoint at h
  iterate 9 obtain ⟨_,-,h⟩ := check_bind h
  cases h
  rfl

theorem forM_ok {α : Type} {f : α → Check Unit} {l : List α} (h : l.forM f = .ok ()) : ∀ a ∈ l, f a = .ok () := by
  induction l with
  | nil => simp
  | cons a rest ih =>
    obtain ⟨_,ha,h⟩ := check_bind h
    intro b hb
    rcases List.mem_cons.mp hb with rfl | hb
    · exact ha
    · exact ih h b hb

theorem mapM_ok {α β : Type} {f : α → Check β} {l : List α} {bs : List β} (h : l.mapM f = .ok bs) :
    ∀ a ∈ l, ∃ b, f a = .ok b := by
  induction l generalizing bs with
  | nil => simp
  | cons a rest ih =>
    rw [List.mapM_cons] at h
    obtain ⟨b,ha,h⟩ := check_bind h
    obtain ⟨bs',hrest,-⟩ := check_bind h
    intro a' ha'
    rcases List.mem_cons.mp ha' with rfl | ha'
    · exact ⟨b,ha⟩
    · exact ih hrest a' ha'

theorem idField_of_discard {v : Json} {name : String} (h : (do discard <| idField v name : Check Unit) = .ok ()) :
    ∃ id, v = .str id := by
  cases hid : idField v name with
  | error e =>
    rw [hid] at h
    cases h
  | ok id => exact ⟨id,idField_ok hid⟩

theorem item_ok {value : Payload} {k : String} {v : Json} (h : item value k = .ok v) : k ∈ value.keys := by
  unfold item at h
  cases hv : value.get? k with
  | none =>
    rw [hv] at h
    cases h
  | some w => exact (Dict.mem_keys_iff _ _).mpr ⟨w,hv⟩

theorem cumulativeCounters_ok {v : Json} (h : Host.cumulativeCounters v = .ok ()) :
    ∃ counters, Payload.ofJson? v = some counters ∧ ∀ k ∈ Host.counterNames, k ∈ counters.keys := by
  unfold Host.cumulativeCounters at h
  obtain ⟨counters,hcounters,h⟩ := check_bind h
  obtain ⟨_,-,h⟩ := check_bind h
  obtain ⟨_,-,h⟩ := check_bind h
  obtain ⟨added,hadded,h⟩ := check_bind h
  obtain ⟨total,htotal,-⟩ := check_bind h
  refine ⟨counters,?_,fun k hk => ?_⟩
  · unfold object at hcounters
    split at hcounters
    · next p hp =>
      cases hcounters
      exact hp
    · cases hcounters
  · rcases List.mem_append.mp hk with hk | hk
    · obtain ⟨v,hv⟩ := mapM_ok hadded k hk
      exact item_ok hv
    · cases List.mem_singleton.mp hk
      exact item_ok htotal

/-- What the contract makes sure of that the stream relies on. -/
structure Sampled (p : Payload) : Prop where
  undelta : p.get? "delta" = none
  checkpointId : ∃ id, p.get "checkpointId" = .str id
  roundId : ∃ id, p.get "roundId" = .str id
  counters : ∀ k ∈ Host.counterNames, k ∈ (mappingAt p "cumulative").keys
  provider : p.get? "providerSnapshotId" = none ∨ ∃ id, p.get? "providerSnapshotId" = some (.str id)

theorem parseTelemetryCheckpoint_sampled {host : Host} {p q : Payload} (h : host.parseTelemetryCheckpoint p = .ok q) :
    Sampled p := by
  unfold Host.parseTelemetryCheckpoint at h
  obtain ⟨_,hcommon,h⟩ := check_bind h
  obtain ⟨_,hids,h⟩ := check_bind h
  obtain ⟨_,-,h⟩ := check_bind h
  obtain ⟨_,-,h⟩ := check_bind h
  obtain ⟨_,hcounters,h⟩ := check_bind h
  obtain ⟨_,-,h⟩ := check_bind h
  obtain ⟨_,hprovider,-⟩ := check_bind h
  have hid : ∀ k ∈ Host.telemetryIds, ∃ id, p.get k = .str id := fun k hk => idField_of_discard (forM_ok hids k hk)
  unfold Host.common at hcommon
  obtain ⟨_,-,hcommon⟩ := check_bind hcommon
  obtain ⟨_,hkeys,-⟩ := check_bind hcommon
  have hkeys : ∀ k ∈ p.keys, _ := check_ok.mp hkeys
  constructor
  · cases hd : p.get? "delta" with
    | none => rfl
    | some v =>
      have hallowed := hkeys "delta" ((Dict.mem_keys_iff _ _).mpr ⟨v,hd⟩)
      exact absurd hallowed (by decide)
  · exact hid "checkpointId" (by decide)
  · exact hid "roundId" (by decide)
  · obtain ⟨counters,hobject,hmem⟩ := cumulativeCounters_ok hcounters
    unfold mappingAt
    rw [hobject]
    exact hmem
  · unfold Host.optionally at hprovider
    cases hv : p.get? "providerSnapshotId" with
    | none => exact .inl rfl
    | some v =>
      rw [hv] at hprovider
      obtain ⟨id,rfl⟩ := idField_of_discard hprovider
      exact .inr ⟨id,rfl⟩

/-! ### Streams -/

/-- A counter of the sample, and how far it is beyond the sample before. -/
def cumulativeOf (p : Payload) (k : String) : ℤ := counterOf (mappingAt p "cumulative") k
def deltaOf (p : Payload) (k : String) : ℤ := counterOf (mappingAt p "delta") k

/-- The sample opens a stream. -/
structure Starts (p : Payload) : Prop where
  baseline : p.get "sampleKind" = .str "baseline"
  delta : ∀ k ∈ Host.counterNames, deltaOf p k = 0

/-- The sample `q` may stand directly behind `p`. -/
structure Follows (p q : Payload) : Prop where
  unfinished : p.get "sampleKind" ≠ .str "terminal"
  later : q.get "sampleKind" ≠ .str "baseline"
  monotone : ∀ k ∈ Host.counterNames, cumulativeOf p k ≤ cumulativeOf q k
  provider : p.get? "providerSnapshotId" = q.get? "providerSnapshotId"
  delta : ∀ k ∈ Host.counterNames, deltaOf q k = cumulativeOf q k - cumulativeOf p k

theorem counterOf_ofList {keys : List String} (hkeys : keys.Nodup) (f : String → ℤ) {k : String} (hk : k ∈ keys) :
    counterOf (Payload.ofList (keys.map fun k => (k,.int (f k)))) k = f k := by
  have hfst : ((keys.map fun k => (k,Json.int (f k))).map Prod.fst) = keys := by simp [Function.comp_def]
  have hget : (Payload.ofList (keys.map fun k => (k,Json.int (f k)))).get? k = some (.int (f k)) :=
    Dict.get?_merge_of_mem _ (by rw [hfst]; exact hkeys) (List.mem_map.mpr ⟨k,hk,rfl⟩)
  unfold counterOf Payload.get
  rw [hget]
  rfl

theorem get_set_of_ne (p : Payload) {j k : String} (v : Json) (h : k ≠ j) :
    Payload.get (p.set j v) k = p.get k := by
  unfold Payload.get
  rw [Dict.get?_set,if_neg h]

theorem mappingAt_set_delta (p : Payload) (members : List (String × Json)) :
    mappingAt (p.set "delta" (.obj members)) "delta" = Payload.ofList members := by
  unfold mappingAt Payload.get
  rw [Dict.get?_set,if_pos rfl]
  rfl

theorem cumulativeOf_set_delta (p : Payload) (v : Json) (k : String) : cumulativeOf (p.set "delta" v) k = cumulativeOf p k := by
  unfold cumulativeOf mappingAt
  rw [get_set_of_ne p v (by decide)]

theorem nextSample_set {prior : Option Payload} {checkpoint sample : Payload} (h : nextSample prior checkpoint = .ok sample) :
    ∃ v, sample = checkpoint.set "delta" v := by
  cases prior with
  | none =>
    obtain ⟨_,-,h⟩ := check_bind h
    cases h
    exact ⟨_,rfl⟩
  | some prior =>
    obtain ⟨_,-,h⟩ := check_bind h
    obtain ⟨_,-,h⟩ := check_bind h
    obtain ⟨_,-,h⟩ := check_bind h
    cases h
    exact ⟨_,rfl⟩

theorem nextSample_starts {checkpoint sample : Payload} (hc : Sampled checkpoint) (h : nextSample none checkpoint = .ok sample) :
    Starts sample := by
  obtain ⟨_,hkind,h⟩ := check_bind h
  cases h
  constructor
  · exact (get_set_of_ne checkpoint _ (by decide)).trans (check_ok.mp hkind)
  · intro k hk
    unfold deltaOf
    rw [mappingAt_set_delta]
    exact counterOf_ofList (mappingAt checkpoint "cumulative").nodup (fun _ => 0) (hc.counters k hk)

theorem eq_of_alike_text {p q : Payload} {k : String} (hp : p.get? k = none ∨ ∃ id, p.get? k = some (.str id))
    (hq : q.get? k = none ∨ ∃ id, q.get? k = some (.str id)) (h : (p.get k).alike (q.get k) = true) : p.get? k = q.get? k := by
  unfold Payload.get at h
  rcases hp with hp | ⟨a,hp⟩ <;> rcases hq with hq | ⟨b,hq⟩ <;> rw [hp,hq] at h ⊢
  · cases h
  · cases h
  · rw [eq_of_beq ((Json.alike_str a b).symm.trans h)]

theorem nextSample_follows {prior checkpoint sample : Payload} (hp : ∀ k ∈ Host.counterNames, k ∈ (mappingAt prior "cumulative").keys)
    (hprovider : prior.get? "providerSnapshotId" = none ∨ ∃ id, prior.get? "providerSnapshotId" = some (.str id))
    (hc : Sampled checkpoint) (h : nextSample (some prior) checkpoint = .ok sample) : Follows prior sample := by
  obtain ⟨_,hkinds,h⟩ := check_bind h
  obtain ⟨_,hmono,h⟩ := check_bind h
  obtain ⟨_,hsame,h⟩ := check_bind h
  rw [check_ok] at hkinds hmono hsame
  cases h
  constructor
  · exact hkinds.1
  · exact (get_set_of_ne checkpoint _ (by decide)).trans_ne hkinds.2
  · intro k hk
    rw [cumulativeOf_set_delta]
    exact hmono k (hp k hk)
  · rw [Dict.get?_set,if_neg (by decide)]
    exact eq_of_alike_text hprovider hc.provider hsame
  · intro k hk
    rw [cumulativeOf_set_delta]
    unfold deltaOf
    rw [mappingAt_set_delta]
    exact counterOf_ofList (mappingAt prior "cumulative").nodup
      (fun k => counterOf (mappingAt checkpoint "cumulative") k - counterOf (mappingAt prior "cumulative") k) (hp k hk)

/-- Every sample is the first of its stream or follows the one before it. -/
structure Chained (stream : List Payload) : Prop where
  starts : ∀ p ∈ stream.head?, Starts p
  follows : stream.IsChain Follows

theorem Chained.nil : Chained [] := ⟨by simp,.nil⟩

theorem Chained.snoc {stream : List Payload} {sample : Payload} (h : Chained stream)
    (hstart : stream = [] → Starts sample) (hnext : ∀ p ∈ stream.getLast?, Follows p sample) : Chained (stream ++ [sample]) := by
  constructor
  · cases stream with
    | nil => simpa using hstart rfl
    | cons p rest => simpa using h.starts
  · rw [List.isChain_append]
    refine ⟨h.follows,.singleton _,?_⟩
    simpa using hnext

/-- What a round's samples promise. -/
structure SoundStream (stream : List Payload) : Prop where
  /-- The baseline is the first sample and no other. -/
  baseline : ∀ p rest, stream = p :: rest → p.get "sampleKind" = .str "baseline" ∧ ∀ q ∈ rest, q.get "sampleKind" ≠ .str "baseline"
  /-- Nothing stands behind a terminal sample. -/
  terminal : ∀ before p after, stream = before ++ p :: after → p.get "sampleKind" = .str "terminal" → after = []
  monotone : stream.Pairwise fun p q => ∀ k ∈ Host.counterNames, cumulativeOf p k ≤ cumulativeOf q k
  provider : ∀ p ∈ stream, ∀ q ∈ stream, p.get? "providerSnapshotId" = q.get? "providerSnapshotId"
  /-- The baseline has no delta, every other sample that to the one before. -/
  first : ∀ p ∈ stream.head?, ∀ k ∈ Host.counterNames, deltaOf p k = 0
  delta : stream.IsChain fun p q => ∀ k ∈ Host.counterNames, deltaOf q k = cumulativeOf q k - cumulativeOf p k
  /-- The deltas add up to the last sample less the baseline. -/
  total : ∀ p ∈ stream.head?, ∀ q ∈ stream.getLast?, ∀ k ∈ Host.counterNames,
    (stream.map (deltaOf · k)).sum = cumulativeOf q k - cumulativeOf p k

theorem sum_of_chain {f d : Payload → ℤ} {p q : Payload} {rest : List Payload}
    (h : (p :: rest).IsChain fun p q => d q = f q - f p) (hq : q ∈ (p :: rest).getLast?) : (rest.map d).sum = f q - f p := by
  induction rest generalizing p with
  | nil =>
    cases hq
    simp
  | cons r rest ih =>
    rw [List.isChain_cons_cons] at h
    have hrest := ih h.2 (by simpa using hq)
    rw [List.map_cons,List.sum_cons,hrest,h.1]
    omega

theorem Chained.sound {stream : List Payload} (h : Chained stream) : SoundStream stream := by
  constructor
  · rintro p rest rfl
    let Later : Payload → Payload → Prop := fun _ q => q.get "sampleKind" ≠ .str "baseline"
    have : Trans Later Later Later := ⟨fun _ h => h⟩
    have hlater : (p :: rest).IsChain Later := h.follows.imp fun _ _ hpq => hpq.later
    exact ⟨(h.starts p rfl).baseline,fun q hq => hlater.rel_cons hq⟩
  · rintro before p after rfl hkind
    cases after with
    | nil => rfl
    | cons q rest =>
      have hnext := (List.isChain_append_cons_cons.mp h.follows).2.1
      exact absurd hkind hnext.unfinished
  · let Below : Payload → Payload → Prop := fun p q => ∀ k ∈ Host.counterNames, cumulativeOf p k ≤ cumulativeOf q k
    have : Trans Below Below Below := ⟨fun hpq hqr k hk => (hpq k hk).trans (hqr k hk)⟩
    have hbelow : stream.IsChain Below := h.follows.imp fun _ _ hpq => hpq.monotone
    exact hbelow.pairwise
  · let Bound : Payload → Payload → Prop := fun p q => p.get? "providerSnapshotId" = q.get? "providerSnapshotId"
    have : Trans Bound Bound Bound := ⟨fun hpq hqr => Eq.trans hpq hqr⟩
    have hbound : stream.IsChain Bound := h.follows.imp fun _ _ hpq => hpq.provider
    have : Std.Symm Bound := ⟨fun _ _ h => Eq.symm h⟩
    have hrefl : ∀ p ∈ stream, Bound p p := fun _ _ => rfl
    exact fun p hp q hq => List.Pairwise.forall_of_forall hrefl hbound.pairwise hp hq
  · exact fun p hp => (h.starts p hp).delta
  · exact h.follows.imp fun _ _ hpq => hpq.delta
  · intro p hp q hq k hk
    cases stream with
    | nil => cases hp
    | cons r rest =>
      cases hp
      have hchain : (p :: rest).IsChain fun p q => deltaOf q k = cumulativeOf q k - cumulativeOf p k :=
        h.follows.imp fun _ _ hpq => hpq.delta k hk
      rw [List.map_cons,List.sum_cons,(h.starts p rfl).delta k hk,sum_of_chain hchain hq,zero_add]

/-! ### What one call does -/

/-- The call files a new sample at the end of its stream. -/
structure Appends (b : Bridge) (payload : Payload) (s s' : BridgeStore) (sample : Payload) : Prop where
  accepted : b.host.parseTelemetryCheckpoint (withSchema payload) = .ok (withSchema payload)
  fresh : s.telemetry.get? (sample.get "checkpointId").text = none
  follows : nextSample (telemetryStream ((withSchema payload).get "roundId").text s).getLast? (withSchema payload) = .ok sample
  stored : s' = s.putTelemetry (sample.get "checkpointId").text
    ⟨(sample.get "roundId").text,sample,b.telemetryDigest (withSchema payload)⟩

/-- What a call can come to. -/
inductive Recorded (b : Bridge) (payload : Payload) (s : BridgeStore) : Except AgentError TelemetryReceipt × BridgeStore → Prop where
  | rejected (e : AgentError) : Recorded b payload s (.error e,s)
  | replayed (checkpoint : Payload) : Recorded b payload s (.ok ⟨false,true,checkpoint⟩,s)
  | appended {sample : Payload} {s' : BridgeStore} (h : Appends b payload s s' sample) :
    Recorded b payload s (.ok ⟨true,false,sample⟩,s')

theorem insertTelemetry_cases (checkpointId : String) (row : TelemetryRow) (s : BridgeStore) :
    insertTelemetry checkpointId row s = .ok (false,s) ∨ s.telemetry.get? checkpointId = none ∧
      insertTelemetry checkpointId row s = .ok (true,s.putTelemetry checkpointId row) := by
  by_cases h : s.telemetry.get? checkpointId = none ∧ ∀ other ∈ s.telemetry.values, other.digest ≠ row.digest
  · refine .inr ⟨h.1,?_⟩
    change (if s.telemetry.get? checkpointId = none ∧ _ then _ else _ : BridgeTx Bool) s = _
    rw [if_pos h]
    rfl
  · left
    change (if s.telemetry.get? checkpointId = none ∧ _ then _ else _ : BridgeTx Bool) s = _
    rw [if_neg h]
    rfl

variable {b : Bridge} {answers : ∀ q, Answer q} {payload : Payload} {s : BridgeStore}

/-- One call with these answers: what it returns or raises and the store it leaves. -/
def telemetryCall (b : Bridge) (answers : ∀ q, Answer q) (payload : Payload) (s : BridgeStore) :
    Except AgentError TelemetryReceipt × BridgeStore := (b.recordTelemetryCheckpoint payload).perform answers s

@[simp] theorem perform_liftProg_bind {α β : Type} {c : Check α} {a : α} (h : c = .ok a) {f : α → BridgeProg β} :
    (liftProg c >>= f).perform answers s = (f a).perform answers s := by
  subst h
  rfl

theorem perform_liftProg_error {α β : Type} {c : Check α} {e : AgentError} (h : c = .error e) {f : α → BridgeProg β} :
    (liftProg c >>= f).perform answers s = (.error e,s) := by
  subst h
  rfl

theorem recordTelemetry_perform (answers : ∀ q, Answer q) (sample : Payload) (digest : String) (s : BridgeStore) :
    (∃ e, (recordTelemetry sample digest).perform answers s = (.error e,s)) ∨
    (recordTelemetry sample digest).perform answers s = (.ok false,s) ∨
    s.telemetry.get? (sample.get "checkpointId").text = none ∧ (recordTelemetry sample digest).perform answers s =
      (.ok true,s.putTelemetry (sample.get "checkpointId").text ⟨(sample.get "roundId").text,sample,digest⟩) := by
  unfold recordTelemetry
  rcases insertTelemetry_cases (sample.get "checkpointId").text ⟨(sample.get "roundId").text,sample,digest⟩ s with h | ⟨hfresh,h⟩
  · rw [Prog.perform_atomically_bind h]
    simp only [Bool.false_eq_true,↓reduceIte,Prog.perform_read_bind]
    have hend : ∀ stored : Option String, (∃ e, (do
        require (stored = some digest) (valueError "telemetry checkpoint conflict")
        return false : BridgeProg Bool).perform answers s = (.error e,s)) ∨ (do
        require (stored = some digest) (valueError "telemetry checkpoint conflict")
        return false : BridgeProg Bool).perform answers s = (.ok false,s) := by
      intro stored
      by_cases hd : stored = some digest
      · exact .inr (by simp only [require,hd,↓reduceIte]; rfl)
      · exact .inl ⟨_,by simp only [require,hd,↓reduceIte]; rfl⟩
    split
    · exact (hend (some digest)).imp_right .inl
    · exact (hend _).imp_right .inl
  · right
    right
    rw [Prog.perform_atomically_bind h]
    exact ⟨hfresh,rfl⟩

theorem telemetryCall_recorded (b : Bridge) (answers : ∀ q, Answer q) (payload : Payload) (s : BridgeStore) :
    Recorded b payload s (telemetryCall b answers payload s) := by
  unfold telemetryCall Bridge.recordTelemetryCheckpoint
  cases hp : b.host.parseTelemetryCheckpoint (withSchema payload) with
  | error e =>
    rw [perform_liftProg_error rfl]
    exact .rejected e
  | ok checkpoint =>
    have hc := parseTelemetryCheckpoint_eq hp
    subst hc
    rw [perform_liftProg_bind rfl,Prog.perform_read_bind]
    cases hrow : s.telemetry.get? ((withSchema payload).get "checkpointId").text with
    | some existing =>
      simp only [Prog.perform_read_bind]
      split
      · exact .replayed _
      · unfold require
        split
        · exact .replayed _
        · exact .rejected _
    | none =>
      simp only [Prog.perform_read_bind]
      cases hnext : nextSample (telemetryStream ((withSchema payload).get "roundId").text s).getLast? (withSchema payload) with
      | error e =>
        rw [perform_liftProg_error rfl]
        exact .rejected e
      | ok sample =>
        rw [perform_liftProg_bind rfl]
        have hid : (sample.get "checkpointId").text = ((withSchema payload).get "checkpointId").text := by
          obtain ⟨v,rfl⟩ := nextSample_set hnext
          rw [get_set_of_ne _ _ (by decide)]
        rcases recordTelemetry_perform answers sample (b.telemetryDigest (withSchema payload)) s with ⟨e,h⟩ | h | ⟨-,h⟩
        · exact (Prog.perform_bind_error h).symm ▸ .rejected e
        · exact (Prog.perform_bind h).symm ▸ .replayed sample
        · exact (Prog.perform_bind h).symm ▸ .appended ⟨hp,hid.symm ▸ hrow,hnext,rfl⟩

/-! ### Payloads with the same members -/

theorem canonicalMembers_eq_map (members : List (String × Json)) :
    Host.canonicalMembers members = members.map fun e => (e.1,Host.canonical e.2) := by
  induction members with
  | nil => rfl
  | cons e rest ih => rw [Host.canonicalMembers,ih,List.map_cons]

theorem canonical_of_members_perm {es fs : List (String × Json)} (hes : (es.map Prod.fst).Nodup)
    (hperm : (Host.canonicalMembers es).Perm (Host.canonicalMembers fs)) : Host.canonical (.obj es) = Host.canonical (.obj fs) := by
  let before : String × String → String × String → Prop := fun a b => textLe a.1 b.1
  have : IsTrans _ before := ⟨fun a b c (hab : a.1.toList ≤ b.1.toList) hbc => le_trans hab hbc⟩
  have : Std.Total before := ⟨fun a b => le_total a.1.toList b.1.toList⟩
  have hkeys : ((Host.canonicalMembers es).map Prod.fst).Nodup := by
    rw [canonicalMembers_eq_map,List.map_map]
    exact hes
  have hsorted : (Host.canonicalMembers es).insertionSort before = (Host.canonicalMembers fs).insertionSort before := by
    refine List.Perm.eq_of_pairwise ?_ (List.pairwise_insertionSort before _) (List.pairwise_insertionSort before _)
      ((List.perm_insertionSort before _).trans (hperm.trans (List.perm_insertionSort before _).symm))
    intro a c ha hc hac hca
    have hkey : a.1 = c.1 := String.toList_inj.mp (le_antisymm hac hca)
    have ha' := (List.perm_insertionSort before _).mem_iff.mp ha
    have hc' := hperm.mem_iff.mpr ((List.perm_insertionSort before _).mem_iff.mp hc)
    exact List.inj_on_of_nodup_map hkeys ha' hc' hkey
  simp only [Host.canonical]
  rw [show (Host.canonicalMembers es).insertionSort (fun a b => textLe a.1 b.1) = _ from hsorted]

theorem canonical_perm {es fs : List (String × Json)} (hes : (es.map Prod.fst).Nodup) (h : es.Perm fs) :
    Host.canonical (.obj es) = Host.canonical (.obj fs) := by
  refine canonical_of_members_perm hes ?_
  rw [canonicalMembers_eq_map,canonicalMembers_eq_map]
  exact h.map _

theorem canonicalDigest_congr {host : Host} {p q : Payload} (h : ∀ k, p.get? k = q.get? k) :
    host.canonicalDigest p = host.canonicalDigest q := by
  have hperm := (Dict.entries_perm h).filter fun e => e.1 ≠ "digest"
  have hnodup : ((p.entries.filter fun e => e.1 ≠ "digest").map Prod.fst).Nodup :=
    (List.filter_sublist.map Prod.fst).nodup p.nodup
  unfold Host.canonicalDigest
  rw [canonical_perm hnodup hperm]

theorem parseTelemetryCheckpoint_congr {host : Host} {p q : Payload} (h : ∀ k, p.get? k = q.get? k)
    (hp : host.parseTelemetryCheckpoint p = .ok p) : host.parseTelemetryCheckpoint q = .ok q := by
  have hget : ∀ k, p.get k = q.get k := fun k => by rw [Payload.get,Payload.get,h]
  have hkeys : ∀ k, k ∈ p.keys ↔ k ∈ q.keys := fun k => by rw [Dict.mem_keys_iff,Dict.mem_keys_iff,h]
  simp only [Host.parseTelemetryCheckpoint,Host.common,onlyKeys,Host.optionally,hget,hkeys,h] at hp ⊢
  iterate 9
    obtain ⟨_,hpart,hp'⟩ := check_bind hp
    rw [bind_of_passed hpart]
    replace hp := hp'
  rfl

/-! ### The table over a run -/

/-- A stored sample was accepted and is filed under its id and its digest. -/
structure StoredSample (b : Bridge) (checkpointId : String) (row : TelemetryRow) : Prop where
  accepted : b.host.parseTelemetryCheckpoint (row.payload.erase "delta") = .ok (row.payload.erase "delta")
  filed : row.payload.get "checkpointId" = .str checkpointId
  digest : row.digest = b.host.canonicalDigest (row.payload.erase "delta")

structure SoundTable (b : Bridge) (s : BridgeStore) : Prop where
  rows : ∀ checkpointId row, s.telemetry.get? checkpointId = some row → StoredSample b checkpointId row
  streams : ∀ roundId, Chained (telemetryStream roundId s)

theorem telemetryStream_put {s : BridgeStore} {checkpointId : String} {row : TelemetryRow}
    (h : s.telemetry.get? checkpointId = none) (roundId : String) :
    telemetryStream roundId (s.putTelemetry checkpointId row) =
      telemetryStream roundId s ++ if row.roundId = roundId then [row.payload] else [] := by
  unfold telemetryStream BridgeStore.putTelemetry
  rw [Dict.values_set_of_none row h,List.filter_append,List.map_append]
  by_cases hround : row.roundId = roundId <;> simp [hround]

theorem mem_telemetryStream {roundId : String} {p : Payload} (h : p ∈ telemetryStream roundId s) :
    ∃ checkpointId row, s.telemetry.get? checkpointId = some row ∧ row.payload = p := by
  obtain ⟨row,hrow,rfl⟩ := List.mem_map.mp h
  obtain ⟨checkpointId,hget⟩ := (Dict.mem_values_iff _ _).mp (List.mem_filter.mp hrow).1
  exact ⟨checkpointId,row,hget,rfl⟩

theorem StoredSample.counters {checkpointId : String} {row : TelemetryRow} (h : StoredSample b checkpointId row) :
    ∀ k ∈ Host.counterNames, k ∈ (mappingAt row.payload "cumulative").keys := by
  have hcounters := (parseTelemetryCheckpoint_sampled h.accepted).counters
  have hsame : mappingAt (row.payload.erase "delta") "cumulative" = mappingAt row.payload "cumulative" := by
    unfold mappingAt Payload.get
    rw [Dict.get?_erase,if_neg (by decide)]
  rwa [hsame] at hcounters

theorem StoredSample.provider {checkpointId : String} {row : TelemetryRow} (h : StoredSample b checkpointId row) :
    row.payload.get? "providerSnapshotId" = none ∨ ∃ id, row.payload.get? "providerSnapshotId" = some (.str id) := by
  have hprovider := (parseTelemetryCheckpoint_sampled h.accepted).provider
  rwa [Dict.get?_erase,if_neg (by decide)] at hprovider

/-- One more sample keeps the table. -/
theorem Appends.sound {s' : BridgeStore} {sample : Payload} (h : Appends b payload s s' sample) (hs : SoundTable b s) :
    SoundTable b s' := by
  have hsampled := parseTelemetryCheckpoint_sampled h.accepted
  obtain ⟨v,hsample⟩ := nextSample_set h.follows
  have herase : sample.erase "delta" = withSchema payload := by
    rw [hsample]
    exact Dict.erase_set_of_none v hsampled.undelta
  have hround : sample.get "roundId" = (withSchema payload).get "roundId" := by
    rw [hsample]
    exact get_set_of_ne _ _ (by decide)
  obtain ⟨id,hid⟩ := hsampled.checkpointId
  have hid : sample.get "checkpointId" = .str id := by
    rw [hsample]
    exact (get_set_of_ne _ _ (by decide)).trans hid
  rw [h.stored]
  constructor
  · intro checkpointId row hrow
    change (s.telemetry.set _ _).get? _ = _ at hrow
    rw [Dict.get?_set] at hrow
    split at hrow
    · next hkey =>
      cases hrow
      constructor
      · change b.host.parseTelemetryCheckpoint (sample.erase "delta") = _
        rw [herase]
        exact h.accepted
      · rw [hkey,hid]
        rfl
      · change b.telemetryDigest (withSchema payload) = b.host.canonicalDigest (sample.erase "delta")
        rw [herase,Bridge.telemetryDigest,Dict.erase_of_none hsampled.undelta]
    · exact hs.rows _ _ hrow
  · intro roundId
    rw [telemetryStream_put h.fresh]
    split
    · next heq =>
      have heq : (sample.get "roundId").text = roundId := heq
      have hnext := h.follows
      rw [← hround,heq] at hnext
      refine (hs.streams roundId).snoc (fun hnil => ?_) fun p hp => ?_
      · rw [hnil] at hnext
        exact nextSample_starts hsampled hnext
      · rw [hp] at hnext
        obtain ⟨checkpointId,row,hrow,rfl⟩ := mem_telemetryStream (List.mem_of_mem_getLast? hp)
        exact nextSample_follows (hs.rows _ _ hrow).counters (hs.rows _ _ hrow).provider hsampled hnext
    · rw [List.append_nil]
      exact hs.streams roundId

theorem Recorded.sound {r : Except AgentError TelemetryReceipt × BridgeStore} (h : Recorded b payload s r) (hs : SoundTable b s) :
    SoundTable b r.2 := by
  cases h with
  | rejected e => exact hs
  | replayed checkpoint => exact hs
  | appended h => exact h.sound hs

theorem StoredSample.replay {checkpointId : String} {row : TelemetryRow} (h : StoredSample b checkpointId row)
    (hrow : s.telemetry.get? checkpointId = some row)
    (hsame : ∀ k, (row.payload.erase "delta").get? k = (withSchema payload).get? k) :
    telemetryCall b answers payload s = (.ok ⟨false,true,row.payload⟩,s) := by
  have hp := parseTelemetryCheckpoint_congr hsame h.accepted
  have hid : ((withSchema payload).get "checkpointId").text = checkpointId := by
    have hfiled := h.filed
    unfold Payload.get at hfiled ⊢
    rw [← hsame,Dict.get?_erase,if_neg (by decide),hfiled]
    rfl
  have hundelta : (withSchema payload).get? "delta" = none := by rw [← hsame,Dict.get?_erase,if_pos rfl]
  have hdigest : row.digest = b.telemetryDigest (withSchema payload) := by
    rw [h.digest,Bridge.telemetryDigest,Dict.erase_of_none hundelta]
    exact canonicalDigest_congr hsame
  unfold telemetryCall Bridge.recordTelemetryCheckpoint
  rw [perform_liftProg_bind hp,Prog.perform_read_bind,hid,hrow]
  simp only [Prog.perform_read_bind,hrow,Option.map_some,hdigest,↓reduceIte]
  rfl

/-- A sample that the contract accepts and the store does not hold may follow the last one of its stream. -/
structure Continues (b : Bridge) (payload : Payload) (s : BridgeStore) (sample : Payload) : Prop where
  accepted : b.host.parseTelemetryCheckpoint (withSchema payload) = .ok (withSchema payload)
  fresh : s.telemetry.get? ((withSchema payload).get "checkpointId").text = none
  digest : ∀ row ∈ s.telemetry.values, row.digest ≠ b.telemetryDigest (withSchema payload)
  follows : nextSample (telemetryStream ((withSchema payload).get "roundId").text s).getLast? (withSchema payload) = .ok sample

theorem Continues.appended {sample : Payload} (h : Continues b payload s sample) :
    (telemetryCall b answers payload s).1 = .ok ⟨true,false,sample⟩ ∧ ∀ roundId,
      telemetryStream roundId (telemetryCall b answers payload s).2 =
        telemetryStream roundId s ++ if (sample.get "roundId").text = roundId then [sample] else [] := by
  obtain ⟨v,hsample⟩ := nextSample_set h.follows
  have hfresh : s.telemetry.get? (sample.get "checkpointId").text = none := by
    rw [hsample,get_set_of_ne _ _ (by decide)]
    exact h.fresh
  let row : TelemetryRow := ⟨(sample.get "roundId").text,sample,b.telemetryDigest (withSchema payload)⟩
  have hinsert : insertTelemetry (sample.get "checkpointId").text row s = .ok (true,s.putTelemetry (sample.get "checkpointId").text row) := by
    change (if s.telemetry.get? _ = none ∧ _ then _ else _ : BridgeTx Bool) s = _
    rw [if_pos ⟨hfresh,h.digest⟩]
    rfl
  have hcall : telemetryCall b answers payload s = (.ok ⟨true,false,sample⟩,s.putTelemetry (sample.get "checkpointId").text row) := by
    unfold telemetryCall Bridge.recordTelemetryCheckpoint
    rw [perform_liftProg_bind h.accepted,Prog.perform_read_bind,h.fresh]
    simp only [Prog.perform_read_bind]
    rw [perform_liftProg_bind h.follows]
    exact Prog.perform_bind ((Prog.perform_atomically_bind hinsert).trans rfl)
  rw [hcall]
  exact ⟨rfl,telemetryStream_put hfresh⟩

/-- The store after the calls, made one after another. -/
def telemetryRun (b : Bridge) (answers : ∀ q, Answer q) (start : BridgeStore) (calls : List Payload) : BridgeStore :=
  calls.foldl (fun s payload => (telemetryCall b answers payload s).2) start

theorem telemetryRun_sound (hs : SoundTable b s) (calls : List Payload) : SoundTable b (telemetryRun b answers s calls) := by
  induction calls generalizing s with
  | nil => exact hs
  | cons payload rest ih => exact ih ((telemetryCall_recorded b answers payload s).sound hs)

/-- However the calls mix rounds, replays and rejected samples, every stream is sound, sending a
stored sample again changes nothing, and neither does a rejected call. A new sample that may follow is put behind its stream. -/
theorem telemetry_streams_sound (b : Bridge) (answers : ∀ q, Answer q) (start : BridgeStore) (calls : List Payload) :
    let s := telemetryRun b answers { start with telemetry := .empty } calls
    (∀ roundId, SoundStream (telemetryStream roundId s)) ∧
    (∀ checkpointId row payload, s.telemetry.get? checkpointId = some row →
      (∀ k, (row.payload.erase "delta").get? k = (withSchema payload).get? k) →
      telemetryCall b answers payload s = (.ok ⟨false,true,row.payload⟩,s)) ∧
    (∀ payload e, (telemetryCall b answers payload s).1 = .error e → (telemetryCall b answers payload s).2 = s) ∧
    ∀ payload sample, Continues b payload s sample → (telemetryCall b answers payload s).1 = .ok ⟨true,false,sample⟩ ∧
      ∀ roundId, telemetryStream roundId (telemetryCall b answers payload s).2 =
        telemetryStream roundId s ++ if (sample.get "roundId").text = roundId then [sample] else [] := by
  intro s
  have hempty : SoundTable b { start with telemetry := .empty } := ⟨fun _ _ h => (by cases h),fun _ => .nil⟩
  have hs : SoundTable b s := telemetryRun_sound hempty calls
  refine ⟨fun roundId => (hs.streams roundId).sound,fun checkpointId row payload hrow hsame => ?_,fun payload e he => ?_,
    fun payload sample h => h.appended⟩
  · exact (hs.rows checkpointId row hrow).replay hrow hsame
  · generalize hr : telemetryCall b answers payload s = r at he ⊢
    cases hr ▸ telemetryCall_recorded b answers payload s with
    | rejected e => rfl
    | replayed checkpoint => cases he
    | appended h => cases he

/-- A sample of one round, whose model has put out so many tokens. -/
def roundSample (checkpointId kind : String) (output : ℤ) : Payload := .ofList [("checkpointId",.str checkpointId),("projectId",.str "p"),
  ("planId",.str "plan"),("roundId",.str "r"),("threadId",.str "t"),("model",.str "m"),("featureClass",.str "f"),("sampleKind",.str kind),
  ("cumulative",.obj [("cachedInput",.int 0),("uncachedInput",.int 0),("output",.int output),("reasoning",.int 0),("total",.int output)]),
  ("activeMs",.int 1),("waitingMs",.int 0),("sourceId",.str "overseer"),("correlationId",.str "c"),("idempotencyKey",.str checkpointId),
  ("occurredAt",.str "now")]

def sampleBridge : Bridge := { host := { sha256 := fun text => text, fromisoformat := fun _ => some ⟨true,0⟩ } }

/-- The baseline, sent twice, and a sample that is less. -/
def sampledCalls : List Payload := [roundSample "a" "baseline" 3,roundSample "a" "baseline" 3,roundSample "b" "terminal" 2]

def followingSample (s : BridgeStore) : Check Payload := nextSample (telemetryStream "r" s).getLast? (withSchema (roundSample "b" "terminal" 8))

theorem telemetry_streams_sound_followed : ∃ p q, SoundStream [p] ∧ deltaOf q "output" = 5 ∧
    telemetryStream "r" (telemetryRun sampleBridge plainAnswers {} sampledCalls) = [p] ∧
    telemetryStream "r" (telemetryCall sampleBridge plainAnswers (roundSample "b" "terminal" 8)
      (telemetryRun sampleBridge plainAnswers {} sampledCalls)).2 = [p,q] := by
  obtain ⟨hsound,-,-,happended⟩ := telemetry_streams_sound sampleBridge plainAnswers {} sampledCalls
  have hstart : ({ ({} : BridgeStore) with telemetry := .empty } : BridgeStore) = {} := rfl
  rw [hstart] at hsound happended
  have hlength : (telemetryStream "r" (telemetryRun sampleBridge plainAnswers {} sampledCalls)).length = 1 := by decide +kernel
  have hnext : (followingSample (telemetryRun sampleBridge plainAnswers {} sampledCalls)).toOption.any (fun q => deltaOf q "output" = 5 &&
      (q.get "roundId").text = "r") = true := by decide +kernel
  obtain ⟨p,hp⟩ := List.length_eq_one_iff.mp hlength
  cases hfollows : followingSample (telemetryRun sampleBridge plainAnswers {} sampledCalls) with
  | error e =>
    rw [hfollows] at hnext
    cases hnext
  | ok q =>
    rw [hfollows] at hnext
    obtain ⟨hdelta,hround⟩ : deltaOf q "output" = 5 ∧ (q.get "roundId").text = "r" := by simpa [Except.toOption] using hnext
    have hcontinues : Continues sampleBridge (roundSample "b" "terminal" 8) (telemetryRun sampleBridge plainAnswers {} sampledCalls) q :=
      ⟨by rfl,by decide +kernel,by decide +kernel,hfollows⟩
    have hstream := (happended _ q hcontinues).2 "r"
    rw [hp,if_pos hround] at hstream
    exact ⟨p,q,hp ▸ hsound "r",hdelta,hp,hstream⟩

end Overseer.Psychlo
