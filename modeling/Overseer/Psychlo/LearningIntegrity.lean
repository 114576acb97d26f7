import Overseer.Psychlo.LearningDigests
import Overseer.Library.Answered

/-! # The integrity of learning observations

Whatever other calls do, a row keeps its payload and its digest, and one that verifies is not
quarantined: once an observation is accepted, every read of it finds what was accepted. A row
whose payload was altered so that the wire digest sees it is quarantined by the first read.
-/
namespace Overseer.Psychlo
open Overseer.Library Overseer.Agent

/-- A read finds the row in order. -/
structure Readable (host : Host) (observationId : String) (row : LearningRow) : Prop where
  sound : row.isCorrupt = false
  verified : host.verifyLearning observationId row = .ok ()

/-- The later row has the payload and the digest of the earlier one, and can be read when that one could. -/
structure Carries (host : Host) (observationId : String) (row row' : LearningRow) : Prop where
  payload : row'.payload = row.payload
  digest : row'.digest = row.digest
  sound : Readable host observationId row → row'.isCorrupt = false

/-- Every row is carried on. -/
def LearningKept (host : Host) (s s' : BridgeStore) : Prop := ∀ observationId row, s.learning.get? observationId = some row →
  ∃ row', s'.learning.get? observationId = some row' ∧ Carries host observationId row row'

/-- A payload that was recorded, with what the call returned. -/
structure Acceptance where
  payload : Payload
  receipt : LearningReceipt

/-- The calls about observations, of any bridges on one host; those that record one return what they accepted. -/
inductive RecordingCall (host : Host) : BridgeProg (Option Acceptance) → Prop where
  | record (b : Bridge) (hb : b.host = host) (payload : Payload) : RecordingCall host (do
      let receipt ← b.recordLearningObservation payload
      return some ⟨payload,receipt⟩)
  | read (b : Bridge) (hb : b.host = host) (observationId : String) : RecordingCall host (do
      ignoring (b.learningObservation observationId)
      return none)
  | other {p : BridgeProg Unit} (hp : LearningCall host p) : RecordingCall host (do
      p
      return none)

/-- Calls in any order, the peer and the adapters answering as they like. -/
def recordingSystem (host : Host) : System BridgeStore Held Answer AgentError (Option Acceptance) where
  start := RecordingCall host
  valid _ _ _ := True
  guard _ _ _ := True

def recordingDiscipline (host : Host) : Discipline BridgeStore Held Answer AgentError (Option Acceptance) where
  sys := recordingSystem host
  ok _ := True
  step := LearningKept host
  idle _ _ row h := ⟨row,h,rfl,rfl,fun hrow => hrow.sound⟩

section Rows
variable {host : Host} {observationId : String} {row row' : LearningRow}

theorem Carries.refl (row : LearningRow) : Carries host observationId row row := ⟨rfl,rfl,fun h => h.sound⟩

theorem Carries.readable (h : Carries host observationId row row') (hrow : Readable host observationId row) :
    Readable host observationId row' :=
  ⟨h.sound hrow,(verifyLearning_congr h.payload h.digest).trans hrow.verified⟩

theorem Carries.trans {row'' : LearningRow} (h : Carries host observationId row row') (h' : Carries host observationId row' row'') :
    Carries host observationId row row'' :=
  ⟨h'.payload.trans h.payload,h'.digest.trans h.digest,fun hrow => h'.sound (h.readable hrow)⟩

theorem get_record (row : LearningRow) {k : String} (hk : k ∉ LearningRow.recordKeys) : row.record.get k = row.payload.get k := by
  unfold Payload.get LearningRow.record
  rw [Dict.get?_merge_of_notMem _ _ hk]

theorem get_record_digest (row : LearningRow) : row.record.get "digest" = .str row.digest := by
  unfold Payload.get LearningRow.record
  rw [Dict.get?_merge_of_mem row.payload (by simp) List.mem_cons_self]
  rfl

end Rows

section Store
variable {host : Host} {s s' : BridgeStore}

theorem LearningKept.refl (s : BridgeStore) : LearningKept host s s := fun _ row h => ⟨row,h,.refl row⟩

theorem LearningKept.trans {s'' : BridgeStore} (h : LearningKept host s s') (h' : LearningKept host s' s'') : LearningKept host s s'' := by
  intro observationId row hrow
  obtain ⟨row',hrow',hcarries⟩ := h observationId row hrow
  obtain ⟨row'',hrow'',hcarries'⟩ := h' observationId row' hrow'
  exact ⟨row'',hrow'',hcarries.trans hcarries'⟩

theorem LearningKept.of_set {observationId : String} {row : LearningRow}
    (h : ∀ old, s.learning.get? observationId = some old → Carries host observationId old row) :
    LearningKept host s { s with learning := s.learning.set observationId row } := by
  intro id old hold
  change ∃ row', (s.learning.set observationId row).get? id = some row' ∧ Carries host id old row'
  rw [Dict.get?_set]
  split
  · next hid => exact ⟨row,rfl,hid ▸ h old (hid ▸ hold)⟩
  · exact ⟨old,hold,.refl old⟩

theorem LearningKept.of_update {observationId : String} {f : LearningRow → LearningRow} {a : Unit}
    (h : ∀ row, s.learning.get? observationId = some row → Carries host observationId row (f row))
    (hrun : updateLearning observationId f s = .ok (a,s')) : LearningKept host s s' := by
  rw [updateLearning_run] at hrun
  cases hrow : s.learning.get? observationId with
  | none =>
    rw [hrow] at hrun
    cases hrun
    exact .refl s
  | some row =>
    rw [hrow] at hrun
    cases hrun
    refine .of_set fun old hold => ?_
    rw [hrow] at hold
    cases hold
    exact h row hrow

theorem LearningKept.of_after {u : BridgeStore} (h : (recordingDiscipline host).After u s) : LearningKept host u s :=
  h.lift (fun s => .refl s) (fun _ _ _ => LearningKept.trans) fun _ _ _ hstep => hstep

end Store

/-! ### Reading and recording -/

section Calls
variable (b : Bridge)

/-- What a read returned is a row that verifies, and it returned one when there was such a row. -/
structure ReadOf (host : Host) (observationId : String) (u : BridgeStore) (record : Option Payload) (s : BridgeStore) : Prop where
  row : ∀ r, record = some r → ∃ row, s.learning.get? observationId = some row ∧ Readable host observationId row ∧ r = row.record
  found : ∀ row, u.learning.get? observationId = some row → Readable host observationId row → record ≠ none

theorem from_learningObservation (observationId : String) (u : BridgeStore) :
    (recordingDiscipline b.host).From (ReadOf b.host observationId u) (b.learningObservation observationId) u := by
  refine Discipline.from_read_bind fun s hus _ => ?_
  have hkept := LearningKept.of_after hus
  have hfound : ∀ row, u.learning.get? observationId = some row → Readable b.host observationId row →
      ∃ row', s.learning.get? observationId = some row' ∧ Readable b.host observationId row' := by
    intro row hrow hread
    obtain ⟨row',hrow',hcarries⟩ := hkept observationId row hrow
    exact ⟨row',hrow',hcarries.readable hread⟩
  cases hrow : s.learning.get? observationId with
  | none =>
    refine Discipline.from_pure ⟨nofun,fun row hu hread => ?_⟩
    obtain ⟨row',hrow',-⟩ := hfound row hu hread
    rw [hrow] at hrow'
    cases hrow'
  | some row =>
    have hsame : ∀ old, u.learning.get? observationId = some old → Readable b.host observationId old → Readable b.host observationId row := by
      intro old hu hread
      obtain ⟨row',hrow',hread'⟩ := hfound old hu hread
      rw [hrow] at hrow'
      cases hrow'
      exact hread'
    dsimp only
    cases hcorrupt : row.isCorrupt with
    | true =>
      refine Discipline.from_pure ⟨nofun,fun old hu hread => ?_⟩
      rw [(hsame old hu hread).sound] at hcorrupt
      cases hcorrupt
    | false =>
      cases hverify : b.host.verifyLearning observationId row with
      | ok v => exact Discipline.from_pure ⟨fun r hr => ⟨row,hrow,⟨hcorrupt,hverify⟩,(Option.some.inj hr).symm⟩,fun _ _ _ => nofun⟩
      | error e =>
        refine Discipline.from_require_bind fun _ => Discipline.from_bind (M := fun _ _ => True)
          (Discipline.from_transaction fun s' hss' _ _ s'' hrun _ => ⟨?_,trivial,trivial⟩) fun _ u' _ _ => ?_
        · -- the row is still the one that did not verify
          refine .of_update (f := LearningRow.quarantine _) (fun row' hrow' => ⟨rfl,rfl,fun hread => ?_⟩) hrun
          obtain ⟨row'',hrow'',hcarries⟩ := LearningKept.of_after hss' observationId row hrow
          rw [hrow'] at hrow''
          cases hrow''
          have hverified := (verifyLearning_congr hcarries.payload hcarries.digest).symm.trans hread.verified
          rw [hverify] at hverified
          cases hverified
        · refine Discipline.from_pure ⟨nofun,fun old hu hread => ?_⟩
          have hverified := (hsame old hu hread).verified
          rw [hverify] at hverified
          cases hverified

theorem carries_move {host : Host} {observationId : String} {row : LearningRow} {m : LearningMove} (error : Option String)
    (hm : m.delivery = .delivered ∨ m.delivery = .failed) : Carries host observationId row (row.move m error) :=
  ⟨rfl,rfl,fun h => isCorrupt_move h.sound hm⟩

/-- The row was stored for the observation, or there was one that Python compares equal. -/
structure StoredFor (host : Host) (observation : Payload) (digest : String) (inserted : Bool) (row : LearningRow) : Prop where
  readable : Readable host (observation.get "id").text row
  digest : row.digest = digest
  payload : if inserted = true then row.payload = observation else
    Json.equals host.floatIsInt (.obj (LearningRow.recordKeys.foldl Dict.erase row.record).entries) (.obj observation.entries) = true

theorem from_recordLearning {observation : Payload} {digest : String} (hp : b.host.parseLearningObservation observation = .ok observation)
    (hd : b.host.learningObservationDigest observation = .ok digest) (u : BridgeStore) :
    (recordingDiscipline b.host).From (fun inserted s => ∃ row, s.learning.get? (observation.get "id").text = some row ∧
      StoredFor b.host observation digest inserted row) (b.recordLearning observation digest) u := by
  have hnew := intact_new hp hd
  refine Discipline.from_bind (M := fun inserted s => inserted = true →
    s.learning.get? (observation.get "id").text = some { payload := observation, digest }) ?_ fun inserted s _ hinserted => ?_
  · refine Discipline.from_transaction fun s _ _ inserted s' hrun _ => ?_
    change (if s.learning.get? _ = none ∧ ∀ other ∈ s.learning.values, other.digest ≠ digest then _ else _ : BridgeTx Bool) s = _ at hrun
    split at hrun
    · next hfresh =>
      cases hrun
      refine ⟨.of_set fun old hold => ?_,trivial,fun _ => ?_⟩
      · rw [hfresh.1] at hold
        cases hold
      · change (s.learning.set _ _).get? _ = _
        rw [Dict.get?_set,if_pos rfl]
    · cases hrun
      exact ⟨.refl s,trivial,nofun⟩
  · cases inserted with
    | true => exact Discipline.from_pure ⟨_,hinserted rfl,⟨hnew.sound,hnew.verified⟩,rfl,rfl⟩
    | false =>
      refine Discipline.from_bind (from_learningObservation b _ s) fun existing s' _ hread => Discipline.from_require_bind fun hsame => ?_
      obtain ⟨record,hrecord,hsame⟩ := (Option.any_eq_true _ _).mp hsame
      obtain ⟨row,hrow,hreadable,rfl⟩ := hread.row record hrecord
      rw [Host.sameRecord,Bool.and_eq_true,decide_eq_true_eq,get_record_digest] at hsame
      exact Discipline.from_pure ⟨row,hrow,hreadable,Json.str.inj hsame.1,hsame.2⟩

/-- What an accepted payload left behind: a row under its digest that a read finds, and the receipt that tells of it. -/
structure AcceptedAs (host : Host) (a : Acceptance) (row : LearningRow) : Prop where
  readable : Readable host (a.payload.get "id").text row
  digest : host.learningObservationDigest a.payload = .ok row.digest
  recorded : a.receipt.inserted = true → ∀ part ∈ ["featureProfile","outcome"], row.payload.get part = a.payload.get part
  replayed : a.receipt.inserted = false → ∀ part ∈ ["featureProfile","outcome"],
    Json.equals host.floatIsInt (row.payload.get part) (a.payload.get part) = true
  told : ∃ record, a.receipt.observation = some record ∧ record.get "digest" = .str row.digest ∧
    ∀ part ∈ ["featureProfile","outcome"], record.get part = row.payload.get part

theorem AcceptedAs.carried {host : Host} {a : Acceptance} {row row' : LearningRow} (h : AcceptedAs host a row)
    (hcarries : Carries host (a.payload.get "id").text row row') : AcceptedAs host a row' where
  readable := hcarries.readable h.readable
  digest := hcarries.digest ▸ h.digest
  recorded := hcarries.payload ▸ h.recorded
  replayed := hcarries.payload ▸ h.replayed
  told := hcarries.payload ▸ hcarries.digest ▸ h.told

theorem get_observation (payload : Payload) (now : String) {k : String} (hk : k ∈ ["id","featureProfile","outcome"]) :
    Payload.get ((((learningDefaults payload now).erase "digest").erase "state").erase "messageId") k = payload.get k := by
  have hkept : k ∉ ["digest","state","messageId","sourceId","correlationId","idempotencyKey","occurredAt","schemaVersion"] := by
    revert k
    decide
  simp only [List.mem_cons,List.not_mem_nil,or_false,not_or] at hkept
  obtain ⟨hdigest,hstate,hmessage,hsource,hcorrelation,hidempotency,hoccurred,hschema⟩ := hkept
  unfold Payload.get
  rw [Dict.get?_erase,if_neg hmessage,Dict.get?_erase,if_neg hstate,Dict.get?_erase,if_neg hdigest,learningDefaults,
    Dict.get?_merge_of_notMem]
  simp only [List.map_cons,List.map_nil,List.mem_cons,List.not_mem_nil,or_false,not_or]
  exact ⟨hsource,hmessage,hcorrelation,hidempotency,hoccurred,hschema⟩

theorem learningObservationDigest_congr {host : Host} {p q : Payload} (h : ∀ k ∈ ["id","featureProfile","outcome"], p.get k = q.get k) :
    host.learningObservationDigest p = host.learningObservationDigest q := by
  have hcontent : Host.learningContent p = Host.learningContent q := by
    rw [Host.learningContent,Host.learningContent,h "id" (by decide),h "featureProfile" (by decide),h "outcome" (by decide)]
  rw [Host.learningObservationDigest,Host.learningObservationDigest,hcontent]

/-- Members of mappings that compare equal compare equal. -/
theorem equals_get {floatIsInt : String → ℤ → Bool} {p q : Payload} {k : String}
    (h : Json.equals floatIsInt (.obj p.entries) (.obj q.entries) = true) : Json.equals floatIsInt (p.get k) (q.get k) = true := by
  obtain ⟨hlength,hmembers⟩ := (Json.equals_obj _ _).mp h
  have hsubset : p.keys ⊆ q.keys := by
    intro k hk
    obtain ⟨e,he,rfl⟩ := List.mem_map.mp hk
    obtain ⟨f,hf,hkey,-⟩ := hmembers e he
    exact hkey ▸ List.mem_map_of_mem hf
  have hperm : p.keys.Perm q.keys := (p.nodup.subperm hsubset).perm_of_length_le (by simp [Dict.keys,hlength])
  cases hp : p.get? k with
  | none =>
    have hq : q.get? k = none := by
      by_contra hne
      obtain ⟨v,hv⟩ := Option.ne_none_iff_exists'.mp hne
      obtain ⟨w,hw⟩ := (p.mem_keys_iff k).mp (hperm.mem_iff.mpr ((q.mem_keys_iff k).mpr ⟨v,hv⟩))
      rw [hp] at hw
      cases hw
    rw [Payload.get,Payload.get,hp,hq]
    rfl
  | some v =>
    obtain ⟨f,hf,hkey,hvalue⟩ := hmembers (k,v) ((p.mem_entries_iff k v).mpr hp)
    have hf' : (k,f.2) ∈ q.entries := (Prod.ext hkey rfl : f = (k,f.2)) ▸ hf
    have hq : q.get? k = some f.2 := (q.mem_entries_iff k f.2).mp hf'
    rw [Payload.get,Payload.get,hp,hq]
    exact hvalue

theorem get_erased (record : Payload) {k : String} (hk : k ∉ LearningRow.recordKeys) :
    Payload.get (LearningRow.recordKeys.foldl Dict.erase record) k = record.get k := by
  have herase : ∀ (keys : List String) (p : Payload), k ∉ keys → Payload.get (keys.foldl Dict.erase p) k = p.get k := by
    intro keys
    induction keys with
    | nil => exact fun _ _ => rfl
    | cons k' rest ih =>
      intro p hk
      rw [List.mem_cons,not_or] at hk
      rw [List.foldl_cons,ih _ hk.2,Payload.get,Payload.get,Dict.get?_erase,if_neg hk.1]
  exact herase _ record hk

theorem StoredFor.accepted {host : Host} {payload observation : Payload} {digest : String} {inserted : Bool} {row row' : LearningRow}
    (hget : ∀ k ∈ ["id","featureProfile","outcome"], observation.get k = payload.get k)
    (hd : host.learningObservationDigest observation = .ok digest) (h : StoredFor host observation digest inserted row)
    (hcarries : Carries host (observation.get "id").text row row') :
    AcceptedAs host ⟨payload,inserted,!inserted,some row'.record⟩ row' := by
  have hid : observation.get "id" = payload.get "id" := hget "id" (by decide)
  have hpart : ∀ part ∈ ["featureProfile","outcome"], part ∈ ["id","featureProfile","outcome"] ∧ part ∉ LearningRow.recordKeys := by decide
  have hcarries' : Carries host (payload.get "id").text row row' := hid ▸ hcarries
  refine AcceptedAs.carried ⟨hid ▸ h.readable,?_,fun hinserted part hmem => ?_,fun hreplayed part hmem => ?_,?_⟩ hcarries'
  · rw [h.digest,← hd]
    exact (learningObservationDigest_congr hget).symm
  · have hpayload := h.payload
    rw [if_pos hinserted] at hpayload
    rw [hpayload]
    exact hget part (hpart part hmem).1
  · have hpayload := h.payload
    rw [if_neg (Bool.eq_false_iff.mp hreplayed)] at hpayload
    have hequal := equals_get (k := part) hpayload
    rw [get_erased _ (hpart part hmem).2,get_record _ (hpart part hmem).2,hget part (hpart part hmem).1] at hequal
    exact hequal
  · refine ⟨_,rfl,?_,fun part hmem => ?_⟩
    · rw [get_record_digest,hcarries.digest]
    · rw [get_record _ (hpart part hmem).2,hcarries.payload]

theorem from_recordLearningObservation (payload : Payload) (u : BridgeStore) :
    (recordingDiscipline b.host).From (fun receipt s => ∃ row, s.learning.get? (payload.get "id").text = some row ∧
      AcceptedAs b.host ⟨payload,receipt⟩ row) (b.recordLearningObservation payload) u := by
  refine Discipline.from_ask_bind fun now => from_liftProg_bind fun observation hparsed => from_liftProg_bind fun digest hd =>
    Discipline.from_require_bind fun _ => ?_
  have heq := parseLearningObservation_eq hparsed
  have hget : ∀ k ∈ ["id","featureProfile","outcome"], observation.get k = payload.get k := by
    intro k hk
    rw [heq]
    exact get_observation payload now hk
  refine Discipline.from_bind (from_recordLearning b (heq ▸ hparsed) hd u) fun inserted s _ hstored => ?_
  obtain ⟨row,hrow,hstored⟩ := hstored
  refine Discipline.from_bind (from_learningObservation b _ s) fun record s' hafter hread => ?_
  obtain ⟨row',hrow',hcarries⟩ := LearningKept.of_after hafter _ row hrow
  obtain ⟨r,hr⟩ := Option.ne_none_iff_exists'.mp (hread.found row hrow hstored.readable)
  obtain ⟨row'',hrow'',-,rfl⟩ := hread.row r hr
  rw [hrow'] at hrow''
  cases hrow''
  subst hr
  exact Discipline.from_pure ⟨row',hget "id" (by decide) ▸ hrow',hstored.accepted hget hd hcarries⟩

theorem read_of_readable {b : Bridge} {observationId : String} {s : BridgeStore} {row : LearningRow}
    (hrow : s.learning.get? observationId = some row) (h : Readable b.host observationId row) :
    (b.learningObservation observationId).settle s = some (.ok (some row.record),s) := by
  unfold Bridge.learningObservation
  rw [Prog.settle_read_bind,hrow]
  dsimp only
  rw [h.sound,h.verified]
  rfl

end Calls

/-! ### Whole runs -/

theorem recordingDiscipline_keepsLearning {host : Host} {b : Bridge} (hb : b.host = host) :
    KeepsLearning b (recordingDiscipline host) := by
  subst hb
  have hread : ∀ observationId, (recordingDiscipline b.host).Sound (b.learningObservation observationId) :=
    fun observationId => ⟨fun u => (from_learningObservation b observationId u).mono fun _ _ _ _ => trivial⟩
  refine ⟨hread,fun payload => .of_from (from_recordLearningObservation b payload),fun m error hm => ?_⟩
  have hmove : (recordingDiscipline b.host).Sound (Prog.transaction { learning := some m }
      (updateLearning m.observationId (LearningRow.move m error)) : BridgeProg Unit) :=
    ⟨fun u => Discipline.from_transaction fun s _ _ _ s' hrun _ => ⟨.of_update (fun row _ => carries_move error hm) hrun,trivial,trivial⟩⟩
  have hreread := hread m.observationId
  unfold Bridge.transitionLearning
  infer_instance

/-- What the store knows of an accepted payload. -/
def AcceptedIn (host : Host) (result : Option Acceptance) (s : BridgeStore) : Prop := ∀ a, result = some a →
  ∃ row, s.learning.get? (a.payload.get "id").text = some row ∧ AcceptedAs host a row

theorem AcceptedIn.kept {host : Host} {result : Option Acceptance} {s s' : BridgeStore} (h : AcceptedIn host result s)
    (hkept : LearningKept host s s') : AcceptedIn host result s' := by
  intro a ha
  obtain ⟨row,hrow,haccepted⟩ := h a ha
  obtain ⟨row',hrow',hcarries⟩ := hkept _ row hrow
  exact ⟨row',hrow',haccepted.carried hcarries⟩

theorem from_recordingCall {host : Host} {p : BridgeProg (Option Acceptance)} (h : RecordingCall host p) (u : BridgeStore) :
    (recordingDiscipline host).From (AcceptedIn host) p u := by
  cases h with
  | record b hb payload =>
    subst hb
    refine Discipline.from_bind (from_recordLearningObservation b payload u) fun receipt s _ haccepted => ?_
    refine Discipline.from_pure fun a ha => ?_
    cases ha
    exact haccepted
  | read b hb observationId =>
    have := recordingDiscipline_keepsLearning hb
    exact Discipline.from_sound_bind fun _ _ _ => Discipline.from_pure nofun
  | other hp =>
    have := sound_learningCall (fun b hb => recordingDiscipline_keepsLearning hb) hp
    exact Discipline.from_sound_bind fun _ _ _ => Discipline.from_pure nofun

theorem accepted_kept {host : Host} {s₀ : BridgeStore} {w : World BridgeStore Held Answer AgentError (Option Acceptance)}
    (h : World.Reachable (recordingSystem host) (World.init s₀) w) {a : Acceptance} (ha : Prog.ret (some a) ∈ w.threads) :
    ∃ row, w.trace.store.learning.get? (a.payload.get "id").text = some row ∧ AcceptedAs host a row := by
  obtain ⟨u,hu,haccepted⟩ := World.Reachable.returns (recordingDiscipline host) (fun p hp => from_recordingCall hp) trivial h _ ha
  exact haccepted.kept (LearningKept.of_after hu) a rfl

theorem obj_of_equals {floatIsInt : String → ℤ → Bool} {es : List (String × Json)} {v : Json}
    (h : Json.equals floatIsInt (.obj es) v = true) : ∃ fs, v = .obj fs := by
  cases v with
  | obj fs => exact ⟨fs,rfl⟩
  | _ => simp [Json.equals,Json.asInt?] at h

theorem AcceptedAs.parts {host : Host} {a : Acceptance} {row : LearningRow} (h : AcceptedAs host a row) :
    ∀ part ∈ ["featureProfile","outcome"], ∃ es, a.payload.get part = .obj es := by
  intro part hpart
  obtain ⟨q,hparsed,-⟩ := check_bind h.readable.verified
  obtain ⟨es,hes⟩ := (parts_of_parsed hparsed).1 part hpart
  cases hinserted : a.receipt.inserted with
  | true => exact ⟨es,(h.recorded hinserted part hpart).symm.trans hes⟩
  | false =>
    have hequal := h.replayed hinserted part hpart
    rw [hes] at hequal
    exact obj_of_equals hequal

/-- The store with the row quarantined. -/
def quarantined (s : BridgeStore) (observationId : String) (row : LearningRow) : BridgeStore :=
  { s with learning := s.learning.set observationId (row.quarantine "learning-observation-integrity-failed") }

/-- A row that does not verify is quarantined by a read, which returns nothing. -/
theorem read_of_error {b : Bridge} {observationId : String} {s : BridgeStore} {row : LearningRow} {e : AgentError}
    (hrow : s.learning.get? observationId = some row) (hsound : row.isCorrupt = false)
    (he : b.host.verifyLearning observationId row = .error e) (hkind : e.kind = .value ∨ e.kind = .type) :
    (b.learningObservation observationId).settle s = some (.ok none,quarantined s observationId row) := by
  have hrequire : (require (e.kind = .value ∨ e.kind = .type) e : BridgeProg Unit).settle s = some (.ok (),s) := by
    unfold require
    rw [if_pos hkind]
    rfl
  have hupdate : updateLearning observationId (LearningRow.quarantine "learning-observation-integrity-failed") s =
      .ok ((),quarantined s observationId row) := by
    rw [updateLearning_run,hrow]
    rfl
  have hwrite : (atomically (updateLearning observationId (LearningRow.quarantine "learning-observation-integrity-failed")) :
      BridgeProg Unit).settle s = some (.ok (),quarantined s observationId row) := Prog.settle_transaction hupdate
  unfold Bridge.learningObservation
  rw [Prog.settle_read_bind,hrow]
  dsimp only
  rw [hsound,he]
  dsimp only
  exact (Prog.settle_bind hrequire).trans (Prog.settle_bind hwrite)

/-- An accepted observation is found by every later read as it was told to be recorded, under the digest of its payload; when
the store held it already, Python compares the two equal. Once its row is altered, a read quarantines it. -/
theorem learning_integrity {host : Host} (hinj : Function.Injective host.sha256) {s₀ : BridgeStore}
    {w : World BridgeStore Held Answer AgentError (Option Acceptance)}
    (h : World.Reachable (recordingSystem host) (World.init s₀) w) {a : Acceptance} (ha : Prog.ret (some a) ∈ w.threads) :
    ∃ told digest, a.receipt.observation = some told ∧ told.get "digest" = .str digest ∧
      host.learningObservationDigest a.payload = .ok digest ∧
      (∀ part ∈ ["featureProfile","outcome"], if a.receipt.inserted = true then told.get part = a.payload.get part
        else Json.equals host.floatIsInt (told.get part) (a.payload.get part) = true) ∧
      (∀ b : Bridge, b.host = host → ∃ record,
        (b.learningObservation (a.payload.get "id").text).settle w.trace.store = some (.ok (some record),w.trace.store) ∧
        ∀ k ∈ ["featureProfile","outcome","digest"], record.get k = told.get k) ∧
      ∀ (floatText : String → String) (b : Bridge) (s : BridgeStore) (row : LearningRow), b.host = host →
        s.learning.get? (a.payload.get "id").text = some row → row.isCorrupt = false → row.digest = digest →
        Json.Printed floatText (.obj a.payload.entries) → Json.Printed floatText (.obj row.payload.entries) →
        (∀ e, host.learningObservationDigest row.payload = .error e → e.kind ≠ .overflow) → Altered host a.payload row.payload →
        (b.learningObservation (a.payload.get "id").text).settle s = some (.ok none,quarantined s (a.payload.get "id").text row) := by
  obtain ⟨row,hrow,haccepted⟩ := accepted_kept h ha
  obtain ⟨told,htold,hdigest,hmembers⟩ := haccepted.told
  refine ⟨told,row.digest,htold,hdigest,haccepted.digest,fun part hpart => ?_,fun b hb => ?_,?_⟩
  · split
    · next hinserted => exact (hmembers part hpart).trans (haccepted.recorded hinserted part hpart)
    · next hreplayed =>
      rw [hmembers part hpart]
      exact haccepted.replayed (Bool.eq_false_iff.mpr hreplayed) part hpart
  · refine ⟨row.record,read_of_readable hrow (hb ▸ haccepted.readable),fun k hk => ?_⟩
    simp only [List.mem_cons,List.not_mem_nil,or_false] at hk
    rcases hk with rfl | rfl | rfl
    · exact (get_record row (by decide)).trans (hmembers _ (by decide)).symm
    · exact (get_record row (by decide)).trans (hmembers _ (by decide)).symm
    · exact (get_record_digest row).trans hdigest.symm
  · intro floatText b s stored hb hstored hsound hsame hprinted hprinted' hfits haltered
    obtain ⟨e,he,hkind⟩ := verifyLearning_altered hinj (hsame ▸ haccepted.digest) haccepted.parts hprinted hprinted' hfits haltered
      (a.payload.get "id").text
    exact read_of_error hstored hsound (hb ▸ he) hkind

/-! ### A measured observation -/

/-- A host that tells the text for its digest and knows two doubles. -/
def measuringHost : Host where
  sha256 text := text
  fromisoformat text := if text = "2030-01-01T00:00:00Z" then some ⟨true,1893456000000000⟩ else none
  doubleBits v :=
    if v = .float "1.5" then some "3ff8000000000000"
    -- the second integer is halfway between two doubles and goes to the even one
    else if v = .int 9007199254740992 ∨ v = .int 9007199254740993 then some "4340000000000000" else none

def measuringBridge : Bridge := { host := measuringHost }

def measuredOutcome (activeMs : ℤ) : Json := .obj [("usage",.float "1.5"),("activeMs",.int activeMs)]

def measuredObservation : Payload := .ofList [("id",.str "observation-1"),("featureProfile",.obj [("taskClass",.str "unknown")]),
  ("outcome",measuredOutcome 9007199254740992),("occurredAt",.str "2030-01-01T00:00:00Z")]

def measuredRun : List (Move BridgeStore Held Answer AgentError (Option Acceptance)) :=
  [.start (do
    let receipt ← measuringBridge.recordLearningObservation measuredObservation
    return some ⟨measuredObservation,receipt⟩)] ++ World.steps 0 3 plainAnswers

/-- The first call accepted a payload that the store did not hold. -/
def acceptedFirst (w : World BridgeStore Held Answer AgentError (Option Acceptance)) : Bool :=
  match w.threads with
  | [.ret (some a)] => a.receipt.inserted && decide (a.payload.entries = measuredObservation.entries)
  | _ => false

/-- A stored row whose task is of another class, under the digest that was recorded. -/
def reclassified (digest : String) : LearningRow where
  payload := measuredObservation.set "featureProfile" (.obj [("taskClass",.str "go-feature")])
  digest := digest

theorem learning_integrity_measured : ∃ (w : World BridgeStore Held Answer AgentError (Option Acceptance)) (a : Acceptance) (record : Payload)
    (digest : String), Prog.ret (some a) ∈ w.threads ∧ a.receipt.inserted = true ∧
    (measuringBridge.learningObservation (a.payload.get "id").text).settle w.trace.store = some (.ok (some record),w.trace.store) ∧
    record.get "outcome" = measuredOutcome 9007199254740992 ∧ measuringHost.learningObservationDigest a.payload = .ok digest ∧
    (measuringBridge.learningObservation (a.payload.get "id").text).settle { learning := Dict.empty.set (a.payload.get "id").text (reclassified digest) } =
      some (.ok none,quarantined { learning := Dict.empty.set (a.payload.get "id").text (reclassified digest) } (a.payload.get "id").text
        (reclassified digest)) := by
  have hallowed : ∀ mv ∈ measuredRun, mv.Allowed (recordingSystem measuringHost) := by
    simp only [measuredRun,List.forall_mem_append]
    exact ⟨World.allowed_start (recordingSystem measuringHost) (.record measuringBridge rfl _),World.allowed_steps _ _ _⟩
  have hplay : ((World.init {}).play (fun _ _ _ => true) (fun _ _ _ => true) measuredRun).any acceptedFirst = true := by decide +kernel
  obtain ⟨w,hw,hc⟩ := World.exists_reachable _ _ _ (fun _ _ _ _ => trivial) (fun _ _ _ _ => trivial) hallowed hplay
  unfold acceptedFirst at hc
  split at hc
  · next a hthreads =>
    rw [Bool.and_eq_true,decide_eq_true_eq] at hc
    have ha : Prog.ret (some a) ∈ w.threads := hthreads ▸ List.mem_singleton_self _
    have hinj : Function.Injective measuringHost.sha256 := fun _ _ h => h
    obtain ⟨told,digest,-,-,hdigest,hparts,hread,haltered⟩ := learning_integrity hinj hw ha
    obtain ⟨record,hrecord,hmembers⟩ := hread measuringBridge rfl
    have hpayload : a.payload = measuredObservation := by
      have hentries := hc.2
      generalize a.payload = p at hentries ⊢
      obtain ⟨es,hnodup⟩ := p
      obtain rfl : es = measuredObservation.entries := hentries
      rfl
    have hpart := hparts "outcome" (by decide)
    rw [if_pos hc.1,hpayload] at hpart
    have hwritten : ∀ p ∈ [measuredObservation,(reclassified "").payload], Json.Printed id (.obj p.entries) := by
      intro p hp
      have hvalues : ∀ e ∈ p.entries, Json.written e.2 = true ∧ Json.allFloats (Json.isReadBack id) e.2 = true := by
        revert p
        decide +kernel
      exact Json.printed_obj.mpr ⟨p.nodup,hvalues⟩
    refine ⟨w,a,record,digest,ha,hc.1,hrecord,(hmembers _ (by decide)).trans hpart,hdigest,?_⟩
    refine haltered id measuringBridge _ (reclassified digest) rfl (by rw [Dict.get?_set,if_pos rfl]) rfl rfl ?_ ?_ ?_ ?_
    · rw [hpayload]
      exact hwritten _ List.mem_cons_self
    · exact hwritten _ (List.mem_cons_of_mem _ List.mem_cons_self)
    · have hfits : (measuringHost.learningObservationDigest (reclassified digest).payload).isOk = true := by
        change (measuringHost.learningObservationDigest (reclassified "").payload).isOk = true
        decide +kernel
      intro e he
      rw [he] at hfits
      cases hfits
    · rw [hpayload]
      exact .inr ⟨"featureProfile",by decide,"taskClass",by change measuringHost.wireMember (reclassified "").payload _ _ ≠ _; decide +kernel⟩
  · cases hc

def measuredStore : BridgeStore := ((measuringBridge.recordLearningObservation measuredObservation).perform plainAnswers {}).2

/-- The stored time is one millisecond longer. -/
def lengthened (row : LearningRow) : LearningRow :=
  { row with payload := row.payload.set "outcome" (measuredOutcome 9007199254740993) }

def lengthenedStore : BridgeStore :=
  { learning := Dict.empty.merge (measuredStore.learning.entries.map fun e => (e.1,lengthened e.2)) }

/-- An altered number that is the same double is read as if it had been recorded. -/
theorem lengthened_time_read : Function.Injective measuringHost.sha256 ∧
    (measuredStore.learning.get? "observation-1").map (fun row => row.payload.get "outcome") = some (measuredOutcome 9007199254740992) ∧
    ∃ record, (measuringBridge.learningObservation "observation-1").settle lengthenedStore = some (.ok (some record),lengthenedStore) ∧
      record.get "outcome" = measuredOutcome 9007199254740993 := by
  refine ⟨fun _ _ h => h,by decide +kernel,?_⟩
  have hrow : (lengthenedStore.learning.get? "observation-1").any (fun row => !row.isCorrupt &&
      decide (row.payload.get "outcome" = measuredOutcome 9007199254740993) &&
      (measuringHost.verifyLearning "observation-1" row).toBool) = true := by decide +kernel
  obtain ⟨row,hrow,hchecked⟩ := (Option.any_eq_true _ _).mp hrow
  rw [Bool.and_eq_true,Bool.and_eq_true,decide_eq_true_eq] at hchecked
  obtain ⟨⟨hsound,houtcome⟩,hverified⟩ := hchecked
  have hreadable : Readable measuringHost "observation-1" row := by
    refine ⟨by simpa using hsound,?_⟩
    cases hverify : measuringHost.verifyLearning "observation-1" row with
    | ok u => rfl
    | error e =>
      rw [hverify] at hverified
      cases hverified
  exact ⟨row.record,read_of_readable hrow hreadable,(get_record row (by decide)).trans houtcome⟩

end Overseer.Psychlo
