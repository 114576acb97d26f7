import Overseer.Psychlo.Learning
import Overseer.Psychlo.RoundResults
import Overseer.Library.Discipline
import Overseer.Library.Sequential

/-! # Which deliveries keep the state exact

An observation counts as delivered when both of its deliveries are. A row is moved by one
statement, which reads the deliveries as they were: the law survives a success that is the
second one and a failure of a delivery that had not succeeded, and no other move.
-/
namespace Overseer.Psychlo
open Overseer.Library Overseer.Agent

namespace LearningRow

/-- The observation is delivered if and only if both deliveries are. -/
def Exact (row : LearningRow) : Prop := row.state = .delivered ↔ row.delivery.skiller = .delivered ∧ row.delivery.memory = .delivered

/-- What was delivered in the one row is delivered in the other. -/
def Kept (row row' : LearningRow) : Prop := ∀ d, row.delivery.at_ d = .delivered → row'.delivery.at_ d = .delivered

/-- A success finds the other delivery made, a failure finds its own not made. -/
def Allows (row : LearningRow) (m : LearningMove) : Prop :=
  (m.delivery = .delivered ∧ row.delivery.at_ m.destination.other = .delivered) ∨
  (m.delivery = .failed ∧ row.delivery.at_ m.destination ≠ .delivered)

theorem Kept.refl (row : LearningRow) : row.Kept row := fun _ h => h

variable {row : LearningRow} {m : LearningMove}

theorem at_put_self {α : Type} (c : PerDestination α) (d : Destination) (a : α) : (c.put d a).at_ d = a := by cases d <;> rfl

theorem at_put_other {α : Type} (c : PerDestination α) (d : Destination) (a : α) : (c.put d a).at_ d.other = c.at_ d.other := by
  cases d <;> rfl

theorem both_iff (row : LearningRow) (d : Destination) : (row.delivery.skiller = .delivered ∧ row.delivery.memory = .delivered) ↔
    row.delivery.at_ d = .delivered ∧ row.delivery.at_ d.other = .delivered := by
  cases d
  · exact Iff.rfl
  · exact And.comm

theorem kept_move (row : LearningRow) (m : LearningMove) (error : Option String) :
    row.Kept (row.move m error) ↔ (row.delivery.at_ m.destination = .delivered → m.delivery = .delivered) := by
  constructor
  · intro h hown
    have hmoved := h m.destination hown
    exact (at_put_self row.delivery m.destination m.delivery).symm.trans hmoved
  · intro h d hd
    change (row.delivery.put m.destination m.delivery).at_ d = .delivered
    rcases eq_or_ne d m.destination with rfl | hne
    · rw [at_put_self]
      exact h hd
    · have hother : d = m.destination.other := by revert hne; cases d <;> cases m.destination <;> decide
      rw [hother,at_put_other,← hother]
      exact hd

theorem move_exact_iff (hm : m.delivery = .delivered ∨ m.delivery = .failed) (error : Option String) :
    (row.move m error).Exact ∧ row.Kept (row.move m error) ↔ row.Allows m := by
  have hmoved : ((row.move m error).delivery.skiller = .delivered ∧ (row.move m error).delivery.memory = .delivered) ↔
      m.delivery = .delivered ∧ row.delivery.at_ m.destination.other = .delivered := by
    rw [both_iff _ m.destination]
    change (row.delivery.put _ _).at_ _ = _ ∧ (row.delivery.put _ _).at_ _ = _ ↔ _
    rw [at_put_self,at_put_other]
  have hstate : (row.move m error).state = .delivered ↔
      (row.delivery.at_ m.destination = .delivered ∧ row.delivery.at_ m.destination.other = .delivered) ∨ m.delivery = .delivered := by
    rw [← both_iff]
    change (if _ then _ else _) = _ ↔ _
    split <;> simp_all
  unfold Exact Allows
  rw [hmoved,hstate,kept_move]
  rcases hm with hm | hm <;> rw [hm] <;> simp
  tauto

end LearningRow

/-! ### The rows the bridge writes -/

/-- The row verifies and is exact. -/
structure Intact (host : Host) (observationId : String) (row : LearningRow) : Prop where
  sound : row.isCorrupt = false
  verified : host.verifyLearning observationId row = .ok ()
  exact : row.Exact

def IntactLearning (host : Host) (s : BridgeStore) : Prop :=
  ∀ observationId row, s.learning.get? observationId = some row → Intact host observationId row

/-- What was delivered before is delivered afterwards. -/
def DeliveriesKept (s s' : BridgeStore) : Prop := ∀ observationId row, s.learning.get? observationId = some row →
  ∃ row', s'.learning.get? observationId = some row' ∧ row.Kept row'

theorem DeliveriesKept.refl (s : BridgeStore) : DeliveriesKept s s := fun _ row h => ⟨row,h,.refl row⟩

theorem DeliveriesKept.trans {s s' s'' : BridgeStore} (h : DeliveriesKept s s') (h' : DeliveriesKept s' s'') :
    DeliveriesKept s s'' := by
  intro observationId row hrow
  obtain ⟨row',hrow',hkept⟩ := h observationId row hrow
  obtain ⟨row'',hrow'',hkept'⟩ := h' observationId row' hrow'
  exact ⟨row'',hrow'',fun d hd => hkept' d (hkept d hd)⟩

/-- The calls that write observations, of any bridges on one host. -/
inductive LearningCall (host : Host) : BridgeProg Unit → Prop where
  | record (b : Bridge) (hb : b.host = host) (payload : Payload) : LearningCall host (ignoring (b.recordLearningObservation payload))
  | deliver (b : Bridge) (hb : b.host = host) (adapters : Destination → Bool) (limit : ℤ) :
    LearningCall host (ignoring (b.deliverLearningPending adapters limit))
  | pull (b : Bridge) (hb : b.host = host) (destination : Destination) (adapters : Destination → Bool) (limit : ℤ) :
    LearningCall host (ignoring (b.pullLearning destination adapters limit))
  | ack (b : Bridge) (hb : b.host = host) (payload : Payload) : LearningCall host (ignoring (b.receiveLearningAck payload))

/-- The row a delivery is written to allows it. -/
def AllowedMove (s : BridgeStore) (held : Held) : Prop := ∀ m row, held.learning = some m →
  s.learning.get? m.observationId = some row → row.Allows m

/-- Calls in any order, the peer and the adapters answering as they like, that write no
delivery the row does not allow. -/
def learningSystem (host : Host) : BridgeSystem where
  start := LearningCall host
  valid _ _ _ := True
  guard s held _ := AllowedMove s held

def learningDiscipline (host : Host) : Discipline BridgeStore Held Answer AgentError Unit where
  sys := learningSystem host
  ok := IntactLearning host
  step := DeliveriesKept
  idle := .refl

section Rows
variable {host : Host} {observationId : String} {row : LearningRow}

theorem verifyLearning_congr {row' : LearningRow} (hpayload : row'.payload = row.payload) (hdigest : row'.digest = row.digest) :
    host.verifyLearning observationId row' = host.verifyLearning observationId row := by
  unfold Host.verifyLearning
  rw [hpayload,hdigest]

theorem isCorrupt_move {m : LearningMove} {error : Option String} (h : row.isCorrupt = false)
    (hm : m.delivery = .delivered ∨ m.delivery = .failed) : (row.move m error).isCorrupt = false := by
  have hne : m.delivery ≠ .corrupt := by rcases hm with hm | hm <;> rw [hm] <;> decide
  unfold LearningRow.isCorrupt at h ⊢
  simp only [Bool.or_eq_false_iff,decide_eq_false_iff_not] at h ⊢
  obtain ⟨⟨-,hskiller⟩,hmemory⟩ := h
  refine ⟨⟨?_,?_⟩,?_⟩
  · change (if _ then _ else _) ≠ _
    split
    · decide
    · exact hne
  · cases hd : m.destination <;> simp [LearningRow.move,PerDestination.put,hd,hne,hskiller]
  · cases hd : m.destination <;> simp [LearningRow.move,PerDestination.put,hd,hne,hmemory]

theorem Intact.move {m : LearningMove} (h : Intact host observationId row) (hallows : row.Allows m) (error : Option String) :
    Intact host observationId (row.move m error) ∧ row.Kept (row.move m error) := by
  have hm : m.delivery = .delivered ∨ m.delivery = .failed := hallows.imp And.left And.left
  obtain ⟨hexact,hkept⟩ := (LearningRow.move_exact_iff hm error).mpr hallows
  exact ⟨⟨isCorrupt_move h.sound hm,(verifyLearning_congr rfl rfl).trans h.verified,hexact⟩,hkept⟩

theorem intact_new {observation : Payload} {digest : String} (hp : host.parseLearningObservation observation = .ok observation)
    (hd : host.learningObservationDigest observation = .ok digest) :
    Intact host (observation.get "id").text { payload := observation, digest } := by
  have hid : observation.get "id" = .str (observation.get "id").text := by
    have hparsed := hp
    unfold Host.parseLearningObservation at hparsed
    obtain ⟨_,-,hparsed⟩ := check_bind hparsed
    obtain ⟨_,hid,-⟩ := check_bind hparsed
    obtain ⟨id,hid,-⟩ := (Option.any_eq_true _ _).mp (check_ok.mp hid)
    obtain ⟨v,hv,hid⟩ := Option.bind_eq_some_iff.mp hid
    have hget : observation.get "id" = v := by rw [Payload.get,hv,Option.getD_some]
    rw [hget,Json.text_of_asStr? hid]
    cases v <;> simp only [Json.asStr?,Option.some.injEq,reduceCtorEq] at hid
    rw [hid]
  refine ⟨rfl,?_,by simp [LearningRow.Exact]⟩
  unfold Host.verifyLearning
  rw [bind_of_passed hp,bind_of_passed (check_ok.mpr hid : _ = Except.ok ()),bind_of_passed hd]
  exact check_ok.mpr List.mem_cons_self

theorem parseLearningObservation_eq {p q : Payload} (h : host.parseLearningObservation p = .ok q) : q = p := by
  unfold Host.parseLearningObservation at h
  iterate 8 obtain ⟨_,-,h⟩ := check_bind h
  cases h
  rfl

end Rows

/-! ### What the statements do to the table -/

theorem updateLearning_run (observationId : String) (f : LearningRow → LearningRow) (s : BridgeStore) :
    updateLearning observationId f s = .ok ((),match s.learning.get? observationId with
      | some row => { s with learning := s.learning.set observationId (f row) }
      | none => s) := rfl

section Table
variable {host : Host} {observationId : String} {row : LearningRow} {s : BridgeStore}

theorem kept_of_set (hs : IntactLearning host s) (hrow : Intact host observationId row)
    (hkept : ∀ old, s.learning.get? observationId = some old → old.Kept row) :
    DeliveriesKept s { s with learning := s.learning.set observationId row } ∧
      IntactLearning host { s with learning := s.learning.set observationId row } := by
  constructor
  · intro id old hold
    change ∃ row', (s.learning.set observationId row).get? id = some row' ∧ old.Kept row'
    rw [Dict.get?_set]
    split
    · next hid => exact ⟨row,rfl,hkept old (hid ▸ hold)⟩
    · exact ⟨old,hold,.refl old⟩
  · intro id row' hrow'
    change (s.learning.set observationId row).get? id = some row' at hrow'
    rw [Dict.get?_set] at hrow'
    split at hrow'
    · next hid =>
      cases hrow'
      rw [hid]
      exact hrow
    · exact hs id row' hrow'

theorem insertLearning_ok {s' : BridgeStore} {inserted : Bool} (h : insertLearning observationId row s = .ok (inserted,s')) :
    s' = s ∨ s.learning.get? observationId = none ∧ s' = { s with learning := s.learning.set observationId row } := by
  change (if s.learning.get? observationId = none ∧ ∀ other ∈ s.learning.values, other.digest ≠ row.digest then _ else _ : BridgeTx Bool) s = _ at h
  split at h
  · next hfresh =>
    cases h
    exact .inr ⟨hfresh.1,rfl⟩
  · cases h
    exact .inl rfl

end Table

/-! ### The calls -/

/-- The statements of a bridge about observations keep the discipline. -/
class KeepsLearning {R : Type} (b : Bridge) (D : Discipline BridgeStore Held Answer AgentError R) : Prop where
  read : ∀ observationId, D.Sound (b.learningObservation observationId)
  recorded : ∀ payload, D.Sound (b.recordLearningObservation payload)
  moved : ∀ m error, m.delivery = .delivered ∨ m.delivery = .failed → D.Sound (b.transitionLearning m error)

section Calls
variable {R : Type} {D : Discipline BridgeStore Held Answer AgentError R} (b : Bridge)

instance {α : Type} (c : Check α) : D.Sound (liftProg c) := by
  cases c with
  | ok a => exact ⟨fun _ => trivial⟩
  | error e => exact ⟨fun _ => trivial⟩

theorem from_liftProg_bind {α β : Type} {c : Check α} {f : α → BridgeProg β} {Ret : β → BridgeStore → Prop}
    {u : BridgeStore} (h : ∀ a, c = .ok a → D.From Ret (f a) u) : D.From Ret (liftProg c >>= f) u := by
  cases c with
  | ok a => exact h a rfl
  | error e => trivial

instance : D.Sound (ask .clock : BridgeProg String) := ⟨fun _ _ => trivial⟩

instance (destination : Destination) (record : Option Payload) : D.Sound (ask (.adapter destination record) : BridgeProg Bool) :=
  ⟨fun _ _ => trivial⟩

instance (kind : PeerKind) (messageId : String) (payload : Payload) :
    D.Sound (ask (.sender kind messageId payload) : BridgeProg (Option Payload)) := ⟨fun _ _ => trivial⟩

variable [hD : KeepsLearning b D]

instance (observationId : String) : D.Sound (b.learningObservation observationId) := hD.read observationId
instance (payload : Payload) : D.Sound (b.recordLearningObservation payload) := hD.recorded payload

instance (observationId : String) (destination : Destination) (error : Option String) :
    D.Sound (b.transitionLearning ⟨observationId,destination,.delivered⟩ error) := hD.moved _ error (.inl rfl)

instance (observationId : String) (destination : Destination) (error : Option String) :
    D.Sound (b.transitionLearning ⟨observationId,destination,.failed⟩ error) := hD.moved _ error (.inr rfl)

theorem sound_readLearning (ids : List String) : D.Sound (b.readLearning ids) := by
  induction ids with
  | nil => exact ⟨fun _ => trivial⟩
  | cons observationId rest ih =>
    unfold Bridge.readLearning
    infer_instance

instance (destination : Destination) (limit : ℤ) : D.Sound (b.pendingLearning destination limit) := by
  have hread := sound_readLearning (D := D) b
  unfold Bridge.pendingLearning
  infer_instance

instance (destination : Destination) (record : Payload) : D.Sound (b.failLearning destination record) := by
  unfold Bridge.failLearning
  infer_instance

instance (destination : Destination) (record : Payload) : D.Sound (b.deliverOne destination record) := by
  unfold Bridge.deliverOne
  infer_instance

theorem sound_deliverEach (destination : Destination) (records : List Payload) (c : DeliveryCount) :
    D.Sound (b.deliverEach destination records c) := by
  induction records generalizing c with
  | nil => exact ⟨fun _ => trivial⟩
  | cons record rest ih =>
    unfold Bridge.deliverEach
    infer_instance

theorem sound_deliverTo (adapters : Destination → Bool) (limit : ℤ) (destinations : List Destination) (c : DeliveryCount) :
    D.Sound (b.deliverTo adapters limit destinations c) := by
  have heach := sound_deliverEach (D := D) b
  induction destinations generalizing c with
  | nil => exact ⟨fun _ => trivial⟩
  | cons destination rest ih =>
    unfold Bridge.deliverTo
    infer_instance

instance (destination : Destination) (record : Option Payload) : D.Sound (b.handOver destination record) := by
  unfold Bridge.handOver
  infer_instance

instance (destination : Destination) (raw : Json) : D.Sound (b.pullOne destination raw) := by
  have hrecord : D.Sound (b.recordPulled raw) := by
    unfold Bridge.recordPulled
    infer_instance
  unfold Bridge.pullOne
  refine Discipline.Sound.bind inferInstance fun recorded => ?_
  rcases recorded with _ | _ | record <;> dsimp only <;> infer_instance

theorem sound_pullEach (destination : Destination) (observations : List Json) (c : DeliveryCount) :
    D.Sound (b.pullEach destination observations c) := by
  induction observations generalizing c with
  | nil => exact ⟨fun _ => trivial⟩
  | cons raw rest ih =>
    unfold Bridge.pullEach
    infer_instance

instance (destination : Destination) (adapters : Destination → Bool) (limit : ℤ) : D.Sound (b.pullLearning destination adapters limit) := by
  have heach := sound_pullEach (D := D) b destination
  unfold Bridge.pullLearning
  refine Discipline.Sound.bind inferInstance fun now => Discipline.Sound.bind inferInstance fun answer =>
    Discipline.Sound.bind inferInstance fun response => ?_
  split <;> infer_instance

instance (payload : Payload) : D.Sound (b.receiveLearningAck payload) := by
  unfold Bridge.receiveLearningAck
  infer_instance

end Calls

theorem sound_learningCall {R : Type} {D : Discipline BridgeStore Held Answer AgentError R} {host : Host} {p : BridgeProg Unit}
    (hD : ∀ b : Bridge, b.host = host → KeepsLearning b D) (h : LearningCall host p) : D.Sound p := by
  cases h with
  | record b hb payload =>
    have := hD b hb
    infer_instance
  | deliver b hb adapters limit =>
    have := hD b hb
    have hdeliver := sound_deliverTo (D := D) b adapters limit [.skiller,.memory] {}
    unfold Bridge.deliverLearningPending
    infer_instance
  | pull b hb destination adapters limit =>
    have := hD b hb
    infer_instance
  | ack b hb payload =>
    have := hD b hb
    infer_instance

/-! ### Deliveries that rows allow -/

section Exactness
variable (b : Bridge)

theorem sound_learningObservation (observationId : String) : (learningDiscipline b.host).Sound (b.learningObservation observationId) := by
  refine ⟨fun u => Discipline.from_read_bind fun s _ hs => ?_⟩
  cases hrow : s.learning.get? observationId with
  | none => exact Discipline.from_pure trivial
  | some row =>
    have hintact := hs observationId row hrow
    simp only [hintact.sound,hintact.verified]
    exact Discipline.from_pure trivial

theorem sound_recordLearning {observation : Payload} {digest : String} (hp : b.host.parseLearningObservation observation = .ok observation)
    (hd : b.host.learningObservationDigest observation = .ok digest) :
    (learningDiscipline b.host).Sound (b.recordLearning observation digest) := by
  have hinsert : (learningDiscipline b.host).Sound (atomically (insertLearning (observation.get "id").text
      { payload := observation, digest }) : BridgeProg Bool) := by
    refine ⟨fun u => Discipline.from_transaction fun s _ hs inserted s' hrun _ => ?_⟩
    rcases insertLearning_ok hrun with rfl | ⟨hfresh,rfl⟩
    · exact ⟨.refl _,hs,trivial⟩
    · have hset := kept_of_set hs (intact_new hp hd) fun old hold => (by rw [hfresh] at hold; cases hold)
      exact ⟨hset.1,hset.2,trivial⟩
  have hread := sound_learningObservation b (observation.get "id").text
  unfold Bridge.recordLearning
  infer_instance

theorem sound_recordLearningObservation (payload : Payload) :
    (learningDiscipline b.host).Sound (b.recordLearningObservation payload) := by
  refine Discipline.Sound.bind (inferInstanceAs (Discipline.Sound _ (Prog.ask _))) fun now => ⟨fun u => ?_⟩
  refine from_liftProg_bind fun observation hp => from_liftProg_bind fun digest hd => ?_
  have heq := parseLearningObservation_eq hp
  have hrecord := sound_recordLearning b (heq ▸ hp) hd
  have hread := sound_learningObservation b
  exact Discipline.Sound.sound u

theorem sound_transitionLearning (m : LearningMove) (error : Option String) :
    (learningDiscipline b.host).Sound (b.transitionLearning m error) := by
  have hmove : (learningDiscipline b.host).Sound (Prog.transaction { learning := some m }
      (updateLearning m.observationId (LearningRow.move m error)) : BridgeProg Unit) := by
    refine ⟨fun u => Discipline.from_transaction fun s _ hs _ s' hrun hguard => ?_⟩
    rw [updateLearning_run] at hrun
    cases hrow : s.learning.get? m.observationId with
    | none =>
      rw [hrow] at hrun
      cases hrun
      exact ⟨.refl s,hs,trivial⟩
    | some row =>
      rw [hrow] at hrun
      cases hrun
      obtain ⟨hintact,hkept⟩ := (hs _ _ hrow).move (hguard m row rfl hrow) error
      have hset := kept_of_set hs hintact fun old hold => (by rw [hrow] at hold; cases hold; exact hkept)
      exact ⟨hset.1,hset.2,trivial⟩
  have hread := sound_learningObservation b m.observationId
  unfold Bridge.transitionLearning
  infer_instance

end Exactness

theorem keepsLearning {host : Host} {b : Bridge} (hb : b.host = host) : KeepsLearning b (learningDiscipline host) := by
  subst hb
  exact ⟨sound_learningObservation b,sound_recordLearningObservation b,fun m error _ => sound_transitionLearning b m error⟩

/-! ### Whole runs -/

/-- As long as every success is written to a row whose other delivery was made and every failure
to one whose own was not, every observation is delivered exactly when both deliveries are, and
no delivery that was made is taken back. -/
theorem learning_exact {host : Host} {s₀ : BridgeStore} {w : BridgeWorld} (h₀ : IntactLearning host s₀)
    (h : World.Reachable (learningSystem host) (World.init s₀) w) :
    (∀ s ∈ w.trace.history, ∀ observationId row, s.learning.get? observationId = some row → row.Exact) ∧
    w.trace.history.Pairwise fun later earlier => DeliveriesKept earlier later := by
  obtain ⟨hok,hchain⟩ := World.Reachable.disciplined (learningDiscipline host)
    (fun p hp => sound_learningCall (fun b hb => keepsLearning hb) hp) h₀ h
  let Later : BridgeStore → BridgeStore → Prop := fun later earlier => DeliveriesKept earlier later
  have : Trans Later Later Later := ⟨fun h h' => DeliveriesKept.trans h' h⟩
  have hlater : w.trace.history.IsChain Later := hchain
  exact ⟨fun s hs observationId row hrow => (hok s hs observationId row hrow).exact,hlater.pairwise⟩

/-! ### One observation -/

/-- A host with the SHA-256 of the observation below and the time it occurred. -/
def learningHost : Host where
  sha256 _ := "c249ec699c958972a16f73fa71e811f145a790467af6e97d34932a36ae15b2fd"
  fromisoformat text := if text = "2030-01-01T00:00:00Z" then some ⟨true,1893456000000000⟩ else none

def learningBridge : Bridge := { host := learningHost }

def firstObservation : Payload := .ofList [("id",.str "observation-1"),("featureProfile",.obj []),("outcome",.obj []),
  ("occurredAt",.str "2030-01-01T00:00:00Z")]

/-- The peer has the observation, and no adapter takes one. -/
def refusingAnswers : (q : BridgeQuery) → Answer q
  | .adapter _ _ => false
  | .sender _ _ _ => some (.ofList [("observations",.arr [.obj firstObservation.entries]),("accepted",.bool true)])
  | q => plainAnswers q

def recordedStore : BridgeStore := ((learningBridge.recordLearningObservation firstObservation).perform plainAnswers {}).2

/-- The only adapter there is takes the observation. -/
def halfDelivered : BridgeStore := ((learningBridge.deliverLearningPending (· = .skiller) 100).perform plainAnswers recordedStore).2

/-- Later its destination pulls the observation again and fails to take it. -/
def takenBack : BridgeStore := ((learningBridge.pullLearning .skiller (fun _ => true) 100).perform refusingAnswers halfDelivered).2

theorem learning_state_ahead : ∃ row row', halfDelivered.learning.get? "observation-1" = some row ∧ ¬ row.Exact ∧
    takenBack.learning.get? "observation-1" = some row' ∧ ¬ row.Kept row' := by
  have hhalf : (halfDelivered.learning.get? "observation-1").map (fun row => (row.state,row.delivery.skiller,row.delivery.memory)) =
      some (.delivered,.delivered,.pending) := by decide +kernel
  have hback : (takenBack.learning.get? "observation-1").map (fun row => row.delivery.skiller) = some .failed := by decide +kernel
  obtain ⟨row,hrow,hfields⟩ := Option.map_eq_some_iff.mp hhalf
  obtain ⟨row',hrow',hfailed⟩ := Option.map_eq_some_iff.mp hback
  have hstate : row.state = .delivered := congrArg Prod.fst hfields
  have hskiller : row.delivery.skiller = .delivered := congrArg (·.2.1) hfields
  have hmemory : row.delivery.memory = .pending := congrArg (·.2.2) hfields
  refine ⟨row,row',hrow,fun hexact => ?_,hrow',fun hkept => ?_⟩
  · have hdelivered := (hexact.mp hstate).2
    rw [hmemory] at hdelivered
    cases hdelivered
  · have hdelivered : row'.delivery.skiller = .delivered := hkept .skiller hskiller
    rw [hfailed] at hdelivered
    cases hdelivered

/-- One delivery was made before. -/
def awaitedRow : LearningRow where
  payload := (learningDefaults firstObservation "").erase "messageId"
  digest := learningHost.sha256 ""
  delivery := ⟨.pending,.delivered⟩

def awaitedStore : BridgeStore := { learning := Dict.empty.set "observation-1" awaitedRow }

/-- The second delivery fails, and then it is made. -/
def secondDelivery : List (Move BridgeStore Held Answer AgentError Unit) :=
  [.start (ignoring (learningBridge.deliverLearningPending (fun _ => true) 100))] ++ World.steps 0 6 refusingAnswers ++
  [.start (ignoring (learningBridge.deliverLearningPending (fun _ => true) 100))] ++ World.steps 1 6 plainAnswers

def allowsMove (s : BridgeStore) (held : Held) (_ : BridgeStore) : Bool := held.learning.all fun m =>
  (s.learning.get? m.observationId).all fun row =>
    (m.delivery = .delivered && row.delivery.at_ m.destination.other = .delivered) ||
    (m.delivery = .failed && row.delivery.at_ m.destination ≠ .delivered)

theorem awaitedStore_intact : IntactLearning learningHost awaitedStore := by
  intro observationId row hrow
  simp only [awaitedStore,Dict.get?_set,Dict.get?_empty] at hrow
  split at hrow
  · next hid =>
    cases hrow
    rw [hid]
    exact ⟨by decide +kernel,by decide +kernel,by simp [LearningRow.Exact,awaitedRow]⟩
  · cases hrow

theorem learning_exact_second : ∃ w : BridgeWorld,
    ((w.trace.store.learning.get? "observation-1").any fun row => row.state = .delivered && row.attempts.skiller = 2) = true ∧
    (∀ s ∈ w.trace.history, ∀ observationId row, s.learning.get? observationId = some row → row.Exact) ∧
    w.trace.history.Pairwise fun later earlier => DeliveriesKept earlier later := by
  have hallowed : ∀ mv ∈ secondDelivery, mv.Allowed (learningSystem learningHost) := by
    simp only [secondDelivery,List.forall_mem_append]
    exact ⟨⟨⟨World.allowed_start _ (.deliver learningBridge rfl _ _),World.allowed_steps _ _ _⟩,
      World.allowed_start _ (.deliver learningBridge rfl _ _)⟩,World.allowed_steps _ _ _⟩
  have hplay : ((World.init awaitedStore).play (fun _ _ _ => true) allowsMove secondDelivery).any (fun w =>
      (w.trace.store.learning.get? "observation-1").any fun row => row.state = .delivered && row.attempts.skiller = 2) = true := by
    decide +kernel
  have hguard : ∀ s h s', allowsMove s h s' = true → (learningSystem learningHost).guard s h s' := by
    intro s h s' hallows m row hheld hrow
    simp only [allowsMove,hheld,hrow,Option.all_some,Bool.or_eq_true,Bool.and_eq_true,decide_eq_true_eq] at hallows
    exact hallows
  obtain ⟨w,hw,hc⟩ := World.exists_reachable _ _ _ (fun _ _ _ _ => trivial) hguard hallowed hplay
  exact ⟨w,hc,learning_exact awaitedStore_intact hw⟩

end Overseer.Psychlo
