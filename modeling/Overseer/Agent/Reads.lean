import Overseer.Agent.Dispatch
import Overseer.Library.Quiet

/-! # The reading parts of the manager

The functions that only read the store and ask for times, permissions and
adapters: they write nothing and put no notable question.
-/
namespace Overseer.Agent
open Overseer.Library
open Prog (Quiet Silent)

/-- The questions whose answer a trace has to remember: fresh ids and driver calls. -/
def AgentQuery.notable : AgentQuery → Prop
  | .clock | .authorize _ _ | .adapter _ _ | .readiness | .polls => False
  | _ => True

/-- A program that reads the store and asks nothing notable. -/
abbrev Reads {α : Type} (p : AgentProg α) : Prop := Quiet AgentQuery.notable p

theorem reads_ask {q : AgentQuery} (hq : ¬ q.notable) : Reads (ask q) := ⟨Prog.steps_ask q,Prog.asks_ask hq⟩

instance : Reads clock := reads_ask (q := .clock) id
instance (o : String) (c : List (String × String)) : Reads (ask (.authorize o c)) := reads_ask id
instance (a x : String) : Reads (ask (.adapter a x)) := reads_ask id
instance : Reads (ask .readiness) := reads_ask id
instance : Reads (ask .polls) := reads_ask id

variable {α : Type}

instance (o : String) (c : List (String × String)) : Reads (requireAuthorized o c) := by
  unfold requireAuthorized
  infer_instance

instance (T : Table α) (id : String) : Reads (loadAgentRecord T id) := by
  unfold loadAgentRecord
  infer_instance

instance (T : Table α) : Reads (listAgentRecords T) := by
  unfold listAgentRecords
  infer_instance

instance (load : AgentProg α) [Reads load] : Reads (unlessMissing load) := by
  unfold unlessMissing
  infer_instance

instance (id : String) : Reads (loadAgentSession id) := inferInstanceAs (Reads (loadAgentRecord _ _))
instance (id : String) : Reads (loadDriverEpoch id) := inferInstanceAs (Reads (loadAgentRecord _ _))
instance (id : String) : Reads (loadAgentDispatch id) := inferInstanceAs (Reads (loadAgentRecord _ _))
instance : Reads listDriverEpochs := inferInstanceAs (Reads (listAgentRecords _))
instance : Reads listAgentDispatches := inferInstanceAs (Reads (listAgentRecords _))
instance : Reads listAgentHandoffs := inferInstanceAs (Reads (listAgentRecords _))

instance (x : String) : Reads (loadAgentOperation x) := by
  unfold loadAgentOperation
  infer_instance

instance (x : String) : Reads (loadAgentTransition x) := by
  unfold loadAgentTransition
  infer_instance

instance (x key : String) : Reads (dispatchForIdempotencyKey x key) := by
  unfold dispatchForIdempotencyKey loadAgentDispatchByIdempotency
  infer_instance

instance (x : String) : Reads (blockingTransition x) := by
  unfold blockingTransition
  infer_instance

instance (x : String) (kind : Option ErrorKind) : Reads (raiseTransitionRequired x kind) := by
  unfold raiseTransitionRequired
  refine @Prog.bind_quiet _ _ _ _ _ _ _ _ _ _ _ _ fun transition => ?_
  cases transition with
  | some transition => infer_instance
  | none =>
    refine @Prog.bind_quiet _ _ _ _ _ _ _ _ _ _ _ _ fun operation => ?_
    cases operation <;> infer_instance

instance (x : String) : Reads (openEpochs x) := by
  unfold openEpochs
  infer_instance

instance (x : String) : Reads (authoritativeEpochs x) := by
  unfold authoritativeEpochs
  infer_instance

instance (x : String) : Reads (activeEpoch x) := by
  unfold activeEpoch
  refine @Prog.bind_quiet _ _ _ _ _ _ _ _ _ _ _ _ fun epochs => ?_
  rcases epochs with _ | ⟨epoch,_ | _⟩ <;> infer_instance

instance (e : DriverEpoch) : Reads (sessionForEpoch e) := by
  unfold sessionForEpoch
  infer_instance

instance (d : AgentDispatchRequest) : Reads (resultFromDispatch d) := by
  unfold resultFromDispatch
  infer_instance

instance (values : List (String × String)) : Reads (requireIdentifiers values) := by
  induction values with
  | nil => unfold requireIdentifiers; infer_instance
  | cons v rest ih => unfold requireIdentifiers; infer_instance

instance (r : AgentOperationReservation) : Reads (inflight r) := by
  unfold inflight
  infer_instance

instance (r : AgentOperationReservation) : Reads (verifyQuiescent r) := by
  unfold verifyQuiescent
  infer_instance

instance (r : AgentOperationReservation) : Reads (verifyOwned r) := by
  unfold verifyOwned
  infer_instance

instance (r : AgentOperationReservation) (polls : ℕ) : Reads (awaitQuiescence r polls) := by
  induction polls with
  | zero => unfold awaitQuiescence; infer_instance
  | succ polls ih => unfold awaitQuiescence; infer_instance

section Registry
variable (cfg : Config)

instance (x : String) : Reads (cfg.profile x) := by
  unfold Config.profile
  infer_instance

instance (id : String) : Reads (cfg.provider id) := by
  unfold Config.provider
  infer_instance

instance (x id : String) : Reads (cfg.profileForProvider x id) := by
  unfold Config.profileForProvider
  infer_instance

instance (profile : AgentInstanceProfile) : Reads (cfg.driverFor profile) := by
  unfold Config.driverFor
  infer_instance

instance (x : String) : Reads (cfg.driver x) := by
  unfold Config.driver
  infer_instance

instance (id x : String) : Reads (cfg.driverForProvider id x) := by
  unfold Config.driverForProvider
  infer_instance

end Registry
end Overseer.Agent
