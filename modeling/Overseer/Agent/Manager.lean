import Overseer.Agent.Failover

/-! # The agent manager

The public operations of `AgentManager`. Any number of managers, each with its own
configuration, run them over one store.
-/
namespace Overseer.Agent
open Overseer.Library

inductive ManagerCall where
  | discover (instanceId providerId : String) (workspace : Option String)
  | activate (instanceId initiatedBy : String) (retryBlocked : Bool)
  | recover (sessionId initiatedBy : String)
  | dispatch (instanceId prompt idempotencyKey : String) (requestedBy : Option String)
  | checkpoint (instanceId : String)
  | evaluateFailover (instanceId : String) (policyId : Option String)
  | executeFailover (instanceId decisionId initiatedBy approvalId : String)
  | recoverFailoverExecution (executionId initiatedBy approvalId : String)
  | manualHandoff (instanceId incomingProviderId initiatedBy approvalId : String)
  | reconcileHandoff (handoffId : String) (result : Option AgentDispatchResult) (initiatedBy : String)
  | rollbackHandoff (handoffId initiatedBy : String)
  | recordProviderResult (epochId : String) (result : AgentDispatchResult)
  | quarantineResult (result : AgentDispatchResult) (reason : String)

/-- Run an operation for its effect. -/
def dropResult {α : Type} (p : AgentProg α) : AgentProg Unit := do
  let _ ← p
  return ()

def ManagerCall.program (cfg : Config) : ManagerCall → AgentProg Unit
  | .discover x providerId workspace => dropResult (Overseer.Agent.discover cfg x providerId workspace)
  | .activate x by_ retryBlocked => dropResult (Overseer.Agent.activate cfg x by_ retryBlocked)
  | .recover sessionId by_ => dropResult (Overseer.Agent.recover cfg sessionId by_)
  | .dispatch x prompt key requestedBy => dropResult (Overseer.Agent.dispatch cfg x prompt key requestedBy)
  | .checkpoint x => dropResult (Overseer.Agent.checkpoint cfg x)
  | .evaluateFailover x policyId => dropResult (Overseer.Agent.evaluateFailover cfg x policyId)
  | .executeFailover x decisionId by_ approvalId =>
    dropResult (Overseer.Agent.executeFailover cfg x decisionId by_ approvalId)
  | .recoverFailoverExecution executionId by_ approvalId =>
    dropResult (Overseer.Agent.recoverFailoverExecution cfg executionId by_ approvalId)
  | .manualHandoff x incomingProviderId by_ approvalId =>
    dropResult (Overseer.Agent.manualHandoff cfg x incomingProviderId by_ approvalId)
  | .reconcileHandoff handoffId result by_ =>
    dropResult (Overseer.Agent.reconcileHandoff cfg handoffId result by_)
  | .rollbackHandoff handoffId by_ => dropResult (Overseer.Agent.rollbackHandoff cfg handoffId by_)
  | .recordProviderResult epochId result => dropResult (Overseer.Agent.recordProviderResult epochId result)
  | .quarantineResult result reason => dropResult do
    requireAuthorized "quarantine_result"
      [("result_id",result.id),("request_id",result.requestId),("reason",reason)]
    Overseer.Agent.quarantineResult result reason

/-- The id factory inside a transaction: an id under which it inserts a record is not in use. -/
def FreshIds (s : AgentStore) (held : Held) (s' : AgentStore) : Prop := s' ≠ s → ∀ id ∈ held.fresh, id ∉ s.ids

abbrev ManagerWorld := World AgentStore Held Answer AgentError Unit

/-- Managers that make the calls `calls`, in runs whose commits pass `guard`. -/
def managerSystem (calls : ManagerCall → Prop) (guard : AgentStore → Held → AgentStore → Prop) :
    System AgentStore Held Answer AgentError Unit where
  start p := ∃ cfg c, calls c ∧ p = c.program cfg
  valid t q a := validAnswer t q a = true
  guard s held s' := FreshIds s held s' ∧ guard s held s'

end Overseer.Agent
