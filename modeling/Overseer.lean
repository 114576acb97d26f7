import Overseer.Core.DependencyOrder
import Overseer.Core.DecisionAgreement
import Overseer.Core.Maintenance
import Overseer.Core.ProcessExclusion
import Overseer.Core.ApprovalGate
import Overseer.Core.ApprovalFinality
import Overseer.Core.StorageDispatch
import Overseer.Core.RootResolution
import Overseer.Core.RequestRetry
import Overseer.Core.AuditTrail
import Overseer.Core.AuditQueries
import Overseer.Agent.HandoffAgreement
import Overseer.Agent.FailoverEvaluation
import Overseer.Agent.CheckpointTransfer
import Overseer.Agent.Activation
import Overseer.Agent.Recovery
import Overseer.Psychlo.TaskGraph
import Overseer.Psychlo.RoundCeiling
import Overseer.Psychlo.Terminals
import Overseer.Psychlo.LearningIntegrity
import Overseer.Psychlo.ApprovalRuns
import Overseer.Psychlo.CoordinationOnce
import Overseer.Psychlo.OutboxRuns
import Overseer.Psychlo.GateFinality
import Overseer.Broker.Issuance
import Overseer.Provisioning.Outcome
import Overseer.Remote.JobQueue
import Overseer.Remote.TokenValidation
import Overseer.Quark.LostEdit
import Overseer.Roadex.BindingOnce
import Overseer.Roadex.StrictExact
import Overseer.Roadex.RecordCodecs
import Overseer.Agent.DispatchReplay
import Overseer.Quark.OneExecution
import Overseer.Agent.RegistryFallbacks
import Overseer.Admin.ExecutionGate
import Overseer.Psychlo.PeerMessages
