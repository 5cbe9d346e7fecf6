import Zero3Pilot.RemoteHost.OutboxOrder
import Zero3Pilot.RemoteHost.Resumption
import Zero3Pilot.RemoteHost.Carriage
import Zero3Pilot.TaskExtension.Register
import Zero3Pilot.WorkerGateway.Leases
import Zero3Pilot.WorkerGateway.Scopes
import Zero3Pilot.OAuth.Redemption
import Zero3Pilot.JobScheduler.CrashTail
import Zero3Pilot.JobScheduler.JobActions
import Zero3Pilot.Failover.Turns
import Zero3Pilot.Failover.Sessions
import Zero3Pilot.MemorySync.ReplayLoop
import Zero3Pilot.MemorySync.QueueDelivery
import Zero3Pilot.Lifecycle.ClaimHolders
import Zero3Pilot.GroupRuntime.ChangedPaths
import Zero3Pilot.AgentRouting.HandingOn
import Zero3Pilot.GroupRuntime.CompletionEvidence
import Zero3Pilot.AgentRouting.Finalizer
import Zero3Pilot.ProviderSession.SessionLog
import Zero3Pilot.ProviderSession.GateRuns
import Zero3Pilot.ProviderBridge.DialogueHistory
import Zero3Pilot.ProviderBridge.StreamedAnswer
import Zero3Pilot.Weixin.ApprovalRuns
import Zero3Pilot.Weixin.PollRuns
import Zero3Pilot.Robot.GatewayRuns
import Zero3Pilot.Overlay.Upgrades
import Zero3Pilot.WorkerRuntime.Claiming
import Zero3Pilot.RemoteHost.AdmittedTasks
import Zero3Pilot.ContextRetention.Pruning
import Zero3Pilot.OutputRetention.RetainText
