import CephAi.Verified.Retention
import CephAi.Ports.BackupStorage
import CephAi.Ports.BackupJobs
import CephAi.Ports.BackupRetention
import CephAi.Verified.Runs
import CephAi.Ports.BackupEngine
import CephAi.Ports.BackupChain
import CephAi.Ports.Restore
import CephAi.Ports.RbdMove
import CephAi.Ports.RestoreCleanup
import CephAi.Ports.Models
import CephAi.Ports.ApprovedExecution
import CephAi.Ports.ActionRuns
import CephAi.Ports.ExecutionClaim
import CephAi.Ports.Decisions
import CephAi.Ports.Scheduler
import CephAi.Ports.Diagnosis
import CephAi.Ports.IncidentRuns
import CephAi.Ports.VerifiedClosing
import CephAi.Ports.StaleMessages
import CephAi.Ports.AutonomousExecution
import CephAi.Ports.BackupClaims
import CephAi.Ports.CopyRepair
import CephAi.Ports.NodeRemoval
import CephAi.Ports.OsdReplacement
import CephAi.Ports.ClusterDeletion
import CephAi.Ports.NodeOsGate
import CephAi.Ports.GateRuns
import CephAi.Ports.GateQuorum
import CephAi.Ports.GateFlags
import CephAi.Ports.GateRequests
import CephAi.Ports.CommandParams
import CephAi.Ports.ManagementCommands
import CephAi.Ports.GetCommand
import CephAi.Ports.CommandStructure
import CephAi.Ports.ClusterConversion
import CephAi.Ports.DisasterRecovery
import CephAi.Ports.IncidentCreation
import CephAi.Ports.ResolveGrace
import CephAi.Ports.RbdMoveCleanup
import CephAi.Ports.LogScans
import CephAi.Ports.LogFindings
import CephAi.Ports.CodeRepair
import CephAi.Ports.RateLimit
import CephAi.Ports.GraceExecution
import CephAi.Ports.FailureLab
import CephAi.Ports.FailureLabHalt
import CephAi.Ports.FailureLabHolding
import CephAi.Ports.RgwAlerts
import CephAi.Ports.MonitorOwned
import CephAi.Ports.ChangeRisk
import CephAi.Ports.MonitorFamilies
import CephAi.Ports.NodeHealth
import CephAi.Ports.CrushSkew
import CephAi.Ports.MeasuredRecovery
import CephAi.Ports.AccessAudit
import CephAi.Ports.AlertHysteresis
import CephAi.Ports.OsdLatency
import CephAi.Ports.DeviceHealth
import CephAi.Ports.VolumeSaturation
import CephAi.Ports.ObservedRecovery
import CephAi.Ports.BackupFailures
import CephAi.Ports.ReproductionApproval
import CephAi.Ports.TelegramApproval
import CephAi.Ports.TypedConfirmation
import CephAi.Ports.PoolChoices
import CephAi.Ports.LoginLockout
import CephAi.Ports.IncidentOutbox
import CephAi.Ports.ConsumerClaims
import CephAi.Ports.ShadowRegistry
import CephAi.Ports.CaseCredit
import CephAi.Verified.Means
import CephAi.Ports.OutcomeScores
import CephAi.Ports.BoundedBenchmark
import CephAi.Ports.RemediationLifecycle
import CephAi.Ports.DelegatedCancellation
import CephAi.Ports.DelegatedBudget
import CephAi.Ports.DelegatedOwnership
import CephAi.Ports.TelegramOutbox
import CephAi.Ports.RefreshClaims
import CephAi.Ports.ResolvedEvents
import CephAi.Ports.BackupAlerts
import CephAi.Ports.TrustEngine
import CephAi.Ports.OnlineLearner
import CephAi.Ports.OnlineLearnerRows
import CephAi.Ports.OnlineLearnerRuns
import CephAi.Ports.ApiReservations
import CephAi.Ports.HardBudget
import CephAi.Ports.QueryCache
import CephAi.Ports.CacheGenerations
import CephAi.Ports.EnvFile
import CephAi.Ports.RepairLedger
import CephAi.Ports.LearningSamples
import CephAi.Verified.Lifecycle
import CephAi.Ports.ModelPromotion
import CephAi.Ports.ModelRollback
import CephAi.Verified.Json
import CephAi.Ports.ActionContract
import CephAi.Ports.FindingLifecycle
import CephAi.Ports.FindingRuns
import CephAi.Ports.ExpiredReservations
import CephAi.Ports.EnvRoundTrip
import CephAi.Ports.CachePrune
import CephAi.Ports.CrushPayload
import CephAi.Ports.VerifiedLabels
import CephAi.Verified.Regex
import CephAi.Ports.IncidentGroups
import CephAi.Ports.AccessLogs
import CephAi.Ports.LogFence
import CephAi.Ports.OsdRestart
import CephAi.Ports.ClusterAuthorization
import CephAi.Ports.Preflight
import CephAi.Ports.ResourceSamples
import CephAi.Verified.Sampling
import CephAi.Ports.OffPolicy
import CephAi.Ports.Regressions
import CephAi.Ports.CapacityFailure
import CephAi.Ports.ScopeDecision
import CephAi.Ports.PerformanceCorrelation
import CephAi.Ports.ScrubSchedule
import CephAi.Ports.SnapshotAnalyzers
import CephAi.Ports.VitastorRemediation
