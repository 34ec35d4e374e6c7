import Networker.Concurrency.Process
import Networker.Concurrency.Interleave
import Networker.Concurrency.Restarts
import Networker.Concurrency.Ownership
import Networker.Concurrency.Machine
import Networker.Concurrency.Blind
import Networker.Data.Table
import Networker.Data.Json
import Networker.Data.RecentSet
import Networker.Data.Distinct
import Networker.ControlPlane.Entities
import Networker.ControlPlane.World
import Networker.ControlPlane.Provisioning
import Networker.ControlPlane.Dispatch
import Networker.ControlPlane.AgentFrames
import Networker.ControlPlane.Watchdog
import Networker.ControlPlane.Deployments
import Networker.ControlPlane.Orchestrator
import Networker.ControlPlane.OrphanReaper
import Networker.ControlPlane.System
import Networker.ControlPlane.Statements
import Networker.ControlPlane.TerminalStatus
import Networker.ControlPlane.DeclaredTargets
import Networker.ControlPlane.Routines
import Networker.ControlPlane.SingleExecution
import Networker.ControlPlane.StrandedClaims
import Networker.ControlPlane.CancelTarget
import Networker.ControlPlane.PoisonIsolation
import Networker.ControlPlane.FrameOwnership
import Networker.ControlPlane.Attempts
import Networker.ControlPlane.DeploymentDecisions
import Networker.ControlPlane.ServingDeployments
import Networker.ControlPlane.Slots
import Networker.ControlPlane.Capacity
import Networker.ControlPlane.ProvisionAttempts
import Networker.ControlPlane.DeployTimers
import Networker.ControlPlane.WatchdogBudget
import Networker.ControlPlane.Redispatch
import Networker.ControlPlane.KickBatch
import Networker.ControlPlane.TeardownBatch
import Networker.ControlPlane.Completion
import Networker.ControlPlane.RunFeed
import Networker.ControlPlane.FinalCounts
import Networker.ControlPlane.Scheduler
import Networker.ControlPlane.ScheduledRuns
import Networker.ControlPlane.AgentSockets
import Networker.ControlPlane.AgentPresence
import Networker.ControlPlane.TokenIsolation
import Networker.Agent.AgentWorker
import Networker.Agent.RunTasks
import Networker.ControlPlane.EventFeed
import Networker.ControlPlane.LiveFrames
import Networker.ControlPlane.BrowserFeed
import Networker.ControlPlane.DeploymentRecovery
import Networker.ControlPlane.RecoveryBounds
import Networker.Data.Bytes
import Networker.Concurrency.Inbox
import Networker.Concurrency.ProbeTrain
import Networker.Endpoint.UdpThroughput
import Networker.Tester.UdpThroughput
import Networker.Tester.DownloadAccounting
import Networker.Tester.UploadReport
import Networker.Tester.Pmtud
import Networker.Tester.PathMtu
import Networker.Tester.UdpEcho
import Networker.Tester.EchoCredits
import Networker.Endpoint.Stamp
import Networker.Tester.Stamp
import Networker.Tester.DirectionalLoss
import Networker.Data.Float64
import Networker.Data.Grouped
import Networker.Tester.Attempt
import Networker.Tester.Statistics
import Networker.Tester.TestRun
import Networker.Tester.Benchmark
import Networker.Tester.TargetRunner
import Networker.Tester.AttemptStream
import Networker.Tester.StatsShape
import Networker.Tester.BenchmarkArtifact
import Networker.Tester.ArtifactViews
import Networker.Tester.AdaptiveStop
import Networker.BenchOrchestrator.DashboardConfig
import Networker.BenchOrchestrator.Cycle
import Networker.BenchOrchestrator.CompletionStatus
import Networker.Data.FloatPacking
import Networker.Data.FloatDoubling
import Networker.Data.FloatNat
import Networker.Data.MaximalRuns
import Networker.Tester.ModeScan
import Networker.BenchOrchestrator.TesterLock
import Networker.Concurrency.Milestones
import Networker.BenchOrchestrator.Provisioner
import Networker.BenchOrchestrator.VmLeaks
import Networker.BenchOrchestrator.OrphanVms
import Networker.Tester.PathTrace
import Networker.Agent.RunExecutor
import Networker.Agent.EmittedAttempts
import Networker.ControlPlane.AlertEvaluator
import Networker.ControlPlane.AlertEvents
import Networker.ControlPlane.RunnerPower
import Networker.ControlPlane.PowerWrites
import Networker.ControlPlane.LiveWork
import Networker.Tester.MtuSearch
import Networker.Endpoint.ServersAgree
import Networker.Tester.TransferSizes
import Networker.ControlPlane.TesterQueueRegistry
import Networker.ControlPlane.AnsiText
import Networker.Agent.CaseSummaries
import Networker.ControlPlane.DeployOutput
import Networker.ControlPlane.DeployedEndpoints
import Networker.ControlPlane.EndpointNormalizer
import Networker.Data.StoppingLoop
import Networker.Data.TimedArrivals
import Networker.Tester.LoadGen
import Networker.Tester.Responsiveness
import Networker.Tester.Mthroughput
import Networker.Tester.ReportedCapacity
import Networker.Tester.DispatchOnce
import Networker.Data.EvenGroups
import Networker.Data.SeparatedText
import Networker.Tester.TaskCases
import Networker.Tester.SampleAccounting
import Networker.Data.SimpleWalk
import Networker.Tester.CnameChain
import Networker.Data.Unimodal
import Networker.Tester.Modality
import Networker.Data.FisherYates
import Networker.BenchOrchestrator.BenchmarkConfig
import Networker.BenchOrchestrator.CaseShuffle
import Networker.BenchOrchestrator.Report
import Networker.BenchOrchestrator.AutoRerun
import Networker.BenchOrchestrator.RerunPasses
import Networker.BenchOrchestrator.RerunBudget
import Networker.BenchOrchestrator.Comparison
import Networker.BenchOrchestrator.ComparisonGate
import Networker.Tester.FixedCount
import Networker.Tester.PhaseAttribution
import Networker.Tester.Cli
import Networker.Tester.PlanBounds
import Networker.Agent.CommandLine
import Networker.Data.NatDouble
import Networker.Agent.ConfigParity
import Networker.Agent.InvocationDeadline
import Networker.Data.FullPeriod
import Networker.Data.WordMaps
import Networker.Tester.Generator
import Networker.Agent.RecentRuns
import Networker.Tester.LossPattern
import Networker.BenchOrchestrator.Publication
import Networker.Tester.ArtifactCounts
import Networker.Concurrency.SessionLocks
import Networker.ControlPlane.LeaderElection
import Networker.Monitoring.LeaseSpacing
import Networker.Agent.FrameChannel
import Networker.Concurrency.Lane
import Networker.ControlPlane.ServiceLogWriter
import Networker.Data.Like
import Networker.Data.NumberedQuery
import Networker.Log.BatchWriter
import Networker.Log.Query
import Networker.Sdk.Limits
import Networker.ControlPlane.DeployDelivery
import Networker.ControlPlane.DeployReplay
import Networker.Concurrency.Past
import Networker.ControlPlane.Inactivity
