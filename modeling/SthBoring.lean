import SthBoring.Lib.OrderedDict
import SthBoring.Lib.Loop
import SthBoring.Lib.PyValue
import SthBoring.Lib.DependencyTrace
import SthBoring.Plan.Models
import SthBoring.Execution.Models
import SthBoring.Execution.Engine
import SthBoring.Execution.RunInvariant
import SthBoring.Execution.DependencySafety
import SthBoring.Execution.RunAccounting
import SthBoring.Capability.SchemaValidation
import SthBoring.Lib.PyJson
import SthBoring.Capability.CapabilityModels
import SthBoring.Capability.Panel
import SthBoring.Plan.PlanValidation
import SthBoring.Plan.PassedPlans
import SthBoring.AgentLoop.Preflight
import SthBoring.Execution.RunRecords
import SthBoring.Plan.AdmissionSoundness
import SthBoring.Execution.ValidatedRuns
import SthBoring.Lib.Effect
import SthBoring.Capability.SchemaRenderers
import SthBoring.Lib.Walk
import SthBoring.AgentLoop.LoopModels
import SthBoring.AgentLoop.Nodes
import SthBoring.AgentLoop.GraphBuilder
import SthBoring.AgentLoop.BoundedReplanning
import SthBoring.Lib.FileTree
import SthBoring.ArtifactManager.Service
import SthBoring.ArtifactManager.ArtifactIntegrity
import SthBoring.Execution.WorldInvariant
import SthBoring.ArtifactManager.ArtifactContainment
import SthBoring.Lib.PyObject
import SthBoring.Execution.StepUtils
import SthBoring.Execution.ExecutorSpecs
import SthBoring.Execution.DataFlow
import SthBoring.Capability.CapabilityIoModels
import SthBoring.Execution.DeclaredWork
import SthBoring.AgentLoop.ReplanFeedback
import SthBoring.CmdCtrl.InspectSafety
import SthBoring.Lib.NormPath
import SthBoring.Sandbox.DockerSandbox
import SthBoring.Sandbox.WorkdirContainment
import SthBoring.Lib.WhiteSpace
import SthBoring.WebKit.Clean
import SthBoring.WebKit.ChunkContent
import SthBoring.Crawler.Models
import SthBoring.Crawler.Policy
import SthBoring.Lib.Binary64
import SthBoring.Lib.OrderedMoves
import SthBoring.Crawler.Assess
import SthBoring.Crawler.Caching
import SthBoring.Crawler.Runner
import SthBoring.Crawler.Attempts
import SthBoring.Crawler.AttemptFrames
import SthBoring.Crawler.DeclaredFailures
import SthBoring.Crawler.WebReadPage
import SthBoring.Crawler.ReadPageOutcomes
import SthBoring.Crawler.CacheHits
import SthBoring.Crawler.LoginDetection
import SthBoring.Crawler.BrowserFetch
import SthBoring.Crawler.LoginReports
import SthBoring.Crawler.AcloseSafety
import SthBoring.Crawler.CacheKeys
import SthBoring.Crawler.RegistryHistory
import SthBoring.Crawler.RegistrySafety
import SthBoring.Crawler.CacheContract
import SthBoring.Plan.AdmissionMonotone
import SthBoring.Capability.JsonSchema
import SthBoring.Capability.ModelAgreement
import SthBoring.Capability.SchemaAgreement
import SthBoring.AgentLoop.StateNodes
import SthBoring.Capability.CapabilityValidator
import SthBoring.Capability.ModelRebuild
import SthBoring.Capability.PanelOutput
import SthBoring.Plan.SnapshotReads
import SthBoring.AgentLoop.CarriedObjects
import SthBoring.Capability.SchemaOrder
import SthBoring.Lib.JsonText
import SthBoring.Plan.DigestAdmission
import SthBoring.ControlPlane.RegistryAgreement
import SthBoring.Loop.MinimalLoop
import SthBoring.Sandbox.ContainerLeaks
import SthBoring.Sandbox.LiveContainers
import SthBoring.ArtifactManager.FreshTasks
import SthBoring.Loop.RepeatedDeploys
import SthBoring.CmdCtrl.DeclaredCommands
import SthBoring.Execution.DeclaredRuntimes
import SthBoring.Execution.DeclaredOutputs
import SthBoring.Execution.FailedInspections
import SthBoring.AgentLoop.PreflightSoundness
import SthBoring.AgentLoop.ProceduralLoop
import SthBoring.Llm.ResolvedCalls
import SthBoring.Llm.EffectiveRequests
import SthBoring.WebKit.LimiterPermits
import SthBoring.WebKit.TornEntries
import SthBoring.WebKit.CallerLeaks
import SthBoring.WebKit.ChunkBounds
import SthBoring.Plan.PlannerPrompt
import SthBoring.Crawler.FetchCalls
import SthBoring.Crawler.RunAccounts
import SthBoring.Crawler.FreshReads
import SthBoring.WebKit.RetryLoop
import SthBoring.Docker.BuildImage
import SthBoring.Inspection.PomCoordinates
import SthBoring.Inspection.ManifestFields
import SthBoring.AgentLoop.InteractionDecider
import SthBoring.Crawler.ChunkOrder
import SthBoring.Crawler.DomainLookup
import SthBoring.Execution.ReplanArtifacts
import SthBoring.Plan.StricterValidation
import SthBoring.WebKit.CleanText
import SthBoring.CmdCtrl.PathAdmission
import SthBoring.FunctionTools.SandboxRun
import SthBoring.Plan.PlanRecall
import SthBoring.Lib.JsonLoads
import SthBoring.Lib.JsonTokens
import SthBoring.Lib.JsonReadBack
import SthBoring.Crawler.EventLog
import SthBoring.Plan.PlannerAnswers
import SthBoring.AgentLoop.AdmittedExecutions
import SthBoring.Crawler.PlanLadder
import SthBoring.Inspection.EnvProbes
import SthBoring.Crawler.FallbackExtractor
import SthBoring.Crawler.SessionHistory
import SthBoring.Crawler.BoundedLogin
import SthBoring.Plan.ExactAdmission
import SthBoring.CmdCtrl.MediatedSessions
import SthBoring.AgentLoop.TaskChecks
import SthBoring.AgentLoop.CheckedRuns
import SthBoring.AgentLoop.ServedRuns
