import SandboxProvider.Lib.JsonText
import SandboxProvider.Lib.MergePatch
import SandboxProvider.Lib.Table
import SandboxProvider.Lib.Transition
import SandboxProvider.Lib.Sha256
import SandboxProvider.Lib.Json
import SandboxProvider.Lib.Decimal
import SandboxProvider.Lib.Flag
import SandboxProvider.Lib.JsonStruct
import SandboxProvider.Lib.Lagging
import SandboxProvider.Lib.Float64
import SandboxProvider.Lib.JsonNumber
import SandboxProvider.Lib.JsonAny
import SandboxProvider.Lib.GoSlice
import SandboxProvider.Lib.JsonRoundTrip
import SandboxProvider.Lib.NetUrl
import SandboxProvider.Lib.ServeMux
import SandboxProvider.Lib.WorkQueue
import SandboxProvider.Lib.FilePath
import SandboxProvider.Api.Cluster
import SandboxProvider.Api.Schema
import SandboxProvider.Api.Objects
import SandboxProvider.Api.Client
import SandboxProvider.Server.Scope
import SandboxProvider.Server.Access
import SandboxProvider.Server.Handlers
import SandboxProvider.Server.Moves
import SandboxProvider.Server.Credentials
import SandboxProvider.Server.TokenSecret
import SandboxProvider.Server.Wire
import SandboxProvider.Server.Replaying
import SandboxProvider.Server.Routes
import SandboxProvider.Controller.DesiredRunner
import SandboxProvider.Controller.Reconcile
import SandboxProvider.Controller.Moves
import SandboxProvider.Controller.Watch
import SandboxProvider.Runner.Options
import SandboxProvider.Runner.Bridge
import SandboxProvider.Runner.Disks
import SandboxProvider.Runner.Run
import SandboxProvider.Node.Namespaces
import SandboxProvider.Node.Terminate
import SandboxProvider.Node.StartCAA
import SandboxProvider.Node.Launch
import SandboxProvider.Node.Run
import SandboxProvider.Plugin.UserData
import SandboxProvider.Plugin.CreateInstance
import SandboxProvider.Plugin.Client
import SandboxProvider.Plugin.ForwarderConfig
import SandboxProvider.Plugin.UserDataMemory
import SandboxProvider.Plugin.Endpoint
import SandboxProvider.Plugin.Http
import SandboxProvider.System.Reconciling
import SandboxProvider.System.World
import SandboxProvider.System.Step
import SandboxProvider.System.Creating
import SandboxProvider.System.Provenance
import SandboxProvider.System.Incarnation
import SandboxProvider.System.Reporting
import SandboxProvider.System.Cached
import SandboxProvider.System.Manager
import SandboxProvider.System.Serving
import SandboxProvider.Verify.Rollback
import SandboxProvider.Verify.Identity
import SandboxProvider.Verify.Userdata
import SandboxProvider.Verify.UserdataAgreement
import SandboxProvider.Verify.FailedCreate
import SandboxProvider.Verify.Isolation
import SandboxProvider.Verify.Readiness
import SandboxProvider.Verify.RunnerIdentity
import SandboxProvider.Verify.Template
import SandboxProvider.Verify.NetworkMtu
import SandboxProvider.Verify.Authorization
import SandboxProvider.Verify.Memory
import SandboxProvider.Verify.ClassDeletes
import SandboxProvider.Verify.RunnerDeletes
import SandboxProvider.Verify.Convergence
import SandboxProvider.Verify.TokenStability
import SandboxProvider.Verify.RunnerContract
import SandboxProvider.Verify.Bridging
import SandboxProvider.Verify.Protocol
import SandboxProvider.Verify.CachedReads
import SandboxProvider.Verify.RunnerMetadata
import SandboxProvider.Verify.NamespaceCleanup
import SandboxProvider.Verify.Shutdown
import SandboxProvider.Verify.AdaptorStart
import SandboxProvider.Verify.InstanceResult
import SandboxProvider.Verify.StatusAddresses
import SandboxProvider.Verify.Replays
import SandboxProvider.Verify.MtuCap
import SandboxProvider.Verify.UserDataFrame
import SandboxProvider.Verify.DeletePath
import SandboxProvider.Verify.Freshness
import SandboxProvider.Verify.Wakeups
import SandboxProvider.Verify.HttpRuns
import SandboxProvider.Verify.RunnerLifecycle
import SandboxProvider.Verify.GuestSeed
import SandboxProvider.Verify.NodeProcesses
import SandboxProvider.Verify.NodeOrder
import SandboxProvider.Verify.NodeStops
import SandboxProvider.Verify.RunnerPods
import SandboxProvider.Verify.GuestUp
import SandboxProvider.Verify.SecretOwners
import SandboxProvider.Verify.RunnerGrace
