import BoVpnAgent.Lib.Transition
import BoVpnAgent.Lib.Components
import BoVpnAgent.Lib.Dict
import BoVpnAgent.Lib.Heap
import BoVpnAgent.Lib.PyStr
import BoVpnAgent.Lib.Utf8
import BoVpnAgent.Lib.Json
import BoVpnAgent.Lib.JsonLoads
import BoVpnAgent.Lib.IpAddress
import BoVpnAgent.Lib.Url
import BoVpnAgent.Errors
import BoVpnAgent.Models
import BoVpnAgent.Operations
import BoVpnAgent.Security
import BoVpnAgent.VehicleInventory
import BoVpnAgent.Runner
import BoVpnAgent.Audit
import BoVpnAgent.Service
import BoVpnAgent.Worker.System
import BoVpnAgent.Worker.Store
import BoVpnAgent.Worker.Runs
import BoVpnAgent.Worker.Idempotency
import BoVpnAgent.Worker.Exclusion
import BoVpnAgent.Worker.Reports
import BoVpnAgent.Worker.Closing
import BoVpnAgent.RunnerDaemon
import BoVpnAgent.Api
import BoVpnAgent.ContainerNamespaceExecutor
import BoVpnAgent.CommandExec
import BoVpnAgent.Daemon.System
import BoVpnAgent.Daemon.Jobs
import BoVpnAgent.Daemon.Settling
import BoVpnAgent.Daemon.ControlChannel
import BoVpnAgent.Rendering
import BoVpnAgent.ErrorMapping
import BoVpnAgent.Answers
import BoVpnAgent.Bot.AudioBot
import BoVpnAgent.Bot.Isolation
import BoVpnAgent.Bot.Restart
import BoVpnAgent.Client.Requests
import BoVpnAgent.Client.Results
import BoVpnAgent.Proxy.Framing
import BoVpnAgent.Proxy.ProxyConnect
import BoVpnAgent.Proxy.Tunnel
import BoVpnAgent.Executors.Agreement
import BoVpnAgent.Executors.LoginLines
import BoVpnAgent.Executors.PortProbe
import BoVpnAgent.Executors.TraceLaws
import BoVpnAgent.Lib.SlidingWindow
import BoVpnAgent.RateLimits
import BoVpnAgent.Rejections
import BoVpnAgent.Bot.Orphans
import BoVpnAgent.Bot.Selectable
import BoVpnAgent.Bot.Startup
import BoVpnAgent.Bot.Stops
import BoVpnAgent.Doctor.Repair
import BoVpnAgent.Executors.Cleanup
import BoVpnAgent.Executors.NormalizedErrors
import BoVpnAgent.Executors.SecretFile
import BoVpnAgent.Executors.StatusOutput
import BoVpnAgent.Fingerprints
import BoVpnAgent.Inventory.Cache
import BoVpnAgent.PlayVehicleAudio
import BoVpnAgent.Proxy.Relay
import BoVpnAgent.Daemon.Noninterference
import BoVpnAgent.Bot.PlaybackOutput
import BoVpnAgent.Bot.Polling
import BoVpnAgent.Bot.Shutdown
import BoVpnAgent.Bot.Targets
import BoVpnAgent.Doctor.FailureContext
import BoVpnAgent.Doctor.LogRotation
import BoVpnAgent.Doctor.PreflightCache
import BoVpnAgent.Doctor.PreflightRuns
import BoVpnAgent.Lifecycle.OneTerminalState
import BoVpnAgent.Lifecycle.OneDesk
import BoVpnAgent.Worker.Noninterference
import BoVpnAgent.Lifecycle.CarriedOut
import BoVpnAgent.Lifecycle.AudioAfterAnswer
import BoVpnAgent.Proxy.EndToEnd
import BoVpnAgent.Worker.AuditFile
import BoVpnAgent.Bot.Crashes
