import Guardian.Lib.OrderedMap
import Guardian.Lib.FiniteMap
import Guardian.Lib.Runs
import Guardian.Lib.Linearize
import Guardian.Lib.Locked
import Guardian.Lib.Programs
import Guardian.Lib.Counting
import Guardian.Lib.Bytes
import Guardian.Lib.Utf16
import Guardian.Lib.Ownership
import Guardian.Nt
import Guardian.Shared
import Guardian.Store.Table
import Guardian.Store.Policy
import Guardian.Store.Route
import Guardian.Store.Replay
import Guardian.Store.SyncFailure
import Guardian.Store.SyncResult
import Guardian.Store.Matchable
import Guardian.Store.RouteMap
import Guardian.Sync.Steps
import Guardian.Sync.Exposure
import Guardian.Sync.Serial
import Guardian.Sync.Lock
import Guardian.Sync.TableScan
import Guardian.Sync.Pool
import Guardian.Enforce.KillSwitch
import Guardian.Enforce.KillSwitchRestore
import Guardian.Enforce.Telemetry
import Guardian.Enforce.Dns
import Guardian.Enforce.DnsHistory
import Guardian.Driver.Globals
import Guardian.Enforce.Classify
import Guardian.Enforce.ProcessPath
import Guardian.Sync.KillSwitchLock
import Guardian.Sync.KillSwitchMirror
import Guardian.Sync.DnsLock
import Guardian.Sync.Counters
import Guardian.Sync.MaxLatency
import Guardian.Sync.Parallel
import Guardian.Driver.Managers
import Guardian.Sync.VerifyCaller
import Guardian.Sync.Modes
import Guardian.Driver.Entry
import Guardian.Driver.Callouts
import Guardian.Ipc.Dispatch
import Guardian.Ipc.Reads
import Guardian.Ipc.Bounds
import Guardian.Ipc.Admission
import Guardian.Ipc.Outputs
import Guardian.Runs.Driver
import Guardian.Runs.Accounting
import Guardian.Runs.Reports
import Guardian.Runs.Latency
import Guardian.Runs.Lifetimes
import Guardian.Runs.Hybrid
import Guardian.Runs.Rejected
import Guardian.Runs.ActionMatrix
import Guardian.Runs.VersionGate
import Guardian.Runs.StateTransfer
import Guardian.Runs.Callers
import Guardian.Runs.KillSwitch
import Guardian.Runs.Firewall
import Guardian.Runs.DriverState
import Guardian.Runs.Interference
import Guardian.Runs.Mode
import Guardian.Runs.BlockPolicy
import Guardian.Runs.InterfaceLuid
import Guardian.Client.Types
import Guardian.Client.Path
import Guardian.Client.Calls
import Guardian.Client.Wire
import Guardian.Client.Session
import Guardian.Client.Traffic
import Guardian.Client.BlockList
