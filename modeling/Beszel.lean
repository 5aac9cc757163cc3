import Beszel.Agent.Client
import Beszel.Agent.DeltaTracker
import Beszel.Agent.Details
import Beszel.Agent.DiskSetup
import Beszel.Agent.DockerDecode
import Beszel.Agent.DockerEntries
import Beszel.Agent.DockerLogs
import Beszel.Agent.EventLoop
import Beszel.Agent.FsNames
import Beszel.Agent.Gpu
import Beszel.Agent.HubUpdate
import Beszel.Agent.Memory
import Beszel.Agent.NameFilters
import Beszel.Agent.NetworkTotals
import Beszel.Agent.PkgApk
import Beszel.Agent.PkgApply
import Beszel.Agent.PkgRefresh
import Beszel.Agent.PkgScripts
import Beszel.Agent.Sensors
import Beszel.Agent.Server
import Beszel.Agent.SmartCollect
import Beszel.Agent.Systemd
import Beszel.Alerts.Decision
import Beszel.Alerts.History
import Beszel.Alerts.HistoryTrim
import Beszel.Alerts.Alternation
import Beszel.Alerts.QuietHours
import Beszel.Alerts.SmartAlerts
import Beszel.Alerts.UserAlerts
import Beszel.Common.SmartRaw
import Beszel.Hub.ApplyResponse
import Beszel.Hub.AverageCopies
import Beszel.Hub.AverageOrder
import Beszel.Hub.Config
import Beszel.Hub.ContainerAverages
import Beszel.Hub.CreateRecords
import Beszel.Hub.ExpiryRaces
import Beszel.Hub.FirstUser
import Beszel.Hub.FleetActions
import Beszel.Hub.NewSystem
import Beszel.Hub.Pause
import Beszel.Hub.Realtime
import Beszel.Hub.RealtimeWorker
import Beszel.Hub.RequestManager
import Beszel.Hub.RollUpSchedule
import Beszel.Hub.RollUps
import Beszel.Hub.StableIds
import Beszel.Hub.SystemStore
import Beszel.Hub.UniversalToken
import Beszel.Hub.WsConn
import Beszel.Machinery.Shell
import Beszel.Machinery.Split
import Beszel.Site.AlertStore
import Beszel.Site.ChartGaps
import Beszel.Site.NameIndex
import Beszel.Site.Versions
import Beszel.Update.Extract
import Beszel.Update.Replace
import Beszel.Agent.IntelGpu
import Beszel.Agent.DockerQueue
import Beszel.Machinery.Upserts
import Beszel.Hub.LiveRows
import Beszel.Agent.CpuMetrics
import Beszel.Machinery.Words
import Beszel.Agent.PkgListings
import Beszel.Machinery.Erase
import Beszel.Agent.LogText
import Beszel.Agent.Fingerprint
import Beszel.Agent.ServiceRefresh
import Beszel.Agent.SmartRefresh
import Beszel.Alerts.Notify
import Beszel.Hub.SmartFetch
import Beszel.Hub.SshKey
import Beszel.Hub.FailureText
import Beszel.Hub.StagedAgents
import Beszel.Hub.Conversation
