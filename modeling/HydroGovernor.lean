import HydroGovernor.Library.TrackedBuffer
import HydroGovernor.Library.Transition
import HydroGovernor.Library.BoundedQueue
import HydroGovernor.Library.Delimited
import HydroGovernor.Library.CString
import HydroGovernor.Library.BitOrder
import HydroGovernor.Library.WrappingClock
import HydroGovernor.Library.Descriptors
import HydroGovernor.Library.Utf8
import HydroGovernor.Library.Json
import HydroGovernor.Library.JsonTexts
import HydroGovernor.Library.Html
import HydroGovernor.Library.CHeader
import HydroGovernor.Library.PercentEncoding
import HydroGovernor.Library.FormEncoding
import HydroGovernor.Library.WebSocket
import HydroGovernor.Sensors
import HydroGovernor.SensorRaces
import HydroGovernor.SensorLiveness
import HydroGovernor.PushTask
import HydroGovernor.HealthReports
import HydroGovernor.DhtDriver
import HydroGovernor.Nvs
import HydroGovernor.ScanCache
import HydroGovernor.WifiManager
import HydroGovernor.Tasks
import HydroGovernor.Recoverability
import HydroGovernor.AttemptOverlap
import HydroGovernor.Attempts
import HydroGovernor.LinkState
import HydroGovernor.LinkMachine
import HydroGovernor.ConnectTimeout
import HydroGovernor.Reconnection
import HydroGovernor.ReconnectPace
import HydroGovernor.ApShutdown
import HydroGovernor.CredentialSaving
import HydroGovernor.CredentialErasure
import HydroGovernor.SecurityMetadata
import HydroGovernor.BootCredentials
import HydroGovernor.SaveForm
import HydroGovernor.UrlDecode
import HydroGovernor.FormFields
import HydroGovernor.ScanListing
import HydroGovernor.NetworkChoice
import HydroGovernor.NetworkMarkup
import HydroGovernor.AttemptRecord
import HydroGovernor.ScanPublication
import HydroGovernor.Provisioning
import HydroGovernor.DnsServer
import HydroGovernor.DnsAnswers
import HydroGovernor.DnsService
import HydroGovernor.OtaUpdate
import HydroGovernor.OtaReply
import HydroGovernor.SaveDelivery
import HydroGovernor.StatusReplies
import HydroGovernor.Portal
import HydroGovernor.PortalOutcome
import HydroGovernor.PortalPolls
import HydroGovernor.WsHandler
import HydroGovernor.TelnetServer
import HydroGovernor.TelnetLines
import HydroGovernor.LogPipeline
import HydroGovernor.SensorText
import HydroGovernor.SensorView
import HydroGovernor.WsBroadcast
import HydroGovernor.Dashboard
import HydroGovernor.Producers
import HydroGovernor.EmbeddedPages
import HydroGovernor.CaptivePortal
import HydroGovernor.DhtSignal
