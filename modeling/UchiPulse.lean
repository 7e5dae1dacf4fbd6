import UchiPulse.Delivery.Refinement
import UchiPulse.Delivery.Order
import UchiPulse.Management.Session
import UchiPulse.Node.InputTask
import UchiPulse.Management.Backup
import UchiPulse.Node.ReadBack
import UchiPulse.Control.Destinations
import UchiPulse.Settings.ActionReadBack
import UchiPulse.Node.Verification
import UchiPulse.Node.Resolution
import UchiPulse.Node.Retries
import UchiPulse.Hub.Batch
import UchiPulse.Node.Presses
import UchiPulse.Node.Storage
import UchiPulse.Db.FailedSave
import UchiPulse.Hub.LoadedConfig
import UchiPulse.Hub.ConcurrentAction
import UchiPulse.Hub.Replay
import UchiPulse.Delivery.Correlation
import UchiPulse.Delivery.Safety
import UchiPulse.Common.IdentifiedLine
import UchiPulse.Control.Protocol
import UchiPulse.Db.SavedAction
import UchiPulse.Delivery.Presence
import UchiPulse.Hub.Domains
import UchiPulse.Hub.LineDecoder
import UchiPulse.Hub.RequestIds
import UchiPulse.Hub.ResponseSize
import UchiPulse.Lib.Channels
import UchiPulse.Lib.NorFlash
import UchiPulse.Lib.Skipper
import UchiPulse.Management.ReadBack
import UchiPulse.Management.RequestIds
import UchiPulse.Node.Boot
import UchiPulse.Node.EventIds
import UchiPulse.Node.Flash
import UchiPulse.Settings.App
import UchiPulse.Settings.Editor
import UchiPulse.Common.UdpGrammar
import UchiPulse.Hub.Acceptance
import UchiPulse.Hub.AcceptedConfig
import UchiPulse.Hub.Rejection
import UchiPulse.Lib.Debounce
import UchiPulse.Management.Lines
import UchiPulse.Node.Debounce
import UchiPulse.Node.Gestures
import UchiPulse.Node.HelloRequest
import UchiPulse.Node.Ipv4
import UchiPulse.Node.LineParser
