import PlayTogether.Library.Proc
import PlayTogether.Library.Bytes
import PlayTogether.Library.Trim
import PlayTogether.Library.Pattern
import PlayTogether.Library.Substitution
import PlayTogether.Library.Words
import PlayTogether.Library.Decode
import PlayTogether.Library.HttpHead
import PlayTogether.Library.Json
import PlayTogether.Library.JsonFields
import PlayTogether.Library.Xml
import PlayTogether.Library.Durable
import PlayTogether.Library.Followed
import PlayTogether.Device.Vocabulary
import PlayTogether.Device.Group
import PlayTogether.Device.Identity
import PlayTogether.Device.Sanitization
import PlayTogether.Pair.Backend
import PlayTogether.Native.Interfaces
import PlayTogether.Native.Observer
import PlayTogether.Native.JblGatt
import PlayTogether.Native.Core
import PlayTogether.Native.Transaction
import PlayTogether.Native.Runs
import PlayTogether.Journal.StateRoot
import PlayTogether.Journal.Uncertainty
import PlayTogether.Journal.Durability
import PlayTogether.Journal.FirstUse
import PlayTogether.Config.RuntimeConfig
import PlayTogether.Controller.Model
import PlayTogether.Controller.Exits
import PlayTogether.Controller.Latch
import PlayTogether.Controller.WebActor
import PlayTogether.Controller.Membership
import PlayTogether.Aura.Bearer
import PlayTogether.Aura.Acknowledgement
import PlayTogether.Aura.Wake
import PlayTogether.Aura.Scan
import PlayTogether.System.CrashLatch
import PlayTogether.System.Agreement
import PlayTogether.System.Evidence
import PlayTogether.System.Shutdown
import PlayTogether.Web.Request
import PlayTogether.Web.Framing
import PlayTogether.Web.Response
import PlayTogether.Web.App
import PlayTogether.Web.Reader
import PlayTogether.Web.Grammar
import PlayTogether.Web.Gate
import PlayTogether.Client.Wire
import PlayTogether.Client.Agreement
import PlayTogether.Client.Status
import PlayTogether.System.StatusProjection
import PlayTogether.Library.Interleaving
import PlayTogether.Legacy.Launch
import PlayTogether.Legacy.Ownership
import PlayTogether.Legacy.Supervisor
import PlayTogether.Legacy.StateWrites
import PlayTogether.Legacy.Tenure
import PlayTogether.Legacy.Normalization
import PlayTogether.Legacy.Resolver
import PlayTogether.Legacy.GattSession
import PlayTogether.Legacy.ReplyBuffer
import PlayTogether.Legacy.Disconnect
import PlayTogether.Legacy.Notification
import PlayTogether.Legacy.Redaction
import PlayTogether.Gena.Http
import PlayTogether.Gena.Fragments
import PlayTogether.Gena.Event
import PlayTogether.Gena.JsonLimits
import PlayTogether.Gena.Observer
import PlayTogether.Gena.Release
import PlayTogether.Gena.Callbacks
import PlayTogether.Gena.Confirmation
import PlayTogether.Gena.Freshness
import PlayTogether.Gena.Ambiguity
import PlayTogether.Config.RoundTrip
import PlayTogether.Library.Execution
import PlayTogether.Legacy.PulseGuard
import PlayTogether.Legacy.PulseRecovery
