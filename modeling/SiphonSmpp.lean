import SiphonSmpp.Lib.ArrivalCurve
import SiphonSmpp.Lib.BigEndian
import SiphonSmpp.Lib.Coroutine
import SiphonSmpp.Lib.Decimal
import SiphonSmpp.Lib.Escalation
import SiphonSmpp.Lib.Grouping
import SiphonSmpp.Lib.Logged
import SiphonSmpp.Lib.Markers
import SiphonSmpp.Lib.OrderedDict
import SiphonSmpp.Lib.Projection
import SiphonSmpp.Lib.Roster
import SiphonSmpp.Lib.Run
import SiphonSmpp.Lib.Utf8
import SiphonSmpp.Smpp34
import SiphonSmpp.Text
import SiphonSmpp.EnvBinds
import SiphonSmpp.EnvNumbers
import SiphonSmpp.EnvVariables
import SiphonSmpp.EnvEncoding
import SiphonSmpp.Expand
import SiphonSmpp.Receipt
import SiphonSmpp.ReceiptText
import SiphonSmpp.ReceiptRanges
import SiphonSmpp.ReceiptRender
import SiphonSmpp.Tlv
import SiphonSmpp.TlvIntegers
import SiphonSmpp.Pdu
import SiphonSmpp.PduGetters
import SiphonSmpp.Dispatch
import SiphonSmpp.SessionDispatch
import SiphonSmpp.RateLimiter
import SiphonSmpp.Pacing
import SiphonSmpp.Contention
import SiphonSmpp.Supervisor
import SiphonSmpp.Reconnect
import SiphonSmpp.ReconnectDelays
import SiphonSmpp.Registry
import SiphonSmpp.Lifecycle
import SiphonSmpp.ConfigFile
import SiphonSmpp.ConfigView
import SiphonSmpp.EnvErrors
import SiphonSmpp.SessionEvents
import SiphonSmpp.SessionTable
import SiphonSmpp.Isolation
import SiphonSmpp.AdmissionCurve
import SiphonSmpp.Listener
import SiphonSmpp.Answer
import SiphonSmpp.ReplyTlvs
import SiphonSmpp.Authorisation
import SiphonSmpp.AwaitHandler
import SiphonSmpp.BindTimeout
import SiphonSmpp.Outcome
import SiphonSmpp.Response
import SiphonSmpp.Settlement
import SiphonSmpp.Sends
import SiphonSmpp.Payload
import SiphonSmpp.Relay
import SiphonSmpp.SendEffects
import SiphonSmpp.Peers
import SiphonSmpp.Accounting
import SiphonSmpp.Gateway
import SiphonSmpp.GatewayRun
import SiphonSmpp.GatewayHops
import SiphonSmpp.GatewayReceipt
