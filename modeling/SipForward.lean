import SipForward.Core.Run
import SipForward.Core.Maps
import SipForward.Core.WaterFilling
import SipForward.LoadBalancer.Routing
import SipForward.LoadBalancer.Handlers
import SipForward.LoadBalancer.Agreement
import SipForward.LoadBalancer.Toggles
import SipForward.LoadBalancer.Heartbeat
import SipForward.MediaServer.Environment
import SipForward.System.Address
import SipForward.Core.Json
import SipForward.Core.Riff
import SipForward.System.Forwarding
import SipForward.MediaServer.CallManager
import SipForward.Core.Blocks
import SipForward.MediaServer.Playback
import SipForward.MediaServer.AudioMixer
import SipForward.MediaServer.AudioRecorder
import SipForward.MediaServer.Checkpoints
import SipForward.MediaServer.Registry
import SipForward.MediaServer.Framing
import SipForward.MediaServer.Responsibility
import SipForward.MediaServer.Teardown
import SipForward.Core.Quoting
import SipForward.Core.Sql
import SipForward.Core.SqlText
import SipForward.MediaServer.Accounts
import SipForward.MediaServer.Discard
import SipForward.Core.Monitor
import SipForward.Core.Pool
import SipForward.MediaServer.Endpoints
import SipForward.MediaServer.Shutdown
import SipForward.MediaServer.SimulatedCall
import SipForward.LoadBalancer.Selection
import SipForward.LoadBalancer.InitiateCall
import SipForward.MediaServer.MixedTrack
import SipForward.MediaServer.MediaPort
import SipForward.MediaServer.WavFile
import SipForward.MediaServer.Feeders
import SipForward.MediaServer.AgentTransfer
import SipForward.Core.Failing
import SipForward.MediaServer.MessageHandler
import SipForward.MediaServer.Transfers
import SipForward.MediaServer.ReconnectBudget
import SipForward.MediaServer.CallMedia
import SipForward.Core.Search
import SipForward.MediaServer.CallReport
import SipForward.MediaServer.WebhookUrl
import SipForward.Core.JsonText
import SipForward.Core.JsonAssembly
import SipForward.Core.JsonPrint
import SipForward.Core.GoJson
import SipForward.MediaServer.WebhookBody
import SipForward.MediaServer.AmiManager
import SipForward.MediaServer.CallRequests
import SipForward.MediaServer.IncomingCall
import SipForward.Core.Dialplan
import SipForward.System.Extensions
import SipForward.System.Records
import SipForward.System.Registration
import SipForward.System.Inbound
import SipForward.Core.SignedRequest
import SipForward.MediaServer.R2Uploader
import SipForward.Core.Lines
import SipForward.LoadBalancer.AsteriskCli
import SipForward.MediaServer.AnswerWebhook
import SipForward.System.AnsweredDid
import SipForward.System.LoadReports
import SipForward.MediaServer.CallOutcomes
import SipForward.System.CallSystem
import SipForward.System.CallControl
