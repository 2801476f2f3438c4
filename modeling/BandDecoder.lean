import BandDecoder.CStrings
import BandDecoder.Framing
import BandDecoder.Runs
import BandDecoder.Loops
import BandDecoder.SwitchConfig
import BandDecoder.Tcp
import BandDecoder.StateReply
import BandDecoder.Config
import BandDecoder.Relay
import BandDecoder.Switch
import BandDecoder.Cat
import BandDecoder.Web
import BandDecoder.CatFraming
import BandDecoder.CatDispatch
import BandDecoder.FrequencyText
import BandDecoder.BandCache
import BandDecoder.Bounds
import BandDecoder.ConfigLifetime
import BandDecoder.SendCommand
import BandDecoder.RelayState
import BandDecoder.Acknowledgement
import BandDecoder.TcpTask
import BandDecoder.BoardProtocol
import BandDecoder.ReceiveMessage
import BandDecoder.RestartManager
import BandDecoder.UartDriver
import BandDecoder.TruthfulBoard
import BandDecoder.Passes
import BandDecoder.SetRelay
import BandDecoder.DuplicateFilter
import BandDecoder.StatusPage
import BandDecoder.SystemInitializer
import BandDecoder.Endpoint
import BandDecoder.Startup
import BandDecoder.Workers
import BandDecoder.SharedCache
import BandDecoder.ReplyText
import BandDecoder.Segments
import BandDecoder.ConfigImage
import BandDecoder.ConfigUpdate
import BandDecoder.DisplayedAntenna
import BandDecoder.PostedConfig
import BandDecoder.PostedBody
import BandDecoder.Connections
import BandDecoder.Credentials
import BandDecoder.Descriptors
import BandDecoder.ApCommand
import BandDecoder.StoredEndpoint
import BandDecoder.RelayLookup
import BandDecoder.BandMemory
import BandDecoder.ReceiveBuffer
import BandDecoder.VerifyRelay
import BandDecoder.EventLoop
import BandDecoder.WebServer
import BandDecoder.WifiEvents
import BandDecoder.WifiLink
import BandDecoder.AppMain
import BandDecoder.ConfigPage
import BandDecoder.PromptBoard
import BandDecoder.Tuning
import BandDecoder.Durability
import BandDecoder.Reconnects
import BandDecoder.BandOrder
import BandDecoder.PageToBoard
import BandDecoder.Recovery
import BandDecoder.ColdStart
