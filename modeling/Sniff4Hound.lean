import Sniff4Hound.Runtime.PoolContract
import Sniff4Hound.Runtime.JobRows
import Sniff4Hound.Runtime.IpcAccess
import Sniff4Hound.Runtime.IpcEvents
import Sniff4Hound.Detection.MonitorContract
import Sniff4Hound.Detection.AnomalyContract
import Sniff4Hound.Detection.MonitorRefresh
import Sniff4Hound.Pipeline.PacketCache
import Sniff4Hound.History.Restart
import Sniff4Hound.Detection.WhitelistContract
import Sniff4Hound.Store.BlacklistRace
import Sniff4Hound.Pipeline.Forget
import Sniff4Hound.Store.InlineWrite
import Sniff4Hound.Store.FileCatalog
import Sniff4Hound.Store.LogSink
import Sniff4Hound.Runtime.TaskAccounting
import Sniff4Hound.Auth.TokenLifetime
import Sniff4Hound.Capture.SegmentPlaces
import Sniff4Hound.Limits.GuardContract
import Sniff4Hound.Mobile.PairingContract
import Sniff4Hound.Auth.WsTickets
import Sniff4Hound.Detection.CandidateMemo
import Sniff4Hound.Store.BuiltinSeed
import Sniff4Hound.Capture.AddressRegistry
import Sniff4Hound.Capture.ServiceEndpoint
import Sniff4Hound.Realtime.SessionContract
import Sniff4Hound.Realtime.ChannelContract
import Sniff4Hound.Realtime.BridgeContract
import Sniff4Hound.Realtime.PendingEvents
import Sniff4Hound.Realtime.ChatLog
import Sniff4Hound.Realtime.StreamLifetime
import Sniff4Hound.Realtime.DuplexChannel
import Sniff4Hound.Honeypot.WriterContract
import Sniff4Hound.Honeypot.ListenerContract
import Sniff4Hound.Honeypot.ReplyRate
import Sniff4Hound.Honeypot.DnsReply
import Sniff4Hound.Auth.TokenVerdicts
import Sniff4Hound.Auth.LimiterHistory
import Sniff4Hound.Detection.DetectorHistory
import Sniff4Hound.Capture.DnsSections
import Sniff4Hound.Detection.Exclusions
import Sniff4Hound.Detection.MonitorStats
import Sniff4Hound.Store.RetentionCap
import Sniff4Hound.Pipeline.BatchCounts
import Sniff4Hound.Runtime.IpcArguments
import Sniff4Hound.Text.ChunkedContract
import Sniff4Hound.Text.NormalText
import Sniff4Hound.Text.DomainNames
import Sniff4Hound.Capture.ExtensionChain
import Sniff4Hound.Pipeline.AlertThrottle
import Sniff4Hound.Mobile.StreamContract
import Sniff4Hound.Mobile.LogTailContract
import Sniff4Hound.Runtime.SettingsApi
import Sniff4Hound.Store.AlertFeedContract
import Sniff4Hound.Store.AlertExport
import Sniff4Hound.Store.CsvExport
import Sniff4Hound.Text.AccessLog
import Sniff4Hound.Realtime.DataFeed
