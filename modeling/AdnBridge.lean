import AdnBridge.Aliases.Agreement
import AdnBridge.Aliases.Fresh
import AdnBridge.Aliases.Installed
import AdnBridge.Aliases.Lock
import AdnBridge.Aliases.Narrowing
import AdnBridge.Bridge.Calls
import AdnBridge.Bridge.Following
import AdnBridge.Bridge.Header
import AdnBridge.Bridge.Heading
import AdnBridge.Bridge.Opening
import AdnBridge.Bridge.Queue
import AdnBridge.Bridge.Release
import AdnBridge.Bridge.Stream
import AdnBridge.BridgeEl.Clearing
import AdnBridge.BridgeEl.Ending
import AdnBridge.BridgeEl.Mirror
import AdnBridge.BridgeEl.Numbering
import AdnBridge.BridgeEl.Streams
import AdnBridge.BridgeEl.Terminator
import AdnBridge.BridgeEl.Unclassified
import AdnBridge.Config
import AdnBridge.Config.Loading
import AdnBridge.Config.RoundTrip
import AdnBridge.DataSync
import AdnBridge.ElProxy.Balance
import AdnBridge.ElProxy.Udp
import AdnBridge.FichCheck
import AdnBridge.Hbp.Sha256
import AdnBridge.Identities
import AdnBridge.Isolation
import AdnBridge.Lib.Compose
import AdnBridge.Markers
import AdnBridge.PeerDmr
import AdnBridge.PeerDmr.Leftovers
import AdnBridge.PeerDmr.Login
import AdnBridge.PeerEl.Lookup
import AdnBridge.PeerEl.RoundTrip
import AdnBridge.PeerEl.Writing
import AdnBridge.PeerYsf
import AdnBridge.PeerYsf.Burst
import AdnBridge.Program.Echolink
import AdnBridge.Superframe
import AdnBridge.TalkerAlias
import AdnBridge.TalkerAlias.Bounds
import AdnBridge.TalkerAlias.SevenBit
import AdnBridge.Talkers
import AdnBridge.VocoderRemote.Answers
import AdnBridge.VoiceDmr
import AdnBridge.VoiceYsf
import AdnBridge.Ysf.Stamping
