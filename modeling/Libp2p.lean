import Libp2p.Kad.Protocol
import Libp2p.Kad.Exchange
import Libp2p.Kad.SelectAll
import Libp2p.Kad.Handler
import Libp2p.Kad.Run
import Libp2p.Kad.Counters
import Libp2p.Kad.Status
import Libp2p.Kad.Cap
import Libp2p.Kad.KeepAlive
import Libp2p.Kad.Wakeups
import Libp2p.Kad.Poison
import Libp2p.Kad.Answer
import Libp2p.Kad.Pattern
import Libp2p.Kad.Queries
import Libp2p.Kad.Stamps
import Libp2p.Kad.Dispatch
import Libp2p.Kad.Substreams
import Libp2p.Webrtc.Noise
import Libp2p.RequestResponse.Cbor
