import Canbuskit.Lib.Runs
import Canbuskit.Lib.Channel
import Canbuskit.Lib.Segmentation
import Canbuskit.Lib.Reassembly
import Canbuskit.Can.Frame
import Canbuskit.Isotp.Types
import Canbuskit.Isotp.Framing
import Canbuskit.Isotp.Codec
import Canbuskit.Isotp.Session
import Canbuskit.Isotp.Transitions
import Canbuskit.Isotp.SessionInvariant
import Canbuskit.Isotp.Receiver
import Canbuskit.Isotp.Sender
import Canbuskit.Isotp.SenderDiscipline
import Canbuskit.Isotp.Link
import Canbuskit.Isotp.PairSafety
import Canbuskit.Isotp.Exchange
import Canbuskit.Isotp.Canonical
import Canbuskit.Isotp.Duplex
import Canbuskit.Isotp.Transfer
import Canbuskit.Driver.Lifecycle
import Canbuskit.Driver.Configuration
import Canbuskit.Driver.Errors
import Canbuskit.Uds.Attribution
import Canbuskit.Uds.Addressing
import Canbuskit.Uds.Conversation
import Canbuskit.Driver.Decoders
import Canbuskit.Driver.Fanout
import Canbuskit.Can.Broadcast
import Canbuskit.Uds.Suppression
import Canbuskit.Uds.Closing
import Canbuskit.Driver.Burst
import Canbuskit.BusLoad.Occupancy
import Canbuskit.BusLoad.HostWindow
import Canbuskit.BusLoad.HardwareClock
import Canbuskit.BusLoad.Echo
import Canbuskit.BusLoad.Relocation
import Canbuskit.BusLoad.LogClock
import Canbuskit.Can.Construction
import Canbuskit.Driver.Encoders
import Canbuskit.Driver.Transmit
import Canbuskit.Driver.BitTiming
import Canbuskit.Isotp.PayloadLimit
import Canbuskit.Driver.Selection
import Canbuskit.Driver.ReadLoop
import Canbuskit.Driver.VectorLibrary
import Canbuskit.Driver.ToomossOwnership
import Canbuskit.BusLoad.Arithmetic
import Canbuskit.Driver.Backend
import Canbuskit.Driver.CanalystSession
import Canbuskit.Driver.PcanSession
import Canbuskit.Driver.TSMasterSession
