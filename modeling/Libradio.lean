import Libradio.Client.Addressing
import Libradio.Client.Bounds
import Libradio.Client.Delivery
import Libradio.Client.Eeprom
import Libradio.Client.Gating
import Libradio.Client.Isolation
import Libradio.Client.KeepAlive
import Libradio.Client.Lifecycle
import Libradio.Client.LowBattery
import Libradio.Client.NodeId
import Libradio.Client.Population
import Libradio.Client.PowerTable
import Libradio.Client.Sleep
import Libradio.Client.SpiBoard
import Libradio.Client.Stranded
import Libradio.Client.Tuning
import Libradio.Clock.Coherence
import Libradio.Clock.Conservation
import Libradio.Clock.Range
import Libradio.Clock.Rate
import Libradio.Clock.Seconds
import Libradio.Clock.Slots
import Libradio.Control.Accepted
import Libradio.Control.Acknowledged
import Libradio.Control.Activation
import Libradio.Control.Answers
import Libradio.Control.Assembly
import Libradio.Control.ChannelRelease
import Libradio.Control.Payload
import Libradio.Control.Permission
import Libradio.Control.SetChannel
import Libradio.Control.Solicited
import Libradio.Control.Starvation
import Libradio.Lib.ErrorDetection
import Libradio.Lib.ReceiveStream
import Libradio.Lib.TransmitFifo
import Libradio.Lrmon.Polling
import Libradio.Lrmon.ResponseChannel
import Libradio.Lrmon.RoundTrip
import Libradio.Lrmon.Serial
import Libradio.Lrmon.Status
import Libradio.Lrmon.Supervision
import Libradio.Lrmon.Timer
import Libradio.Lrmon.TimerExpiry
import Libradio.Lrmon.WallClock
import Libradio.Lrmon.Wedge
import Libradio.Monitor.Traffic
import Libradio.Network.Authentic
import Libradio.Network.Exchange
import Libradio.Network.Idle
import Libradio.Network.Published
import Libradio.Startup.Agreement
