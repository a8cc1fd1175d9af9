import Obd2.Protocol.J1939.CanId
import Obd2.Protocol.J1939.Dm.Codes
import Obd2.Protocol.J1939.Dm.FreezeFrames
import Obd2.Protocol.J1939.Delivery
import Obd2.Protocol.J1939.Control
import Obd2.Protocol.DoIp.Diagnostics
import Obd2.Protocol.DoIp.Payloads
import Obd2.Protocol.Uds.Identifiers
import Obd2.Protocol.Pid.Suffix
import Obd2.Protocol.Hex.Grammar
import Obd2.Transport.IsoTp.Bounded
import Obd2.Transport.IsoTp.Pending
import Obd2.Transport.IsoTp.SingleFrame
import Obd2.Transport.Logging.Replay
import Obd2.Adapter.ElmCodec.Headers
import Obd2.Adapter.ElmCodec.Chatter
import Obd2.Adapter.Elm327.Echo
import Obd2.Adapter.Elm327.HeaderCache
import Obd2.Adapter.Elm327.NegativeResponses
import Obd2.Adapter.Elm327.Recovery
import Obd2.Adapter.Stn
import Obd2.Vehicle.Registry.Loading
import Obd2.Session.Acknowledgement
import Obd2.Session.ActuatorGate
import Obd2.Session.SingleFlight
import Obd2.Session.TroubleCodes
import Obd2.Session.Vin
import Obd2.Session.SupportedPids
import Obd2.Session.BusRouting
import Obd2.Session.Initialization
import Obd2.Session.SecuritySeed
import Obd2.Session.ProtocolSearch
import Obd2.Session.Unlocking
import Obd2.Session.Connection
import Obd2.Session.Readings
import Obd2.Session.Threshold.Levels
import Obd2.Session.Enhanced.Bitmask
import Obd2.Session.Enhanced.Spelling
import Obd2.Session.VisibleEcus
import Obd2.Session.AllDtcs
import Obd2.Session.Poller.Override
import Obd2.Adapter.Stn.Device
import Obd2.Adapter.NativeCan.Bus
import Obd2.Protocol.Uds.Reports
import Obd2.Session.RawCapture.Confined
import Obd2.Session.OnBus
