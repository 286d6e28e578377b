import PqcBridge.Cloud.Accounting
import PqcBridge.Cloud.Health
import PqcBridge.Cloud.KeyFile
import PqcBridge.Cloud.Readings
import PqcBridge.Cloud.Sessions
import PqcBridge.Cloud.StoreOrder
import PqcBridge.Common.Config
import PqcBridge.Common.Contexts
import PqcBridge.Common.Health
import PqcBridge.Common.Observations
import PqcBridge.Common.PeerInput
import PqcBridge.Common.ReplayHistory
import PqcBridge.Device.Restart
import PqcBridge.Device.TornWrites
import PqcBridge.Gateway.Accounting
import PqcBridge.Gateway.Admissions
import PqcBridge.Gateway.Calls
import PqcBridge.Gateway.Fallback
import PqcBridge.Gateway.Health
import PqcBridge.Gateway.Reconnect
import PqcBridge.Gateway.Secrecy
import PqcBridge.Gateway.Wire
import PqcBridge.Gateway.WireFrames
import PqcBridge.Gateway.WireInvariant
import PqcBridge.Gateway.WireRecovery
import PqcBridge.Gateway.WireSessions
import PqcBridge.Gateway.WireStates
import PqcBridge.Handshake.Agreement
import PqcBridge.Handshake.Validators
import PqcBridge.Lib.Frames
import PqcBridge.Lib.Moments
import PqcBridge.Lib.PrefixCode
import PqcBridge.Scripts.DockerBootstrap
import PqcBridge.System.Authorship
import PqcBridge.System.Delivery
import PqcBridge.System.DeviceOrigin
import PqcBridge.System.ForwardingOrder
import PqcBridge.System.Isolation
import PqcBridge.System.Provisioning
import PqcBridge.System.Service
import PqcBridge.System.SessionOrigin
import PqcBridge.System.SizeLimit
import PqcBridge.System.Sockets
import PqcBridge.System.TrustAnchor
