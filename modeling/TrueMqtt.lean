import TrueMqtt.Lib.AssocMap
import TrueMqtt.Lib.Base128
import TrueMqtt.Lib.BoundedQueue
import TrueMqtt.Lib.CappedDoubling
import TrueMqtt.Lib.CyclicIds
import TrueMqtt.Lib.Decoder
import TrueMqtt.Lib.Handles
import TrueMqtt.Lib.SortedSet
import TrueMqtt.Lib.Run
import TrueMqtt.Lib.Within
import TrueMqtt.Topic
import TrueMqtt.Subscriptions
import TrueMqtt.Matching
import TrueMqtt.Client
import TrueMqtt.Client.Agreement
import TrueMqtt.Client.Delivery
import TrueMqtt.Client.Registrations
import TrueMqtt.Client.Pruning
import TrueMqtt.Packet
import TrueMqtt.Wire
import TrueMqtt.RecvLoop
import TrueMqtt.Connection
import TrueMqtt.Connection.Moves
import TrueMqtt.Connection.Greeting
import TrueMqtt.RecvLoop.Reader
import TrueMqtt.Send
import TrueMqtt.Send.Connect
import TrueMqtt.Send.Control
import TrueMqtt.KeepAlive
import TrueMqtt.KeepAlive.Advertised
import TrueMqtt.Attempts
import TrueMqtt.Attempts.Settle
import TrueMqtt.System
import TrueMqtt.System.Moves
import TrueMqtt.System.Handshake
import TrueMqtt.System.Refinement
import TrueMqtt.System.Replay
import TrueMqtt.System.Order
import TrueMqtt.System.Losses
import TrueMqtt.System.Teardown
import TrueMqtt.System.Stop
import TrueMqtt.System.Wakeup
import TrueMqtt.System.Destructor
import TrueMqtt.System.Greeting
import TrueMqtt.System.Dispatch
import TrueMqtt.System.Inbound
import TrueMqtt.System.Restore
import TrueMqtt.System.Flush
import TrueMqtt.System.PacketIds
import TrueMqtt.System.StateChanges
import TrueMqtt.System.Silence
import TrueMqtt.System.WriteFailure
import TrueMqtt.System.Valid
import TrueMqtt.System.Broker
import TrueMqtt.System.Mirror
import TrueMqtt.System.Drain
import TrueMqtt.System.PublishQueue
import TrueMqtt.System.Faults
import TrueMqtt.System.SendQueue
import TrueMqtt.System.Backoff
import TrueMqtt.Network
import TrueMqtt.Network.Custody
import TrueMqtt.Network.Sockets
import TrueMqtt.Network.Resolve
import TrueMqtt.Network.Recovery
