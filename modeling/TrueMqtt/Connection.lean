import TrueMqtt.Client
import TrueMqtt.Wire

/-!
# TrueMqtt.Connection

A `Connection` with its two threads (`Connection.cpp`, and `recv`, `recvLoop`,
`send`, `sendPacket` of `Packet.cpp`).

A program counter for each thread says where it stands, and every step makes one
access to what the threads share: `m_state`, `m_socket`, the send queue.  So
between the test of `m_state` in `resolve` and the store that follows it, the
other threads may run.  `m_send_queue_mutex` is held over more than one step only
in `popSendQueueBlocking`: between the predicate of its wait and the block
(`WritePc.blocking`), and between the wait and the pop (`WritePc.woken`).  `send`
notifies in the step of its push: a later notification would only be one more
spurious wakeup.

What the operating system and the broker do is an argument of the step: whether
a lookup succeeds, which connection attempt wins (`TrueMqtt.Network` has the
attempts), when the keep-alive timer or the receive timeout of `recv` fires
(`TrueMqtt.KeepAlive` has the clock), how much of a packet a `::send` takes, which
packet arrives.

A read thread that needs `m_state_mutex` stops at `lockState` or `lockMessage`;
`TrueMqtt.System` grants the lock.
-/

namespace TrueMqtt

/-- `Connection::State`. -/
inductive ConnectionState where
  | resolving
  | connecting
  | authenticating
  | connected
  | backoff
  | socketError
  | stop
deriving DecidableEq, Repr

/-- The states in which the write thread sends. -/
def ConnectionState.online : ConnectionState → Bool
  | authenticating | connected => true
  | _ => false

/-- A packet of the send queue. -/
inductive Outgoing where
  | connect (info : ConnectInfo)
  | pingRequest
  | publish (m : Message)
  | subscribe (packetId : UInt16) (topic : Str)
  | unsubscribe (packetId : UInt16) (topic : Str)
deriving DecidableEq, Repr

namespace Outgoing

def draft : Outgoing → Draft
  | connect info => .connect info
  | pingRequest => .pingRequest
  | publish m => .publish m.topic m.message m.retain
  | subscribe packetId topic => .subscribe packetId topic
  | unsubscribe packetId topic => .unsubscribe packetId topic

/-- What `sendPacket` writes of the packet `send` has queued. -/
def encode (o : Outgoing) : Str := o.draft.packet.writeHeader.unsent

def isConnect : Outgoing → Bool
  | connect _ => true
  | _ => false

def message? : Outgoing → Option Message
  | publish m => some m
  | _ => none

end Outgoing

/-- Where the read thread stands in `runRead`. -/
inductive ReadPc where
  /-- the switch on `m_state` -/
  | loop
  /-- `resolve`: `m_socket = INVALID_SOCKET` -/
  | resolve
  | getaddrinfo
  /-- `resolve`: the error callback after a failed lookup -/
  | lookupCallback
  /-- `resolve`: the test for STOP, and the store of CONNECTING -/
  | resolveCheck
  | connectingStore
  /-- `m_state = BACKOFF` after a failed `resolve` or `connectToAny` -/
  | backoffStore
  | connectToAny
  /-- `connectToAny` after its select -/
  | connectCheck
  /-- `m_socket = socket_connected` -/
  | socketStore
  /-- the test for STOP before AUTHENTICATING, and the store -/
  | authCheck
  | authStore
  | sendConnect
  /-- BACKOFF: the sleep and the test for STOP, and the store of RESOLVING -/
  | sleep
  | resolvingStore
  /-- `recv`: the select and the test of `m_state` -/
  | recv
  /-- `recv`: the keep-alive timer -/
  | recvTimer
  | sendPingRequest
  /-- `recv`: the receive timeout, then `::recv`; a complete packet is dispatched -/
  | recvData
  /-- the error callback for a SUBACK that refuses -/
  | subscribeCallback
  /-- `m_state = CONNECTED` -/
  | connackStore
  /-- waiting for `m_state_mutex` in `connectionStateChange` -/
  | lockState (connected : Bool)
  /-- inside of `connectionStateChange(true)` -/
  | stateChange
  /-- waiting for `m_state_mutex` in `messageReceived` -/
  | lockMessage (topic message : Str)
  /-- `recvLoop` returned false: the test for STOP -/
  | recvFailed
  /-- `socketError` -/
  | errorStore
  | errorTest
  | errorClose
  | errorInvalidate
  /-- SOCKET_ERROR: `m_state = BACKOFF` -/
  | lostStore
  | clearQueue
  /-- STOP: close the socket -/
  | stopTest
  | stopClose
  | stopInvalidate
  | done
deriving DecidableEq, Repr

/-- Where the write thread stands in `runWrite`. -/
inductive WritePc where
  /-- the switch on `m_state` -/
  | loop
  /-- `popSendQueueBlocking`: the first look at the queue -/
  | pop
  /-- the predicate of the wait was false, `m_send_queue_mutex` is still held -/
  | blocking
  /-- blocked in `m_send_queue_cv.wait` -/
  | blocked
  /-- about to evaluate the predicate of the wait again -/
  | wait
  /-- past the wait, with `m_send_queue_mutex` held -/
  | woken
  /-- `sendPacket`: the test of `m_state` -/
  | holding (o : Outgoing)
  /-- `sendPacket`: the loop, with `m_write_offset` counted from the header -/
  | writing (o : Outgoing) (offset : Nat)
  /-- `m_impl.m_connection->socketError()` -/
  | errorPtr
  | errorStore
  | errorTest
  | errorClose
  | errorInvalidate
  | done
deriving DecidableEq, Repr

/-- The packet the write thread has taken off the queue. -/
def WritePc.packet? : WritePc → Option Outgoing
  | holding o | writing o _ => some o
  | _ => none

/-- The configuration of the client a `Connection` reads. -/
structure Config where
  connectInfo : ConnectInfo := { clientId := [] }
  connectionBackoff : Nat := 1000
  connectionBackoffMax : Nat := 30000
deriving DecidableEq, Repr

/-- How a connection attempt goes on: `connectToAny` returns true without a
connection, returns false, or has a connected socket. -/
inductive Attempt where
  | pending
  | exhausted
  | established
deriving DecidableEq, Repr

/-- What `recv` comes back with: a timeout, error or closed socket; nothing, or a
part of a packet; the last byte of a packet. -/
inductive Received where
  | failed
  | more
  | packet (p : Packet)
deriving DecidableEq, Repr

/-- What the environment decides in a step of the read thread. -/
inductive ReadInput where
  | next
  | lookup (found : Bool)
  | attempt (a : Attempt)
  | timer (ping : Bool)
  | receive (r : Received)
deriving DecidableEq, Repr

/-- What the environment decides in a step of the write thread. -/
inductive WriteInput where
  | next
  /-- `::send` took so many bytes -/
  | sent (count : Nat)
  /-- `::send` failed -/
  | failed
deriving DecidableEq, Repr

/-- Why a step is not made: the thread cannot run, or the program ends. -/
inductive Halt where
  | disabled
  | fault (f : Fault)
deriving DecidableEq, Repr

/-- `Connection`, with its threads and, from `processed` on, what happened so far. -/
structure Connection where
  state : ConnectionState := .resolving
  backoff : Nat
  socket : Option Nat := none
  sendQueue : List Outgoing := []
  readPc : ReadPc := .loop
  writePc : WritePc := .loop
  /-- an accepting CONNACK has been processed -/
  processed : Bool := false
  /-- the packets queued behind others since the queue was last cleared -/
  enqueued : List Outgoing := []
  /-- the packets completely written -/
  completed : List Outgoing := []
  /-- the number of sockets established, which are numbered in order -/
  sockets : Nat := 0
  /-- the bytes written to each socket -/
  wires : Nat → Str := fun _ => []
  /-- the sockets closed -/
  closed : List Nat := []
  /-- the socket on which the write thread began its packet -/
  begun : Option Nat := none

namespace Connection

/-- The constructor. -/
def new (cfg : Config) : Connection := { backoff := cfg.connectionBackoff }

/-! ## the send queue -/

/-- Whether a thread other than the write thread can lock `m_send_queue_mutex`. -/
def queueFree (c : Connection) : Bool := c.writePc ≠ .blocking ∧ c.writePc ≠ .woken

/-- `notify_one` on `m_send_queue_cv`. -/
def notify (c : Connection) : Connection :=
  if c.writePc = .blocked then { c with writePc := .wait } else c

/-- The end of `send`, without priority. -/
def push (o : Outgoing) (c : Connection) : Connection :=
  notify { c with sendQueue := c.sendQueue ++ [o], enqueued := c.enqueued ++ [o] }

/-- The end of `send`, with priority. -/
def pushFront (o : Outgoing) (c : Connection) : Connection :=
  notify { c with sendQueue := o :: c.sendQueue }

/-! ## the read thread -/

/-- The switch of `runRead`. -/
def dispatch : ConnectionState → ReadPc
  | .resolving => .resolve
  | .connecting => .connectToAny
  | .backoff => .sleep
  | .authenticating | .connected => .recv
  | .socketError => .lostStore
  | .stop => .stopTest

/-- Where `recvLoop` goes on with a complete packet. -/
def received (p : Packet) : ReadPc :=
  match p.incoming with
  | none => .recvFailed
  | some .connack => .connackStore
  | some (.publish topic message) => .lockMessage topic message
  | some (.suback _ returnCode) => if returnCode > 2 then .subscribeCallback else .loop
  | some _ => .loop

/-- Whether the current socket can be read from and written to. -/
def usable (c : Connection) : Bool :=
  match c.socket with
  | none => false
  | some k => k ∉ c.closed

/-- A step of the read thread on its own. -/
def readStep (cfg : Config) (c : Connection) : ReadInput → Except Halt Connection
  | .next =>
      match c.readPc with
      | .loop => .ok { c with readPc := dispatch c.state }
      | .resolve => .ok { c with socket := none, readPc := .getaddrinfo }
      | .lookupCallback => .ok { c with readPc := .backoffStore }
      | .resolveCheck =>
          .ok { c with readPc := if c.state = .stop then .loop else .connectingStore }
      | .connectingStore => .ok { c with state := .connecting, readPc := .loop }
      | .backoffStore => .ok { c with state := .backoff, readPc := .loop }
      | .connectToAny => .ok { c with readPc := .connectCheck }
      | .socketStore =>
          .ok { c with socket := some c.sockets, sockets := c.sockets + 1, readPc := .authCheck }
      | .authCheck =>
          if c.state = .stop then
            .ok { c with backoff := cfg.connectionBackoff, readPc := .loop }
          else .ok { c with readPc := .authStore }
      | .authStore => .ok { c with state := .authenticating, readPc := .sendConnect }
      | .sendConnect =>
          if c.queueFree then
            .ok { c.pushFront (.connect cfg.connectInfo) with
              backoff := cfg.connectionBackoff, readPc := .loop }
          else .error .disabled
      | .sleep =>
          if c.state = .stop then .ok { c with readPc := .loop }
          else
            .ok { c with
              backoff := min (c.backoff * 2) cfg.connectionBackoffMax, readPc := .resolvingStore }
      | .resolvingStore => .ok { c with state := .resolving, readPc := .loop }
      -- `FD_SET` does not look at `m_socket`; what it is on INVALID_SOCKET is in
      -- `TrueMqtt.System.Faults`
      | .recv =>
          .ok { c with
            readPc := if c.state = .socketError ∨ c.state = .stop then .recvFailed
              else .recvTimer }
      | .sendPingRequest =>
          if c.queueFree then .ok { c.pushFront .pingRequest with readPc := .recvData }
          else .error .disabled
      | .subscribeCallback => .ok { c with readPc := .loop }
      | .connackStore => .ok { c with state := .connected, readPc := .lockState true }
      | .recvFailed =>
          .ok { c with readPc := if c.state = .stop then .loop else .errorStore }
      | .errorStore => .ok { c with state := .socketError, readPc := .errorTest }
      | .errorTest => .ok { c with readPc := if c.socket = none then .loop else .errorClose }
      | .errorClose =>
          .ok { c with closed := c.socket.toList ++ c.closed, readPc := .errorInvalidate }
      | .errorInvalidate => .ok { c with socket := none, readPc := .loop }
      | .lostStore => .ok { c with state := .backoff, readPc := .lockState false }
      | .clearQueue =>
          if c.queueFree then .ok { c with sendQueue := [], enqueued := [], readPc := .loop }
          else .error .disabled
      | .stopTest => .ok { c with readPc := if c.socket = none then .done else .stopClose }
      | .stopClose =>
          .ok { c with closed := c.socket.toList ++ c.closed, readPc := .stopInvalidate }
      | .stopInvalidate => .ok { c with socket := none, readPc := .done }
      | _ => .error .disabled
  | .lookup found =>
      if c.readPc = .getaddrinfo then
        .ok { c with readPc := if found then .resolveCheck else .lookupCallback }
      else .error .disabled
  | .attempt a =>
      match c.readPc, a with
      -- no attempt is pending: `tryNextAddress`
      | .connectToAny, .pending => .ok { c with readPc := .loop }
      | .connectToAny, .exhausted => .ok { c with readPc := .backoffStore }
      | .connectCheck, a =>
          if c.state = .stop then .ok { c with readPc := .loop }
          else
            match a with
            | .pending => .ok { c with readPc := .loop }
            | .exhausted => .ok { c with readPc := .backoffStore }
            | .established => .ok { c with readPc := .socketStore }
      | _, _ => .error .disabled
  | .timer ping =>
      if c.readPc = .recvTimer then
        .ok { c with readPc := if ping then .sendPingRequest else .recvData }
      else .error .disabled
  | .receive r =>
      if c.readPc = .recvData then
        match r with
        | .failed => .ok { c with readPc := .recvFailed }
        | .more => .ok { c with readPc := .recv }
        | .packet p =>
            if c.usable then .ok { c with readPc := received p } else .error .disabled
      else .error .disabled

/-! ## the write thread -/

/-- The bytes `::send` moved. -/
def writeTo (k : Nat) (bytes : Str) (c : Connection) : Connection :=
  { c with wires := fun j => if j = k then c.wires j ++ bytes else c.wires j }

/-- A `::send` from this offset of the packet on. -/
def begin (offset : Nat) (c : Connection) : Connection :=
  { c with begun := if offset = 0 then c.socket else c.begun }

/-- Take the first packet off the queue. -/
def pop (c : Connection) : Except Halt Connection :=
  match c.sendQueue with
  | [] => .error (.fault .popFromEmpty)
  | o :: q => .ok { c with sendQueue := q, writePc := .holding o }

/-- A step of the write thread; `pointer` is whether `m_connection` is set. -/
def writeStep (pointer : Bool) (c : Connection) : WriteInput → Except Halt Connection
  | .next =>
      match c.writePc with
      | .loop =>
          if c.state.online then .ok { c with writePc := .pop }
          else if c.state = .stop then .ok { c with writePc := .done }
          else .ok c
      | .pop =>
          if c.sendQueue = [] then
            .ok { c with writePc := if c.state = .stop then .woken else .blocking }
          else c.pop
      | .blocking => .ok { c with writePc := .blocked }
      -- a spurious wakeup
      | .blocked => .ok { c with writePc := .wait }
      | .wait =>
          .ok { c with
            writePc := if c.sendQueue ≠ [] ∨ c.state = .stop then .woken else .blocking }
      | .woken => if c.state = .stop then .ok { c with writePc := .loop } else c.pop
      | .holding o =>
          .ok { c with writePc := if c.state.online then .writing o 0 else .loop }
      | .errorPtr =>
          if pointer then .ok { c with writePc := .errorStore }
          else .error (.fault .nullConnection)
      | .errorStore => .ok { c with state := .socketError, writePc := .errorTest }
      | .errorTest => .ok { c with writePc := if c.socket = none then .loop else .errorClose }
      | .errorClose =>
          .ok { c with closed := c.socket.toList ++ c.closed, writePc := .errorInvalidate }
      | .errorInvalidate => .ok { c with socket := none, writePc := .loop }
      | _ => .error .disabled
  | .sent count =>
      match c.writePc, c.socket with
      | .writing o offset, some k =>
          if c.usable ∧ 1 ≤ count ∧ offset + count ≤ o.encode.length then
            let c' := (c.begin offset).writeTo k ((o.encode.drop offset).take count)
            if offset + count = o.encode.length then
              .ok { c' with completed := c.completed ++ [o], writePc := .loop }
            else .ok { c' with writePc := .writing o (offset + count) }
          else .error .disabled
      | _, _ => .error .disabled
  | .failed =>
      match c.writePc with
      | .writing _ offset => .ok { c.begin offset with writePc := .errorPtr }
      | _ => .error .disabled

end Connection

end TrueMqtt
