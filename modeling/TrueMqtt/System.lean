import TrueMqtt.Connection

/-!
# TrueMqtt.System

The client with its threads: user threads that call the API, and the read and
the write thread of the current `Connection`.

`m_state_mutex` serialises the API calls and the read thread's calls of
`connectionStateChange` and `messageReceived`.  `holder` says where the thread
that holds it stands; a call that is over as soon as it has looked at the
client's data is a single step.  The write thread takes no part in it, and the
send queue is a different lock, so the sends of a call, the store of STOP and
the joins of `~Connection` are steps of their own.

`m_connection` is null while a `Connection` is being destroyed, since
`unique_ptr::reset` clears the pointer first, and still null while the next one
is being constructed, although its threads run already; so the live object and
the pointer are separate.
-/

namespace TrueMqtt

/-- What the holder of the mutex does once `Connection::send` returns. -/
inductive After where
  /-- `publish` returns what `send` returned -/
  | publish (m : Message)
  /-- `subscribe` or `unsubscribe`: on a failure, disconnect and connect -/
  | request
  /-- `connectionStateChange`: these topics are still to be restored -/
  | resubscribe (topics : List Str)
  /-- `connectionStateChange`: these messages are still to be flushed -/
  | flush (messages : List Message)
deriving DecidableEq, Repr

/-- Where the holder of `m_state_mutex` stands. -/
inductive Holder where
  | free
  /-- `send`: the test of the queue's size -/
  | sendTest (o : Outgoing) (after : After)
  /-- `send`: the push -/
  | sendPush (o : Outgoing) (after : After)
  /-- `~Connection`: `m_state = STOP`; `again` is whether `connect` follows -/
  | stop (again : Bool)
  | notify (again : Bool)
  | joinRead (again : Bool)
  | joinWrite (again : Bool)
  /-- `Impl::connect`: the `Connection` is made, `m_connection` not yet set -/
  | assign
deriving DecidableEq, Repr

/-- The client, its connection and, from `stateChanges` on, what happened so far. -/
structure System (C : Type) where
  impl : Impl C := {}
  config : Config := {}
  connection : Option Connection := none
  /-- whether `m_connection` is set -/
  pointer : Bool := false
  holder : Holder := .free
  stateChanges : List State := []
  /-- the callbacks invoked, with their arguments -/
  delivered : List (C × Str × Str) := []
  /-- the messages of the `publish` calls that returned true -/
  accepted : List Message := []
  /-- the packets completely written by connections that are gone -/
  archive : List Outgoing := []

/-- An API call. -/
inductive Call (C : Type) where
  | connect
  | disconnect
  | publish (m : Message)
  | subscribe (topic : Str) (callback : C)
  | unsubscribe (topic : Str)

/-- One step of the system. -/
inductive Action (C : Type) where
  | setPublishQueue (type : PublishQueueType) (size : Nat)
  | setSendQueue (size : Nat)
  | setLastWill (topic message : Str) (retain : Bool)
  /-- a user thread enters an API call -/
  | call (c : Call C)
  /-- the holder of the mutex goes on -/
  | hold
  /-- the read thread is granted the mutex -/
  | grant
  | read (i : ReadInput)
  | write (i : WriteInput)

namespace System

variable {C : Type}

/-- `m_state = st; m_state_change_callback(m_state)`. -/
def setState (st : State) (s : System C) : System C :=
  { s with impl := { s.impl with state := st }, stateChanges := s.stateChanges ++ [st] }

/-! ## sends -/

/-- `sendPublish` up to `send`. -/
def sendPublish (m : Message) (after : After) (s : System C) : System C :=
  { s with holder := .sendTest (.publish m) after }

/-- `sendSubscribe` up to `send`. -/
def sendSubscribe (topic : Str) (after : After) (s : System C) : System C :=
  let (packetId, impl) := s.impl.takePacketId
  { s with impl := impl, holder := .sendTest (.subscribe packetId topic) after }

/-- `sendUnsubscribe` up to `send`. -/
def sendUnsubscribe (topic : Str) (after : After) (s : System C) : System C :=
  let (packetId, impl) := s.impl.takePacketId
  { s with impl := impl, holder := .sendTest (.unsubscribe packetId topic) after }

/-! ## `connectionStateChange` -/

/-- The end of `connectionStateChange(true)`. -/
def finish (c : Connection) (s : System C) : System C :=
  { s with
    impl := { s.impl with publishQueue := [] }
    connection := some { c with readPc := .loop, processed := true }
    holder := .free }

/-- The flush loop, from these messages on. -/
def flush (c : Connection) (messages : List Message) (s : System C) : System C :=
  match messages with
  | [] => s.finish c
  | m :: ms => { s with connection := some c }.sendPublish m (.flush ms)

/-- The resubscribe loop, from these topics on, and the flush loop after it. -/
def resubscribe (c : Connection) (topics : List Str) (s : System C) : System C :=
  match topics with
  | [] => s.flush c s.impl.publishQueue
  | t :: ts => { s with connection := some c }.sendSubscribe t (.resubscribe ts)

/-! ## `Impl::connect` and `Impl::disconnect` -/

/-- `Impl::connect`: construct the connection. -/
def connect (s : System C) : System C :=
  { s with connection := some (.new s.config), holder := .assign }

/-- `Impl::disconnect`: clear the data and reset the pointer, which starts
`~Connection`; there is nothing to destroy when it is null. -/
def disconnect (again : Bool) (s : System C) : System C :=
  let s := { s with impl := s.impl.disconnect, pointer := false }
  match s.connection with
  | some _ => { s with holder := .stop again }
  | none => if again then s.connect else { s with holder := .free }

/-- What the holder does with the result of `send`. -/
def after (c : Connection) (s : System C) (sent : Bool) : After → Except Halt (System C)
  | .publish m =>
      .ok { s with
        connection := some c
        accepted := if sent then s.accepted ++ [m] else s.accepted
        holder := .free }
  | .request =>
      let s := { s with connection := some c }
      .ok (if sent then { s with holder := .free } else s.disconnect true)
  | .resubscribe topics =>
      -- a failed send destroys the connection on its own read thread
      if sent then .ok (s.resubscribe c topics) else .error (.fault .selfJoin)
  | .flush messages => .ok (if sent then s.flush c messages else s.finish c)

/-! ## steps -/

/-- A user thread enters an API call. -/
def call (s : System C) : Call C → Except Halt (System C)
  | .connect =>
      if s.impl.state ≠ .disconnected then .ok s else .ok (s.setState .connecting).connect
  | .disconnect =>
      if s.impl.state = .disconnected then .ok s
      else .ok ((s.setState .disconnected).disconnect false)
  | .publish m =>
      match s.impl.state with
      | .disconnected => .ok s
      | .connecting =>
          match s.impl.toPublishQueue m with
          | none => .error (.fault .popFromEmpty)
          | some (i, accepted) =>
              .ok { s with
                impl := i
                accepted := if accepted then s.accepted ++ [m] else s.accepted }
      | .connected => .ok (s.sendPublish m (.publish m))
  | .subscribe topic callback =>
      if s.impl.state = .disconnected then .ok s
      else
        let s := { s with impl := s.impl.addSubscription topic callback }
        .ok (if s.impl.state = .connected then s.sendSubscribe topic .request else s)
  | .unsubscribe topic =>
      if s.impl.state = .disconnected then .ok s
      else if topic ∉ s.impl.subscriptionTopics then .ok s
      else match s.impl.removeSubscription topic with
        | none => .error (.fault .endDereferenced)
        | some i =>
            let s := { s with impl := i }
            .ok (if s.impl.state = .connected then s.sendUnsubscribe topic .request else s)

/-- The holder of the mutex goes on. -/
def hold (s : System C) (c : Connection) : Except Halt (System C) :=
  match s.holder with
  | .free => .error .disabled
  | .sendTest o k =>
      if ¬ s.pointer then .error (.fault .nullConnection)
      else if c.sendQueue.length > s.impl.sendQueueSize then s.after c false k
      else .ok { s with holder := .sendPush o k }
  | .sendPush o k => if c.queueFree then s.after (c.push o) true k else .error .disabled
  | .stop again =>
      .ok { s with connection := some { c with state := .stop }, holder := .notify again }
  | .notify again => .ok { s with connection := some c.notify, holder := .joinRead again }
  | .joinRead again =>
      if c.readPc = .done then .ok { s with holder := .joinWrite again } else .error .disabled
  | .joinWrite again =>
      if c.writePc = .done then
        let s := { s with connection := none, archive := s.archive ++ c.completed, holder := .free }
        .ok (if again then s.connect else s)
      else .error .disabled
  | .assign => .ok { s with pointer := true, holder := .free }

/-- The read thread is granted the mutex it waits for. -/
def grant (s : System C) (c : Connection) : Except Halt (System C) :=
  if s.holder ≠ .free then .error .disabled
  else
    match c.readPc with
    | .lockState true =>
        let s := s.setState .connected
        .ok (s.resubscribe { c with readPc := .stateChange } s.impl.subscriptionTopics.elems)
    | .lockState false =>
        .ok { s.setState .connecting with connection := some { c with readPc := .clearQueue } }
    | .lockMessage topic message =>
        .ok { s with
          delivered := s.delivered ++ s.impl.messageReceived topic message
          connection := some { c with readPc := .loop } }
    | _ => .error .disabled

/-- The setters test `m_state` without the mutex. -/
def setting (s : System C) (f : System C → System C) : Except Halt (System C) :=
  if s.impl.state ≠ .disconnected then .ok s else .ok (f s)

def step (s : System C) : Action C → Except Halt (System C)
  | .setPublishQueue type size =>
      s.setting fun s =>
        { s with impl := { s.impl with publishQueueType := type, publishQueueSize := size } }
  | .setSendQueue size =>
      s.setting fun s => { s with impl := { s.impl with sendQueueSize := size } }
  | .setLastWill topic message retain =>
      s.setting fun s =>
        { s with
          config := { s.config with
            connectInfo := { s.config.connectInfo with
              lastWillTopic := topic, lastWillMessage := message, lastWillRetain := retain } } }
  | .call k => if s.holder = .free then s.call k else .error .disabled
  | .hold => match s.connection with
      | none => .error .disabled
      | some c => s.hold c
  | .grant => match s.connection with
      | none => .error .disabled
      | some c => s.grant c
  | .read i => match s.connection with
      | none => .error .disabled
      | some c => (c.readStep s.config i).map fun c' => { s with connection := some c' }
  | .write i => match s.connection with
      | none => .error .disabled
      | some c => (c.writeStep s.pointer i).map fun c' => { s with connection := some c' }

/-- The transitions of the system. -/
def Steps (s : System C) (a : Action C) (s' : System C) : Prop := s.step a = .ok s'

/-- A client before its first call. -/
def Initial (s : System C) : Prop := ∃ config, s = { config := config }

/-- A state some run leads to. -/
def Reachable (s : System C) : Prop := ∃ s₀ as, Initial s₀ ∧ Run Steps s₀ as s

/-! ## evaluation -/

/-- The state after a step, for evaluation. -/
def next (s : System C) (a : Action C) : Option (System C) := (s.step a).toOption

theorem steps_of_next {s s' : System C} {a : Action C} (h : s.next a = some s') :
    s.Steps a s' := by
  unfold next at h
  unfold Steps
  cases hs : s.step a with
  | error e => simp [hs, Except.toOption] at h
  | ok t =>
      simp only [hs, Except.toOption, Option.some.injEq] at h
      rw [h]

/-- The same for a step that meets a condition. -/
def nextIf (G : System C → Action C → Prop) [∀ s a, Decidable (G s a)] (s : System C)
    (a : Action C) : Option (System C) :=
  if G s a then s.next a else none

theorem guarded_of_nextIf {G : System C → Action C → Prop} [∀ s a, Decidable (G s a)]
    {s s' : System C} {a : Action C} (h : s.nextIf G a = some s') : Guarded Steps G s a s' := by
  unfold nextIf at h
  split at h
  · next hg => exact ⟨hg, steps_of_next h⟩
  · cases h

/-- A run from the initial state, by evaluation of a test on its last state. -/
theorem run_of_exec (as : List (Action C)) (test : System C → Bool)
    (h : (exec next {} as).any test = true) :
    ∃ s, Run Steps ({} : System C) as s ∧ test s = true :=
  Run.of_exec (fun {_ _ _} => steps_of_next) h

theorem guarded_run_of_exec (G : System C → Action C → Prop) [∀ s a, Decidable (G s a)]
    (as : List (Action C)) (test : System C → Bool)
    (h : (exec (nextIf G) {} as).any test = true) :
    ∃ s, Run (Guarded Steps G) ({} : System C) as s ∧ test s = true :=
  Run.of_exec (fun {_ _ _} => guarded_of_nextIf) h

theorem initial_default : Initial ({} : System C) := ⟨{}, rfl⟩

end System

end TrueMqtt
