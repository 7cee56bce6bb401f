import TrueMqtt.Lib.Run
import TrueMqtt.Subscriptions

/-!
# TrueMqtt.Client

The client behind its mutex (`Client.cpp`, `ClientImpl.h`, and the two
functions `Impl::connect` / `Impl::disconnect` of `Connection.cpp`).

`Impl` holds the data of `TrueMQTT::Client::Impl`; the functions on it are the
parts of the API calls that touch only data guarded by `m_state_mutex`.  They are
shared by two machines.  The one of this module takes each critical section as
one step: a `Client` is an `Impl` together with whether `m_connection` is set,
and an `Event` is an API call or a call of `connectionStateChange` by the
connection's read thread, each with the results its packet sends happen to have.
`TrueMqtt.System` interleaves the same functions with the threads.

Two things end a run.  A failed `find` whose iterator is dereferenced, or a pop
from an empty deque, is undefined behaviour; a `Connection` destroyed by its own
read thread joins that thread with itself, which terminates the program.
-/

namespace TrueMqtt

/-- `Client::State`. -/
inductive State where
  | disconnected
  | connecting
  | connected
deriving DecidableEq, Repr

/-- `Client::PublishQueueType`. -/
inductive PublishQueueType where
  | drop
  | fifo
  | lifo
deriving DecidableEq, Repr

/-- An entry of the publish queue: topic, message and retain flag. -/
structure Message where
  topic : Str
  message : Str
  retain : Bool
deriving DecidableEq, Repr

/-- How a run can end. -/
inductive Fault where
  /-- `map.find(..)->second` on a key that is not there -/
  | endDereferenced
  /-- `pop_front` or `pop_back` on an empty deque -/
  | popFromEmpty
  /-- `~Connection` joins the thread it runs on -/
  | selfJoin
  /-- `m_connection->..` while `m_connection` is null -/
  | nullConnection
  /-- `FD_SET` on `m_socket` while it is INVALID_SOCKET -/
  | invalidSocket
deriving DecidableEq, Repr

/-- The data of `Client::Impl`, with the initial values of its members. -/
structure Impl (C : Type) where
  state : State := .disconnected
  publishQueueType : PublishQueueType := .drop
  publishQueueSize : Nat := 0
  publishQueue : List Message := []
  sendQueueSize : Nat := 1000
  subscriptionTopics : SortedSet Str := ∅
  subscriptions : Subscriptions C := []
  packetId : UInt16 := 0

namespace Impl

variable {C : Type}

/-! ## the data updates of the critical sections -/

/-- `toPublishQueue`, with its return value; `none` when it pops from an empty
deque. -/
def toPublishQueue (m : Message) (i : Impl C) : Option (Impl C × Bool) :=
  if i.state ≠ .connecting then some (i, false)
  else
    let full := i.publishQueue.length ≥ i.publishQueueSize
    match i.publishQueueType with
    | .drop => some (i, false)
    | .fifo =>
        if full then
          match i.publishQueue with
          | [] => none
          | _ :: q => some ({ i with publishQueue := q ++ [m] }, true)
        else some ({ i with publishQueue := i.publishQueue ++ [m] }, true)
    | .lifo =>
        if full then
          match i.publishQueue with
          | [] => none
          | x :: q => some ({ i with publishQueue := (x :: q).dropLast ++ [m] }, true)
        else some ({ i with publishQueue := i.publishQueue ++ [m] }, true)

/-- `subscribe` up to its send: the callback goes into the tree, the topic into
the flat set. -/
def addSubscription (topic : Str) (callback : C) (i : Impl C) : Impl C :=
  { i with
    subscriptions := Subscriptions.insert callback (levels topic) i.subscriptions
    subscriptionTopics := i.subscriptionTopics.insert topic }

/-- `unsubscribe` up to its send, for a topic that passed the membership test;
`none` when a `find` on the way misses. -/
def removeSubscription (topic : Str) (i : Impl C) : Option (Impl C) :=
  (Subscriptions.unsubscribe (levels topic) i.subscriptions).map fun subscriptions =>
    { i with
      subscriptions := subscriptions
      subscriptionTopics := i.subscriptionTopics.erase topic }

/-- The data `Impl::disconnect` clears before it resets the connection. -/
def disconnect (i : Impl C) : Impl C :=
  { i with subscriptions := [], publishQueue := [] }

/-- The packet identifier `sendSubscribe` and `sendUnsubscribe` use, and the
counter they leave. -/
def takePacketId (i : Impl C) : UInt16 × Impl C :=
  let id := if i.packetId = 0 then i.packetId + 1 else i.packetId
  (id, { i with packetId := id + 1 })

/-- `messageReceived`: the callbacks it invokes, with their arguments. -/
def messageReceived (topic message : Str) (i : Impl C) : List (C × Str × Str) :=
  if i.state ≠ .connected then []
  else (Subscriptions.findSubscriptionMatch (levels topic) i.subscriptions).map
    (·, topic, message)

/-- The resubscribe loop of `connectionStateChange`, with the results of its
sends; `none` when one of them fails. -/
def resubscribe : List Str → List Bool → Impl C → Option (Impl C)
  | [], _, i => some i
  | _ :: topics, true :: sent, i => resubscribe topics sent i.takePacketId.2
  | _ :: _, _, _ => none

/-- `toPublishQueue` refuses the message, or appends it to what is left of the
queue after an eviction. -/
theorem toPublishQueue_spec {m : Message} {i i' : Impl C} {accepted : Bool}
    (h : i.toPublishQueue m = some (i', accepted)) :
    (accepted = false ∧ i' = i) ∨
      (accepted = true ∧ ∃ q, q.Sublist i.publishQueue ∧
        i' = { i with publishQueue := q ++ [m] }) := by
  unfold toPublishQueue at h
  split at h
  · cases h
    exact .inl ⟨rfl, rfl⟩
  · simp only at h
    split at h
    · cases h
      exact .inl ⟨rfl, rfl⟩
    · split at h
      · split at h
        · cases h
        · next q hq =>
          cases h
          exact .inr ⟨rfl, q, by rw [hq]; exact List.sublist_cons_self _ _, rfl⟩
      · cases h
        exact .inr ⟨rfl, i.publishQueue, List.Sublist.refl _, rfl⟩
    · split at h
      · split at h
        · cases h
        · next x q hq =>
          cases h
          exact .inr ⟨rfl, _, by rw [hq]; exact List.dropLast_sublist _, rfl⟩
      · cases h
        exact .inr ⟨rfl, i.publishQueue, List.Sublist.refl _, rfl⟩

theorem removeSubscription_spec {topic : Str} {i i' : Impl C}
    (h : i.removeSubscription topic = some i') :
    ∃ subscriptions, i' = { i with
      subscriptions := subscriptions, subscriptionTopics := i.subscriptionTopics.erase topic } := by
  obtain ⟨subscriptions, -, rfl⟩ := Option.map_eq_some_iff.mp h
  exact ⟨subscriptions, rfl⟩

/-- The resubscribe loop only takes packet identifiers. -/
theorem resubscribe_spec {topics : List Str} {sent : List Bool} {i i' : Impl C}
    (h : i.resubscribe topics sent = some i') : ∃ id, i' = { i with packetId := id } := by
  induction topics generalizing sent i with
  | nil =>
      cases h
      exact ⟨_, rfl⟩
  | cons t topics ih =>
      cases sent with
      | nil => contradiction
      | cons b sent =>
          cases b with
          | false => contradiction
          | true =>
              obtain ⟨id, hid⟩ := ih h
              exact ⟨id, hid⟩

end Impl

/-! ## the client, one critical section at a time -/

/-- The client between critical sections. -/
structure Client (C : Type) where
  impl : Impl C := {}
  /-- whether `m_connection` is set -/
  connection : Bool := false
  /-- the arguments `m_state_change_callback` was called with -/
  stateChanges : List State := []

/-- A critical section of `m_state_mutex`, or a setter.  `sent` is what the
packet sends made in it return. -/
inductive Event (C : Type) where
  | setPublishQueue (type : PublishQueueType) (size : Nat)
  | setSendQueue (size : Nat)
  | connect
  | disconnect
  | publish (m : Message) (sent : Bool)
  | subscribe (topic : Str) (callback : C) (sent : Bool)
  | unsubscribe (topic : Str) (sent : Bool)
  | connectionUp (sent : List Bool)
  | connectionDown

namespace Client

variable {C : Type}

/-- `m_state = s; m_state_change_callback(m_state)`. -/
def setState (s : State) (c : Client C) : Client C :=
  { c with impl := { c.impl with state := s }, stateChanges := c.stateChanges ++ [s] }

/-- `Impl::disconnect(); Impl::connect();` on a thread that is not the
connection's own. -/
def reconnect (c : Client C) : Client C :=
  { c with impl := c.impl.disconnect, connection := true }

def connect (c : Client C) : Client C :=
  if c.impl.state ≠ .disconnected then c
  else { c.setState .connecting with connection := true }

def disconnect (c : Client C) : Client C :=
  if c.impl.state = .disconnected then c
  else
    let c' := c.setState .disconnected
    { c' with impl := c'.impl.disconnect, connection := false }

/-- `publish`, with its return value. -/
def publish (m : Message) (sent : Bool) (c : Client C) : Except Fault (Client C × Bool) :=
  match c.impl.state with
  | .disconnected => .ok (c, false)
  | .connecting =>
      match c.impl.toPublishQueue m with
      | none => .error .popFromEmpty
      | some (i, accepted) => .ok ({ c with impl := i }, accepted)
  | .connected => .ok (c, sent)

/-- `sendSubscribe` / `sendUnsubscribe` at the end of a call, and the
close-and-retry path when it fails. -/
def sendOrReconnect (sent : Bool) (c : Client C) : Client C :=
  if c.impl.state = .connected then
    let c' := { c with impl := c.impl.takePacketId.2 }
    if sent then c' else c'.reconnect
  else c

def subscribe (topic : Str) (callback : C) (sent : Bool) (c : Client C) : Client C :=
  if c.impl.state = .disconnected then c
  else sendOrReconnect sent { c with impl := c.impl.addSubscription topic callback }

def unsubscribe (topic : Str) (sent : Bool) (c : Client C) : Except Fault (Client C) :=
  if c.impl.state = .disconnected then .ok c
  else if topic ∉ c.impl.subscriptionTopics then .ok c
  else match c.impl.removeSubscription topic with
    | none => .error .endDereferenced
    | some i => .ok (sendOrReconnect sent { c with impl := i })

/-- `connectionStateChange`, called by the read thread of the connection.  The
flush of the publish queue ends at its first failed send, and the queue is
cleared either way. -/
def connectionStateChange (connected : Bool) (sent : List Bool) (c : Client C) :
    Except Fault (Client C) :=
  if connected then
    let c' := c.setState .connected
    match c'.impl.resubscribe c'.impl.subscriptionTopics.elems sent with
    | none => .error .selfJoin
    | some i => .ok { c' with impl := { i with publishQueue := [] } }
  else .ok (c.setState .connecting)

/-- One event.  Without a connection there is no thread that could report one. -/
def step (c : Client C) : Event C → Except Fault (Client C)
  | .setPublishQueue type size =>
      if c.impl.state ≠ .disconnected then .ok c
      else .ok { c with impl := { c.impl with publishQueueType := type, publishQueueSize := size } }
  | .setSendQueue size =>
      if c.impl.state ≠ .disconnected then .ok c
      else .ok { c with impl := { c.impl with sendQueueSize := size } }
  | .connect => .ok c.connect
  | .disconnect => .ok c.disconnect
  | .publish m sent => (c.publish m sent).map Prod.fst
  | .subscribe topic callback sent => .ok (c.subscribe topic callback sent)
  | .unsubscribe topic sent => c.unsubscribe topic sent
  | .connectionUp sent => if c.connection then c.connectionStateChange true sent else .ok c
  | .connectionDown => if c.connection then c.connectionStateChange false [] else .ok c

/-- The transitions of the client. -/
def Steps (c : Client C) (e : Event C) (c' : Client C) : Prop := c.step e = .ok c'

/-- A state some sequence of events leads to from the initial one. -/
def Reachable (c : Client C) : Prop := ∃ es, Run Steps {} es c

/-! ## what a step can do -/

/-- The events that leave the client as it is. -/
def Ignores (c : Client C) : Event C → Prop
  | .setPublishQueue _ _ | .setSendQueue _ | .connect => c.impl.state ≠ .disconnected
  | .disconnect | .subscribe _ _ _ => c.impl.state = .disconnected
  | .publish _ _ => c.impl.state ≠ .connecting
  | .unsubscribe topic _ => c.impl.state = .disconnected ∨ topic ∉ c.impl.subscriptionTopics
  | .connectionUp _ | .connectionDown => c.connection = false

/-- The other events, with the condition under which they do what they do. -/
inductive Move (c : Client C) : Event C → Client C → Prop
  | ignored {e : Event C} (h : c.Ignores e) : Move c e c
  | setPublishQueue {type : PublishQueueType} {size : Nat} (hst : c.impl.state = .disconnected) :
      Move c (.setPublishQueue type size)
        { c with impl := { c.impl with publishQueueType := type, publishQueueSize := size } }
  | setSendQueue {size : Nat} (hst : c.impl.state = .disconnected) :
      Move c (.setSendQueue size) { c with impl := { c.impl with sendQueueSize := size } }
  | connect (hst : c.impl.state = .disconnected) :
      Move c .connect { c.setState .connecting with connection := true }
  | disconnect (hst : c.impl.state ≠ .disconnected) :
      Move c .disconnect
        { c.setState .disconnected with
          impl := (c.setState .disconnected).impl.disconnect, connection := false }
  | toPublishQueue {m : Message} {sent accepted : Bool} {i : Impl C}
      (hst : c.impl.state = .connecting) (hq : c.impl.toPublishQueue m = some (i, accepted)) :
      Move c (.publish m sent) { c with impl := i }
  | subscribe {topic : Str} {callback : C} {sent : Bool} (hst : c.impl.state ≠ .disconnected) :
      Move c (.subscribe topic callback sent)
        (sendOrReconnect sent { c with impl := c.impl.addSubscription topic callback })
  | unsubscribe {topic : Str} {sent : Bool} {i : Impl C} (hst : c.impl.state ≠ .disconnected)
      (hmem : topic ∈ c.impl.subscriptionTopics) (hi : c.impl.removeSubscription topic = some i) :
      Move c (.unsubscribe topic sent) (sendOrReconnect sent { c with impl := i })
  | connectionUp {sent : List Bool} {i : Impl C} (hc : c.connection = true)
      (hi : (c.setState .connected).impl.resubscribe c.impl.subscriptionTopics.elems sent =
        some i) :
      Move c (.connectionUp sent)
        { c.setState .connected with impl := { i with publishQueue := [] } }
  | connectionDown (hc : c.connection = true) : Move c .connectionDown (c.setState .connecting)

/-- Every step of the client is one of its moves. -/
theorem move_of_step {c c' : Client C} {e : Event C} (h : Steps c e c') : Move c e c' := by
  unfold Steps step at h
  cases e with
  | setPublishQueue type size =>
      simp only at h
      split at h
      · next hst =>
        cases h
        exact .ignored hst
      · next hst =>
        cases h
        exact .setPublishQueue (not_not.mp hst)
  | setSendQueue size =>
      simp only at h
      split at h
      · next hst =>
        cases h
        exact .ignored hst
      · next hst =>
        cases h
        exact .setSendQueue (not_not.mp hst)
  | connect =>
      cases h
      rw [connect]
      split
      · next hst => exact .ignored hst
      · next hst => exact .connect (not_not.mp hst)
  | disconnect =>
      cases h
      rw [disconnect]
      split
      · next hst => exact .ignored hst
      · next hst => exact .disconnect hst
  | publish m sent =>
      simp only [publish] at h
      cases hst : c.impl.state with
      | disconnected | connected =>
          simp only [hst] at h
          cases h
          exact .ignored (by simp [Ignores, hst])
      | connecting =>
          simp only [hst] at h
          cases hq : c.impl.toPublishQueue m with
          | none => simp [hq, Except.map] at h
          | some r =>
              simp only [hq, Except.map] at h
              cases h
              exact .toPublishQueue hst hq
  | subscribe topic callback sent =>
      cases h
      rw [subscribe]
      split
      · next hst => exact .ignored hst
      · next hst => exact .subscribe hst
  | unsubscribe topic sent =>
      simp only [unsubscribe] at h
      split at h
      · next hst =>
        cases h
        exact .ignored (.inl hst)
      · next hst =>
        split at h
        · next hnot =>
          cases h
          exact .ignored (.inr hnot)
        · next hmem =>
          cases hi : c.impl.removeSubscription topic with
          | none => simp [hi] at h
          | some i =>
              simp only [hi] at h
              cases h
              exact .unsubscribe hst (not_not.mp hmem) hi
  | connectionUp sent =>
      simp only [connectionStateChange] at h
      split at h
      · next hc =>
        simp only [↓reduceIte] at h
        split at h
        · cases h
        · next i hi =>
          cases h
          exact .connectionUp hc hi
      · next hc =>
        cases h
        exact .ignored (by simpa [Ignores] using hc)
  | connectionDown =>
      simp only [connectionStateChange] at h
      split at h
      · next hc =>
        cases h
        exact .connectionDown hc
      · next hc =>
        cases h
        exact .ignored (by simpa [Ignores] using hc)

/-- Every move of the client is a step. -/
theorem step_of_move {c c' : Client C} {e : Event C} (h : Move c e c') : Steps c e c' := by
  unfold Steps step
  cases h with
  | ignored hignored =>
      cases e with
      | unsubscribe topic sent =>
          rcases hignored with hst | hnot
          · simp [unsubscribe, hst]
          · simp [unsubscribe, hnot]
      | publish m sent =>
          have hst : c.impl.state ≠ .connecting := hignored
          cases hs : c.impl.state with
          | connecting => exact absurd hs hst
          | disconnected | connected => simp [publish, hs, Except.map]
      | disconnect | subscribe topic callback sent =>
          have hst : c.impl.state = .disconnected := hignored
          simp [disconnect, subscribe, hst]
      | setPublishQueue type size | setSendQueue size | connect =>
          have hst : c.impl.state ≠ .disconnected := hignored
          simp [connect, hst]
      | connectionUp sent | connectionDown =>
          have hc : c.connection = false := hignored
          simp [hc]
  | setPublishQueue hst => simp [hst]
  | setSendQueue hst => simp [hst]
  | connect hst => simp [connect, hst]
  | disconnect hst => simp [disconnect, hst]
  | toPublishQueue hst hq => simp [publish, hst, hq, Except.map]
  | subscribe hst => simp [subscribe, hst]
  | unsubscribe hst hmem hi => simp [unsubscribe, hst, hmem, hi]
  | connectionUp hc hi =>
      have hi' := hi
      simp only [setState] at hi'
      simp [hc, connectionStateChange, setState, hi']
  | connectionDown hc => simp [hc, connectionStateChange]

end Client

end TrueMqtt
