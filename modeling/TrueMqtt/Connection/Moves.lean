import TrueMqtt.Connection

/-!
# TrueMqtt.Connection.Moves

What a step of a thread can do.  The branches of the two step functions
(`ReadBranch`, `WriteBranch`) name each step with the tests that lead there, and
every fact about a step is proved by cases on them.

The moves say what a step does to the packets on their way: the send queue, the
packet in the write thread's hands and the packets completely written.  The
proofs about runs of the system go through these, not through the step
functions.
-/

namespace TrueMqtt

namespace Outgoing

/-- The packets sent with priority. -/
def isUrgent : Outgoing → Bool
  | connect _ | pingRequest => true
  | _ => false

@[simp] theorem message?_of_isUrgent {o : Outgoing} (h : o.isUrgent = true) :
    o.message? = none := by
  cases o <;> first | rfl | cases h

end Outgoing

namespace Connection

variable {cfg : Config} {c c' : Connection}

section notify

variable (c : Connection)

@[simp] theorem state_notify : c.notify.state = c.state := by
  unfold notify; split <;> rfl

@[simp] theorem socket_notify : c.notify.socket = c.socket := by
  unfold notify; split <;> rfl

@[simp] theorem sendQueue_notify : c.notify.sendQueue = c.sendQueue := by
  unfold notify; split <;> rfl

@[simp] theorem readPc_notify : c.notify.readPc = c.readPc := by
  unfold notify; split <;> rfl

@[simp] theorem processed_notify : c.notify.processed = c.processed := by
  unfold notify; split <;> rfl

@[simp] theorem enqueued_notify : c.notify.enqueued = c.enqueued := by
  unfold notify; split <;> rfl

@[simp] theorem completed_notify : c.notify.completed = c.completed := by
  unfold notify; split <;> rfl

@[simp] theorem wires_notify : c.notify.wires = c.wires := by
  unfold notify; split <;> rfl

@[simp] theorem sockets_notify : c.notify.sockets = c.sockets := by
  unfold notify; split <;> rfl

@[simp] theorem closed_notify : c.notify.closed = c.closed := by
  unfold notify; split <;> rfl

@[simp] theorem begun_notify : c.notify.begun = c.begun := by
  unfold notify; split <;> rfl

/-- A notification does not change what the write thread holds. -/
@[simp] theorem packet?_notify : c.notify.writePc.packet? = c.writePc.packet? := by
  unfold notify
  split
  · next h => simp [h, WritePc.packet?]
  · rfl

end notify

/-! ## the read thread -/

/-- The branches of `readStep`, each with the tests that lead there. -/
inductive ReadBranch (cfg : Config) (c : Connection) : ReadInput → Connection → Prop
  | dispatch (hpc : c.readPc = .loop) :
      ReadBranch cfg c .next { c with readPc := dispatch c.state }
  | resolve (hpc : c.readPc = .resolve) :
      ReadBranch cfg c .next { c with socket := none, readPc := .getaddrinfo }
  | lookup (hpc : c.readPc = .getaddrinfo) :
      ReadBranch cfg c (.lookup true) { c with readPc := .resolveCheck }
  | lookupFails (hpc : c.readPc = .getaddrinfo) :
      ReadBranch cfg c (.lookup false) { c with readPc := .lookupCallback }
  | lookupCallback (hpc : c.readPc = .lookupCallback) :
      ReadBranch cfg c .next { c with readPc := .backoffStore }
  | resolveStop (hpc : c.readPc = .resolveCheck) (hst : c.state = .stop) :
      ReadBranch cfg c .next { c with readPc := .loop }
  | resolveCheck (hpc : c.readPc = .resolveCheck) (hst : c.state ≠ .stop) :
      ReadBranch cfg c .next { c with readPc := .connectingStore }
  | connectingStore (hpc : c.readPc = .connectingStore) :
      ReadBranch cfg c .next { c with state := .connecting, readPc := .loop }
  | backoffStore (hpc : c.readPc = .backoffStore) :
      ReadBranch cfg c .next { c with state := .backoff, readPc := .loop }
  | select (hpc : c.readPc = .connectToAny) :
      ReadBranch cfg c .next { c with readPc := .connectCheck }
  | tried (hpc : c.readPc = .connectToAny) :
      ReadBranch cfg c (.attempt .pending) { c with readPc := .loop }
  | untried (hpc : c.readPc = .connectToAny) :
      ReadBranch cfg c (.attempt .exhausted) { c with readPc := .backoffStore }
  | connectStop {a : Attempt} (hpc : c.readPc = .connectCheck) (hst : c.state = .stop) :
      ReadBranch cfg c (.attempt a) { c with readPc := .loop }
  | pending (hpc : c.readPc = .connectCheck) (hst : c.state ≠ .stop) :
      ReadBranch cfg c (.attempt .pending) { c with readPc := .loop }
  | exhausted (hpc : c.readPc = .connectCheck) (hst : c.state ≠ .stop) :
      ReadBranch cfg c (.attempt .exhausted) { c with readPc := .backoffStore }
  | established (hpc : c.readPc = .connectCheck) (hst : c.state ≠ .stop) :
      ReadBranch cfg c (.attempt .established) { c with readPc := .socketStore }
  | socketStore (hpc : c.readPc = .socketStore) :
      ReadBranch cfg c .next
        { c with socket := some c.sockets, sockets := c.sockets + 1, readPc := .authCheck }
  | authStop (hpc : c.readPc = .authCheck) (hst : c.state = .stop) :
      ReadBranch cfg c .next { c with backoff := cfg.connectionBackoff, readPc := .loop }
  | authCheck (hpc : c.readPc = .authCheck) (hst : c.state ≠ .stop) :
      ReadBranch cfg c .next { c with readPc := .authStore }
  | authStore (hpc : c.readPc = .authStore) :
      ReadBranch cfg c .next { c with state := .authenticating, readPc := .sendConnect }
  | sendConnect (hpc : c.readPc = .sendConnect) (hqf : c.queueFree = true) :
      ReadBranch cfg c .next
        { c.pushFront (.connect cfg.connectInfo) with
          backoff := cfg.connectionBackoff, readPc := .loop }
  | sleepStop (hpc : c.readPc = .sleep) (hst : c.state = .stop) :
      ReadBranch cfg c .next { c with readPc := .loop }
  | sleep (hpc : c.readPc = .sleep) (hst : c.state ≠ .stop) :
      ReadBranch cfg c .next
        { c with
          backoff := min (c.backoff * 2) cfg.connectionBackoffMax, readPc := .resolvingStore }
  | resolvingStore (hpc : c.readPc = .resolvingStore) :
      ReadBranch cfg c .next { c with state := .resolving, readPc := .loop }
  | recvOffline (hpc : c.readPc = .recv) (hst : c.state = .socketError ∨ c.state = .stop) :
      ReadBranch cfg c .next { c with readPc := .recvFailed }
  | recv (hpc : c.readPc = .recv) (hst : ¬ (c.state = .socketError ∨ c.state = .stop)) :
      ReadBranch cfg c .next { c with readPc := .recvTimer }
  | ping (hpc : c.readPc = .recvTimer) :
      ReadBranch cfg c (.timer true) { c with readPc := .sendPingRequest }
  | noPing (hpc : c.readPc = .recvTimer) :
      ReadBranch cfg c (.timer false) { c with readPc := .recvData }
  | sendPingRequest (hpc : c.readPc = .sendPingRequest) (hqf : c.queueFree = true) :
      ReadBranch cfg c .next { c.pushFront .pingRequest with readPc := .recvData }
  | receiveFails (hpc : c.readPc = .recvData) :
      ReadBranch cfg c (.receive .failed) { c with readPc := .recvFailed }
  | more (hpc : c.readPc = .recvData) :
      ReadBranch cfg c (.receive .more) { c with readPc := .recv }
  | received {p : Packet} (hpc : c.readPc = .recvData) (hu : c.usable = true) :
      ReadBranch cfg c (.receive (.packet p)) { c with readPc := received p }
  | subscribeCallback (hpc : c.readPc = .subscribeCallback) :
      ReadBranch cfg c .next { c with readPc := .loop }
  | connackStore (hpc : c.readPc = .connackStore) :
      ReadBranch cfg c .next { c with state := .connected, readPc := .lockState true }
  | failedStop (hpc : c.readPc = .recvFailed) (hst : c.state = .stop) :
      ReadBranch cfg c .next { c with readPc := .loop }
  | recvFailed (hpc : c.readPc = .recvFailed) (hst : c.state ≠ .stop) :
      ReadBranch cfg c .next { c with readPc := .errorStore }
  | errorStore (hpc : c.readPc = .errorStore) :
      ReadBranch cfg c .next { c with state := .socketError, readPc := .errorTest }
  | errorGone (hpc : c.readPc = .errorTest) (hk : c.socket = none) :
      ReadBranch cfg c .next { c with readPc := .loop }
  | errorTest (hpc : c.readPc = .errorTest) (hk : c.socket ≠ none) :
      ReadBranch cfg c .next { c with readPc := .errorClose }
  | errorClose (hpc : c.readPc = .errorClose) :
      ReadBranch cfg c .next
        { c with closed := c.socket.toList ++ c.closed, readPc := .errorInvalidate }
  | errorInvalidate (hpc : c.readPc = .errorInvalidate) :
      ReadBranch cfg c .next { c with socket := none, readPc := .loop }
  | lostStore (hpc : c.readPc = .lostStore) :
      ReadBranch cfg c .next { c with state := .backoff, readPc := .lockState false }
  | clearQueue (hpc : c.readPc = .clearQueue) (hqf : c.queueFree = true) :
      ReadBranch cfg c .next { c with sendQueue := [], enqueued := [], readPc := .loop }
  | stopGone (hpc : c.readPc = .stopTest) (hk : c.socket = none) :
      ReadBranch cfg c .next { c with readPc := .done }
  | stopTest (hpc : c.readPc = .stopTest) (hk : c.socket ≠ none) :
      ReadBranch cfg c .next { c with readPc := .stopClose }
  | stopClose (hpc : c.readPc = .stopClose) :
      ReadBranch cfg c .next
        { c with closed := c.socket.toList ++ c.closed, readPc := .stopInvalidate }
  | stopInvalidate (hpc : c.readPc = .stopInvalidate) :
      ReadBranch cfg c .next { c with socket := none, readPc := .done }

theorem readBranch_of_readStep {i : ReadInput} (h : c.readStep cfg i = .ok c') :
    ReadBranch cfg c i c' := by
  cases i with
  | next =>
      simp only [readStep] at h
      repeat' split at h
      all_goals cases h
      · exact .dispatch ‹_›
      · exact .resolve ‹_›
      · exact .lookupCallback ‹_›
      · exact .resolveStop ‹_› ‹_›
      · exact .resolveCheck ‹_› ‹_›
      · exact .connectingStore ‹_›
      · exact .backoffStore ‹_›
      · exact .select ‹_›
      · exact .socketStore ‹_›
      · exact .authStop ‹_› ‹_›
      · exact .authCheck ‹_› ‹_›
      · exact .authStore ‹_›
      · exact .sendConnect ‹_› ‹_›
      · exact .sleepStop ‹_› ‹_›
      · exact .sleep ‹_› ‹_›
      · exact .resolvingStore ‹_›
      · exact .recvOffline ‹_› ‹_›
      · exact .recv ‹_› ‹_›
      · exact .sendPingRequest ‹_› ‹_›
      · exact .subscribeCallback ‹_›
      · exact .connackStore ‹_›
      · exact .failedStop ‹_› ‹_›
      · exact .recvFailed ‹_› ‹_›
      · exact .errorStore ‹_›
      · exact .errorGone ‹_› ‹_›
      · exact .errorTest ‹_› ‹_›
      · exact .errorClose ‹_›
      · exact .errorInvalidate ‹_›
      · exact .lostStore ‹_›
      · exact .clearQueue ‹_› ‹_›
      · exact .stopGone ‹_› ‹_›
      · exact .stopTest ‹_› ‹_›
      · exact .stopClose ‹_›
      · exact .stopInvalidate ‹_›
  | lookup found =>
      cases found
      all_goals
        simp only [readStep] at h
        split at h
        all_goals cases h
      · exact .lookupFails ‹_›
      · exact .lookup ‹_›
  | attempt a =>
      simp only [readStep] at h
      repeat' split at h
      all_goals cases h
      · exact .tried ‹_›
      · exact .untried ‹_›
      · exact .connectStop ‹_› ‹_›
      · exact .pending ‹_› ‹_›
      · exact .exhausted ‹_› ‹_›
      · exact .established ‹_› ‹_›
  | timer ping =>
      cases ping
      all_goals
        simp only [readStep] at h
        split at h
        all_goals cases h
      · exact .noPing ‹_›
      · exact .ping ‹_›
  | receive r =>
      simp only [readStep] at h
      repeat' split at h
      all_goals cases h
      · exact .receiveFails ‹_›
      · exact .more ‹_›
      · exact .received ‹_› ‹_›

/-- What a step of the read thread does to the send queue. -/
inductive QueueMove (c c' : Connection) : Prop
  | same (hpc : c.readPc ≠ .clearQueue) (hq : c'.sendQueue = c.sendQueue)
      (he : c'.enqueued = c.enqueued)
  | urgent (o : Outgoing) (ho : o.isUrgent = true) (hpc : c.readPc ≠ .clearQueue)
      (hq : c'.sendQueue = o :: c.sendQueue) (he : c'.enqueued = c.enqueued)
  | clear (hpc : c.readPc = .clearQueue) (hq : c'.sendQueue = []) (he : c'.enqueued = [])

theorem queueMove_of_readStep {i : ReadInput} (h : c.readStep cfg i = .ok c') :
    QueueMove c c' := by
  cases readBranch_of_readStep h with
  | sendConnect hpc hqf =>
      exact .urgent _ rfl (by simp [hpc]) (sendQueue_notify _) (enqueued_notify _)
  | sendPingRequest hpc hqf =>
      exact .urgent _ rfl (by simp [hpc]) (sendQueue_notify _) (enqueued_notify _)
  | clearQueue hpc hqf => exact .clear hpc rfl rfl
  | _ hpc => exact .same (by simp [hpc]) rfl rfl

/-- What a step of the read thread leaves alone. -/
structure ReadFrame (c c' : Connection) : Prop where
  processed : c'.processed = c.processed
  completed : c'.completed = c.completed
  packet? : c'.writePc.packet? = c.writePc.packet?
  wires : c'.wires = c.wires
  /-- a step inside of `m_state_mutex` is a step of its holder -/
  stateChange : c.readPc ≠ .stateChange ∧ c'.readPc ≠ .stateChange
  /-- the queue is cleared right after `connectionStateChange(false)` -/
  clearQueue : c'.readPc ≠ .clearQueue

/-- Where a complete packet leads. -/
theorem received_cases (p : Packet) :
    received p = .loop ∨ received p = .recvFailed ∨ received p = .connackStore ∨
      received p = .subscribeCallback ∨
      ∃ topic message, received p = .lockMessage topic message := by
  unfold received
  repeat' split
  all_goals simp

theorem received_ne_stateChange (p : Packet) : received p ≠ .stateChange := by
  obtain h | h | h | h | ⟨topic, message, h⟩ := received_cases p <;> simp [h]

theorem received_ne_clearQueue (p : Packet) : received p ≠ .clearQueue := by
  obtain h | h | h | h | ⟨topic, message, h⟩ := received_cases p <;> simp [h]

theorem dispatch_ne_stateChange (st : ConnectionState) : dispatch st ≠ .stateChange := by
  cases st <;> simp [dispatch]

theorem dispatch_ne_clearQueue (st : ConnectionState) : dispatch st ≠ .clearQueue := by
  cases st <;> simp [dispatch]

theorem readFrame_of_readStep {i : ReadInput} (h : c.readStep cfg i = .ok c') :
    ReadFrame c c' := by
  cases readBranch_of_readStep h with
  | dispatch hpc =>
      exact ⟨rfl, rfl, rfl, rfl, ⟨by simp [hpc], dispatch_ne_stateChange _⟩,
        dispatch_ne_clearQueue _⟩
  | received hpc hu =>
      exact ⟨rfl, rfl, rfl, rfl, ⟨by simp [hpc], received_ne_stateChange _⟩,
        received_ne_clearQueue _⟩
  | sendConnect hpc hqf | sendPingRequest hpc hqf =>
      constructor
      all_goals simp [pushFront, hpc]
  | _ hpc =>
      constructor
      all_goals simp [hpc]

/-! ## the write thread -/

theorem pop_eq_ok (h : c.pop = .ok c') :
    ∃ o q, c.sendQueue = o :: q ∧ c' = { c with sendQueue := q, writePc := .holding o } := by
  unfold pop at h
  split at h
  · cases h
  · next o q hq =>
    cases h
    exact ⟨o, q, hq, rfl⟩

/-- The branches of `writeStep`, each with the tests that lead there. -/
inductive WriteBranch (pointer : Bool) (c : Connection) : WriteInput → Connection → Prop
  | toPop (hpc : c.writePc = .loop) (hst : c.state.online = true) :
      WriteBranch pointer c .next { c with writePc := .pop }
  | done (hpc : c.writePc = .loop) (hoff : c.state.online = false) (hst : c.state = .stop) :
      WriteBranch pointer c .next { c with writePc := .done }
  | spin (hpc : c.writePc = .loop) (hoff : c.state.online = false) (hst : c.state ≠ .stop) :
      WriteBranch pointer c .next c
  | empty (hpc : c.writePc = .pop) (hq : c.sendQueue = []) (hst : c.state ≠ .stop) :
      WriteBranch pointer c .next { c with writePc := .blocking }
  | emptyStop (hpc : c.writePc = .pop) (hq : c.sendQueue = []) (hst : c.state = .stop) :
      WriteBranch pointer c .next { c with writePc := .woken }
  | pop {o : Outgoing} {q : List Outgoing} (hpc : c.writePc = .pop)
      (hq : c.sendQueue = o :: q) :
      WriteBranch pointer c .next { c with sendQueue := q, writePc := .holding o }
  | block (hpc : c.writePc = .blocking) :
      WriteBranch pointer c .next { c with writePc := .blocked }
  | wakeUp (hpc : c.writePc = .blocked) : WriteBranch pointer c .next { c with writePc := .wait }
  | wait (hpc : c.writePc = .wait) (hq : c.sendQueue = []) (hst : c.state ≠ .stop) :
      WriteBranch pointer c .next { c with writePc := .blocking }
  | waited (hpc : c.writePc = .wait) (htest : c.sendQueue ≠ [] ∨ c.state = .stop) :
      WriteBranch pointer c .next { c with writePc := .woken }
  | wokenStop (hpc : c.writePc = .woken) (hst : c.state = .stop) :
      WriteBranch pointer c .next { c with writePc := .loop }
  | wokenPop {o : Outgoing} {q : List Outgoing} (hpc : c.writePc = .woken)
      (hst : c.state ≠ .stop) (hq : c.sendQueue = o :: q) :
      WriteBranch pointer c .next { c with sendQueue := q, writePc := .holding o }
  | start {o : Outgoing} (hpc : c.writePc = .holding o) (hst : c.state.online = true) :
      WriteBranch pointer c .next { c with writePc := .writing o 0 }
  | drop {o : Outgoing} (hpc : c.writePc = .holding o) (hoff : c.state.online = false) :
      WriteBranch pointer c .next { c with writePc := .loop }
  | errorPtr (hpc : c.writePc = .errorPtr) (hptr : pointer = true) :
      WriteBranch pointer c .next { c with writePc := .errorStore }
  | errorStore (hpc : c.writePc = .errorStore) :
      WriteBranch pointer c .next { c with state := .socketError, writePc := .errorTest }
  | errorGone (hpc : c.writePc = .errorTest) (hk : c.socket = none) :
      WriteBranch pointer c .next { c with writePc := .loop }
  | errorTest (hpc : c.writePc = .errorTest) (hk : c.socket ≠ none) :
      WriteBranch pointer c .next { c with writePc := .errorClose }
  | errorClose (hpc : c.writePc = .errorClose) :
      WriteBranch pointer c .next
        { c with closed := c.socket.toList ++ c.closed, writePc := .errorInvalidate }
  | errorInvalidate (hpc : c.writePc = .errorInvalidate) :
      WriteBranch pointer c .next { c with socket := none, writePc := .loop }
  | write {o : Outgoing} {offset count k : Nat} (hpc : c.writePc = .writing o offset)
      (hk : c.socket = some k)
      (hfits : c.usable = true ∧ 1 ≤ count ∧ offset + count ≤ o.encode.length)
      (hmore : offset + count ≠ o.encode.length) :
      WriteBranch pointer c (.sent count)
        { (c.begin offset).writeTo k ((o.encode.drop offset).take count) with
          writePc := .writing o (offset + count) }
  | finish {o : Outgoing} {offset count k : Nat} (hpc : c.writePc = .writing o offset)
      (hk : c.socket = some k)
      (hfits : c.usable = true ∧ 1 ≤ count ∧ offset + count ≤ o.encode.length)
      (hend : offset + count = o.encode.length) :
      WriteBranch pointer c (.sent count)
        { (c.begin offset).writeTo k ((o.encode.drop offset).take count) with
          completed := c.completed ++ [o], writePc := .loop }
  | fail {o : Outgoing} {offset : Nat} (hpc : c.writePc = .writing o offset) :
      WriteBranch pointer c .failed { c.begin offset with writePc := .errorPtr }

theorem writeBranch_of_writeStep {pointer : Bool} {i : WriteInput}
    (h : c.writeStep pointer i = .ok c') : WriteBranch pointer c i c' := by
  unfold writeStep at h
  repeat' split at h
  all_goals first
    | obtain ⟨o, q, hq, rfl⟩ := pop_eq_ok h
    | cases h
  · exact .toPop ‹_› ‹_›
  · exact .done ‹_› (Bool.eq_false_iff.mpr ‹_›) ‹_›
  · exact .spin ‹_› (Bool.eq_false_iff.mpr ‹_›) ‹_›
  · exact .emptyStop ‹_› ‹_› ‹_›
  · exact .empty ‹_› ‹_› ‹_›
  · exact .pop ‹_› hq
  · exact .block ‹_›
  · exact .wakeUp ‹_›
  · exact .waited ‹_› ‹_›
  · next htest =>
    rw [not_or, not_not] at htest
    exact .wait ‹_› htest.1 htest.2
  · exact .wokenStop ‹_› ‹_›
  · exact .wokenPop ‹_› ‹_› hq
  · exact .start ‹_› ‹_›
  · exact .drop ‹_› (Bool.eq_false_iff.mpr ‹_›)
  · exact .errorPtr ‹_› ‹_›
  · exact .errorStore ‹_›
  · exact .errorGone ‹_› ‹_›
  · exact .errorTest ‹_› ‹_›
  · exact .errorClose ‹_›
  · exact .errorInvalidate ‹_›
  · exact .finish ‹_› ‹_› ‹_› ‹_›
  · exact .write ‹_› ‹_› ‹_› ‹_›
  · exact .fail ‹_›

/-- What a step of the write thread does to the packets. -/
inductive WriteMove (c c' : Connection) : Prop
  | same (hq : c'.sendQueue = c.sendQueue) (hp : c'.writePc.packet? = c.writePc.packet?)
      (hc : c'.completed = c.completed)
  | take (o : Outgoing) (hq : c.sendQueue = o :: c'.sendQueue) (hp : c.writePc.packet? = none)
      (hp' : c'.writePc.packet? = some o) (hc : c'.completed = c.completed)
  | drop (hq : c'.sendQueue = c.sendQueue) (hp' : c'.writePc.packet? = none)
      (hc : c'.completed = c.completed)
  | complete (o : Outgoing) (hq : c'.sendQueue = c.sendQueue) (hp : c.writePc.packet? = some o)
      (hp' : c'.writePc.packet? = none) (hc : c'.completed = c.completed ++ [o])

/-- What a step of the write thread leaves alone. -/
structure WriteFrame (c c' : Connection) : Prop where
  readPc : c'.readPc = c.readPc
  processed : c'.processed = c.processed
  enqueued : c'.enqueued = c.enqueued
  sockets : c'.sockets = c.sockets

theorem writeFrame_of_writeStep {pointer : Bool} {i : WriteInput}
    (h : c.writeStep pointer i = .ok c') : WriteFrame c c' := by
  cases writeBranch_of_writeStep h <;> exact ⟨rfl, rfl, rfl, rfl⟩

theorem writeMove_of_writeStep {pointer : Bool} {i : WriteInput}
    (h : c.writeStep pointer i = .ok c') : WriteMove c c' := by
  cases writeBranch_of_writeStep h with
  | pop hpc hq | wokenPop hpc hst hq =>
      exact .take _ hq (by rw [hpc]; rfl) rfl rfl
  | finish hpc hk hfits hend => exact .complete _ rfl (by rw [hpc]; rfl) rfl rfl
  | drop hpc hoff => exact .drop rfl rfl rfl
  | fail hpc => exact .drop rfl rfl rfl
  | spin hpc hoff hst => exact .same rfl rfl rfl
  | toPop hpc | done hpc | empty hpc | emptyStop hpc | block hpc | wakeUp hpc | wait hpc
  | waited hpc | wokenStop hpc | start hpc | errorPtr hpc | errorStore hpc | errorGone hpc
  | errorTest hpc | errorClose hpc | errorInvalidate hpc | write hpc =>
      exact .same rfl (by rw [hpc]; rfl) rfl

end Connection

end TrueMqtt
