import TrueMqtt.Client.Agreement
import TrueMqtt.Network
import TrueMqtt.System.Drain
import TrueMqtt.System.PublishQueue
import TrueMqtt.System.Restore
import TrueMqtt.System.WriteFailure

/-!
# TrueMqtt.System.Faults

The undefined behaviour of the whole client, all threads together.

`Faulty` lists the ways a step can go wrong: `pop_front` on an empty deque, a null
`m_connection`, an end iterator, a thread that joins itself, `FD_SET` on an invalid
socket.  Each has a condition under which no step of a run comes to it (`Harmless`), and
a run whose steps meet all of them never faults (`never_faults`).

Three of the conditions are invariants over all threads here: that the tree and the
flat set of topics agree (in `TrueMqtt.Client.Agreement` for the calls alone), that a
write thread past its wait finds a packet or the STOP that woke it, and that the read
thread has a socket when it comes to the `select` of `recv`.

`FD_SET` comes before the test of `m_state`, and does not look at its argument: the step
of `recv` in `readStep` goes on, as the code does where nothing checks it, and is a fault
all the same.  Accesses of two threads to a member without a lock, and descriptors from
FD_SETSIZE on, are not among the faults.
-/

namespace TrueMqtt

namespace ReadPc

/-- About to store another value to `m_state`. -/
def storing : ReadPc → Bool
  | connectingStore | backoffStore | authStore | resolvingStore | connackStore | errorStore
  | lostStore => true
  | _ => false

/-- On the way to the `select` of `recv`, whatever `m_state` is. -/
def selecting : ReadPc → Bool
  | authCheck | authStore | recv | recvTimer | sendPingRequest | recvData | connackStore => true
  | _ => false

end ReadPc

namespace Connection

variable {cfg : Config} {c c' : Connection}

/-- Past the wait there is a packet, or the STOP. -/
def Fed (c : Connection) : Prop :=
  c.writePc = .woken → c.sendQueue ≠ [] ∨ c.state = .stop

/-- The read thread stores no other state over a STOP the write thread has been
woken for. -/
def OutlastsWake (c : Connection) : Prop :=
  c.state = .stop → c.writePc = .woken → c.sendQueue = [] → c.readPc.storing = false

instance (c : Connection) : Decidable c.OutlastsWake := by
  unfold OutlastsWake
  infer_instance

/-- The read thread comes to the `select` of `recv`, or may come to it. -/
def selects (c : Connection) : Bool := c.state.online || c.readPc.selecting

/-- It has a socket to select on. -/
def Attached (c : Connection) : Prop := c.selects = true → c.socket ≠ none

/-- A thread that is notified is not past its wait yet. -/
theorem fed_notify (h : c.Fed) : c.notify.Fed := by
  intro hpc
  have hwoken : c.writePc = .woken := by
    unfold notify at hpc
    split at hpc
    · cases hpc
    · exact hpc
  simpa using h hwoken

theorem fed_push (o : Outgoing) (c : Connection) : (c.push o).Fed := by
  intro _
  left
  simp [push]

theorem fed_readStep {i : ReadInput} (h : c.Fed) (hg : c.OutlastsWake)
    (hr : c.readStep cfg i = .ok c') : c'.Fed := by
  -- a store over the STOP would leave the thread with nothing
  have hstore : ∀ d : Connection, d.writePc = c.writePc → d.sendQueue = c.sendQueue →
      c.readPc.storing = true → d.Fed := by
    intro d hw hq hs hpc
    rw [hw] at hpc
    rw [hq]
    by_contra hne
    rw [not_or, not_not] at hne
    have hst := (h hpc).resolve_left (not_not.mpr hne.1)
    rw [hg hst hpc hne.1] at hs
    cases hs
  cases readBranch_of_readStep hr with
  | connectingStore hpc | backoffStore hpc | authStore hpc | resolvingStore hpc
  | connackStore hpc | errorStore hpc | lostStore hpc =>
      exact hstore _ rfl rfl (by rw [hpc]; rfl)
  | sendConnect | sendPingRequest => exact fun _ => .inl (by simp [pushFront])
  | clearQueue hpc hqf =>
      intro hw
      have hwoken : c.writePc = .woken := hw
      simp [queueFree, hwoken] at hqf
  | _ => exact h

theorem fed_writeStep {pointer : Bool} {i : WriteInput} (hw : c.writeStep pointer i = .ok c') :
    c'.Fed := by
  cases writeBranch_of_writeStep hw with
  | emptyStop hpc hq hst => exact fun _ => .inr hst
  | waited hpc htest => exact fun _ => htest
  | spin hpc =>
      intro hw
      rw [hpc] at hw
      cases hw
  | _ => exact fun hw => (nomatch hw)

/-- Apart from the socket, what counts is whether the read thread selects. -/
theorem Attached.of_imp {d : Connection} (h : c.Attached) (hk : d.socket = c.socket)
    (hs : d.selects = true → c.selects = true) : d.Attached := by
  intro hd
  rw [hk]
  exact h (hs hd)

theorem attached_of_offline (hoff : c.state.online = false) (hpc : c.readPc.selecting = false) :
    c.Attached := by
  intro hs
  simp [selects, hoff, hpc] at hs

/-- The read thread gives a socket up where `m_state` is not online. -/
theorem attached_readStep {i : ReadInput} (h : c.Attached) (hset : c.Settled)
    (hr : c.readStep cfg i = .ok c') : c'.Attached := by
  have hoff : c.attends = false → c.readPc ≠ .recvFailed → c.readPc ≠ .errorStore →
      c.state.online = false := by
    intro ha hfailed hstore
    rw [Settled, ha] at hset
    simpa [hfailed, hstore] using hset
  cases readBranch_of_readStep hr with
  | dispatch hpc =>
      refine h.of_imp rfl fun hs => ?_
      cases hst : c.state <;>
        simp_all [selects, dispatch, ConnectionState.online, ReadPc.selecting]
  | @received p hpc hu => exact h.of_imp rfl fun _ => by simp [selects, hpc, ReadPc.selecting]
  | socketStore hpc => exact fun _ => by simp
  | authStore hpc => exact fun _ => h (by simp [selects, hpc, ReadPc.selecting])
  | connackStore hpc => exact fun _ => h (by simp [selects, hpc, ReadPc.selecting])
  | resolve hpc | errorInvalidate hpc | stopInvalidate hpc =>
      refine attached_of_offline (hoff ?_ ?_ ?_) rfl
      all_goals simp [attends, hpc, ReadPc.attends]
  | connectingStore hpc | backoffStore hpc | resolvingStore hpc | errorStore hpc
  | lostStore hpc => exact attached_of_offline rfl rfl
  | sendConnect hpc | sendPingRequest hpc =>
      refine h.of_imp (socket_notify _) fun hs => ?_
      simp_all [selects, pushFront, ReadPc.selecting]
  | _ hpc => exact h.of_imp rfl fun hs => by simp_all [selects, ReadPc.selecting]

/-- The write thread gives a socket up where the read thread does not select on it. -/
theorem attached_writeStep {pointer : Bool} {i : WriteInput} (h : c.Attached)
    (hg : c.writePc = .errorInvalidate → c.selects = false)
    (hw : c.writeStep pointer i = .ok c') : c'.Attached := by
  cases writeBranch_of_writeStep hw with
  | errorInvalidate hpc =>
      intro hs
      cases (hg hpc).symm.trans hs
  | errorStore hpc =>
      refine h.of_imp rfl fun hs => ?_
      simp_all [selects, ConnectionState.online]
  | _ => exact h.of_imp rfl fun hs => hs

theorem attached_between (h : c.Attached) (hk : c'.socket = c.socket) (hb : Between c c') :
    c'.Attached := by
  refine h.of_imp hk fun hs => ?_
  cases hb with
  | same hpc hst => rwa [selects, hpc, hst] at hs
  | stop hpc hst =>
      rw [selects, hpc, hst] at hs
      simpa [selects] using .inr hs
  | resumed hpc hpc' hst =>
      obtain hpc' | hpc' := hpc'
      all_goals simp_all [selects, ReadPc.selecting]
  | lost hpc hpc' hst => simp_all [selects, ReadPc.selecting]

/-- The faults of the write thread: a pop that finds nothing, and `socketError` on
a connection that is gone. -/
theorem fault_of_writeStep {pointer : Bool} {i : WriteInput} {f : Fault}
    (h : c.writeStep pointer i = .error (.fault f)) :
    i = .next ∧
      ((c.writePc = .woken ∧ c.state ≠ .stop ∧ c.sendQueue = [] ∧ f = .popFromEmpty) ∨
        (c.writePc = .errorPtr ∧ pointer = false ∧ f = .nullConnection)) := by
  cases i with
  | next =>
      refine ⟨rfl, ?_⟩
      cases hpc : c.writePc with
      | pop => cases hq : c.sendQueue <;> simp [writeStep, hpc, hq, pop] at h
      | woken =>
          by_cases hst : c.state = .stop
          · simp [writeStep, hpc, hst] at h
          · cases hq : c.sendQueue <;> simp_all [writeStep, pop]
      | errorPtr => cases pointer <;> simp_all [writeStep]
      | _ =>
          simp only [writeStep, hpc] at h
          repeat' split at h
          all_goals cases h
  | sent count =>
      simp only [writeStep] at h
      repeat' split at h
      all_goals cases h
  | failed =>
      simp only [writeStep] at h
      split at h <;> cases h

end Connection

namespace System

variable {C : Type} {s s' : System C} {a : Action C} {c c' : Connection}

/-! ## the ways to go wrong -/

/-- The steps that end in undefined behaviour. -/
inductive Faulty (s : System C) : Action C → Fault → Prop
  | publish {m : Message} (hfree : s.holder = .free) (hq : s.impl.toPublishQueue m = none) :
      Faulty s (.call (.publish m)) .popFromEmpty
  | unsubscribe {topic : Str} (hmem : topic ∈ s.impl.subscriptionTopics)
      (hi : s.impl.removeSubscription topic = none) :
      Faulty s (.call (.unsubscribe topic)) .endDereferenced
  | send {o : Outgoing} {k : After} (hh : s.holder = .sendTest o k) (hp : s.pointer = false) :
      Faulty s .hold .nullConnection
  | resubscribe {c : Connection} {o : Outgoing} {topics : List Str} (hc : s.connection = some c)
      (hh : s.holder = .sendTest o (.resubscribe topics))
      (hsize : c.sendQueue.length > s.impl.sendQueueSize) : Faulty s .hold .selfJoin
  | pop {c : Connection} (hc : s.connection = some c) (hpc : c.writePc = .woken)
      (hst : c.state ≠ .stop) (hq : c.sendQueue = []) : Faulty s (.write .next) .popFromEmpty
  | socketError {c : Connection} (hc : s.connection = some c) (hpc : c.writePc = .errorPtr)
      (hp : s.pointer = false) : Faulty s (.write .next) .nullConnection
  | select {c : Connection} (hc : s.connection = some c) (hpc : c.readPc = .recv)
      (hk : c.socket = none) : Faulty s (.read .next) .invalidSocket

theorem faulty_of_step {f : Fault} (h : s.step a = .error (.fault f)) : Faulty s a f := by
  cases a with
  | setPublishQueue | setSendQueue | setLastWill =>
      rw [step, setting] at h
      split at h <;> cases h
  | call k =>
      rw [step] at h
      split at h
      · next hfree =>
        cases k with
        | publish m =>
            simp only [call] at h
            repeat' split at h
            all_goals cases h
            exact .publish hfree ‹_›
        | unsubscribe topic =>
            simp only [call] at h
            repeat' split at h
            all_goals cases h
            exact .unsubscribe (not_not.mp ‹_›) ‹_›
        | _ =>
            simp only [call] at h
            repeat' split at h
            all_goals cases h
      · cases h
  | grant =>
      simp only [step, grant] at h
      repeat' split at h
      all_goals cases h
  | read i =>
      simp only [step, Connection.readStep] at h
      repeat' split at h
      all_goals simp [Except.map] at h
  | write i =>
      simp only [step] at h
      split at h
      · cases h
      · next c hc =>
        have hw : c.writeStep s.pointer i = .error (.fault f) := by
          cases hw : c.writeStep s.pointer i <;> simp_all [Except.map]
        obtain ⟨rfl, ⟨hpc, hst, hq, rfl⟩ | ⟨hpc, hp, rfl⟩⟩ := Connection.fault_of_writeStep hw
        · exact .pop hc hpc hst hq
        · exact .socketError hc hpc hp
  | hold =>
      simp only [step] at h
      split at h
      · cases h
      · next c hc =>
        cases hh : s.holder with
        | sendTest o k =>
            simp only [hold, hh] at h
            split at h
            · next hp =>
              cases h
              exact .send hh (by simpa using hp)
            · split at h
              · next hsize =>
                cases k with
                | resubscribe topics =>
                    cases h
                    exact .resubscribe hc hh hsize
                | publish | request | flush => cases h
              · cases h
        | sendPush o k =>
            simp only [hold, hh] at h
            split at h
            · cases k <;> cases h
            · cases h
        | _ =>
            simp only [hold, hh] at h
            repeat' split at h
            all_goals cases h

/-! ## the tree and the flat set -/

/-- The steps that clear no tree while the flat set keeps a topic. -/
def KeepsTopics (s : System C) : Action C → Prop
  | .call .disconnect =>
      s.impl.state ≠ .disconnected → s.impl.subscriptionTopics.elems = []
  | .hold => s.RefusesRequest .hold → s.impl.subscriptionTopics.elems = []
  | _ => True

instance (s : System C) (a : Action C) : Decidable (s.KeepsTopics a) := by
  unfold KeepsTopics
  induction a using Action.casesOn with
  | call k => induction k using Call.casesOn <;> infer_instance
  | _ => infer_instance

theorem agrees_of_same (h : s.impl.Agrees)
    (hs : s'.impl.subscriptions = s.impl.subscriptions)
    (ht : s'.impl.subscriptionTopics = s.impl.subscriptionTopics) : s'.impl.Agrees :=
  (Client.Agrees_congr ⟨hs, ht⟩).mpr h

theorem agrees_disconnect {i : Impl C} (h : i.subscriptionTopics.elems = []) :
    i.disconnect.Agrees := by
  rw [Impl.agrees_disconnect_iff]
  intro t ht
  rw [SortedSet.mem_def, h] at ht
  cases ht

theorem agrees_flush (h : s.impl.Agrees) (messages : List Message) :
    (s.flush c messages).impl.Agrees := by
  cases messages <;> exact agrees_of_same h rfl rfl

theorem agrees_resubscribe (h : s.impl.Agrees) (topics : List Str) :
    (s.resubscribe c topics).impl.Agrees := by
  cases topics with
  | nil => exact agrees_flush h _
  | cons t ts => exact agrees_of_same h rfl rfl

/-- A send that does not end in a reconnect leaves the subscriptions alone. -/
theorem agrees_after {sent : Bool} {k : After} (h : s.impl.Agrees)
    (hrefused : sent = false → k = .request → s.impl.subscriptionTopics.elems = [])
    (ha : s.after c sent k = .ok s') : s'.impl.Agrees := by
  cases k with
  | publish m =>
      cases ha
      exact h
  | request =>
      cases ha
      cases sent with
      | true => exact h
      | false => simpa using agrees_disconnect (hrefused rfl rfl)
  | resubscribe topics =>
      cases sent with
      | true =>
          cases ha
          exact agrees_resubscribe h topics
      | false => cases ha
  | flush messages =>
      cases ha
      cases sent with
      | true => exact agrees_flush h messages
      | false => exact agrees_of_same h rfl rfl

theorem agrees_move (h : s.impl.Agrees) (hg : s.KeepsTopics a) (hm : Move s a s') :
    s'.impl.Agrees := by
  cases hm with
  | disconnect hfree hst =>
      simpa [setState] using agrees_disconnect (i := (s.setState .disconnected).impl) (hg hst)
  | toPublishQueue hfree hst hq =>
      obtain ⟨-, rfl⟩ | ⟨-, q, -, rfl⟩ := Impl.toPublishQueue_spec hq <;> exact h
  | addSubscription hfree hst => exact Impl.agrees_addSubscription h _ _
  | subscribe hfree hst => exact agrees_of_same (Impl.agrees_addSubscription h _ _) rfl rfl
  | removeSubscription hfree hst hmem hi => exact Impl.agrees_removeSubscription h hi
  | @unsubscribe topic i hfree hst hmem hi =>
      have hremoved := Impl.agrees_removeSubscription h hi
      exact agrees_of_same (s := { s with impl := i }) hremoved rfl rfl
  | refused hc hh hsize ha =>
      refine agrees_after h (fun _ hk => hg ?_) ha
      subst hk
      simpa [RefusesRequest, hh, hc] using hsize
  | pushed hc hh hqf ha => exact agrees_after h (fun hf => by cases hf) ha
  | connected hc hfree hpc => exact agrees_resubscribe (s := s.setState .connected) h _
  | _ => exact h

/-! ## the conditions -/

/-- The steps that queue no message in a queue of size 0. -/
def QueuesWithRoom (s : System C) : Action C → Prop
  | .call (.publish _) => s.impl.state = .connecting → s.impl.publishQueueType ≠ .drop →
      s.impl.publishQueueSize ≠ 0
  | _ => True

instance (s : System C) (a : Action C) : Decidable (s.QueuesWithRoom a) := by
  unfold QueuesWithRoom
  induction a using Action.casesOn with
  | call k => induction k using Call.casesOn <;> infer_instance
  | _ => infer_instance

/-- The steps that store no other state over a STOP the write thread has been
woken for. -/
def OutlastsWake (s : System C) : Action C → Prop
  | .read _ => match s.connection with
      | some c => c.OutlastsWake
      | none => True
  | _ => True

instance (s : System C) (a : Action C) : Decidable (s.OutlastsWake a) := by
  unfold OutlastsWake
  induction a using Action.casesOn with
  | read i => induction s.connection using Option.casesOn <;> infer_instance
  | _ => infer_instance

/-- The steps in which `socketError` of the write thread does not invalidate the socket
while the read thread is online, or else comes to the `select` of `recv`. -/
def KeepsSelected (s : System C) : Action C → Prop
  | .write _ => match s.connection with
      | some c => c.writePc = .errorInvalidate → c.selects = false
      | none => True
  | _ => True

instance (s : System C) (a : Action C) : Decidable (s.KeepsSelected a) := by
  unfold KeepsSelected
  induction a using Action.casesOn with
  | write i => induction s.connection using Option.casesOn <;> infer_instance
  | _ => infer_instance

/-- The steps after which nothing goes wrong. -/
structure Harmless (s : System C) (a : Action C) : Prop where
  queuesWithRoom : s.QueuesWithRoom a
  keepsTopics : s.KeepsTopics a
  restoreFits : s.RestoreFits a
  leavesFailure : s.LeavesFailure a
  outlastsWake : s.OutlastsWake a
  keepsSelected : s.KeepsSelected a

instance (s : System C) (a : Action C) : Decidable (s.Harmless a) :=
  decidable_of_iff (s.QueuesWithRoom a ∧ s.KeepsTopics a ∧ s.RestoreFits a ∧ s.LeavesFailure a ∧
      s.OutlastsWake a ∧ s.KeepsSelected a)
    ⟨fun h => ⟨h.1, h.2.1, h.2.2.1, h.2.2.2.1, h.2.2.2.2.1, h.2.2.2.2.2⟩,
      fun h => ⟨h.1, h.2, h.3, h.4, h.5, h.6⟩⟩

/-! ## the invariant -/

/-- What is fed stays fed. -/
theorem fed_move (h : ∀ c, s.connection = some c → c.Fed) (hg : s.OutlastsWake a)
    (hm : Move s a s') : ∀ c, s'.connection = some c → c.Fed := by
  have hsome : ∀ {d : Connection}, d.Fed → ∀ e, some d = some e → e.Fed := by
    intro d hd e he
    cases he
    exact hd
  have hrestored : ∀ {d e : Connection}, d.Fed →
      (s'.connection = some d ∨ s'.connection = some (restored d)) →
      s'.connection = some e → e.Fed := by
    rintro d e hd (hc | hc) he
    all_goals
      cases hc.symm.trans he
      exact hd
  cases hm with
  | connect hfree hst | replaced hc hh hpc => exact hsome fun hw => (nomatch hw)
  | disconnect hfree hst => simpa [setState] using h
  | refused hc hh hsize ha =>
      exact fun e => hrestored (h _ hc) ((connection_after ha).imp_right And.right)
  | pushed hc hh hqf ha =>
      exact fun e => hrestored (Connection.fed_push _ _) ((connection_after ha).imp_right And.right)
  | stop hc hh => exact hsome fun _ => .inr rfl
  | notify hc hh => exact hsome (Connection.fed_notify (h _ hc))
  | destroyed hc hh hpc =>
      intro e he
      cases he
  | @connected c hc hfree hpc =>
      have hfed : { c with readPc := .stateChange }.Fed := h c hc
      exact fun e => hrestored hfed (connection_resubscribe _ _ _)
  | @lost c hc hfree hpc =>
      have hfed : { c with readPc := .clearQueue }.Fed := h c hc
      exact hsome hfed
  | @message c topic message hc hfree hpc =>
      have hfed : { c with readPc := .loop }.Fed := h c hc
      exact hsome hfed
  | read hc hr =>
      simp only [OutlastsWake, hc] at hg
      exact hsome (Connection.fed_readStep (h _ hc) hg hr)
  | write hc hw => exact hsome (Connection.fed_writeStep hw)
  | _ => exact h

/-- The read thread keeps a socket to select on. -/
theorem attached_step (ht : s.Tended) (h : ∀ c, s.connection = some c → c.Attached)
    (hg : s.KeepsSelected a) (hstep : s.Steps a s') :
    ∀ d, s'.connection = some d → d.Attached := by
  intro d hd
  cases a with
  | read i =>
      obtain ⟨c, c', hc, hr, rfl⟩ := readStep_of_steps hstep
      cases hd
      exact Connection.attached_readStep (h c hc) (ht.connection c hc).2 hr
  | write i =>
      obtain ⟨c, c', hc, hw, rfl⟩ := writeStep_of_steps hstep
      cases hd
      simp only [KeepsSelected, hc] at hg
      exact Connection.attached_writeStep (h c hc) hg hw
  | setPublishQueue | setSendQueue | setLastWill | call | hold | grant =>
      cases outside_of_move ht.follows (move_of_step hstep) (by simp) (by simp) with
      | absent hc' => cases hc'.symm.trans hd
      | made hm hc' =>
          cases hc'.symm.trans hd
          exact Connection.attached_of_offline rfl rfl
      | kept c c' hm hc hc' hk hw hb =>
          cases hc'.symm.trans hd
          exact Connection.attached_between (h c hc) hk hb

/-- The invariant of the runs. -/
structure Sound (s : System C) : Prop where
  tended : s.Tended
  bounded : s.QueueBounded
  agrees : s.impl.Agrees
  restores : s.Restores
  failsOnOwn : s.FailsOnOwn
  fed : ∀ c, s.connection = some c → c.Fed
  attached : ∀ c, s.connection = some c → c.Attached

theorem sound_step (h : s.Sound) (hg : s.Harmless a) (hstep : s.Steps a s') : s'.Sound := by
  have hm := move_of_step hstep
  exact
    { tended := tended_step h.tended hstep
      bounded := queueBounded_step h.tended.wellFormed h.bounded hstep
      agrees := agrees_move h.agrees hg.keepsTopics hm
      restores := restores_move h.tended.wellFormed h.restores hg.restoreFits hm
      failsOnOwn := failsOnOwn_move h.failsOnOwn hg.leavesFailure hm
      fed := fed_move h.fed hg.outlastsWake hm
      attached := attached_step h.tended h.attached hg.keepsSelected hstep }

theorem not_faulty_of_sound {f : Fault} (h : s.Sound) (hg : s.Harmless a) : ¬ Faulty s a f := by
  intro hf
  cases hf with
  | publish hfree hq =>
      obtain ⟨hst, hty, hsize⟩ := (Impl.toPublishQueue_eq_none_iff h.bounded.1).mp hq
      exact hg.queuesWithRoom hst hty hsize
  | unsubscribe hmem hi =>
      have hsome := Impl.isSome_removeSubscription h.agrees hmem
      rw [hi] at hsome
      cases hsome
  | send hh hp =>
      have hwf := h.tended.wellFormed
      simp [WellFormed, hh, hp] at hwf
  | resubscribe hc hh hsize =>
      have hrestores := h.restores
      simp only [Restores, hh] at hrestores
      obtain ⟨d, hd, -, hroom⟩ := hrestores
      cases hc.symm.trans hd
      exact absurd hroom.1 (by omega)
  | pop hc hpc hst hq =>
      obtain hne | hstop := h.fed _ hc hpc
      · exact hne hq
      · exact hst hstop
  | socketError hc hpc hp =>
      have hset := (h.failsOnOwn _ hc).1 hpc
      rw [hp] at hset
      cases hset
  | @select c hc hpc hk =>
      have hselects : c.selects = true := by
        simp [Connection.selects, hpc, ReadPc.selecting]
      exact h.attached _ hc hselects hk

theorem sound_of_run {s₀ : System C} {as : List (Action C)} (h₀ : Initial s₀)
    (h : Run (Guarded Steps Harmless) s₀ as s) : s.Sound := by
  refine Run.invariant ?_ (fun _ _ _ hs hstep => sound_step hs hstep.1 hstep.2) h
  have htended := tended_of_reachable ⟨s₀, [], h₀, .nil⟩
  obtain ⟨config, rfl⟩ := h₀
  exact
    { tended := htended
      bounded := ⟨Nat.zero_le _, fun _ => rfl⟩
      agrees := Client.agrees_init
      restores := trivial
      failsOnOwn := fun _ hc => (nomatch hc)
      fed := fun _ hc => (nomatch hc)
      attached := fun _ hc => (nomatch hc) }

/-- **Nothing goes wrong**: only the faulty steps end in a fault, and in a run whose steps
are harmless, no harmless step is one of them. -/
theorem never_faults :
    (∀ {s : System C} {a : Action C} {f : Fault}, s.step a = .error (.fault f) → s.Faulty a f) ∧
    ∀ {s₀ s : System C} {as : List (Action C)} {a : Action C}, Initial s₀ →
      Run (Guarded Steps Harmless) s₀ as s → s.Harmless a → ∀ f, ¬ s.Faulty a f :=
  ⟨faulty_of_step, fun h₀ h hg _ => not_faulty_of_sound (sound_of_run h₀ h) hg⟩

/-- A client subscribes and publishes while it is CONNECTING, its connection comes
up, and it unsubscribes and publishes once more. -/
def restoreAndUnsubscribe : List (Action Unit) :=
  [.call .connect, .hold, .call (.subscribe [97] ()), .call (.publish (messageOf 1))] ++
    toConnack ++ [.grant, .hold, .hold, .call (.unsubscribe [97]), .hold, .hold,
      .call (.publish (messageOf 2)), .hold, .hold, .write .next, .write .next, .read .next]

/-- The next step of the read thread has a socket to select on. -/
theorem never_faults_restoreAndUnsubscribe : ∃ (s : System Unit) (c : Connection),
    s.connection = some c ∧ c.readPc = .recv ∧ s.accepted = [messageOf 2] ∧
      ∀ f, ¬ s.Faulty (.read .next) f := by
  obtain ⟨s, hrun, htest⟩ := guarded_run_of_exec Harmless restoreAndUnsubscribe
    (fun s => s.Harmless (.read .next) ∧ s.accepted = [messageOf 2] ∧
      s.connection.any (·.readPc = .recv)) (by decide +kernel)
  obtain ⟨hg, haccepted, hany⟩ := of_decide_eq_true htest
  obtain ⟨c, hc, hpc⟩ := (Option.any_eq_true _ _).mp hany
  exact ⟨s, c, hc, of_decide_eq_true hpc, haccepted, never_faults.2 initial_default hrun hg⟩

end System

end TrueMqtt
