import TrueMqtt.Connection.Moves
import TrueMqtt.System

/-!
# TrueMqtt.System.Moves

The transitions of the system, one constructor for each thing a step can do
(`Move`), with the condition under which it does it.  Every invariant is proved
by cases on it (`move_of_step`).  The moves that end in `Impl::disconnect` or go on
after a send have their frame here too (`GoesOn`).
-/

namespace TrueMqtt

/-- Whether the send belongs to `connectionStateChange`. -/
def After.restoring : After → Bool
  | resubscribe _ | flush _ => true
  | _ => false

namespace System

variable {C : Type}

/-- What one step of the system can do. -/
inductive Move (s : System C) : Action C → System C → Prop
  | idle {a : Action C} : Move s a s
  | setPublishQueue {type : PublishQueueType} {size : Nat} (hst : s.impl.state = .disconnected) :
      Move s (.setPublishQueue type size)
        { s with impl := { s.impl with publishQueueType := type, publishQueueSize := size } }
  | setSendQueue {size : Nat} (hst : s.impl.state = .disconnected) :
      Move s (.setSendQueue size) { s with impl := { s.impl with sendQueueSize := size } }
  | setLastWill {topic message : Str} {retain : Bool} {config : Config} :
      Move s (.setLastWill topic message retain) { s with config := config }
  | connect (hfree : s.holder = .free) (hst : s.impl.state = .disconnected) :
      Move s (.call .connect) (s.setState .connecting).connect
  | disconnect (hfree : s.holder = .free) (hst : s.impl.state ≠ .disconnected) :
      Move s (.call .disconnect) ((s.setState .disconnected).disconnect false)
  | toPublishQueue {m : Message} {i : Impl C} {accepted : Bool} (hfree : s.holder = .free)
      (hst : s.impl.state = .connecting) (hq : s.impl.toPublishQueue m = some (i, accepted)) :
      Move s (.call (.publish m))
        { s with
          impl := i
          accepted := if accepted then s.accepted ++ [m] else s.accepted }
  | publish {m : Message} (hfree : s.holder = .free) (hst : s.impl.state = .connected) :
      Move s (.call (.publish m)) (s.sendPublish m (.publish m))
  | addSubscription {topic : Str} {callback : C} (hfree : s.holder = .free)
      (hst : s.impl.state = .connecting) :
      Move s (.call (.subscribe topic callback))
        { s with impl := s.impl.addSubscription topic callback }
  | subscribe {topic : Str} {callback : C} (hfree : s.holder = .free)
      (hst : s.impl.state = .connected) :
      Move s (.call (.subscribe topic callback))
        ({ s with impl := s.impl.addSubscription topic callback }.sendSubscribe topic .request)
  | removeSubscription {topic : Str} {i : Impl C} (hfree : s.holder = .free)
      (hst : s.impl.state = .connecting) (hmem : topic ∈ s.impl.subscriptionTopics)
      (hi : s.impl.removeSubscription topic = some i) :
      Move s (.call (.unsubscribe topic)) { s with impl := i }
  | unsubscribe {topic : Str} {i : Impl C} (hfree : s.holder = .free)
      (hst : s.impl.state = .connected) (hmem : topic ∈ s.impl.subscriptionTopics)
      (hi : s.impl.removeSubscription topic = some i) :
      Move s (.call (.unsubscribe topic)) ({ s with impl := i }.sendUnsubscribe topic .request)
  | room {c : Connection} {o : Outgoing} {k : After} (hc : s.connection = some c)
      (hh : s.holder = .sendTest o k) (hsize : c.sendQueue.length ≤ s.impl.sendQueueSize) :
      Move s .hold { s with holder := .sendPush o k }
  | refused {c : Connection} {o : Outgoing} {k : After} {s' : System C}
      (hc : s.connection = some c) (hh : s.holder = .sendTest o k)
      (hsize : c.sendQueue.length > s.impl.sendQueueSize) (ha : s.after c false k = .ok s') :
      Move s .hold s'
  | pushed {c : Connection} {o : Outgoing} {k : After} {s' : System C}
      (hc : s.connection = some c) (hh : s.holder = .sendPush o k) (hqf : c.queueFree = true)
      (ha : s.after (c.push o) true k = .ok s') :
      Move s .hold s'
  | stop {c : Connection} {again : Bool} (hc : s.connection = some c)
      (hh : s.holder = .stop again) :
      Move s .hold
        { s with connection := some { c with state := .stop }, holder := .notify again }
  | notify {c : Connection} {again : Bool} (hc : s.connection = some c)
      (hh : s.holder = .notify again) :
      Move s .hold { s with connection := some c.notify, holder := .joinRead again }
  | joinRead {c : Connection} {again : Bool} (hc : s.connection = some c)
      (hh : s.holder = .joinRead again) (hpc : c.readPc = .done) :
      Move s .hold { s with holder := .joinWrite again }
  | destroyed {c : Connection} (hc : s.connection = some c) (hh : s.holder = .joinWrite false)
      (hpc : c.writePc = .done) :
      Move s .hold
        { s with connection := none, archive := s.archive ++ c.completed, holder := .free }
  | replaced {c : Connection} (hc : s.connection = some c) (hh : s.holder = .joinWrite true)
      (hpc : c.writePc = .done) :
      Move s .hold
        { s with
          connection := some (.new s.config)
          archive := s.archive ++ c.completed
          holder := .assign }
  | assign (hh : s.holder = .assign) (hc : s.connection.isSome = true) :
      Move s .hold { s with pointer := true, holder := .free }
  | connected {c : Connection} (hc : s.connection = some c) (hfree : s.holder = .free)
      (hpc : c.readPc = .lockState true) :
      Move s .grant
        ((s.setState .connected).resubscribe { c with readPc := .stateChange }
          s.impl.subscriptionTopics.elems)
  | lost {c : Connection} (hc : s.connection = some c) (hfree : s.holder = .free)
      (hpc : c.readPc = .lockState false) :
      Move s .grant
        { s.setState .connecting with connection := some { c with readPc := .clearQueue } }
  | message {c : Connection} {topic message : Str} (hc : s.connection = some c)
      (hfree : s.holder = .free) (hpc : c.readPc = .lockMessage topic message) :
      Move s .grant
        { s with
          delivered := s.delivered ++ s.impl.messageReceived topic message
          connection := some { c with readPc := .loop } }
  | read {c c' : Connection} {i : ReadInput} (hc : s.connection = some c)
      (hr : c.readStep s.config i = .ok c') :
      Move s (.read i) { s with connection := some c' }
  | write {c c' : Connection} {i : WriteInput} (hc : s.connection = some c)
      (hw : c.writeStep s.pointer i = .ok c') :
      Move s (.write i) { s with connection := some c' }

variable {s s' : System C} {a : Action C}

theorem move_of_call {k : Call C} (hfree : s.holder = .free) (h : s.call k = .ok s') :
    Move s (.call k) s' := by
  cases k with
  | connect =>
      rw [call] at h
      split at h
      · cases h
        exact .idle
      · next hst =>
        cases h
        exact .connect hfree (not_not.mp hst)
  | disconnect =>
      rw [call] at h
      split at h
      · cases h
        exact .idle
      · next hst =>
        cases h
        exact .disconnect hfree hst
  | publish m =>
      rw [call] at h
      split at h
      · cases h
        exact .idle
      · next hst =>
        split at h
        · cases h
        · next i accepted hq =>
          cases h
          exact .toPublishQueue hfree hst hq
      · next hst =>
        cases h
        exact .publish hfree hst
  | subscribe topic callback =>
      rw [call] at h
      split at h
      · cases h
        exact .idle
      · next hst =>
        have hkeep : (s.impl.addSubscription topic callback).state = s.impl.state := rfl
        cases h
        cases hst' : s.impl.state with
        | disconnected => exact absurd hst' hst
        | connecting =>
            rw [if_neg (by simp [hkeep, hst'])]
            exact .addSubscription hfree hst'
        | connected =>
            rw [if_pos (by simp [hkeep, hst'])]
            exact .subscribe hfree hst'
  | unsubscribe topic =>
      rw [call] at h
      split at h
      · cases h
        exact .idle
      · next hst =>
        split at h
        · cases h
          exact .idle
        · next hnot =>
          have hmem : topic ∈ s.impl.subscriptionTopics := not_not.mp hnot
          split at h
          · cases h
          · next i hi =>
            have hkeep : i.state = s.impl.state := by
              obtain ⟨subscriptions, rfl⟩ := Impl.removeSubscription_spec hi
              rfl
            cases h
            cases hst' : s.impl.state with
            | disconnected => exact absurd hst' hst
            | connecting =>
                rw [if_neg (by simp [hkeep, hst'])]
                exact .removeSubscription hfree hst' hmem hi
            | connected =>
                rw [if_pos (by simp [hkeep, hst'])]
                exact .unsubscribe hfree hst' hmem hi

theorem move_of_hold {c : Connection} (hc : s.connection = some c) (h : s.hold c = .ok s') :
    Move s .hold s' := by
  cases hh : s.holder with
  | free => simp [hold, hh] at h
  | sendTest o k =>
      simp only [hold, hh] at h
      split at h
      · cases h
      · split at h
        · next hsize => exact .refused hc hh hsize h
        · next hsize =>
          cases h
          exact .room hc hh (by omega)
  | sendPush o k =>
      simp only [hold, hh] at h
      split at h
      · next hqf => exact .pushed hc hh hqf h
      · cases h
  | stop again =>
      simp only [hold, hh] at h
      cases h
      exact .stop hc hh
  | notify again =>
      simp only [hold, hh] at h
      cases h
      exact .notify hc hh
  | joinRead again =>
      simp only [hold, hh] at h
      split at h
      · next hpc =>
        cases h
        exact .joinRead hc hh hpc
      · cases h
  | joinWrite again =>
      simp only [hold, hh] at h
      split at h
      · next hpc =>
        cases h
        cases again with
        | false => exact .destroyed hc hh hpc
        | true => exact .replaced hc hh hpc
      · cases h
  | assign =>
      simp only [hold, hh] at h
      cases h
      exact .assign hh (by rw [hc, Option.isSome_some])

theorem move_of_grant {c : Connection} (hc : s.connection = some c) (h : s.grant c = .ok s') :
    Move s .grant s' := by
  unfold grant at h
  split at h
  · cases h
  · next hfree =>
    have hfree' : s.holder = .free := not_not.mp hfree
    split at h
    · next hpc =>
      cases h
      exact .connected hc hfree' hpc
    · next hpc =>
      cases h
      exact .lost hc hfree' hpc
    · next topic message hpc =>
      cases h
      exact .message hc hfree' hpc
    · cases h

/-- A step of the read thread. -/
theorem readStep_of_steps {i : ReadInput} (h : s.Steps (.read i) s') :
    ∃ c c', s.connection = some c ∧ c.readStep s.config i = .ok c' ∧
      s' = { s with connection := some c' } := by
  rw [Steps, step] at h
  split at h
  · cases h
  · next c hc =>
    cases hr : c.readStep s.config i with
    | error e => simp [hr, Except.map] at h
    | ok c' =>
        simp only [hr, Except.map] at h
        cases h
        exact ⟨c, c', hc, hr, rfl⟩

/-- A step of the write thread. -/
theorem writeStep_of_steps {i : WriteInput} (h : s.Steps (.write i) s') :
    ∃ c c', s.connection = some c ∧ c.writeStep s.pointer i = .ok c' ∧
      s' = { s with connection := some c' } := by
  rw [Steps, step] at h
  split at h
  · cases h
  · next c hc =>
    cases hw : c.writeStep s.pointer i with
    | error e => simp [hw, Except.map] at h
    | ok c' =>
        simp only [hw, Except.map] at h
        cases h
        exact ⟨c, c', hc, hw, rfl⟩

/-- Every step of the system is one of its moves. -/
theorem move_of_step (h : s.Steps a s') : Move s a s' := by
  unfold Steps at h
  cases a with
  | setPublishQueue type size =>
      rw [step, setting] at h
      split at h
      · cases h
        exact .idle
      · next hst =>
        cases h
        exact .setPublishQueue (not_not.mp hst)
  | setSendQueue size =>
      rw [step, setting] at h
      split at h
      · cases h
        exact .idle
      · next hst =>
        cases h
        exact .setSendQueue (not_not.mp hst)
  | setLastWill topic message retain =>
      rw [step, setting] at h
      split at h
      · cases h
        exact .idle
      · cases h
        exact .setLastWill
  | call k =>
      rw [step] at h
      split at h
      · next hfree => exact move_of_call hfree h
      · cases h
  | hold =>
      rw [step] at h
      split at h
      · cases h
      · next c hc => exact move_of_hold hc h
  | grant =>
      rw [step] at h
      split at h
      · cases h
      · next c hc => exact move_of_grant hc h
  | read i =>
      obtain ⟨c, c', hc, hr, rfl⟩ := readStep_of_steps h
      exact .read hc hr
  | write i =>
      obtain ⟨c, c', hc, hw, rfl⟩ := writeStep_of_steps h
      exact .write hc hw

/-! ## `Impl::disconnect` -/

section disconnect

variable (again : Bool) (s : System C)

@[simp] theorem impl_disconnect : (s.disconnect again).impl = s.impl.disconnect := by
  cases hc : s.connection <;> cases again <;> simp [disconnect, connect, hc]

@[simp] theorem config_disconnect : (s.disconnect again).config = s.config := by
  cases hc : s.connection <;> cases again <;> simp [disconnect, connect, hc]

@[simp] theorem stateChanges_disconnect :
    (s.disconnect again).stateChanges = s.stateChanges := by
  cases hc : s.connection <;> cases again <;> simp [disconnect, connect, hc]

@[simp] theorem connection_disconnect : (s.disconnect false).connection = s.connection := by
  cases hc : s.connection <;> simp [disconnect, hc]

theorem holder_disconnect :
    (s.disconnect false).holder = .free ∨ (s.disconnect false).holder = .stop false := by
  cases hc : s.connection <;> simp [disconnect, hc]

theorem disconnect_not_assign : (s.disconnect false).holder ≠ .assign := by
  obtain hh | hh := holder_disconnect s
  all_goals simp [hh]

end disconnect

/-! ## what follows a send -/

/-- The call of a send on `c` goes on, to its next send or to its end. -/
structure GoesOn (c : Connection) (s s' : System C) : Prop where
  config : s'.config = s.config
  pointer : s'.pointer = s.pointer
  state : s'.impl.state = s.impl.state
  sendQueueSize : s'.impl.sendQueueSize = s.impl.sendQueueSize
  stateChanges : s'.stateChanges = s.stateChanges
  connection : ∃ pc b, s'.connection = some { c with readPc := pc, processed := b }
  holder : s'.holder = .free ∨ ∃ o k, o.isUrgent = false ∧ s'.holder = .sendTest o k

variable {c : Connection}

theorem goesOn_finish (c : Connection) (s : System C) : GoesOn c s (s.finish c) :=
  ⟨rfl, rfl, rfl, rfl, rfl, ⟨_, _, rfl⟩, .inl rfl⟩

theorem goesOn_flush (c : Connection) (messages : List Message) (s : System C) :
    GoesOn c s (s.flush c messages) := by
  cases messages with
  | nil => exact goesOn_finish c s
  | cons m ms => exact ⟨rfl, rfl, rfl, rfl, rfl, ⟨_, _, rfl⟩, .inr ⟨_, _, rfl, rfl⟩⟩

theorem goesOn_resubscribe (c : Connection) (topics : List Str) (s : System C) :
    GoesOn c s (s.resubscribe c topics) := by
  cases topics with
  | nil => exact goesOn_flush c _ s
  | cons t ts => exact ⟨rfl, rfl, rfl, rfl, rfl, ⟨_, _, rfl⟩, .inr ⟨_, _, rfl, rfl⟩⟩

/-- A request that is refused starts to destroy the connection. -/
theorem goesOn_after {sent : Bool} {k : After} (h : s.after c sent k = .ok s') :
    GoesOn c s s' ∨
      (sent = false ∧ k = .request ∧ s' = { s with connection := some c }.disconnect true) := by
  cases k with
  | publish m =>
      cases h
      exact .inl ⟨rfl, rfl, rfl, rfl, rfl, ⟨_, _, rfl⟩, .inl rfl⟩
  | request =>
      cases h
      cases sent with
      | true => exact .inl ⟨rfl, rfl, rfl, rfl, rfl, ⟨_, _, rfl⟩, .inl rfl⟩
      | false => exact .inr ⟨rfl, rfl, rfl⟩
  | resubscribe topics =>
      cases sent with
      | true =>
          cases h
          exact .inl (goesOn_resubscribe c topics s)
      | false => cases h
  | flush messages =>
      cases h
      cases sent with
      | true => exact .inl (goesOn_flush c messages s)
      | false => exact .inl (goesOn_finish c s)

theorem GoesOn.not_assign (h : GoesOn c s s') : s'.holder ≠ .assign := by
  obtain hh | ⟨o, k, -, hh⟩ := h.holder
  all_goals simp [hh]

/-- A send makes no connection by itself. -/
theorem holder_after {sent : Bool} {k : After} (h : s.after c sent k = .ok s') :
    s'.holder ≠ .assign := by
  obtain hon | ⟨-, -, rfl⟩ := goesOn_after h
  · exact hon.not_assign
  · simp [disconnect]

end System

end TrueMqtt
