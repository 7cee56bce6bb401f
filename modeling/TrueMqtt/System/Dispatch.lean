import TrueMqtt.Client.Delivery
import TrueMqtt.System.Greeting
import TrueMqtt.System.Teardown

/-!
# TrueMqtt.System.Dispatch

The messages received.

`recvLoop` passes a PUBLISH on to `messageReceived`, where the read thread waits for
`m_state_mutex`.  Meanwhile API calls may come first, and the connection may be asked to
stop.  Still every PUBLISH read from a socket is handled once, in the order of their
arrival, before the read thread reads on; at most the last one waits
(`dispatched_once`).  What is delivered is what these messages invoke, each on the
subscriptions of its own moment.
-/

namespace TrueMqtt

/-- The message of a PUBLISH. -/
def Incoming.message? : Incoming → Option (Str × Str)
  | publish topic message => some (topic, message)
  | _ => none

/-- The message that is received. -/
def ReadInput.message? : ReadInput → Option (Str × Str)
  | receive (.packet p) => p.incoming.bind Incoming.message?
  | _ => none

/-- The message the read thread waits with. -/
def ReadPc.message? : ReadPc → Option (Str × Str)
  | lockMessage topic message => some (topic, message)
  | _ => none

/-- The messages received, and those handled with the client they were handled by. -/
structure Inbox (C : Type) where
  received : List (Str × Str) := []
  handled : List (Impl C × Str × Str) := []

namespace Connection

variable {cfg : Config} {c c' : Connection}

theorem message?_received (p : Packet) :
    (received p).message? = p.incoming.bind Incoming.message? := by
  unfold received
  generalize p.incoming = e
  cases e with
  | none => rfl
  | some e =>
      cases e with
      | suback id returnCode =>
          simp only
          split <;> rfl
      | connack | publish | unsuback | pingresp => rfl

theorem message?_dispatch (st : ConnectionState) : (dispatch st).message? = none := by
  cases st <;> rfl

theorem readPc_push (o : Outgoing) (c : Connection) : (c.push o).readPc = c.readPc := by
  rw [push, readPc_notify]

/-- The read thread waits with a message exactly when it has just received it. -/
theorem message?_readStep {i : ReadInput} (h : c.readStep cfg i = .ok c') :
    c.readPc.message? = none ∧ c'.readPc.message? = i.message? := by
  cases readBranch_of_readStep h with
  | dispatch hpc => exact ⟨by rw [hpc]; rfl, message?_dispatch _⟩
  | received hpc hu => exact ⟨by rw [hpc]; rfl, message?_received _⟩
  | sendConnect hpc hqf | sendPingRequest hpc hqf => exact ⟨by rw [hpc]; rfl, rfl⟩
  | _ hpc => exact ⟨by rw [hpc]; rfl, rfl⟩

end Connection

namespace System

variable {C : Type} {s s' : System C} {a : Action C} {c : Connection} {g : Inbox C}

/-- The message that waits for `m_state_mutex`. -/
def waiting (s : System C) : List (Str × Str) :=
  s.connection.elim [] fun c => c.readPc.message?.toList

/-- Take down what a step receives, and what it handles. -/
def noteMessage (s : System C) (a : Action C) (_ : System C) (g : Inbox C) : Inbox C :=
  match a with
  | .read i => { g with received := g.received ++ i.message?.toList }
  | .grant => { g with handled := g.handled ++ s.waiting.map fun m => (s.impl, m) }
  | _ => g

/-- Every message is handled, in order, or waits; and these are the callbacks. -/
structure Dispatched (p : System C × Inbox C) : Prop where
  order : p.2.received = p.2.handled.map Prod.snd ++ p.1.waiting
  delivered : p.1.delivered = p.2.handled.flatMap fun h => h.1.messageReceived h.2.1 h.2.2

theorem waiting_of_some (hc : s.connection = some c) :
    s.waiting = c.readPc.message?.toList := by
  rw [waiting, hc]
  rfl

theorem waiting_of_none (hc : s.connection = none) : s.waiting = [] := by
  rw [waiting, hc]
  rfl

theorem waiting_of_same {d : Connection} (hc : s.connection = some c)
    (hd : s'.connection = some d) (hpc : d.readPc = c.readPc) : s'.waiting = s.waiting := by
  rw [waiting_of_some hc, waiting_of_some hd, hpc]

section delivered

variable (c : Connection) (s : System C)

theorem delivered_disconnect (again : Bool) : (s.disconnect again).delivered = s.delivered := by
  cases hc : s.connection <;> cases again <;> simp [disconnect, connect, hc]

theorem delivered_flush (messages : List Message) :
    (s.flush c messages).delivered = s.delivered := by
  cases messages <;> rfl

theorem delivered_resubscribe (topics : List Str) :
    (s.resubscribe c topics).delivered = s.delivered := by
  cases topics with
  | nil => exact delivered_flush c s _
  | cons t ts => rfl

end delivered

theorem delivered_after {sent : Bool} {k : After} (h : s.after c sent k = .ok s') :
    s'.delivered = s.delivered := by
  cases k with
  | publish m =>
      cases h
      rfl
  | request =>
      cases h
      cases sent with
      | true => rfl
      | false => exact delivered_disconnect { s with connection := some c } true
  | resubscribe topics =>
      cases sent with
      | true =>
          cases h
          exact delivered_resubscribe c s topics
      | false => cases h
  | flush messages =>
      cases h
      cases sent with
      | true => exact delivered_flush c s messages
      | false => rfl

/-- A send leaves the message waiting; in `connectionStateChange` there is none. -/
theorem waiting_after {d : Connection} {sent : Bool} {o : Outgoing} {k : After}
    (hf : s.Follows) (hc : s.connection = some c)
    (hh : s.holder = .sendTest o k ∨ s.holder = .sendPush o k) (hd : d.readPc = c.readPc)
    (ha : s.after d sent k = .ok s') : s'.waiting = s.waiting := by
  obtain hsame | ⟨hk, hrestored⟩ := connection_after ha
  · exact waiting_of_same hc hsame hd
  · have hpc := readPc_of_restoring hf hc hh hk
    rw [waiting_of_some hc, waiting_of_some hrestored, hpc]
    rfl

/-- A step that neither receives nor handles a message. -/
theorem waiting_move (hwf : s.WellFormed) (hf : s.Follows) (hj : s.ReadJoined)
    (hm : Move s a s') (hread : ∀ i, a ≠ .read i) (hgrant : a ≠ .grant) :
    s'.waiting = s.waiting ∧ s'.delivered = s.delivered := by
  cases hm with
  | connect hfree hst =>
      simp only [WellFormed, hfree] at hwf
      have hnone : s.connection = none := by
        have hsome := hwf.2
        rw [hwf.1.mp hst] at hsome
        exact Option.isNone_iff_eq_none.mp (Option.isSome_eq_false_iff.mp hsome)
      exact ⟨(waiting_of_none hnone).symm, rfl⟩
  | disconnect hfree hst =>
      refine ⟨?_, delivered_disconnect _ false⟩
      rw [waiting, connection_disconnect]
      rfl
  | refused hc hh hsize ha => exact ⟨waiting_after hf hc (.inl hh) rfl ha, delivered_after ha⟩
  | @pushed c o k s' hc hh hqf ha =>
      have hpc := Connection.readPc_push o c
      exact ⟨waiting_after hf hc (.inr hh) hpc ha, delivered_after ha⟩
  | stop hc hh => exact ⟨waiting_of_same hc rfl rfl, rfl⟩
  | notify hc hh => exact ⟨waiting_of_same hc rfl (Connection.readPc_notify _), rfl⟩
  | destroyed hc hh hpc | replaced hc hh hpc =>
      have hdone := hj _ _ hh hc
      refine ⟨?_, rfl⟩
      rw [waiting_of_some hc, hdone]
      rfl
  | connected | lost | message => exact absurd rfl hgrant
  | read => exact absurd rfl (hread _)
  | write hc hw =>
      exact ⟨waiting_of_same hc rfl (Connection.writeFrame_of_writeStep hw).readPc, rfl⟩
  | idle | setPublishQueue | setSendQueue | setLastWill | toPublishQueue | publish
  | addSubscription | subscribe | removeSubscription | unsubscribe | room | joinRead | assign =>
      exact ⟨rfl, rfl⟩

/-- The read thread is granted the mutex: a message that waits is handled. -/
theorem waiting_grant (h : s.Steps .grant s') :
    s'.waiting = [] ∧ s'.delivered =
      s.delivered ++ s.waiting.flatMap fun m => s.impl.messageReceived m.1 m.2 := by
  unfold Steps at h
  rw [step] at h
  split at h
  · cases h
  · next c hc =>
    unfold grant at h
    split at h
    · cases h
    · split at h
      · next hpc =>
        cases h
        rw [waiting_of_some hc, hpc, delivered_resubscribe]
        refine ⟨?_, (List.append_nil _).symm⟩
        obtain hd | hd := connection_resubscribe { c with readPc := .stateChange }
          s.impl.subscriptionTopics.elems (s.setState .connected)
        all_goals exact waiting_of_some hd
      · next hpc =>
        cases h
        rw [waiting_of_some hc, hpc]
        exact ⟨rfl, (List.append_nil _).symm⟩
      · next topic message hpc =>
        cases h
        rw [waiting_of_some hc, hpc]
        refine ⟨rfl, ?_⟩
        show _ = s.delivered ++ List.flatMap _ [_]
        rw [List.flatMap_singleton]
      · cases h

theorem dispatched_step {p p' : System C × Inbox C} (hwf : p.1.WellFormed) (hf : p.1.Follows)
    (hj : p.1.ReadJoined) (h : Dispatched p) (hstep : Observed Steps noteMessage p a p') :
    Dispatched p' := by
  obtain ⟨s, g⟩ := p
  obtain ⟨s', g'⟩ := p'
  obtain ⟨hs, hg⟩ := hstep
  obtain ⟨horder, hdelivered⟩ := h
  change s.Steps a s' at hs
  change g' = s.noteMessage a s' g at hg
  change g.received = g.handled.map Prod.snd ++ s.waiting at horder
  subst hg
  cases a with
  | read i =>
      obtain ⟨c, c', hc, hr, rfl⟩ := readStep_of_steps hs
      obtain ⟨hnone, hsome⟩ := Connection.message?_readStep hr
      rw [waiting_of_some hc, hnone] at horder
      refine ⟨?_, hdelivered⟩
      show g.received ++ i.message?.toList = g.handled.map Prod.snd ++ c'.readPc.message?.toList
      rw [horder, hsome, Option.toList_none, List.append_nil]
  | grant =>
      obtain ⟨hnone, hmore⟩ := waiting_grant hs
      refine ⟨?_, ?_⟩
      · show g.received =
          (g.handled ++ s.waiting.map fun m => (s.impl, m)).map Prod.snd ++ s'.waiting
        rw [hnone, List.append_nil, List.map_append, List.map_map, horder]
        simp
      · show s'.delivered = (g.handled ++ s.waiting.map fun m => (s.impl, m)).flatMap _
        change s.delivered = _ at hdelivered
        rw [hmore, hdelivered, List.flatMap_append, List.flatMap_map]
  | setPublishQueue | setSendQueue | setLastWill | call | hold | write =>
      obtain ⟨hwaiting, hsame⟩ := waiting_move hwf hf hj (move_of_step hs)
        (fun i hi => by cases hi) (fun hi => by cases hi)
      exact ⟨by rw [hwaiting]; exact horder, by rw [hsame]; exact hdelivered⟩

/-- **Every message once**: in a run, the PUBLISHes received from all sockets are the
messages handled, in this order, and at most one that waits for the mutex with the read
thread.  The callbacks invoked are, message after message, those of the filters that lead
to its topic in the client that handled it, none unless it was CONNECTED. -/
theorem dispatched_once {s₀ : System C} {as : List (Action C)} (h₀ : Initial s₀)
    (h : Run (Observed Steps noteMessage) (s₀, {}) as (s, g)) :
    g.received = g.handled.map Prod.snd ++ s.waiting ∧ s.waiting.length ≤ 1 ∧
      s.delivered = g.handled.flatMap fun h =>
        if h.1.state = .connected then
          (visited h.2.1).flatMap fun f => (h.1.callbacksOf f).map (·, h.2.1, h.2.2)
        else [] := by
  have hall : s.WellFormed ∧ s.Follows ∧ s.ReadJoined ∧ Dispatched (s, g) := by
    refine h.invariant (I := fun p => p.1.WellFormed ∧ p.1.Follows ∧ p.1.ReadJoined ∧
      Dispatched p) ?_ ?_
    · refine ⟨wellFormed_initial h₀, follows_initial h₀, readJoined_of_run h₀ .nil, ?_⟩
      obtain ⟨config, rfl⟩ := h₀
      exact ⟨rfl, rfl⟩
    · intro p b p' hp hstep
      obtain ⟨hwf, hf, hj, hd⟩ := hp
      have hm := move_of_step hstep.1
      exact ⟨wellFormed_move hwf hm, follows_move hwf hf hm, readJoined_move hj hm,
        dispatched_step hwf hf hj hd hstep⟩
  obtain ⟨-, -, -, horder, hdelivered⟩ := hall
  refine ⟨horder, ?_, ?_⟩
  · unfold waiting
    cases hc : s.connection with
    | none => exact Nat.zero_le 1
    | some c =>
        show c.readPc.message?.toList.length ≤ 1
        cases c.readPc.message? <;> simp
  · rw [hdelivered]
    congr 1
    funext h
    by_cases hst : h.1.state = .connected
    · rw [if_pos hst, Client.messageReceived_eq_flatMap hst]
    · rw [if_neg hst, Impl.messageReceived, if_pos hst]

/-- A client subscribes, receives two messages, and subscribes once more before the
second is handled. -/
def receiveTwo : List (Action Nat) :=
  [.call .connect, .hold] ++ toConnack ++
    [.grant, .call (.subscribe [97] 1), .hold, .hold, .read .next, .read .next,
      .read (.timer false), .read (.receive (.packet incomingPublish)), .grant,
      .read .next, .read .next, .read (.timer false),
      .read (.receive (.packet incomingPublish)), .call (.subscribe [97] 2), .hold, .hold]

theorem dispatched_once_receiveTwo : ∃ (s : System Nat) (g : Inbox Nat),
    g.received = [([97], [120]), ([97], [120])] ∧ g.handled.length = 1 ∧
      s.waiting = [([97], [120])] ∧ s.delivered = [(1, [97], [120])] := by
  have heval : (exec (observe next noteMessage) (({} : System Nat), {}) receiveTwo).any
      (fun p => p.2.handled.length = 1 ∧ p.1.waiting = [([97], [120])] ∧
        p.2.handled.map Prod.snd = [([97], [120])] ∧ p.1.delivered = [(1, [97], [120])]) =
        true := by
    decide +kernel
  obtain ⟨⟨s, g⟩, hrun, htest⟩ := Run.of_exec (R := Observed Steps noteMessage)
    (observed_of_observe fun {_ _ _} => steps_of_next) heval
  obtain ⟨hlength, hwaiting, hhandled, hdelivered⟩ := of_decide_eq_true htest
  obtain ⟨horder, -, -⟩ := dispatched_once initial_default hrun
  rw [hwaiting, hhandled] at horder
  exact ⟨s, g, horder, hlength, hwaiting, hdelivered⟩

end System

end TrueMqtt
