import TrueMqtt.System.Handshake

/-!
# TrueMqtt.System.Silence

After `disconnect`.

The threads of the connection run on while `~Connection` waits for them, with packets
in their hands that would change the state or invoke callbacks.  None of it gets
through: for both the read thread has to wait for `m_state_mutex`, which `disconnect`
holds until the thread is gone.  So a client that is disconnected is silent until the
next `connect`, holds no message and no callback, and once `disconnect` has returned
there is nothing but API calls (`silent_after_disconnect`).
-/

namespace TrueMqtt

/-- A call of `Client::connect`. -/
def Action.isConnect {C : Type} : Action C → Bool
  | call .connect => true
  | _ => false

/-- A step of a user thread that enters the API. -/
def Action.isApi {C : Type} : Action C → Bool
  | setPublishQueue _ _ | setSendQueue _ | setLastWill _ _ _ | call _ => true
  | _ => false

namespace System

variable {C : Type} {s t s' : System C} {a : Action C}

/-- Disconnected, and nothing has been reported, delivered or accepted since `t`. -/
structure SilentSince (t s : System C) : Prop where
  state : s.impl.state = .disconnected
  stateChanges : s.stateChanges = t.stateChanges
  delivered : s.delivered = t.delivered
  accepted : s.accepted = t.accepted

/-- A send of a disconnected client does not happen. -/
theorem not_sending (hwf : s.WellFormed) (hst : s.impl.state = .disconnected) {o : Outgoing}
    {k : After} : s.holder ≠ .sendTest o k ∧ s.holder ≠ .sendPush o k := by
  constructor
  all_goals
    intro hh
    simp only [WellFormed, hh, hst] at hwf
    cases hwf.1

/-- Outside of `~Connection` a disconnected client has no connection. -/
theorem connection_of_free (hwf : s.WellFormed) (hst : s.impl.state = .disconnected)
    (hfree : s.holder = .free) : s.connection = none := by
  simp only [WellFormed, hfree] at hwf
  have hp := hwf.1.mp hst
  rw [hp] at hwf
  exact Option.isNone_iff_eq_none.mp (Option.isSome_eq_false_iff.mp hwf.2)

theorem silentSince_move (hwf : s.WellFormed) (h : t.SilentSince s) (hg : a.isConnect = false)
    (hm : Move s a s') : t.SilentSince s' := by
  have hst := h.state
  have hnone := connection_of_free hwf hst
  cases hm with
  | idle | setPublishQueue | setSendQueue | setLastWill | joinRead | assign | stop | notify
  | destroyed | read | write => exact ⟨h.state, h.stateChanges, h.delivered, h.accepted⟩
  | connect => cases hg
  | disconnect hfree hne => exact absurd hst hne
  | toPublishQueue hfree hst' | publish hfree hst' | addSubscription hfree hst'
  | subscribe hfree hst' | removeSubscription hfree hst' | unsubscribe hfree hst' =>
      cases hst.symm.trans hst'
  | room hc hh | refused hc hh => exact absurd hh (not_sending hwf hst).1
  | pushed hc hh => exact absurd hh (not_sending hwf hst).2
  | replaced hc hh =>
      simp only [WellFormed, hh, hst] at hwf
      cases hwf.1
  | connected hc hfree | lost hc hfree | message hc hfree =>
      cases (hnone hfree).symm.trans hc

/-! ## nothing is kept -/

/-- A client that is disconnected holds no message and no callback. -/
def Emptied (s : System C) : Prop :=
  s.impl.state = .disconnected → s.impl.subscriptions = [] ∧ s.impl.publishQueue = []

/-- A client that is not disconnected may hold something. -/
theorem emptied_of_state (hst : s.impl.state ≠ .disconnected) : s.Emptied :=
  fun hdis => absurd hdis hst

theorem emptied_after {c : Connection} {sent : Bool} {k : After}
    (hst : s.impl.state = .connected) (ha : s.after c sent k = .ok s') : s'.Emptied := by
  obtain hon | ⟨-, -, rfl⟩ := goesOn_after ha
  · exact emptied_of_state (by rw [hon.state, hst]; decide)
  · refine emptied_of_state ?_
    rw [impl_disconnect]
    exact fun hdis => by cases hst.symm.trans hdis

theorem emptied_move (hwf : s.WellFormed) (h : s.Emptied) (hm : Move s a s') : s'.Emptied := by
  cases hm with
  | idle | setPublishQueue | setSendQueue | setLastWill | joinRead | assign | stop | notify
  | destroyed | replaced | message | read | write => exact h
  | connect hfree hst => exact emptied_of_state (by simp [setState, connect])
  | disconnect hfree hst =>
      intro _
      rw [impl_disconnect]
      exact ⟨rfl, rfl⟩
  | toPublishQueue hfree hst hq =>
      refine emptied_of_state ?_
      obtain ⟨-, rfl⟩ | ⟨-, q, -, rfl⟩ := Impl.toPublishQueue_spec hq
      all_goals simp [hst]
  | publish hfree hst => exact emptied_of_state (by simp [sendPublish, hst])
  | addSubscription hfree hst => exact emptied_of_state (by simp [Impl.addSubscription, hst])
  | subscribe hfree hst =>
      exact emptied_of_state (by simp [sendSubscribe, Impl.takePacketId, Impl.addSubscription, hst])
  | removeSubscription hfree hst hmem hi =>
      obtain ⟨subscriptions, rfl⟩ := Impl.removeSubscription_spec hi
      exact emptied_of_state (by simp [hst])
  | unsubscribe hfree hst hmem hi =>
      obtain ⟨subscriptions, rfl⟩ := Impl.removeSubscription_spec hi
      exact emptied_of_state (by simp [sendUnsubscribe, Impl.takePacketId, hst])
  | room hc hh =>
      simp only [WellFormed, hh] at hwf
      exact emptied_of_state (by simp [hwf.1])
  | refused hc hh hsize ha | pushed hc hh hqf ha =>
      simp only [WellFormed, hh] at hwf
      exact emptied_after hwf.1 ha
  | connected hc hfree hpc =>
      refine emptied_of_state ?_
      rw [(goesOn_resubscribe _ _ _).state]
      simp [setState]
  | lost hc hfree hpc => exact emptied_of_state (by simp [setState])

theorem emptied_of_reachable (hr : s.Reachable) : s.Emptied := by
  obtain ⟨s₀, as, h₀, hrun⟩ := hr
  have hinit : s₀.Emptied := by
    obtain ⟨config, rfl⟩ := h₀
    exact fun _ => ⟨rfl, rfl⟩
  exact (invariant_of_run h₀ hinit (fun _ _ _ => emptied_move) hrun).2

/-! ## after `disconnect` -/

/-- Without a connection there is no thread to take a step. -/
theorem isApi_of_steps (hc : s.connection = none) (h : s.Steps a s') : a.isApi = true := by
  unfold Steps step at h
  rw [hc] at h
  cases a with
  | hold | grant | read i | write i => cases h
  | setPublishQueue | setSendQueue | setLastWill | call => rfl

/-- **Silence**: from a disconnected client on, up to the next `connect`, no state
change is reported, no message is delivered and none is accepted, and the client holds
none.  Once `~Connection` is over there is no connection, and only API calls happen. -/
theorem silent_after_disconnect {as : List (Action C)} (hr : t.Reachable)
    (hst : t.impl.state = .disconnected)
    (h : Run (Guarded Steps fun _ a => a.isConnect = false) t as s) :
    t.SilentSince s ∧ (s.impl.subscriptions = [] ∧ s.impl.publishQueue = []) ∧
      (s.holder = .free →
        s.connection = none ∧ ∀ a s', s.Steps a s' → a.isApi = true) := by
  have hinv : s.Reachable ∧ t.SilentSince s := by
    refine h.invariant (I := fun s => s.Reachable ∧ t.SilentSince s)
      ⟨hr, hst, rfl, rfl, rfl⟩ fun u b u' hu hstep => ⟨?_, ?_⟩
    · exact reachable_of_run hu.1 (.snoc .nil hstep.2)
    · exact silentSince_move (wellFormed_of_reachable hu.1) hu.2 hstep.1 (move_of_step hstep.2)
  have hwf := wellFormed_of_reachable hinv.1
  refine ⟨hinv.2, emptied_of_reachable hinv.1 hinv.2.state, fun hfree => ?_⟩
  have hnone := connection_of_free hwf hinv.2.state hfree
  exact ⟨hnone, fun a s' hstep => isApi_of_steps hnone hstep⟩

/-- A client subscribes, and disconnects when a message for it has been received. -/
def disconnectAtMessage : List (Action Unit) :=
  [.call .connect, .hold] ++ toConnack ++
    [.grant, .call (.subscribe [97] ()), .hold, .hold, .read .next, .read .next,
      .read (.timer false),
      .read (.receive (.packet (Packet.ofBody .publish 0 [0, 1, 97, 120]))), .call .disconnect]

/-- The message is not delivered. -/
theorem silent_after_disconnect_atMessage : ∃ s : System Unit,
    s.delivered = [] ∧ s.stateChanges = [.connecting, .connected, .disconnected] ∧
      s.connection.any fun c => c.readPc = .lockMessage [97] [120] ∧ c.state = .stop := by
  obtain ⟨t, hrun, htest⟩ := run_of_exec disconnectAtMessage
    (fun t => t.impl.state = .disconnected ∧ t.delivered = [] ∧
      t.stateChanges = [.connecting, .connected, .disconnected] ∧
      (exec (nextIf fun _ a => a.isConnect = false) t [.hold, .write .next, .hold]).any fun s =>
        s.connection.any fun c => c.readPc = .lockMessage [97] [120] ∧ c.state = .stop)
    (by decide +kernel)
  obtain ⟨hst, hdelivered, hchanges, hexec⟩ := of_decide_eq_true htest
  obtain ⟨s, hmore, hany⟩ := Run.of_exec (fun {_ _ _} => guarded_of_nextIf) hexec
  have hsilent := (silent_after_disconnect ⟨{}, _, initial_default, hrun⟩ hst hmore).1
  exact ⟨s, hsilent.delivered.trans hdelivered, hsilent.stateChanges.trans hchanges, hany⟩

end System

end TrueMqtt
