import TrueMqtt.System.Moves

/-!
# TrueMqtt.System.Handshake

The client's state against its connection's.

`WellFormed` holds in every run: outside of critical sections `m_state` is
DISCONNECTED exactly when `m_connection` is null.  That the connection of a
CONNECTED client has processed a CONNACK does not: after a refused SUBSCRIBE or
UNSUBSCRIBE the client replaces the connection and stays CONNECTED.  It holds in
the runs without such a refusal (`states_agree`).
-/

namespace TrueMqtt

namespace Holder

/-- Whether the holder is in `connectionStateChange(true)`. -/
def restoring : Holder → Bool
  | sendTest _ k | sendPush _ k => k.restoring
  | _ => false

/-- Whether the holder is in `~Connection`. -/
def destroying : Holder → Bool
  | stop _ | notify _ | joinRead _ | joinWrite _ => true
  | _ => false

/-- Whether the holder is replacing the connection. -/
def replacing : Holder → Bool
  | stop again | notify again | joinRead again | joinWrite again => again
  | _ => false

end Holder

namespace System

variable {C : Type} {s s' : System C} {a : Action C} {c c' : Connection}

/-- What holds of state, pointer and connection at each point of a critical
section. -/
def WellFormed (s : System C) : Prop :=
  match s.holder with
  | .free =>
      (s.impl.state = .disconnected ↔ s.pointer = false) ∧ s.connection.isSome = s.pointer
  | .sendTest _ _ | .sendPush _ _ =>
      s.impl.state = .connected ∧ s.pointer = true ∧ s.connection.isSome = true
  | .stop again | .notify again | .joinRead again | .joinWrite again =>
      s.impl.state = (if again then .connected else .disconnected) ∧ s.pointer = false ∧
        s.connection.isSome = true
  | .assign => s.impl.state ≠ .disconnected ∧ s.pointer = false ∧ s.connection.isSome = true

/-! ## the parts of `connectionStateChange` and `send` -/

theorem wellFormed_of_goesOn (hst : s.impl.state = .connected) (hp : s.pointer = true)
    (h : GoesOn c s s') : s'.WellFormed := by
  obtain ⟨pc, b, hc'⟩ := h.connection
  have hst' := h.state.trans hst
  have hp' := h.pointer.trans hp
  obtain hh | ⟨o, k, -, hh⟩ := h.holder
  all_goals simp [WellFormed, hh, hst', hp', hc']

theorem wellFormed_after {sent : Bool} {k : After} (hst : s.impl.state = .connected)
    (hp : s.pointer = true) (h : s.after c sent k = .ok s') : s'.WellFormed := by
  obtain hon | ⟨-, -, rfl⟩ := goesOn_after h
  · exact wellFormed_of_goesOn hst hp hon
  · exact ⟨hst, rfl, rfl⟩

theorem wellFormed_of_isSome (h : s.WellFormed) (hc : s.connection = some c) :
    { s with connection := some c' }.WellFormed := by
  unfold WellFormed at h ⊢
  rw [hc] at h
  exact h

theorem wellFormed_move (h : s.WellFormed) (hm : Move s a s') : s'.WellFormed := by
  cases hm with
  | idle => exact h
  | setPublishQueue hst => exact h
  | setSendQueue hst => exact h
  | setLastWill => exact h
  | connect hfree hst =>
      simp only [WellFormed, hfree] at h
      have hp : s.pointer = false := h.1.mp hst
      exact ⟨by simp [setState, System.connect], hp, rfl⟩
  | disconnect hfree hst =>
      simp only [WellFormed, hfree] at h
      have hsome : s.connection.isSome = true := by
        rw [h.2]
        simpa using mt h.1.mpr hst
      obtain ⟨c, hc⟩ := Option.isSome_iff_exists.mp hsome
      simp [WellFormed, System.disconnect, setState, hc, Impl.disconnect]
  | toPublishQueue hfree hst hq =>
      obtain ⟨-, rfl⟩ | ⟨-, q, -, rfl⟩ := Impl.toPublishQueue_spec hq <;>
        simpa [WellFormed, hfree] using h
  | publish hfree hst =>
      simp only [WellFormed, hfree, hst] at h
      have hp : s.pointer = true := by simpa using h.1
      exact ⟨hst, hp, by rw [← hp]; exact h.2⟩
  | addSubscription hfree hst => simpa [WellFormed, hfree, Impl.addSubscription] using h
  | subscribe hfree hst =>
      simp only [WellFormed, hfree, hst] at h
      have hp : s.pointer = true := by simpa using h.1
      exact ⟨hst, hp, by rw [← hp]; exact h.2⟩
  | removeSubscription hfree hst hmem hi =>
      obtain ⟨subscriptions, rfl⟩ := Impl.removeSubscription_spec hi
      simpa [WellFormed, hfree] using h
  | unsubscribe hfree hst hmem hi =>
      obtain ⟨subscriptions, rfl⟩ := Impl.removeSubscription_spec hi
      simp only [WellFormed, hfree, hst] at h
      have hp : s.pointer = true := by simpa using h.1
      exact ⟨hst, hp, by rw [← hp]; exact h.2⟩
  | room hc hh hsize => simpa [WellFormed, hh] using h
  | refused hc hh hsize ha =>
      simp only [WellFormed, hh] at h
      exact wellFormed_after h.1 h.2.1 ha
  | pushed hc hh hqf ha =>
      simp only [WellFormed, hh] at h
      exact wellFormed_after h.1 h.2.1 ha
  | stop hc hh => simpa [WellFormed, hh, hc] using h
  | notify hc hh => simpa [WellFormed, hh, hc] using h
  | joinRead hc hh hpc => simpa [WellFormed, hh, hc] using h
  | destroyed hc hh hpc =>
      simp only [WellFormed, hh] at h
      simpa [WellFormed, h.2.1] using h.1
  | replaced hc hh hpc =>
      simp only [WellFormed, hh] at h
      exact ⟨by rw [h.1]; simp, h.2.1, rfl⟩
  | assign hh hc =>
      simp only [WellFormed, hh] at h
      simpa [WellFormed, hc] using h.1
  | connected hc hfree hpc =>
      simp only [WellFormed, hfree, hc] at h
      exact wellFormed_of_goesOn (s := s.setState .connected) rfl h.2.symm
        (goesOn_resubscribe _ _ _)
  | lost hc hfree hpc =>
      simp only [WellFormed, hfree, hc] at h
      simp [WellFormed, hfree, setState, ← h.2]
  | message hc hfree hpc => simpa [WellFormed, hfree, hc] using h
  | read hc hr => exact wellFormed_of_isSome h hc
  | write hc hw => exact wellFormed_of_isSome h hc

theorem wellFormed_initial (h : Initial s) : s.WellFormed := by
  obtain ⟨config, rfl⟩ := h
  simp [WellFormed]

/-- **Invariant rule**: what holds initially, and is kept by every move from a
well-formed state that meets the condition, holds in every state of a run whose
steps meet it. -/
theorem invariant_of_guarded {G : System C → Action C → Prop} {I : System C → Prop}
    {s₀ : System C} {as : List (Action C)} (h₀ : Initial s₀) (hI : I s₀)
    (hmove : ∀ s a s', s.WellFormed → I s → G s a → Move s a s' → I s')
    (h : Run (Guarded Steps G) s₀ as s) : s.WellFormed ∧ I s := by
  refine Run.invariant (I := fun s => s.WellFormed ∧ I s) ⟨wellFormed_initial h₀, hI⟩ ?_ h
  rintro s a s' ⟨hwf, hs⟩ ⟨hg, hstep⟩
  have hm := move_of_step hstep
  exact ⟨wellFormed_move hwf hm, hmove s a s' hwf hs hg hm⟩

/-- The same without a condition. -/
theorem invariant_of_run {I : System C → Prop} {s₀ : System C} {as : List (Action C)}
    (h₀ : Initial s₀) (hI : I s₀)
    (hmove : ∀ s a s', s.WellFormed → I s → Move s a s' → I s') (h : Run Steps s₀ as s) :
    s.WellFormed ∧ I s :=
  invariant_of_guarded (G := fun _ _ => True) h₀ hI (fun s a s' hwf hs _ => hmove s a s' hwf hs)
    (h.mono fun _ _ _ hstep => ⟨trivial, hstep⟩)

theorem wellFormed_of_run {s₀ : System C} {as : List (Action C)} (h₀ : Initial s₀)
    (h : Run Steps s₀ as s) : s.WellFormed :=
  (invariant_of_run (I := fun _ => True) h₀ trivial (fun _ _ _ _ _ _ => trivial) h).1

theorem reachable_of_run {as : List (Action C)} (hr : s.Reachable) (h : Run Steps s as s') :
    s'.Reachable := by
  obtain ⟨s₀, as₀, h₀, hrun⟩ := hr
  exact ⟨s₀, _, h₀, hrun.trans h⟩

theorem wellFormed_of_reachable (hr : s.Reachable) : s.WellFormed := by
  obtain ⟨s₀, as, h₀, hrun⟩ := hr
  exact wellFormed_of_run h₀ hrun

/-! ## runs without a refused request -/

/-- The step in which `send` refuses a SUBSCRIBE or UNSUBSCRIBE, because the
send queue is full. -/
def RefusesRequest (s : System C) : Action C → Prop
  | .hold => match s.holder, s.connection with
      | .sendTest _ .request, some c => c.sendQueue.length > s.impl.sendQueueSize
      | _, _ => False
  | _ => False

instance (s : System C) (a : Action C) : Decidable (s.RefusesRequest a) := by
  unfold RefusesRequest
  -- `casesOn` and not `cases`: no equations in an instance that is evaluated
  induction a using Action.casesOn with
  | hold =>
      induction s.holder using Holder.casesOn with
      | sendTest o k =>
          induction k using After.casesOn
          all_goals induction s.connection using Option.casesOn <;> infer_instance
      | _ => infer_instance
  | _ => infer_instance

/-- Nothing replaces the connection, and a client that is CONNECTED, and not
about to be, has a connection that has processed a CONNACK. -/
structure Handshaken (s : System C) : Prop where
  replacing : s.holder.replacing = false
  assign : s.holder = .assign → s.impl.state ≠ .connected
  processed : s.impl.state = .connected → s.holder.restoring = false →
    ∃ c, s.connection = some c ∧ c.processed = true

/-- Nothing is asked of a client that is not CONNECTED. -/
theorem handshaken_of_ne_connected (hr : s.holder.replacing = false)
    (hst : s.impl.state ≠ .connected) : s.Handshaken :=
  ⟨hr, fun _ => hst, fun h => absurd h hst⟩

/-- A connection destroyed for good belongs to a DISCONNECTED client. -/
theorem ne_connected_of_destroying (hwf : s.WellFormed) (h : s.Handshaken)
    (hd : s.holder.destroying = true) : s.impl.state ≠ .connected := by
  have hagain := h.replacing
  cases hh : s.holder with
  | free | assign => simp [hh, Holder.destroying] at hd
  | sendTest | sendPush => simp [hh, Holder.destroying] at hd
  | stop again | notify again | joinRead again | joinWrite again =>
      simp only [WellFormed, hh] at hwf
      simp only [hh, Holder.replacing] at hagain
      simp [hwf.1, hagain]

theorem handshaken_finish : (s.finish c).Handshaken :=
  ⟨rfl, fun h => by simp [finish] at h, fun _ _ => ⟨_, rfl, rfl⟩⟩

theorem handshaken_flush (messages : List Message) : (s.flush c messages).Handshaken := by
  cases messages with
  | nil => exact handshaken_finish
  | cons m ms =>
      exact ⟨rfl, fun h => by simp [flush, sendPublish] at h, fun _ h => by cases h⟩

theorem handshaken_resubscribe (topics : List Str) : (s.resubscribe c topics).Handshaken := by
  cases topics with
  | nil => exact handshaken_flush _
  | cons t ts =>
      exact ⟨rfl, fun h => by simp [resubscribe, sendSubscribe] at h, fun _ h => by cases h⟩

/-- After a send that was not a refused request. -/
theorem handshaken_after {sent : Bool} {k : After} (hrefused : sent = false → k ≠ .request)
    (hc : k.restoring = false → c.processed = true) (h : s.after c sent k = .ok s') :
    s'.Handshaken := by
  cases k with
  | publish m =>
      cases h
      exact ⟨rfl, fun h => by simp at h, fun _ _ => ⟨c, rfl, hc rfl⟩⟩
  | request =>
      cases h
      cases sent with
      | true => exact ⟨rfl, fun h => by simp at h, fun _ _ => ⟨c, rfl, hc rfl⟩⟩
      | false => exact absurd rfl (hrefused rfl)
  | resubscribe topics =>
      cases sent with
      | true =>
          cases h
          exact handshaken_resubscribe topics
      | false => cases h
  | flush messages =>
      cases h
      cases sent with
      | true => exact handshaken_flush messages
      | false => exact handshaken_finish

/-- A step of a thread does not touch what was processed. -/
theorem handshaken_of_processed (h : s.Handshaken) (hc : s.connection = some c)
    (hp : c'.processed = c.processed) : { s with connection := some c' }.Handshaken := by
  refine ⟨h.replacing, h.assign, fun hst hr => ⟨c', rfl, ?_⟩⟩
  obtain ⟨d, hd, hdp⟩ := h.processed hst hr
  cases hc.symm.trans hd
  rw [hp, hdp]

theorem handshaken_move (hwf : s.WellFormed) (h : s.Handshaken)
    (hg : ¬ s.RefusesRequest a) (hm : Move s a s') : s'.Handshaken := by
  cases hm with
  | idle => exact h
  | setPublishQueue hst => exact ⟨h.replacing, h.assign, h.processed⟩
  | setSendQueue hst => exact ⟨h.replacing, h.assign, h.processed⟩
  | setLastWill => exact ⟨h.replacing, h.assign, h.processed⟩
  | connect hfree hst => exact handshaken_of_ne_connected rfl (by simp [System.connect, setState])
  | disconnect hfree hst =>
      cases hc : s.connection <;>
        exact handshaken_of_ne_connected
          (by simp [System.disconnect, setState, hc, Holder.replacing])
          (by simp [System.disconnect, setState, hc, Impl.disconnect])
  | toPublishQueue hfree hst hq =>
      obtain ⟨-, rfl⟩ | ⟨-, q, -, rfl⟩ := Impl.toPublishQueue_spec hq <;>
        exact ⟨h.replacing, h.assign, h.processed⟩
  | publish hfree hst =>
      exact ⟨rfl, by simp [sendPublish], fun _ _ => h.processed hst (by rw [hfree]; rfl)⟩
  | addSubscription hfree hst => exact ⟨h.replacing, h.assign, h.processed⟩
  | subscribe hfree hst =>
      exact ⟨rfl, by simp [sendSubscribe], fun _ _ => h.processed hst (by rw [hfree]; rfl)⟩
  | removeSubscription hfree hst hmem hi =>
      obtain ⟨subscriptions, rfl⟩ := Impl.removeSubscription_spec hi
      exact ⟨h.replacing, h.assign, h.processed⟩
  | unsubscribe hfree hst hmem hi =>
      exact ⟨rfl, by simp [sendUnsubscribe], fun _ _ => h.processed hst (by rw [hfree]; rfl)⟩
  | room hc hh hsize =>
      refine ⟨rfl, by simp, fun hst hr => h.processed hst ?_⟩
      rw [hh]
      exact hr
  | refused hc hh hsize ha =>
      have hst := hwf
      simp only [WellFormed, hh] at hst
      refine handshaken_after ?_ ?_ ha
      · rintro - rfl
        exact hg (by simpa [RefusesRequest, hh, hc] using hsize)
      · intro hr
        obtain ⟨d, hd, hdp⟩ := h.processed hst.1 (by rw [hh]; exact hr)
        cases hc.symm.trans hd
        exact hdp
  | pushed hc hh hqf ha =>
      have hst := hwf
      simp only [WellFormed, hh] at hst
      refine handshaken_after (by simp) ?_ ha
      intro hr
      obtain ⟨d, hd, hdp⟩ := h.processed hst.1 (by rw [hh]; exact hr)
      cases hc.symm.trans hd
      simpa [Connection.push] using hdp
  | stop hc hh =>
      have hst := ne_connected_of_destroying hwf h (by rw [hh]; rfl)
      exact handshaken_of_ne_connected (by simpa [hh, Holder.replacing] using h.replacing) hst
  | notify hc hh =>
      have hst := ne_connected_of_destroying hwf h (by rw [hh]; rfl)
      exact handshaken_of_ne_connected (by simpa [hh, Holder.replacing] using h.replacing) hst
  | joinRead hc hh hpc =>
      have hst := ne_connected_of_destroying hwf h (by rw [hh]; rfl)
      exact handshaken_of_ne_connected (by simpa [hh, Holder.replacing] using h.replacing) hst
  | destroyed hc hh hpc =>
      have hst := ne_connected_of_destroying hwf h (by rw [hh]; rfl)
      exact handshaken_of_ne_connected rfl hst
  | replaced hc hh hpc =>
      have hagain := h.replacing
      rw [hh] at hagain
      cases hagain
  | assign hh hc => exact ⟨rfl, by simp, fun hst => absurd hst (h.assign hh)⟩
  | connected hc hfree hpc => exact handshaken_resubscribe _
  | lost hc hfree hpc =>
      exact handshaken_of_ne_connected (by simp [setState, hfree, Holder.replacing])
        (by simp [setState])
  | @message c topic message hc hfree hpc =>
      have hp : { c with readPc := .loop }.processed = c.processed := rfl
      have hkeep := handshaken_of_processed h hc hp
      exact ⟨hkeep.replacing, hkeep.assign, hkeep.processed⟩
  | read hc hr => exact handshaken_of_processed h hc (Connection.readFrame_of_readStep hr).processed
  | write hc hw =>
      exact handshaken_of_processed h hc (Connection.writeFrame_of_writeStep hw).processed

/-! ## the result -/

/-- Outside of critical sections the client is DISCONNECTED exactly when it has
no connection. -/
def PointerAgrees (s : System C) : Prop :=
  s.holder = .free → (s.impl.state = .disconnected ↔ s.pointer = false)

/-- Outside of critical sections a CONNECTED client has a connection that has
processed an accepting CONNACK, and `publish` hands packets to no other. -/
def HandshakeDone (s : System C) : Prop :=
  (s.holder = .free → s.impl.state = .connected →
    ∃ c, s.connection = some c ∧ c.processed = true) ∧
  ∀ m, s.holder = .sendPush (.publish m) (.publish m) →
    ∃ c, s.connection = some c ∧ c.processed = true

/-- **The client's state and its connection's**: the pointer agrees in every run,
the handshake is done in every run in which no request is refused. -/
theorem states_agree {s₀ s : System C} {as : List (Action C)} (h₀ : Initial s₀) :
    (Run Steps s₀ as s → s.PointerAgrees) ∧
      (Run (Guarded Steps fun s a => ¬ s.RefusesRequest a) s₀ as s → s.HandshakeDone) := by
  constructor
  · intro hrun hfree
    have hwf := wellFormed_of_run h₀ hrun
    simp only [WellFormed, hfree] at hwf
    exact hwf.1
  · intro hrun
    have hinv : s.WellFormed ∧ s.Handshaken := by
      refine invariant_of_guarded h₀ ?_ (fun s a s' hwf hs hg hm => handshaken_move hwf hs hg hm)
        hrun
      obtain ⟨config, rfl⟩ := h₀
      exact handshaken_of_ne_connected rfl (by simp)
    constructor
    · intro hfree hst
      exact hinv.2.processed hst (by rw [hfree]; rfl)
    · intro m hh
      have hst := hinv.1
      simp only [WellFormed, hh] at hst
      exact hinv.2.processed hst.1 (by rw [hh]; rfl)

/-! ## runs -/

/-- An accepting CONNACK. -/
def connack : Packet := Packet.ofBody .connack 0 [0, 0]

/-- A fresh connection up to the lock of `connectionStateChange(true)`: the read
thread resolves and connects, the write thread sends the CONNECT, the broker
accepts. -/
def toConnack : List (Action C) :=
  [.read .next, .read .next, .read (.lookup true), .read .next, .read .next,
    .read .next, .read (.attempt .pending), .read .next, .read .next,
    .read (.attempt .established), .read .next, .read .next, .read .next, .read .next,
    .write .next, .write .next, .write .next, .write (.sent 14),
    .read .next, .read .next, .read (.timer false), .read (.receive (.packet connack)),
    .read .next]

/-- A client connects and publishes a message. -/
def connectAndPublish : List (Action Unit) :=
  [.call .connect, .hold] ++ toConnack ++ [.grant, .call (.publish ⟨[97], [120], false⟩), .hold]

/-- The handshake of a connection is done when the client publishes on it. -/
theorem states_agree_connectAndPublish :
    ∃ s : System Unit, s.HandshakeDone ∧ s.PointerAgrees ∧
      s.holder = .sendPush (.publish ⟨[97], [120], false⟩) (.publish ⟨[97], [120], false⟩) := by
  obtain ⟨s, hrun, htest⟩ := guarded_run_of_exec (fun s a => ¬ s.RefusesRequest a)
    connectAndPublish
    (fun s => s.holder =
      .sendPush (.publish ⟨[97], [120], false⟩) (.publish ⟨[97], [120], false⟩))
    (by decide +kernel)
  exact ⟨s, (states_agree initial_default).2 hrun,
    (states_agree initial_default).1 (hrun.mono fun _ _ _ hg => hg.2), of_decide_eq_true htest⟩

/-- With a send queue of size 0, a message that waits in the queue makes `send`
refuse the SUBSCRIBE; the threads stop and the connection is replaced. -/
def refusedSubscribe : List (Action Unit) :=
  [.setSendQueue 0, .call .connect, .hold] ++ toConnack ++
    [.grant, .call (.publish ⟨[97], [120], false⟩), .hold, .hold,
      .call (.subscribe [97] ()), .hold, .hold, .hold,
      .read .next, .read .next, .read .next, .read .next, .write .next, .hold, .hold, .hold]

/-- After a refused SUBSCRIBE the client is CONNECTED with a connection that has
not even resolved its host. -/
theorem refused_subscribe_keeps_connected :
    ∃ s : System Unit, s.Reachable ∧ ¬ s.HandshakeDone := by
  obtain ⟨s, hrun, htest⟩ := run_of_exec refusedSubscribe
    (fun s => s.holder = .free ∧ s.impl.state = .connected ∧
      s.connection.any (·.processed = false))
    (by decide +kernel)
  obtain ⟨hfree, hst, hany⟩ := of_decide_eq_true htest
  refine ⟨s, ⟨{}, refusedSubscribe, initial_default, hrun⟩, fun h => ?_⟩
  obtain ⟨c, hc, hp⟩ := h.1 hfree hst
  simp [hc, hp] at hany

end System

end TrueMqtt
