import TrueMqtt.Connection.Greeting
import TrueMqtt.System.Replay

/-!
# TrueMqtt.System.Greeting

CONNECT comes first.  A packet of an earlier connection, one queued before the
CONNECT, or a PINGREQ, which is queued at the front, can come before it
(`pingreq_before_connect`).  In the runs that keep these apart (`GreetsFirst`)
every socket carries a CONNECT and then complete packets
(`connect_comes_first`).
-/

namespace TrueMqtt

namespace System

variable {C : Type} {s s' : System C} {a : Action C} {c c' : Connection}

/-- The steps that keep the CONNECT in front: no packet is queued by the client
between the store of `m_socket` and the CONNECT, and the read thread's steps meet
`Connection.GreetsFirst`. -/
def GreetsFirst (s : System C) : Action C → Prop
  | .hold => match s.holder, s.connection with
      | .sendPush _ _, some c => c.readPc.greeting = false
      | _, _ => True
  | .read _ => match s.connection with
      | some c => c.GreetsFirst
      | none => True
  | _ => True

instance (s : System C) (a : Action C) : Decidable (s.GreetsFirst a) := by
  unfold GreetsFirst
  induction a using Action.casesOn with
  | hold =>
      induction s.holder using Holder.casesOn
      all_goals induction s.connection using Option.casesOn <;> infer_instance
  | read i => induction s.connection using Option.casesOn <;> infer_instance
  | _ => infer_instance

/-- The bytes on every socket are the beginning of complete packets, the first of
which is a CONNECT.  A connection that is gone writes no more. -/
def ConnectFirst (s : System C) : Prop :=
  ∀ c, s.connection = some c → ∀ k, Greeted (c.wires k)

/-! ## the connection after a send -/

/-- The connection at the end of `connectionStateChange(true)`. -/
def restored (c : Connection) : Connection := { c with readPc := .loop, processed := true }

theorem connection_flush (c : Connection) (messages : List Message) (s : System C) :
    (s.flush c messages).connection = some c ∨
      (s.flush c messages).connection = some (restored c) := by
  cases messages with
  | nil => exact .inr rfl
  | cons m ms => exact .inl rfl

theorem connection_resubscribe (c : Connection) (topics : List Str) (s : System C) :
    (s.resubscribe c topics).connection = some c ∨
      (s.resubscribe c topics).connection = some (restored c) := by
  cases topics with
  | nil => exact connection_flush c _ s
  | cons t ts => exact .inl rfl

theorem connection_after {sent : Bool} {k : After} (h : s.after c sent k = .ok s') :
    s'.connection = some c ∨ (k.restoring = true ∧ s'.connection = some (restored c)) := by
  cases k with
  | publish m =>
      cases h
      exact .inl rfl
  | request =>
      cases h
      cases sent <;> exact .inl rfl
  | resubscribe topics =>
      cases sent with
      | true =>
          cases h
          exact (connection_resubscribe c topics s).imp_right fun h => ⟨rfl, h⟩
      | false => cases h
  | flush messages =>
      cases h
      cases sent with
      | true => exact (connection_flush c messages s).imp_right fun h => ⟨rfl, h⟩
      | false => exact .inr ⟨rfl, rfl⟩

/-- While the connection is restored, its read thread is in
`connectionStateChange`. -/
theorem readPc_of_restoring (h : s.Follows) (hc : s.connection = some c) {o : Outgoing}
    {k : After} (hh : s.holder = .sendTest o k ∨ s.holder = .sendPush o k)
    (hk : k.restoring = true) : c.readPc = .stateChange := by
  have hin := h c hc
  obtain hh | hh := hh
  all_goals
    rw [hh] at hin
    have hpc := hin.readPc
    rwa [if_pos hk] at hpc

/-! ## steps -/

theorem wiresOk_restored (h : c.WiresOk) (hpc : c.readPc = .stateChange) :
    (restored c).WiresOk :=
  Connection.wiresOk_resume h (by rw [hpc]; rfl) rfl (fun hl => by cases hl) true

theorem wiresOk_move (hf : s.Follows) (h : ∀ c, s.connection = some c → c.WiresOk)
    (hg : s.GreetsFirst a) (hm : Move s a s') : ∀ c, s'.connection = some c → c.WiresOk := by
  cases hm with
  | idle => exact h
  | setPublishQueue hst => exact h
  | setSendQueue hst => exact h
  | setLastWill => exact h
  | connect hfree hst =>
      intro d hd
      cases hd
      exact Connection.wiresOk_new _
  | disconnect hfree hst =>
      intro d hd
      exact h d ((connection_disconnect (s.setState .disconnected)).symm.trans hd)
  | toPublishQueue hfree hst hq => exact h
  | publish hfree hst => exact h
  | addSubscription hfree hst => exact h
  | subscribe hfree hst => exact h
  | removeSubscription hfree hst hmem hi => exact h
  | unsubscribe hfree hst hmem hi => exact h
  | room hc hh hsize => exact h
  | refused hc hh hsize ha =>
      intro d hd
      obtain hsame | ⟨hk, hrestored⟩ := connection_after ha
      · cases hsame.symm.trans hd
        exact h _ hc
      · cases hrestored.symm.trans hd
        exact wiresOk_restored (h _ hc) (readPc_of_restoring hf hc (.inl hh) hk)
  | @pushed c o k s' hc hh hqf ha =>
      simp only [GreetsFirst, hh, hc] at hg
      have hpush := Connection.wiresOk_push (h c hc) hg o
      intro d hd
      obtain hsame | ⟨hk, hrestored⟩ := connection_after ha
      · cases hsame.symm.trans hd
        exact hpush
      · cases hrestored.symm.trans hd
        refine wiresOk_restored hpush ?_
        simpa [Connection.push] using readPc_of_restoring hf hc (.inr hh) hk
  | stop hc hh =>
      intro d hd
      cases hd
      exact Connection.wiresOk_stop (h _ hc)
  | notify hc hh =>
      intro d hd
      cases hd
      exact Connection.wiresOk_notify (h _ hc)
  | joinRead hc hh hpc => exact h
  | destroyed hc hh hpc =>
      intro d hd
      cases hd
  | replaced hc hh hpc =>
      intro d hd
      cases hd
      exact Connection.wiresOk_new _
  | assign hh hc => exact h
  | @connected c hc hfree hpc =>
      have hresume : { c with readPc := .stateChange }.WiresOk :=
        Connection.wiresOk_resume (h c hc) (by rw [hpc]; rfl) rfl (fun hl => by cases hl)
          c.processed
      intro d hd
      obtain hsame | hrestored := connection_resubscribe { c with readPc := .stateChange }
        s.impl.subscriptionTopics.elems (s.setState .connected)
      · cases hsame.symm.trans hd
        exact hresume
      · cases hrestored.symm.trans hd
        exact wiresOk_restored hresume rfl
  | @lost c hc hfree hpc =>
      intro d hd
      cases hd
      exact Connection.wiresOk_resume (h c hc) (by rw [hpc]; rfl) rfl (fun _ => by rw [hpc]; rfl)
        c.processed
  | @message c topic message hc hfree hpc =>
      intro d hd
      cases hd
      exact Connection.wiresOk_resume (h c hc) (by rw [hpc]; rfl) rfl (fun hl => by cases hl)
        c.processed
  | read hc hr =>
      intro d hd
      cases hd
      simp only [GreetsFirst, hc] at hg
      exact Connection.wiresOk_readStep (h _ hc) hg hr
  | write hc hw =>
      intro d hd
      cases hd
      exact Connection.wiresOk_writeStep (h _ hc) hw

/-- **CONNECT first**: in a run whose steps keep the CONNECT in front, the bytes
written to each socket are the beginning of complete packets, the first of which
is a CONNECT. -/
theorem connect_comes_first {s₀ s : System C} {as : List (Action C)} (h₀ : Initial s₀)
    (h : Run (Guarded Steps GreetsFirst) s₀ as s) : s.ConnectFirst := by
  have hinv : s.WellFormed ∧ s.Follows ∧ ∀ c, s.connection = some c → c.WiresOk := by
    refine invariant_of_guarded
      (I := fun s => s.Follows ∧ ∀ c, s.connection = some c → c.WiresOk) h₀
      ⟨follows_initial h₀, fun c hc => ?_⟩ ?_ h
    · obtain ⟨config, rfl⟩ := h₀
      cases hc
    · intro s a s' hwf hs hg hm
      exact ⟨follows_move hwf hs.1 hm, wiresOk_move hs.1 hs.2 hg hm⟩
  exact fun c hc k => (hinv.2.2 c hc).greeted k

/-- A client connects and publishes; the write thread sends what is queued. -/
def connectAndWrite : List (Action Unit) :=
  connectAndPublish ++ [.hold, .write .next, .write .next, .write .next, .write (.sent 6)]

theorem connect_comes_first_connectAndWrite :
    ∃ (s : System Unit) (c : Connection), s.connection = some c ∧ (c.wires 0).length = 20 ∧
      Greeted (c.wires 0) := by
  obtain ⟨s, hrun, htest⟩ := guarded_run_of_exec GreetsFirst connectAndWrite
    (fun s => s.connection.any fun c => (c.wires 0).length = 20) (by decide +kernel)
  obtain ⟨c, hc, hlen⟩ := (Option.any_eq_true _ _).mp htest
  exact ⟨s, c, hc, of_decide_eq_true hlen, connect_comes_first initial_default hrun c hc 0⟩

/-! ## a PINGREQ before the CONNECT -/

/-- The connection is established and the CONNECT queued; before the write thread
runs, the keep-alive timer queues a PINGREQ in front of it. -/
def pingBeforeConnect : List (Action Unit) :=
  [.call .connect, .hold, .read .next, .read .next, .read (.lookup true), .read .next, .read .next,
    .read .next, .read (.attempt .pending), .read .next, .read .next,
    .read (.attempt .established), .read .next, .read .next, .read .next, .read .next,
    .read .next, .read .next, .read (.timer true), .read .next,
    .write .next, .write .next, .write .next, .write (.sent 2)]

theorem pingreq_before_connect : ∃ s : System Unit, s.Reachable ∧ ¬ s.ConnectFirst := by
  obtain ⟨s, hrun, htest⟩ := run_of_exec pingBeforeConnect
    (fun s => s.connection.any fun c => c.wires 0 = [0xC0, 0]) (by decide +kernel)
  obtain ⟨c, hc, hwire⟩ := (Option.any_eq_true _ _).mp htest
  refine ⟨s, ⟨{}, pingBeforeConnect, initial_default, hrun⟩, fun hfirst => ?_⟩
  have hgreeted := hfirst c hc 0
  rw [of_decide_eq_true hwire] at hgreeted
  have hhead := head_of_greeted hgreeted
  simp at hhead

end System

end TrueMqtt
