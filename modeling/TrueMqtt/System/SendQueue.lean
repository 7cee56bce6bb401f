import TrueMqtt.System.Handshake

/-!
# TrueMqtt.System.SendQueue

The bound of the send queue.  `send` tests the length of the queue before it
pushes, and lets a packet pass when the queue holds exactly `m_send_queue_size`
packets.  Packets sent with priority count in the test, and are not bounded
themselves; the write thread and the clearing of the queue only make it shorter.

So the packets sent without priority stay within the bound as long as no test
finds exactly that many of them and nothing else (`send_queue_bounded`).
-/

namespace TrueMqtt

/-- The packets in the queue that were sent without priority. -/
def Connection.ordinary (c : Connection) : List Outgoing :=
  c.sendQueue.filter fun o => !o.isUrgent

namespace Holder

/-- The packet being sent is sent without priority. -/
def Ordinary : Holder → Prop
  | sendTest o _ | sendPush o _ => o.isUrgent = false
  | _ => True

/-- The holder is not past a test of the queue's size. -/
def Untested : Holder → Prop
  | sendPush _ _ => False
  | _ => True

end Holder

namespace Connection

variable {c c' : Connection}

theorem length_ordinary_le (c : Connection) : c.ordinary.length ≤ c.sendQueue.length :=
  List.length_filter_le _ _

theorem ordinary_push {o : Outgoing} (h : o.isUrgent = false) (c : Connection) :
    (c.push o).ordinary = c.ordinary ++ [o] := by
  simp [ordinary, push, h]

/-- The read thread pushes with priority, or clears the queue. -/
theorem ordinary_readStep {cfg : Config} {i : ReadInput} (h : c.readStep cfg i = .ok c') :
    (c'.ordinary = c.ordinary ∧ c'.enqueued = c.enqueued) ∨
      (c.readPc = .clearQueue ∧ c'.ordinary = [] ∧ c'.enqueued = []) := by
  cases queueMove_of_readStep h with
  | same hpc hq he => exact .inl ⟨by rw [ordinary, ordinary, hq], he⟩
  | urgent o ho hpc hq he =>
      refine .inl ⟨?_, he⟩
      rw [ordinary, ordinary, hq, List.filter_cons_of_neg (by simp [ho])]
  | clear hpc hq he => exact .inr ⟨hpc, by rw [ordinary, hq, List.filter_nil], he⟩

/-- The write thread takes the first packet of the queue, or none. -/
theorem ordinary_writeStep {pointer : Bool} {i : WriteInput}
    (h : c.writeStep pointer i = .ok c') :
    ∃ taken, c.ordinary = taken ++ c'.ordinary ∧ c'.enqueued = c.enqueued := by
  have he := (writeFrame_of_writeStep h).enqueued
  cases writeMove_of_writeStep h with
  | same hq _ _ | drop hq _ _ | complete _ hq _ _ _ =>
      exact ⟨[], by rw [ordinary, ordinary, hq, List.nil_append], he⟩
  | take o hq _ _ _ =>
      refine ⟨[o].filter fun o => !o.isUrgent, ?_, he⟩
      rw [ordinary, ordinary, hq, ← List.filter_append, List.singleton_append]

end Connection

namespace System

variable {C : Type} {s s' : System C} {a : Action C} {c c' : Connection}

/-! ## the end of a send -/

/-- The queues of a connection `c` and the bound, at the end of a send. -/
structure Sent (c : Connection) (s s' : System C) : Prop where
  connection : ∃ c', s'.connection = some c' ∧ c'.sendQueue = c.sendQueue ∧
    c'.enqueued = c.enqueued
  size : s'.impl.sendQueueSize = s.impl.sendQueueSize
  untested : s'.holder.Untested
  ordinary : s'.holder.Ordinary

theorem sent_of_goesOn (h : GoesOn c s s') : Sent c s s' := by
  obtain ⟨pc, b, hc'⟩ := h.connection
  refine ⟨⟨_, hc', rfl, rfl⟩, h.sendQueueSize, ?_, ?_⟩
  all_goals obtain hh | ⟨o, k, ho, hh⟩ := h.holder
  all_goals rw [hh]
  · trivial
  · trivial
  · trivial
  · exact ho

theorem sent_after {sent : Bool} {k : After} (h : s.after c sent k = .ok s') : Sent c s s' := by
  obtain hon | ⟨-, -, rfl⟩ := goesOn_after h
  · exact sent_of_goesOn hon
  · exact ⟨⟨c, rfl, rfl, rfl⟩, rfl, trivial, trivial⟩

/-- Every packet a call sends is sent without priority. -/
theorem ordinary_move (h : s.holder.Ordinary) (hm : Move s a s') : s'.holder.Ordinary := by
  cases hm with
  | connect hfree hst => trivial
  | disconnect hfree hst =>
      cases hc : s.connection <;> simp [System.disconnect, setState, hc, Holder.Ordinary]
  | publish hfree hst => rfl
  | subscribe hfree hst => rfl
  | unsubscribe hfree hst hmem hi => rfl
  | room hc hh hsize =>
      rw [hh] at h
      exact h
  | refused hc hh hsize ha => exact (sent_after ha).ordinary
  | pushed hc hh hqf ha => exact (sent_after ha).ordinary
  | connected hc hfree hpc => exact (sent_of_goesOn (goesOn_resubscribe _ _ _)).ordinary
  | stop | notify | joinRead | destroyed | replaced | assign => trivial
  | _ => exact h

theorem ordinary_of_reachable (hr : s.Reachable) : s.holder.Ordinary := by
  obtain ⟨s₀, as, h₀, hrun⟩ := hr
  have hinit : s₀.holder.Ordinary := by
    obtain ⟨config, rfl⟩ := h₀
    trivial
  exact (invariant_of_run h₀ hinit (fun _ _ _ _ => ordinary_move) hrun).2

/-! ## the bound -/

/-- The packets sent without priority keep to the bound. -/
def SendBounded (s : System C) : Prop :=
  ∀ c, s.connection = some c → c.ordinary.length ≤ s.impl.sendQueueSize

/-- The steps in which no test of `send` finds exactly as many packets as the bound
allows, all of them without priority, and no queue in use is given a smaller bound
(`setSendQueue` is refused unless the client is DISCONNECTED). -/
def TestsBelow (s : System C) : Action C → Prop
  | .hold => match s.holder, s.connection with
      | .sendTest _ _, some c =>
          c.sendQueue.length = s.impl.sendQueueSize → ∃ o ∈ c.sendQueue, o.isUrgent = true
      | _, _ => True
  | .setSendQueue size => match s.connection with
      | some c => s.impl.state = .disconnected → c.ordinary.length ≤ size
      | none => True
  | _ => True

instance (s : System C) (a : Action C) : Decidable (s.TestsBelow a) := by
  unfold TestsBelow
  induction a using Action.casesOn with
  | hold =>
      induction s.holder using Holder.casesOn
      all_goals induction s.connection using Option.casesOn <;> infer_instance
  | setSendQueue size => induction s.connection using Option.casesOn <;> infer_instance
  | _ => infer_instance

/-- The invariant of these runs: past a test there is room for one packet. -/
def SendRoom (s : System C) : Prop :=
  ∀ c, s.connection = some c → c.ordinary.length ≤ s.impl.sendQueueSize ∧
    (¬ s.holder.Untested → c.ordinary.length < s.impl.sendQueueSize)

/-- A step of a thread does not make the queue longer. -/
theorem sendRoom_of_ordinary (h : s.SendRoom) (hc : s.connection = some c)
    (hlen : c'.ordinary.length ≤ c.ordinary.length) :
    { s with connection := some c' }.SendRoom := by
  intro d hd
  cases hd
  obtain ⟨hle, hlt⟩ := h c hc
  exact ⟨hlen.trans hle, fun hu => hlen.trans_lt (hlt hu)⟩

/-- After a send that leaves the queue as long as `c`'s. -/
theorem sendRoom_of_sent (h : Sent c s s') (hlen : c.ordinary.length ≤ s.impl.sendQueueSize) :
    s'.SendRoom := by
  obtain ⟨c', hc', hq, -⟩ := h.connection
  intro d hd
  cases hc'.symm.trans hd
  rw [Connection.ordinary, hq, h.size]
  exact ⟨hlen, fun hu => absurd h.untested hu⟩

/-- A test that lets a packet pass leaves room for it. -/
theorem lt_of_testsBelow {o : Outgoing} {k : After} (hg : s.TestsBelow .hold)
    (hh : s.holder = .sendTest o k) (hc : s.connection = some c)
    (hsize : c.sendQueue.length ≤ s.impl.sendQueueSize) :
    c.ordinary.length < s.impl.sendQueueSize := by
  simp only [TestsBelow, hh, hc] at hg
  by_cases hfull : c.sendQueue.length = s.impl.sendQueueSize
  · obtain ⟨p, hp, hurgent⟩ := hg hfull
    rw [← hfull]
    refine List.length_filter_lt_length_iff_exists.mpr ⟨p, hp, ?_⟩
    simp [hurgent]
  · exact c.length_ordinary_le.trans_lt (lt_of_le_of_ne hsize hfull)

theorem sendRoom_move (hwf : s.WellFormed) (h : s.SendRoom) (hg : s.TestsBelow a)
    (hm : Move s a s') : s'.SendRoom := by
  cases hm with
  | setSendQueue hst =>
      intro c hc
      have hc' : s.connection = some c := hc
      simp only [TestsBelow, hc'] at hg
      refine ⟨hg hst, fun hu => absurd ?_ hu⟩
      show s.holder.Untested
      cases hh : s.holder with
      | sendPush o k =>
          simp only [WellFormed, hh, hst] at hwf
          exact absurd hwf.1 (by decide)
      | _ => trivial
  | connect hfree hst =>
      intro d hd
      cases hd
      exact ⟨Nat.zero_le _, fun hu => absurd trivial hu⟩
  | disconnect hfree hst =>
      intro d hd
      have hc : s.connection = some d :=
        (connection_disconnect (s.setState .disconnected)).symm.trans hd
      have huntested : ((s.setState .disconnected).disconnect false).holder.Untested := by
        obtain hh | hh := holder_disconnect (s.setState .disconnected)
        all_goals
          rw [hh]
          trivial
      rw [impl_disconnect]
      exact ⟨(h d hc).1, fun hu => absurd huntested hu⟩
  | toPublishQueue hfree hst hq =>
      obtain ⟨-, rfl⟩ | ⟨-, q, -, rfl⟩ := Impl.toPublishQueue_spec hq <;> exact h
  | publish hfree hst => exact fun d hd => ⟨(h d hd).1, fun hu => absurd trivial hu⟩
  | subscribe hfree hst => exact fun d hd => ⟨(h d hd).1, fun hu => absurd trivial hu⟩
  | removeSubscription hfree hst hmem hi =>
      obtain ⟨subscriptions, rfl⟩ := Impl.removeSubscription_spec hi
      exact h
  | unsubscribe hfree hst hmem hi =>
      obtain ⟨subscriptions, rfl⟩ := Impl.removeSubscription_spec hi
      exact fun d hd => ⟨(h d hd).1, fun hu => absurd trivial hu⟩
  | room hc hh hsize =>
      intro d hd
      cases hc.symm.trans hd
      exact ⟨(h _ hc).1, fun _ => lt_of_testsBelow (s := s) hg hh hc hsize⟩
  | refused hc hh hsize ha => exact sendRoom_of_sent (sent_after ha) (h _ hc).1
  | @pushed c o k s' hc hh hqf ha =>
      refine sendRoom_of_sent (sent_after ha) ?_
      have hlt := (h c hc).2 (by rw [hh]; exact id)
      have hlen : (c.push o).ordinary.length ≤ c.ordinary.length + 1 := by
        simp only [Connection.ordinary, Connection.push, Connection.sendQueue_notify,
          List.filter_append, List.length_append]
        exact Nat.add_le_add_left (List.length_filter_le _ _) _
      omega
  | stop hc hh =>
      intro d hd
      cases hd
      exact ⟨(h _ hc).1, fun hu => absurd trivial hu⟩
  | notify hc hh =>
      intro d hd
      cases hd
      rw [Connection.ordinary, Connection.sendQueue_notify]
      exact ⟨(h _ hc).1, fun hu => absurd trivial hu⟩
  | joinRead hc hh hpc => exact fun d hd => ⟨(h d hd).1, fun hu => absurd trivial hu⟩
  | destroyed hc hh hpc => exact fun d hd => by cases hd
  | replaced hc hh hpc =>
      intro d hd
      cases hd
      exact ⟨Nat.zero_le _, fun hu => absurd trivial hu⟩
  | assign hh hc => exact fun d hd => ⟨(h d hd).1, fun hu => absurd trivial hu⟩
  | connected hc hfree hpc =>
      exact sendRoom_of_sent (sent_of_goesOn (goesOn_resubscribe _ _ _)) (h _ hc).1
  | lost hc hfree hpc => exact sendRoom_of_ordinary (s := s) h hc le_rfl
  | message hc hfree hpc => exact sendRoom_of_ordinary (s := s) h hc le_rfl
  | read hc hr =>
      refine sendRoom_of_ordinary h hc ?_
      obtain ⟨hq, -⟩ | ⟨-, hq, -⟩ := Connection.ordinary_readStep hr
      · rw [hq]
      · rw [hq]
        exact Nat.zero_le _
  | write hc hw =>
      refine sendRoom_of_ordinary h hc ?_
      obtain ⟨taken, hq, -⟩ := Connection.ordinary_writeStep hw
      rw [hq, List.length_append]
      exact Nat.le_add_left _ _
  | _ => exact h

/-- A send that is tested against a queue at its bound overruns it, when the write
thread does not come first. -/
theorem overrun_of_full {o : Outgoing} {k : After} (hr : s.Reachable)
    (hc : s.connection = some c) (hh : s.holder = .sendTest o k) (hqf : c.queueFree = true)
    (hg : ¬ s.TestsBelow .hold) :
    ∃ s', Run Steps s [.hold, .hold] s' ∧ ¬ s'.SendBounded := by
  have hwf := wellFormed_of_reachable hr
  have ho := ordinary_of_reachable hr
  simp only [WellFormed, hh] at hwf
  rw [hh] at ho
  have ho' : o.isUrgent = false := ho
  simp only [TestsBelow, hh, hc] at hg
  push Not at hg
  obtain ⟨hfull, hordinary⟩ := hg
  have hall : c.ordinary = c.sendQueue :=
    List.filter_eq_self.mpr fun p hp => by simp [hordinary p hp]
  obtain ⟨s', ha⟩ : ∃ s', after (c.push o) { s with holder := .sendPush o k } true k = .ok s' := by
    cases k <;> exact ⟨_, rfl⟩
  have htest : s.Steps .hold { s with holder := .sendPush o k } := by
    simp [Steps, step, hold, hc, hh, hwf.2.1, hfull]
  have hpushed : Steps { s with holder := .sendPush o k } .hold s' := by
    simpa [Steps, step, hold, hc, hqf] using ha
  refine ⟨s', Run.cons htest (Run.cons hpushed .nil), ?_⟩
  have hsent := sent_after ha
  obtain ⟨c', hc', hq, -⟩ := hsent.connection
  intro hbound
  have hle := hbound c' hc'
  have hpush : c'.ordinary = c.ordinary ++ [o] := by
    rw [← Connection.ordinary_push ho', Connection.ordinary, hq]
    rfl
  have hsize : s'.impl.sendQueueSize = s.impl.sendQueueSize := hsent.size
  rw [hpush, hsize, hall, List.length_append, hfull, List.length_singleton] at hle
  omega

/-- **The bound of the send queue** holds in every run whose tests all stay below it;
a test that does not leads to one packet too many.  A refused send leaves the queue
as it is. -/
theorem send_queue_bounded :
    (∀ {s₀ s : System C} {as : List (Action C)}, Initial s₀ →
      Run (Guarded Steps TestsBelow) s₀ as s → s.SendBounded) ∧
    (∀ {s : System C} {c : Connection} {o : Outgoing} {k : After}, s.Reachable →
      s.connection = some c → s.holder = .sendTest o k → c.queueFree = true →
      ¬ s.TestsBelow .hold → ∃ s', Run Steps s [.hold, .hold] s' ∧ ¬ s'.SendBounded) ∧
    ∀ {s s' : System C} {c : Connection} {o : Outgoing} {k : After}, s.connection = some c →
      s.holder = .sendTest o k → s.impl.sendQueueSize < c.sendQueue.length →
      s.Steps .hold s' → ∃ c', s'.connection = some c' ∧ c'.sendQueue = c.sendQueue := by
  refine ⟨?_, overrun_of_full, ?_⟩
  · intro s₀ s as h₀ hrun c hc
    have hinit : s₀.SendRoom := by
      obtain ⟨config, rfl⟩ := h₀
      intro d hd
      cases hd
    exact ((invariant_of_guarded h₀ hinit (fun _ _ _ => sendRoom_move) hrun).2 c hc).1
  · intro s s' c o k hc hh hsize hstep
    simp only [Steps, step, hold, hc, hh, hsize, ↓reduceIte] at hstep
    split at hstep
    · cases hstep
    · obtain ⟨c', hc', hq, -⟩ := (sent_after hstep).connection
      exact ⟨c', hc', hq⟩

/-- A client publishes with a send queue of size 1, and the write thread takes the
packet before it publishes again. -/
def publishAndTake : List (Action Unit) :=
  [.setSendQueue 1, .call .connect, .hold] ++ toConnack ++
    [.grant, .call (.publish ⟨[97], [120], false⟩), .hold, .hold, .write .next, .write .next,
      .call (.publish ⟨[97], [121], false⟩), .hold, .hold]

theorem send_queue_bounded_publishAndTake :
    ∃ s : System Unit, s.SendBounded ∧ s.connection.any (·.sendQueue.length = 1) = true := by
  obtain ⟨s, hrun, htest⟩ := guarded_run_of_exec TestsBelow publishAndTake
    (fun s => s.connection.any (·.sendQueue.length = 1)) (by decide +kernel)
  exact ⟨s, send_queue_bounded.1 initial_default hrun, htest⟩

/-- With a send queue of size 0 a CONNECTED client publishes. -/
def publishWithoutRoom : List (Action Unit) :=
  [.setSendQueue 0, .call .connect, .hold] ++ toConnack ++
    [.grant, .call (.publish ⟨[97], [120], false⟩), .hold, .hold]

/-- The message is let through. -/
theorem send_queue_overrun : ∃ s : System Unit, s.Reachable ∧ ¬ s.SendBounded := by
  obtain ⟨s, hrun, htest⟩ := run_of_exec publishWithoutRoom
    (fun s => s.impl.sendQueueSize = 0 ∧ s.connection.any (·.ordinary.length = 1))
    (by decide +kernel)
  obtain ⟨hsize, hany⟩ := of_decide_eq_true htest
  obtain ⟨c, hc, hlen⟩ := (Option.any_eq_true _ _).mp hany
  have hlen' : c.ordinary.length = 1 := of_decide_eq_true hlen
  refine ⟨s, ⟨{}, publishWithoutRoom, initial_default, hrun⟩, fun hbound => ?_⟩
  have hle := hbound c hc
  rw [hlen', hsize] at hle
  omega

end System

end TrueMqtt
