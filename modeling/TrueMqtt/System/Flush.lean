import TrueMqtt.System.SendQueue

/-!
# TrueMqtt.System.Flush

What `connectionStateChange(true)` puts into the send queue: one SUBSCRIBE for each
topic, then the messages of the publish queue, up to the first that is refused
(`restore_and_flush`).  The write thread may take packets off the queue all the
time, and the queue may hold packets already.

`m_state_mutex` is held throughout, so nothing gets in between; and what is queued
later comes after it, as long as the queue is neither cleared nor destroyed
(`fifo_of_run`).
-/

namespace TrueMqtt

/-- The packet identifier a counter stands for; 0 is not allowed. -/
def firstPacketId (counter : UInt16) : UInt16 := if counter = 0 then 1 else counter

/-- The packet identifier that follows another. -/
def nextPacketId (id : UInt16) : UInt16 := if id + 1 = 0 then 1 else id + 1

/-- One SUBSCRIBE for each topic, with consecutive packet identifiers. -/
def subscribesFrom (id : UInt16) : List Str → List Outgoing
  | [] => []
  | topic :: topics => .subscribe id topic :: subscribesFrom (nextPacketId id) topics

namespace Impl

variable {C : Type}

theorem takePacketId_fst (i : Impl C) : i.takePacketId.1 = firstPacketId i.packetId := by
  unfold takePacketId firstPacketId
  by_cases h : i.packetId = 0
  · simp [h]
  · simp [h]

theorem firstPacketId_takePacketId (i : Impl C) :
    firstPacketId i.takePacketId.2.packetId = nextPacketId i.takePacketId.1 := rfl

/-- What `connectionStateChange(true)` queues when it flushes `n` messages. -/
def restoring (i : Impl C) (n : Nat) : List Outgoing :=
  subscribesFrom (firstPacketId i.packetId) i.subscriptionTopics.elems ++
    (i.publishQueue.take n).map .publish

theorem restoring_succ {i : Impl C} {n : Nat} {m : Message} {ms : List Message}
    (h : i.publishQueue.drop n = m :: ms) :
    i.restoring (n + 1) = i.restoring n ++ [.publish m] := by
  have hlt : n < i.publishQueue.length := by
    have hlen := congrArg List.length h
    rw [List.length_drop, List.length_cons] at hlen
    omega
  have hget : i.publishQueue[n] = m := by
    rw [List.drop_eq_getElem_cons hlt] at h
    exact (List.cons.inj h).1
  rw [restoring, restoring, List.take_succ_eq_append_getElem hlt, hget, List.map_append,
    List.append_assoc]
  rfl

end Impl

namespace System

variable {C : Type} {s s' t t' : System C} {a : Action C} {c c' d : Connection}

/-! ## inside of `connectionStateChange` -/

/-- How far the loops are, with the packets `queued` so far: `o` is being sent, and
`k` is to be done then. -/
def Progress (i : Impl C) (queued : List Outgoing) (packetId : UInt16) (o : Outgoing) :
    After → Prop
  | .resubscribe topics => queued ++ o :: subscribesFrom (firstPacketId packetId) topics =
      subscribesFrom (firstPacketId i.packetId) i.subscriptionTopics.elems
  | .flush messages => ∃ n m, o = .publish m ∧ i.publishQueue.drop n = m :: messages ∧
      queued = i.restoring n
  | _ => False

/-- The queue of `d`, after these packets were added to that of `c`; the write thread
may have taken some off its front. -/
structure Queued (c : Connection) (packets : List Outgoing) (d : Connection) : Prop where
  enqueued : d.enqueued = c.enqueued ++ packets
  sendQueue : ∃ taken, c.sendQueue ++ packets = taken ++ d.sendQueue

/-- A state in the middle of `connectionStateChange(true)`, which was entered from
`s` with the connection `c`. -/
structure Restoring (s : System C) (c : Connection) (t : System C) : Prop where
  impl : t.impl = { s.impl with state := .connected, packetId := t.impl.packetId }
  queue : ∃ d packets, t.connection = some d ∧ d.readPc = .stateChange ∧ Queued c packets d ∧
    ∃ o k, (t.holder = .sendTest o k ∨ t.holder = .sendPush o k) ∧
      Progress s.impl packets t.impl.packetId o k

/-- The state at its end, with `n` messages flushed. -/
structure Restored (s : System C) (c : Connection) (n : Nat) (t : System C) : Prop where
  holder : t.holder = .free
  impl : t.impl = { s.impl with
    state := .connected, publishQueue := [], packetId := t.impl.packetId }
  le : n ≤ s.impl.publishQueue.length
  queue : ∃ d, t.connection = some d ∧ Queued c (s.impl.restoring n) d

/-- The send of the next message after `n` is refused. -/
def Refuses (s : System C) (n : Nat) (t : System C) : Prop :=
  ∃ d m ms, t.connection = some d ∧ t.holder = .sendTest (.publish m) (.flush ms) ∧
    s.impl.publishQueue.drop n = m :: ms ∧ t.impl.sendQueueSize < d.sendQueue.length

theorem queued_push {packets : List Outgoing} (h : Queued c packets d) (o : Outgoing) :
    Queued c (packets ++ [o]) (d.push o) := by
  obtain ⟨taken, htaken⟩ := h.sendQueue
  refine ⟨?_, taken, ?_⟩
  · simp [Connection.push, h.enqueued]
  · rw [← List.append_assoc, htaken, List.append_assoc]
    simp [Connection.push]

/-- The end of `connectionStateChange(true)`. -/
theorem restored_finish {n : Nat}
    (himpl : t.impl = { s.impl with state := .connected, packetId := t.impl.packetId })
    (hn : n ≤ s.impl.publishQueue.length) (hq : Queued c (s.impl.restoring n) d) :
    Restored s c n (t.finish d) := by
  refine ⟨rfl, ?_, hn, _, rfl, hq.enqueued, hq.sendQueue⟩
  simp only [finish]
  rw [himpl]

/-- The flush loop, when `n` messages are queued. -/
theorem restoring_flush {n : Nat} {messages : List Message}
    (himpl : t.impl = { s.impl with state := .connected, packetId := t.impl.packetId })
    (hpc : d.readPc = .stateChange) (hq : Queued c (s.impl.restoring n) d)
    (hdrop : s.impl.publishQueue.drop n = messages) :
    Restoring s c (t.flush d messages) ∨
      Restored s c s.impl.publishQueue.length (t.flush d messages) := by
  cases messages with
  | nil =>
      right
      have hlen : s.impl.publishQueue.length ≤ n := List.drop_eq_nil_iff.mp hdrop
      have hall : s.impl.restoring s.impl.publishQueue.length = s.impl.restoring n := by
        rw [Impl.restoring, Impl.restoring, List.take_of_length_le le_rfl,
          List.take_of_length_le hlen]
      exact restored_finish himpl le_rfl (hall ▸ hq)
  | cons m ms =>
      left
      exact ⟨himpl, d, _, rfl, hpc, hq, _, _, .inl rfl, n, m, rfl, hdrop, rfl⟩

/-- The resubscribe loop, when the packets of the topics before it are queued. -/
theorem restoring_resubscribe {packets : List Outgoing} {topics : List Str}
    (himpl : t.impl = { s.impl with state := .connected, packetId := t.impl.packetId })
    (hpc : d.readPc = .stateChange) (hq : Queued c packets d)
    (hpackets : packets ++ subscribesFrom (firstPacketId t.impl.packetId) topics =
      subscribesFrom (firstPacketId s.impl.packetId) s.impl.subscriptionTopics.elems) :
    Restoring s c (t.resubscribe d topics) ∨
      Restored s c s.impl.publishQueue.length (t.resubscribe d topics) := by
  cases topics with
  | nil =>
      have hnone : packets = s.impl.restoring 0 := by
        rw [Impl.restoring, List.take_zero, List.map_nil, List.append_nil, ← hpackets,
          subscribesFrom, List.append_nil]
      have hqueue : t.impl.publishQueue = s.impl.publishQueue := by rw [himpl]
      rw [resubscribe, hqueue]
      exact restoring_flush himpl hpc (hnone ▸ hq) List.drop_zero
  | cons u us =>
      left
      refine ⟨?_, d, packets, rfl, hpc, hq, _, _, .inl rfl, ?_⟩
      · simp only [resubscribe, sendSubscribe, Impl.takePacketId]
        rw [himpl]
      · show packets ++ .subscribe t.impl.takePacketId.1 u ::
          subscribesFrom (firstPacketId t.impl.takePacketId.2.packetId) us = _
        rw [Impl.firstPacketId_takePacketId, Impl.takePacketId_fst]
        exact hpackets

/-- After a packet is queued. -/
theorem restoring_pushed {packets : List Outgoing} {o : Outgoing} {k : After}
    (himpl : t.impl = { s.impl with state := .connected, packetId := t.impl.packetId })
    (hpc : d.readPc = .stateChange) (hq : Queued c packets d)
    (hk : Progress s.impl packets t.impl.packetId o k) (h : t.after (d.push o) true k = .ok t') :
    Restoring s c t' ∨ Restored s c s.impl.publishQueue.length t' := by
  have hpc' : (d.push o).readPc = .stateChange := by simpa [Connection.push] using hpc
  cases k with
  | publish m => exact hk.elim
  | request => exact hk.elim
  | resubscribe topics =>
      cases h
      refine restoring_resubscribe himpl hpc' (queued_push hq o) ?_
      rw [List.append_assoc]
      exact hk
  | flush messages =>
      cases h
      obtain ⟨n, m, rfl, hdrop, rfl⟩ := hk
      have hq' := queued_push hq (.publish m)
      rw [← Impl.restoring_succ hdrop] at hq'
      refine restoring_flush himpl hpc' hq' ?_
      rw [← List.drop_drop, hdrop, List.drop_one, List.tail_cons]

/-- A step in the middle of `connectionStateChange(true)` leads on, or to its end, at
the latest with the first refused message. -/
theorem restoring_step (h : Restoring s c t) (hstep : t.Steps a t') :
    (Restoring s c t' ∨ Restored s c s.impl.publishQueue.length t') ∨
      ∃ n, Restored s c n t' ∧ a = .hold ∧ Refuses s n t := by
  obtain ⟨himpl, d, packets, hd, hpc, hq, o, k, hh, hk⟩ := h
  have hfree : t.holder ≠ .free := by
    rcases hh with hh | hh <;> simp [hh]
  have hst : t.impl.state = .connected := by rw [himpl]
  cases move_of_step hstep with
  | setPublishQueue hdis => simp [hst] at hdis
  | setSendQueue hdis => simp [hst] at hdis
  | idle => exact .inl (.inl ⟨himpl, d, packets, hd, hpc, hq, o, k, hh, hk⟩)
  | setLastWill => exact .inl (.inl ⟨himpl, d, packets, hd, hpc, hq, o, k, hh, hk⟩)
  | room hc hroom hsize =>
      obtain hh | hh := hh
      · cases hroom.symm.trans hh
        exact .inl (.inl ⟨himpl, d, packets, hd, hpc, hq, _, _, .inr rfl, hk⟩)
      · cases hroom.symm.trans hh
  | refused hc hrefused hsize ha =>
      cases hd.symm.trans hc
      obtain hh | hh := hh
      · cases hrefused.symm.trans hh
        cases k with
        | publish m => exact hk.elim
        | request => exact hk.elim
        | resubscribe topics => cases ha
        | flush messages =>
            cases ha
            obtain ⟨n, m, rfl, hdrop, rfl⟩ := hk
            have hle : n ≤ s.impl.publishQueue.length := by
              have hlen := congrArg List.length hdrop
              rw [List.length_drop, List.length_cons] at hlen
              omega
            exact .inr ⟨n, restored_finish himpl hle hq, rfl, d, m, messages, hd, hh, hdrop, hsize⟩
      · cases hrefused.symm.trans hh
  | pushed hc hpushed hqf ha =>
      cases hd.symm.trans hc
      obtain hh | hh := hh
      · cases hpushed.symm.trans hh
      · cases hpushed.symm.trans hh
        exact .inl (restoring_pushed himpl hpc hq hk ha)
  | stop hc hstop | notify hc hstop | joinRead hc hstop _ | destroyed hc hstop _
  | replaced hc hstop _ | assign hstop hc =>
      obtain hh | hh := hh <;> cases hstop.symm.trans hh
  | read hc hr =>
      cases hd.symm.trans hc
      exact absurd hpc (Connection.readFrame_of_readStep hr).stateChange.1
  | write hc hw =>
      cases hd.symm.trans hc
      have hframe := Connection.writeFrame_of_writeStep hw
      obtain ⟨taken, htaken⟩ := hq.sendQueue
      refine .inl (.inl ⟨himpl, _, packets, rfl, hframe.readPc.trans hpc,
        ⟨hframe.enqueued.trans hq.enqueued, ?_⟩, o, k, hh, hk⟩)
      cases Connection.writeMove_of_writeStep hw with
      | same hsame _ _ | drop hsame _ _ | complete _ hsame _ _ _ =>
          exact ⟨taken, by rw [hsame, htaken]⟩
      | take p htake _ _ _ =>
          exact ⟨taken ++ [p], by rw [htaken, htake, List.append_assoc, List.singleton_append]⟩
  | _ => exact absurd ‹t.holder = .free› hfree

/-- The start of `connectionStateChange(true)`. -/
theorem restoring_grant (hc : s.connection = some c) (hpc : c.readPc = .lockState true)
    (hstep : s.Steps .grant t) :
    Restoring s c t ∨ Restored s c s.impl.publishQueue.length t := by
  simp only [Steps, step, hc, grant, hpc] at hstep
  split at hstep
  · cases hstep
  · cases hstep
    refine restoring_resubscribe (t := s.setState .connected) rfl rfl
      ⟨(List.append_nil _).symm, [], List.append_nil _⟩ ?_
    rfl

/-! ## what is queued later -/

/-- The steps that neither clear the queue nor destroy the connection. -/
def KeepsQueue (s : System C) : Action C → Prop
  | .read _ => ∀ c ∈ s.connection, c.readPc ≠ .clearQueue
  | .hold => ∀ again, s.holder ≠ .joinWrite again
  | _ => True

/-- From `c` to `c'` the packets `later` were queued, behind those already there. -/
structure Fifo (c : Connection) (later : List Outgoing) (c' : Connection) : Prop where
  enqueued : c'.enqueued = c.enqueued ++ later
  ordinary : ∃ taken, c.ordinary ++ later = taken ++ c'.ordinary

theorem fifo_of_eq (hq : c'.ordinary = c.ordinary) (he : c'.enqueued = c.enqueued) :
    Fifo c [] c' :=
  ⟨by rw [he, List.append_nil], [], by rw [hq, List.append_nil, List.nil_append]⟩

theorem Fifo.trans {later later' : List Outgoing} (h : Fifo c later c') (h' : Fifo c' later' d) :
    Fifo c (later ++ later') d := by
  obtain ⟨taken, htaken⟩ := h.ordinary
  obtain ⟨taken', htaken'⟩ := h'.ordinary
  refine ⟨by rw [h'.enqueued, h.enqueued, List.append_assoc], taken ++ taken', ?_⟩
  rw [← List.append_assoc, htaken, List.append_assoc, htaken', List.append_assoc]

/-- The connection after a send that left the queue of `d` alone. -/
theorem fifo_of_sent {later : List Outgoing} (h : Fifo c later d) (hs : Sent d s s') :
    ∃ c', s'.connection = some c' ∧ Fifo c later c' := by
  obtain ⟨c', hc', hq, he⟩ := hs.connection
  have hsame : Fifo d [] c' := fifo_of_eq (by rw [Connection.ordinary, Connection.ordinary, hq]) he
  refine ⟨c', hc', ?_⟩
  rw [← List.append_nil later]
  exact h.trans hsame

theorem fifo_move (hwf : s.WellFormed) (ho : s.holder.Ordinary) (hc : s.connection = some c)
    (hg : s.KeepsQueue a) (hm : Move s a s') :
    ∃ c' later, s'.connection = some c' ∧ Fifo c later c' := by
  have hsame : Fifo c [] c := fifo_of_eq rfl rfl
  cases hm with
  | connect hfree hst =>
      simp only [WellFormed, hfree, hc, hst, Option.isSome_some, true_iff] at hwf
      simp [hwf.1] at hwf
  | disconnect hfree hst =>
      exact ⟨c, [], (connection_disconnect (s.setState .disconnected)).trans hc, hsame⟩
  | refused hd hh hsize ha =>
      cases hc.symm.trans hd
      obtain ⟨c', hc', hfifo⟩ := fifo_of_sent hsame (sent_after ha)
      exact ⟨c', [], hc', hfifo⟩
  | @pushed d o k s' hd hh hqf ha =>
      cases hc.symm.trans hd
      rw [hh] at ho
      have hpush : Fifo c [o] (c.push o) := by
        refine ⟨by simp [Connection.push], [], ?_⟩
        rw [Connection.ordinary_push ho, List.nil_append]
      obtain ⟨c', hc', hfifo⟩ := fifo_of_sent hpush (sent_after ha)
      exact ⟨c', [o], hc', hfifo⟩
  | stop hd hh =>
      cases hc.symm.trans hd
      exact ⟨_, [], rfl, fifo_of_eq rfl rfl⟩
  | notify hd hh =>
      cases hc.symm.trans hd
      refine ⟨_, [], rfl, fifo_of_eq ?_ (Connection.enqueued_notify c)⟩
      rw [Connection.ordinary, Connection.sendQueue_notify]
      rfl
  | destroyed hd hh hpc => exact absurd hh (hg false)
  | replaced hd hh hpc => exact absurd hh (hg true)
  | connected hd hfree hpc =>
      cases hc.symm.trans hd
      have hstart : Fifo c [] { c with readPc := .stateChange } := fifo_of_eq rfl rfl
      obtain ⟨c', hc', hfifo⟩ := fifo_of_sent hstart
        (sent_of_goesOn (s := s.setState .connected) (goesOn_resubscribe _ _ _))
      exact ⟨c', [], hc', hfifo⟩
  | lost hd hfree hpc =>
      cases hc.symm.trans hd
      exact ⟨_, [], rfl, fifo_of_eq rfl rfl⟩
  | message hd hfree hpc =>
      cases hc.symm.trans hd
      exact ⟨_, [], rfl, fifo_of_eq rfl rfl⟩
  | read hd hr =>
      cases hc.symm.trans hd
      obtain ⟨hq, he⟩ | ⟨hclear, -⟩ := Connection.ordinary_readStep hr
      · exact ⟨_, [], rfl, fifo_of_eq hq he⟩
      · exact absurd hclear (hg c hc)
  | write hd hw =>
      cases hc.symm.trans hd
      obtain ⟨taken, hq, he⟩ := Connection.ordinary_writeStep hw
      exact ⟨_, [], rfl, by rw [he, List.append_nil], taken, by rw [hq, List.append_nil]⟩
  | _ => exact ⟨c, [], hc, hsame⟩

/-- **First in, first out**: in a run that keeps the queue, what is queued comes
behind what was queued before. -/
theorem fifo_of_run {as : List (Action C)} (hr : s.Reachable) (hc : s.connection = some c)
    (h : Run (Guarded Steps KeepsQueue) s as s') :
    ∃ c' later, s'.connection = some c' ∧ Fifo c later c' := by
  induction h with
  | nil => exact ⟨c, [], hc, fifo_of_eq rfl rfl⟩
  | @snoc t s' as a hrun hstep ih =>
      obtain ⟨d, later, hd, hfifo⟩ := ih
      have hreach := reachable_of_run hr (hrun.mono fun _ _ _ hg => hg.2)
      obtain ⟨c', later', hc', hfifo'⟩ := fifo_move (wellFormed_of_reachable hreach)
        (ordinary_of_reachable hreach) hd hstep.1 (move_of_step hstep.2)
      exact ⟨c', later ++ later', hc', hfifo.trans hfifo'⟩

/-! ## the result -/

/-- The steps inside of `connectionStateChange(true)`. -/
def Inside (s : System C) (_ : Action C) : Prop := s.holder.restoring = true

instance (s : System C) (a : Action C) : Decidable (s.Inside a) :=
  inferInstanceAs (Decidable (_ = true))

/-- The run of the section leads through its middle, and at its end either all
messages are flushed or its last step was a refusal. -/
theorem restored_of_run {s₁ : System C} {as : List (Action C)}
    (hstart : Restoring s c s₁ ∨ Restored s c s.impl.publishQueue.length s₁)
    (h : Run (Guarded Steps Inside) s₁ as s') :
    (Restoring s c s' ∨ Restored s c s.impl.publishQueue.length s') ∨
      ∃ n as₁ t, Restored s c n s' ∧ as = as₁ ++ [.hold] ∧
        Run (Guarded Steps Inside) s₁ as₁ t ∧ Refuses s n t := by
  induction h with
  | nil => exact .inl hstart
  | @snoc t s' as a hrun hstep ih =>
      have hinside : t.holder.restoring = true := hstep.1
      have hnotFree : ∀ n, ¬ Restored s c n t := by
        intro n hdone
        rw [hdone.holder] at hinside
        cases hinside
      obtain (hmid | hdone) | ⟨n, -, -, hdone, -⟩ := ih
      · obtain hnext | ⟨n, hdone, rfl, hrefuses⟩ := restoring_step hmid hstep.2
        · exact .inl hnext
        · exact .inr ⟨n, as, t, hdone, rfl, hrun, hrefuses⟩
      · exact absurd hdone (hnotFree _)
      · exact absurd hdone (hnotFree n)

/-- **Restore and flush**: `connectionStateChange(true)` queues a SUBSCRIBE for each
topic and then the messages of the publish queue, all of them unless one was refused,
whatever the write thread takes off the queue meanwhile; the publish queue is empty
then, and topics and tree are what they were.  What is queued later comes behind. -/
theorem restore_and_flush {s₁ : System C} {as : List (Action C)} (hr : s.Reachable)
    (hc : s.connection = some c) (hpc : c.readPc = .lockState true) (hgrant : s.Steps .grant s₁)
    (hrun : Run (Guarded Steps Inside) s₁ as s') (hfree : s'.holder = .free) :
    ∃ n c', Restored s c n s' ∧ s'.connection = some c' ∧ Queued c (s.impl.restoring n) c' ∧
      (n = s.impl.publishQueue.length ∨ ∃ as₁ t, as = as₁ ++ [.hold] ∧
        Run (Guarded Steps Inside) s₁ as₁ t ∧ Refuses s n t) ∧
      ∀ bs s'', Run (Guarded Steps KeepsQueue) s' bs s'' →
        ∃ c'' later, s''.connection = some c'' ∧ Fifo c' later c'' := by
  have hr' : s'.Reachable :=
    reachable_of_run hr (Run.cons hgrant (hrun.mono fun _ _ _ hg => hg.2))
  have hend : ∀ n, Restored s c n s' → ∃ c', s'.connection = some c' ∧
      Queued c (s.impl.restoring n) c' ∧
      ∀ bs s'', Run (Guarded Steps KeepsQueue) s' bs s'' →
        ∃ c'' later, s''.connection = some c'' ∧ Fifo c' later c'' := by
    intro n hdone
    obtain ⟨c', hc', hqueued⟩ := hdone.queue
    exact ⟨c', hc', hqueued, fun bs s'' hlater => fifo_of_run hr' hc' hlater⟩
  obtain (hmid | hdone) | ⟨n, as₁, t, hdone, has, hrun₁, hrefuses⟩ :=
    restored_of_run (restoring_grant hc hpc hgrant) hrun
  · obtain ⟨-, d, packets, -, -, -, o, k, hh, -⟩ := hmid
    rcases hh with hh | hh <;> simp [hfree] at hh
  · obtain ⟨c', hc', hqueued, hlater⟩ := hend _ hdone
    exact ⟨_, c', hdone, hc', hqueued, .inl rfl, hlater⟩
  · obtain ⟨c', hc', hqueued, hlater⟩ := hend n hdone
    exact ⟨n, c', hdone, hc', hqueued, .inr ⟨as₁, t, has, hrun₁, hrefuses⟩, hlater⟩

/-- A client subscribes twice and publishes twice while it connects, with a send queue
of size 1, up to its CONNACK. -/
def subscribeAndPublish : List (Action Unit) :=
  [.setPublishQueue .fifo 2, .setSendQueue 1, .call .connect, .hold, .call (.subscribe [98] ()),
    .call (.subscribe [97] ()), .call (.publish ⟨[97], [120], false⟩),
    .call (.publish ⟨[97], [121], false⟩)] ++ toConnack

/-- The write thread takes a packet between the first message and the second. -/
def takeOneMeanwhile : List (Action Unit) :=
  [.hold, .hold, .hold, .hold, .write .next, .write .next, .hold, .hold, .hold]

/-- With a send queue of size 1 two SUBSCRIBEs fit; after the write thread has taken
one of them a message fits, and the next one is refused. -/
theorem restore_and_flush_takeOne :
    ∃ (s s' : System Unit) (c : Connection) (n : Nat) (c' : Connection),
      Restored s c n s' ∧ s'.connection = some c' ∧ Queued c (s.impl.restoring n) c' ∧
        c'.enqueued = [.subscribe 1 [97], .subscribe 2 [98], .publish ⟨[97], [120], false⟩] := by
  obtain ⟨s, hrun, htest⟩ := run_of_exec subscribeAndPublish
    (fun s => s.connection.any (fun c => c.readPc = .lockState true) ∧
      ((s.next .grant).bind fun s₁ => exec (nextIf Inside) s₁ takeOneMeanwhile).any fun s' =>
        s'.holder = .free ∧ s'.connection.any fun c' => c'.enqueued =
          [.subscribe 1 [97], .subscribe 2 [98], .publish ⟨[97], [120], false⟩])
    (by decide +kernel)
  obtain ⟨hany, hinside⟩ := of_decide_eq_true htest
  obtain ⟨c, hc, hpc⟩ := (Option.any_eq_true _ _).mp hany
  obtain ⟨s', hs', htest'⟩ := (Option.any_eq_true _ _).mp hinside
  obtain ⟨s₁, hgrant, hexec⟩ := Option.bind_eq_some_iff.mp hs'
  obtain ⟨hfree, hany'⟩ := of_decide_eq_true htest'
  obtain ⟨c₁, hc₁, henq⟩ := (Option.any_eq_true _ _).mp hany'
  have hsection : Run (Guarded Steps Inside) s₁ takeOneMeanwhile s' :=
    Run.of_exec_eq (fun {_ _ _} => guarded_of_nextIf) hexec
  obtain ⟨n, c', hdone, hc', hqueued, -⟩ := restore_and_flush
    ⟨{}, subscribeAndPublish, initial_default, hrun⟩ hc (of_decide_eq_true hpc)
    (steps_of_next hgrant) hsection hfree
  cases hc₁.symm.trans hc'
  exact ⟨s, s', c, n, c₁, hdone, hc', hqueued, of_decide_eq_true henq⟩

end System

end TrueMqtt
