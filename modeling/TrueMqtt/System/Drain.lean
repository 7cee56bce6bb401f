import TrueMqtt.Lib.Within
import TrueMqtt.System.Inbound
import TrueMqtt.System.Stop
import TrueMqtt.System.Valid
import TrueMqtt.System.Wakeup

/-!
# TrueMqtt.System.Drain

The write thread gets done with what it has.

It needs three steps for a packet to get to its first `::send`, and then one for each
`::send`, which takes at least a byte (`Outgoing.steps`).  It sleeps over an empty
queue only, and is woken for a packet (`Prompt`).  So as long as a connection stays up,
whatever other threads do, a number of its own steps that only depends on the packets on
their way is enough to write them all, and until then it can make the next
(`drains`).  Packets with priority come before those, and are not considered.
-/

namespace TrueMqtt

/-- The steps of the write thread for a packet, from the switch of `runWrite` on. -/
def Outgoing.steps (o : Outgoing) : Nat := o.encode.length + 3

theorem Outgoing.length_encode_pos (o : Outgoing) : 0 < o.encode.length := by
  obtain ⟨tail, htail⟩ := Packet.unsent_writeHeader_eq_cons o.draft.packet
    (by rw [Draft.packet, Packet.build_eq]; simp)
  rw [encode, htail]
  exact Nat.succ_pos _

/-- The steps made for the next packet. -/
def WritePc.made : WritePc → Nat
  | pop | woken => 1
  | holding _ => 2
  | writing _ offset => offset + 3
  | _ => 0

/-- The read thread queues a packet with priority. -/
def ReadPc.urgent : ReadPc → Bool
  | sendConnect | sendPingRequest => true
  | _ => false

namespace Connection

variable {cfg : Config} {c c' d : Connection} {pointer : Bool} {n : Nat}

/-- The write thread sleeps over an empty queue, and has a rest to write. -/
structure Prompt (c : Connection) : Prop where
  asleep : c.writePc.asleep = true → c.sendQueue = []
  part : ∀ o offset, c.writePc = .writing o offset → offset < o.encode.length

theorem prompt_new (cfg : Config) : (new cfg).Prompt := by
  constructor
  · intro h
    cases h
  · intro _ _ h
    cases h

/-- What the steps of other threads do to the send queue: nothing, or they push a packet
and wake the write thread. -/
structure Beside (c d : Connection) : Prop where
  completed : d.completed = c.completed
  wake : d.writePc = c.writePc ∨ (c.writePc = .blocked ∧ d.writePc = .wait)
  queue : d.sendQueue = c.sendQueue ∨
    ∃ o, d.sendQueue = c.sendQueue ++ [o] ∧ d.writePc.asleep = false

theorem beside_of_same (hdone : d.completed = c.completed) (hpc : d.writePc = c.writePc)
    (hq : d.sendQueue = c.sendQueue) : Beside c d :=
  ⟨hdone, .inl hpc, .inl hq⟩

theorem wake_notify (c : Connection) :
    c.notify.writePc = c.writePc ∨ (c.writePc = .blocked ∧ c.notify.writePc = .wait) := by
  unfold notify
  split
  · next hb => exact .inr ⟨hb, rfl⟩
  · exact .inl rfl

theorem beside_notify (c : Connection) : Beside c c.notify :=
  ⟨completed_notify c, wake_notify c, .inl (sendQueue_notify c)⟩

theorem beside_push (o : Outgoing) (hqf : c.queueFree = true) : Beside c (c.push o) := by
  have hfree : c.writePc ≠ .blocking ∧ c.writePc ≠ .woken := of_decide_eq_true hqf
  refine ⟨completed_notify _, wake_notify _, .inr ⟨o, sendQueue_notify _, ?_⟩⟩
  cases hasleep : (c.push o).writePc.asleep with
  | false => rfl
  | true => exact absurd (asleep_notify _ hasleep) hfree.1

theorem Prompt.beside (h : c.Prompt) (hb : Beside c d) : d.Prompt where
  asleep := fun hd => by
    obtain hq | ⟨o, -, hawake⟩ := hb.queue
    · rw [hq]
      obtain hpc | ⟨-, hpc⟩ := hb.wake
      · exact h.asleep (hpc ▸ hd)
      · rw [hpc] at hd
        cases hd
    · cases hawake.symm.trans hd
  part := fun o offset hpc => by
    obtain hw | ⟨-, hw⟩ := hb.wake
    · exact h.part o offset (hw ▸ hpc)
    · cases hw.symm.trans hpc

theorem prompt_readStep {i : ReadInput} (h : c.Prompt) (hr : c.readStep cfg i = .ok c') :
    c'.Prompt := by
  cases readBranch_of_readStep hr with
  | sendConnect hpc hqf | sendPingRequest hpc hqf =>
      have hfree : c.writePc ≠ .blocking ∧ c.writePc ≠ .woken := of_decide_eq_true hqf
      refine ⟨fun hasleep => absurd (asleep_notify _ hasleep) hfree.1, fun o offset hw => ?_⟩
      obtain hsame | ⟨-, hwait⟩ := wake_notify { c with sendQueue := _ :: c.sendQueue }
      · exact h.part o offset (hsame.symm.trans hw)
      · cases hwait.symm.trans hw
  | clearQueue => exact ⟨fun _ => rfl, h.part⟩
  | _ => exact ⟨h.asleep, h.part⟩

theorem prompt_writeStep {i : WriteInput} (h : c.Prompt) (hw : c.writeStep pointer i = .ok c') :
    c'.Prompt := by
  cases writeBranch_of_writeStep hw with
  | spin => exact h
  | empty hpc hq | wait hpc hq => exact ⟨fun _ => hq, fun o offset hw => by cases hw⟩
  | block hpc =>
      exact ⟨fun _ => h.asleep (by rw [hpc]; rfl), fun o offset hw => by cases hw⟩
  | @start o hpc hst =>
      refine ⟨fun hasleep => ?_, fun o' offset hw => ?_⟩
      · cases hasleep
      · cases hw
        exact Outgoing.length_encode_pos o
  | write hpc hk hfits hmore =>
      refine ⟨fun hasleep => ?_, fun o' offset hw => ?_⟩
      · cases hasleep
      · cases hw
        omega
  | _ =>
      refine ⟨fun hasleep => ?_, fun o offset hw => ?_⟩
      · cases hasleep
      · cases hw

/-! ## the packets to be written -/

/-- The connection stays up: no thread has given up the socket, and the write thread
goes on. -/
structure Flowing (c : Connection) : Prop where
  online : c.state.online = true
  usable : c.usable = true
  failing : c.writePc.failing = false
  notDone : c.writePc ≠ .done

instance (c : Connection) : Decidable c.Flowing :=
  decidable_of_iff (c.state.online = true ∧ c.usable = true ∧ c.writePc.failing = false ∧
      c.writePc ≠ .done)
    ⟨fun h => ⟨h.1, h.2.1, h.2.2.1, h.2.2.2⟩, fun h => ⟨h.1, h.2, h.3, h.4⟩⟩

/-- The packets written and those on their way. -/
def sequence (c : Connection) : List Outgoing := c.completed ++ c.outgoing

/-- Of the first `n` packets, those that are not written. -/
def ahead (n : Nat) (c : Connection) : List Outgoing := c.outgoing.take (n - c.completed.length)

/-- The steps of the write thread left for them. -/
def work (n : Nat) (c : Connection) : Nat :=
  if c.completed.length < n then
    ((c.ahead n).map Outgoing.steps).sum - c.writePc.made
  else 0

theorem outgoing_beside (hb : Beside c d) : c.outgoing <+: d.outgoing := by
  have hpacket : d.writePc.packet? = c.writePc.packet? := by
    obtain hpc | ⟨hpc, hpc'⟩ := hb.wake
    · rw [hpc]
    · rw [hpc, hpc']
      rfl
  unfold outgoing
  rw [hpacket]
  obtain hq | ⟨o, hq, -⟩ := hb.queue
  · rw [hq]
  · rw [hq, ← List.append_assoc]
    exact List.prefix_append _ _

/-- What is queued behind them does not matter. -/
theorem ahead_of_prefix (hdone : d.completed = c.completed) (hout : c.outgoing <+: d.outgoing)
    (hn : n ≤ c.sequence.length) : d.ahead n = c.ahead n := by
  obtain ⟨more, hmore⟩ := hout
  have hle : n - c.completed.length ≤ c.outgoing.length := by
    rw [sequence, List.length_append] at hn
    omega
  rw [ahead, ahead, ← hmore, hdone, List.take_append_of_le_length hle]

theorem work_beside (hb : Beside c d) (hn : n ≤ c.sequence.length) : d.work n = c.work n := by
  have hmade : d.writePc.made = c.writePc.made := by
    obtain hpc | ⟨hpc, hpc'⟩ := hb.wake
    · rw [hpc]
    · rw [hpc, hpc']
      rfl
  rw [work, work, ahead_of_prefix hb.completed (outgoing_beside hb) hn, hb.completed, hmade]

/-- The next packet, if not all are written. -/
theorem exists_outgoing (hlt : c.completed.length < n) (hn : n ≤ c.sequence.length) :
    ∃ o rest, c.outgoing = o :: rest ∧
      c.ahead n = o :: rest.take (n - (c.completed.length + 1)) := by
  rw [sequence, List.length_append] at hn
  cases hout : c.outgoing with
  | nil =>
      rw [hout, List.length_nil] at hn
      omega
  | cons o rest =>
      refine ⟨o, rest, rfl, ?_⟩
      have hsucc : n - c.completed.length = n - (c.completed.length + 1) + 1 := by omega
      rw [ahead, hout, hsucc, List.take_succ_cons]

theorem Flowing.not_stop (h : c.Flowing) : c.state ≠ .stop := by
  intro hst
  have hon := h.online
  rw [hst] at hon
  cases hon

/-- Unless the write thread has taken it, the next packet is in the queue. -/
theorem sendQueue_ne_nil_of_outgoing {o : Outgoing} {rest : List Outgoing}
    (hout : c.outgoing = o :: rest) (hnone : c.writePc.packet? = none) : c.sendQueue ≠ [] := by
  intro hq
  rw [outgoing, hnone, hq] at hout
  cases hout

/-- The write thread does not sleep over a packet. -/
theorem Prompt.awake {o : Outgoing} {rest : List Outgoing} (h : c.Prompt)
    (hout : c.outgoing = o :: rest) : c.writePc.asleep = false := by
  cases hasleep : c.writePc.asleep with
  | false => rfl
  | true =>
      refine absurd (h.asleep hasleep) (sendQueue_ne_nil_of_outgoing hout ?_)
      cases hpc : c.writePc with
      | holding | writing =>
          rw [hpc] at hasleep
          cases hasleep
      | _ => rfl

/-- There are steps left for a packet that is not written. -/
theorem work_pos (hp : c.Prompt) (hlt : c.completed.length < n) (hn : n ≤ c.sequence.length) :
    0 < c.work n := by
  obtain ⟨o, rest, hout, hahead⟩ := exists_outgoing hlt hn
  have hsteps : o.steps = o.encode.length + 3 := rfl
  have hmade : c.writePc.made < o.steps := by
    cases hpc : c.writePc with
    | writing o' offset =>
        have ho : o' = o := by
          rw [outgoing, hpc] at hout
          exact (List.cons.inj hout).1
        have hpart := hp.part o' offset hpc
        rw [ho] at hpart
        simp only [WritePc.made]
        omega
    | _ =>
        simp only [WritePc.made]
        omega
  rw [work, if_pos hlt, hahead, List.map_cons, List.sum_cons]
  omega

/-- A step on the way to the next `::send`, or to the one after it. -/
theorem work_of_made {o : Outgoing} {rest : List Outgoing} (hlt : c.completed.length < n)
    (hahead : c.ahead n = o :: rest) (hdone : c'.completed = c.completed)
    (hout : c'.outgoing = c.outgoing) (hmade : c.writePc.made < c'.writePc.made)
    (hle : c'.writePc.made ≤ o.steps) :
    c'.sequence = c.sequence ∧ c'.work n + 1 ≤ c.work n := by
  have hahead' : c'.ahead n = o :: rest := by
    rw [← hahead, ahead, ahead, hdone, hout]
  have hsequence : c'.sequence = c.sequence := by rw [sequence, sequence, hdone, hout]
  refine ⟨hsequence, ?_⟩
  rw [work, work, hdone, if_pos hlt, if_pos hlt, hahead, hahead', List.map_cons, List.sum_cons]
  omega

/-- **A step of the write thread** takes one of those left. -/
theorem work_writeStep {i : WriteInput} (hf : c.Flowing) (hp : c.Prompt)
    (hlt : c.completed.length < n) (hn : n ≤ c.sequence.length) (hi : i ≠ .failed)
    (hw : c.writeStep pointer i = .ok c') :
    c'.sequence = c.sequence ∧ c'.work n + 1 ≤ c.work n := by
  obtain ⟨o, rest, hout, hahead⟩ := exists_outgoing hlt hn
  have hstop := hf.not_stop
  have hfull := sendQueue_ne_nil_of_outgoing hout
  have hsteps : 3 ≤ o.steps := Nat.le_add_left 3 _
  have hnotFailing := hf.failing
  cases writeBranch_of_writeStep hw with
  | toPop hpc | waited hpc =>
      refine work_of_made hlt hahead rfl ?_ ?_ ?_
      · simp [outgoing, hpc, WritePc.packet?]
      · simp [hpc, WritePc.made]
      · simp only [WritePc.made]
        omega
  | @pop o' q hpc hq | @wokenPop o' q hpc hst hq =>
      refine work_of_made hlt hahead rfl ?_ ?_ ?_
      · simp [outgoing, hpc, hq, WritePc.packet?]
      · simp [hpc, WritePc.made]
      · simp only [WritePc.made]
        omega
  | @start o' hpc hst =>
      refine work_of_made hlt hahead rfl ?_ ?_ ?_
      · simp [outgoing, hpc, WritePc.packet?]
      · simp [hpc, WritePc.made]
      · simp only [WritePc.made]
        omega
  | @write o' offset count k hpc hk hfits hmore =>
      have ho : o' = o := by
        rw [outgoing, hpc] at hout
        exact (List.cons.inj hout).1
      subst ho
      refine work_of_made hlt hahead rfl ?_ ?_ ?_
      · simp [outgoing, hpc, WritePc.packet?, begin, writeTo]
      · simp only [hpc, WritePc.made]
        omega
      · simp only [WritePc.made, Outgoing.steps]
        omega
  | @finish o' offset count k hpc hk hfits hend =>
      have hqueue : o' = o ∧ c.sendQueue = rest := by
        rw [outgoing, hpc] at hout
        exact List.cons.inj hout
      obtain ⟨rfl, hqueue⟩ := hqueue
      refine ⟨by simp [sequence, outgoing, hpc, WritePc.packet?, begin, writeTo], ?_⟩
      have hbefore : c.work n = o'.steps +
          ((rest.take (n - (c.completed.length + 1))).map Outgoing.steps).sum -
            (offset + 3) := by
        rw [work, if_pos hlt, hahead, List.map_cons, List.sum_cons, hpc]
        rfl
      have hafter : ∀ d : Connection, d.completed = c.completed ++ [o'] → d.writePc = .loop →
          d.sendQueue = rest → d.work n ≤
            ((rest.take (n - (c.completed.length + 1))).map Outgoing.steps).sum := by
        intro d hdone hpc hq
        rw [work, ahead, outgoing, hdone, hpc, hq, List.length_append]
        split
        · exact Nat.sub_le _ _
        · exact Nat.zero_le _
      refine Nat.le_trans (Nat.add_le_add_right (hafter _ ?_ ?_ ?_) 1) ?_
      · rfl
      · rfl
      · exact hqueue
      · rw [hbefore, Outgoing.steps]
        omega
  | done hpc hoff hst | wokenStop hpc hst | emptyStop hpc hq hst => exact absurd hst hstop
  | spin hpc hoff => exact absurd hf.online (by rw [hoff]; simp)
  | drop hpc hoff => exact absurd hf.online (by rw [hoff]; simp)
  | empty hpc hq | wait hpc hq => exact absurd hq (hfull (by rw [hpc]; rfl))
  | block hpc | wakeUp hpc =>
      have hawake := hp.awake hout
      rw [hpc] at hawake
      cases hawake
  | errorPtr hpc | errorStore hpc | errorGone hpc | errorTest hpc | errorClose hpc
  | errorInvalidate hpc =>
      rw [hpc] at hnotFailing
      cases hnotFailing
  | fail => exact absurd rfl hi

/-- The write thread is not stuck. -/
theorem exists_writeStep_of_flowing (hf : c.Flowing) (hp : c.Prompt)
    (hlt : c.completed.length < n) (hn : n ≤ c.sequence.length) (pointer : Bool) :
    ∃ i c', i ≠ .failed ∧ c.writeStep pointer i = .ok c' := by
  obtain ⟨o, rest, hout, -⟩ := exists_outgoing hlt hn
  have hstop := hf.not_stop
  have hfull := sendQueue_ne_nil_of_outgoing hout
  have hpop : c.writePc.packet? = none → ∃ c', c.pop = .ok c' := by
    intro hnone
    obtain ⟨o', q, hq⟩ := List.exists_cons_of_ne_nil (hfull hnone)
    exact ⟨_, by rw [pop, hq]⟩
  cases hpc : c.writePc with
  | loop => exact ⟨.next, _, by simp, by simp [writeStep, hpc, hf.online]; rfl⟩
  | pop =>
      obtain ⟨c', hc'⟩ := hpop (by rw [hpc]; rfl)
      exact ⟨.next, c', by simp, by simp [writeStep, hpc, hfull (by rw [hpc]; rfl), hc']⟩
  | wait =>
      exact ⟨.next, _, by simp, by simp [writeStep, hpc, hfull (by rw [hpc]; rfl)]; rfl⟩
  | woken =>
      obtain ⟨c', hc'⟩ := hpop (by rw [hpc]; rfl)
      exact ⟨.next, c', by simp, by simp [writeStep, hpc, hstop, hc']⟩
  | holding o' => exact ⟨.next, _, by simp, by simp [writeStep, hpc]; rfl⟩
  | writing o' offset =>
      have hrest := hp.part o' offset hpc
      have husable := hf.usable
      cases hk : c.socket with
      | none =>
          rw [usable, hk] at husable
          cases husable
      | some k =>
          have hfits : c.usable = true ∧ 1 ≤ 1 ∧ offset + 1 ≤ o'.encode.length :=
            ⟨husable, Nat.le_refl 1, hrest⟩
          by_cases hend : offset + 1 = o'.encode.length
          · exact ⟨.sent 1, _, by simp, by
              simp only [writeStep, hpc, hk, if_pos hfits, if_pos hend]
              rfl⟩
          · exact ⟨.sent 1, _, by simp, by
              simp only [writeStep, hpc, hk, if_pos hfits, if_neg hend]
              rfl⟩
  | blocking | blocked =>
      have hawake := hp.awake hout
      rw [hpc] at hawake
      cases hawake
  | errorPtr | errorStore | errorTest | errorClose | errorInvalidate =>
      have hnotFailing := hf.failing
      rw [hpc] at hnotFailing
      cases hnotFailing
  | done => exact absurd hpc hf.notDone

/-- The read thread leaves the queue of a connection that is up alone, apart from the
packets with priority. -/
theorem beside_readStep {i : ReadInput} (hset : c.Settled) (hon : c.state.online = true)
    (hu : c.readPc.urgent = false) (hr : c.readStep cfg i = .ok c') : Beside c c' := by
  cases readBranch_of_readStep hr with
  | sendConnect hpc | sendPingRequest hpc =>
      rw [hpc] at hu
      cases hu
  | clearQueue hpc =>
      have hoff : c.state.online = false := by
        simpa [Settled, attends, hpc, ReadPc.attends] using hset
      cases hon.symm.trans hoff
  | _ => exact beside_of_same rfl rfl rfl

end Connection

/-- A step of the read thread. -/
def Action.isRead {C : Type} : Action C → Bool
  | read _ => true
  | _ => false

/-- `::send` fails. -/
def Action.failsToSend {C : Type} : Action C → Bool
  | write .failed => true
  | _ => false

namespace System

variable {C : Type} {s s' t : System C} {a : Action C} {c d : Connection}

/-- The connection is up, and stays up as far as the write thread is concerned; the read
thread queues nothing with priority. -/
structure Flows (s : System C) (a : Action C) : Prop where
  connection : ∃ c ∈ s.connection, c.Flowing ∧ (a.isRead = true → c.readPc.urgent = false)
  sends : a.failsToSend = false

instance (s : System C) (a : Action C) : Decidable (s.Flows a) :=
  decidable_of_iff ((∃ c ∈ s.connection, c.Flowing ∧ (a.isRead = true → c.readPc.urgent = false)) ∧
      a.failsToSend = false)
    ⟨fun h => ⟨h.1, h.2⟩, fun h => ⟨h.1, h.2⟩⟩

/-- What a step of neither thread leaves of the connection. -/
theorem beside_move (hm : Move s a s') (hread : a.isRead = false) (hwrite : a.isWrite = false)
    (hd : s'.connection = some d) :
    (∃ c, s.connection = some c ∧ c.Beside d) ∨
      (d = .new s.config ∧
        (s.impl.state = .disconnected ∧ s.holder = .free ∨
          ∃ c, s.connection = some c ∧ c.writePc = .done)) := by
  have hkeep : ∀ {c}, s.connection = some c → d.completed = c.completed →
      d.writePc = c.writePc → d.sendQueue = c.sendQueue →
      (∃ c, s.connection = some c ∧ c.Beside d) ∨
      (d = .new s.config ∧
        (s.impl.state = .disconnected ∧ s.holder = .free ∨
          ∃ c, s.connection = some c ∧ c.writePc = .done)) :=
    fun hc hdone hpc hq => .inl ⟨_, hc, Connection.beside_of_same hdone hpc hq⟩
  cases hm with
  | connect hfree hst =>
      cases hd
      exact .inr ⟨rfl, .inl ⟨hst, hfree⟩⟩
  | disconnect hfree hst =>
      rw [connection_disconnect] at hd
      exact hkeep hd rfl rfl rfl
  | @refused c o k s' hc hh hsize ha =>
      obtain hsame | ⟨-, hrestored⟩ := connection_after ha
      · cases hsame.symm.trans hd
        exact hkeep hc rfl rfl rfl
      · cases hrestored.symm.trans hd
        exact hkeep hc rfl rfl rfl
  | @pushed c o k s' hc hh hqf ha =>
      have hpush := Connection.beside_push o hqf
      obtain hsame | ⟨-, hrestored⟩ := connection_after ha
      · cases hsame.symm.trans hd
        exact .inl ⟨c, hc, hpush⟩
      · cases hrestored.symm.trans hd
        exact .inl ⟨c, hc, hpush.completed, hpush.wake, hpush.queue⟩
  | stop hc hh =>
      cases hd
      exact hkeep hc rfl rfl rfl
  | @notify c again hc hh =>
      cases hd
      exact .inl ⟨c, hc, Connection.beside_notify c⟩
  | destroyed => cases hd
  | replaced hc hh hpc =>
      cases hd
      exact .inr ⟨rfl, .inr ⟨_, hc, hpc⟩⟩
  | @connected c hc hfree hpc =>
      obtain hsame | hrestored := connection_resubscribe { c with readPc := .stateChange }
        s.impl.subscriptionTopics.elems (s.setState .connected)
      · cases hsame.symm.trans hd
        exact hkeep hc rfl rfl rfl
      · cases hrestored.symm.trans hd
        exact hkeep hc rfl rfl rfl
  | lost hc | message hc =>
      cases hd
      exact hkeep hc rfl rfl rfl
  | read => cases hread
  | write => cases hwrite
  | idle | setPublishQueue | setSendQueue | setLastWill | toPublishQueue | publish
  | addSubscription | subscribe | removeSubscription | unsubscribe | room | joinRead | assign =>
      exact hkeep hd rfl rfl rfl

/-- A connection is there until its write thread has ended. -/
theorem isSome_move (hm : Move s a s') (hc : s.connection = some c) (hdone : c.writePc ≠ .done) :
    s'.connection.isSome = true := by
  cases hm with
  | disconnect =>
      rw [connection_disconnect]
      exact Option.isSome_iff_exists.mpr ⟨c, hc⟩
  | refused _ hh hsize ha | pushed _ hh hqf ha =>
      obtain hsame | ⟨-, hsame⟩ := connection_after ha
      all_goals exact Option.isSome_iff_exists.mpr ⟨_, hsame⟩
  | destroyed hc' hh hpc =>
      cases hc.symm.trans hc'
      exact absurd hpc hdone
  | connected =>
      obtain hsame | hsame := connection_resubscribe _ s.impl.subscriptionTopics.elems
        (s.setState .connected)
      all_goals exact Option.isSome_iff_exists.mpr ⟨_, hsame⟩
  | connect | stop | notify | replaced | lost | message | read | write => rfl
  | idle | setPublishQueue | setSendQueue | setLastWill | toPublishQueue | publish
  | addSubscription | subscribe | removeSubscription | unsubscribe | room | joinRead | assign =>
      exact Option.isSome_iff_exists.mpr ⟨c, hc⟩

/-! ## invariants -/

/-- What holds of the connection in every reachable state. -/
structure Tended (s : System C) : Prop where
  wellFormed : s.WellFormed
  follows : s.Follows
  connection : ∀ c, s.connection = some c → c.Prompt ∧ c.Settled

theorem tended_step (h : s.Tended) (hstep : s.Steps a s') : s'.Tended where
  wellFormed := wellFormed_move h.wellFormed (move_of_step hstep)
  follows := follows_move h.wellFormed h.follows (move_of_step hstep)
  connection := fun d hd => by
    have hm := move_of_step hstep
    cases a with
    | read i =>
        obtain ⟨c, c', hc, hr, rfl⟩ := readStep_of_steps hstep
        obtain ⟨hp, hs⟩ := h.connection c hc
        cases hd
        exact ⟨Connection.prompt_readStep hp hr, Connection.settled_readStep hs hr⟩
    | write i =>
        obtain ⟨c, c', hc, hw, rfl⟩ := writeStep_of_steps hstep
        obtain ⟨hp, hs⟩ := h.connection c hc
        cases hd
        exact ⟨Connection.prompt_writeStep hp hw,
          (Connection.bystands_writeStep hw).settled hs⟩
    | setPublishQueue | setSendQueue | setLastWill | call | hold | grant =>
        refine ⟨?_, ?_⟩
        · obtain ⟨c, hc, hb⟩ | ⟨rfl, -⟩ := beside_move hm rfl rfl hd
          · exact (h.connection c hc).1.beside hb
          · exact Connection.prompt_new _
        · obtain ⟨c, hc, hb⟩ | rfl := bystands_move h.follows hm (fun i hi => by cases hi) d hd
          · exact hb.settled (h.connection c hc).2
          · exact .inr (.inr (.inr rfl))

theorem tended_of_reachable (hr : s.Reachable) : s.Tended := by
  obtain ⟨s₀, as, h₀, hrun⟩ := hr
  refine hrun.invariant (I := Tended) ?_ fun t a t' ht hstep => tended_step ht hstep
  refine ⟨wellFormed_initial h₀, follows_initial h₀, fun c hc => ?_⟩
  obtain ⟨config, rfl⟩ := h₀
  cases hc

/-- The packets that are to be written, and the connection they are written to. -/
structure Draining (ps : List Outgoing) (s : System C) : Prop extends Tended s where
  sequence : ∃ c, s.connection = some c ∧ ps <+: c.sequence

/-- They are all written. -/
def Drained (ps : List Outgoing) (s : System C) : Prop :=
  ∃ c, s.connection = some c ∧ ps <+: c.completed

/-- The steps of the write thread left. -/
def work (ps : List Outgoing) (s : System C) : Nat :=
  s.connection.elim 0 fun c => c.work ps.length

/-- A step other than the write thread's, on a connection that is up. -/
theorem beside_of_flows (h : s.Tended) (hg : s.Flows a) (hstep : s.Steps a s')
    (hwrite : a.isWrite = false) (hc : s.connection = some c) :
    ∃ d, s'.connection = some d ∧ c.Beside d := by
  obtain ⟨c', hc', hflow, hurgent⟩ := hg.connection
  cases hc.symm.trans hc'
  have hm := move_of_step hstep
  obtain ⟨d, hd⟩ := Option.isSome_iff_exists.mp (isSome_move hm hc hflow.notDone)
  refine ⟨d, hd, ?_⟩
  cases hread : a.isRead with
  | true =>
      cases a with
      | read i =>
          obtain ⟨b, c', hb, hr, rfl⟩ := readStep_of_steps hstep
          cases hc.symm.trans hb
          cases hd
          exact Connection.beside_readStep (h.connection c hc).2 hflow.online (hurgent rfl) hr
      | setPublishQueue | setSendQueue | setLastWill | call | hold | grant | write =>
          cases hread
  | false =>
      obtain ⟨b, hb, hbeside⟩ | ⟨-, ⟨hst, hfree⟩ | ⟨b, hb, hpc⟩⟩ := beside_move hm hread hwrite hd
      · cases hc.symm.trans hb
        exact hbeside
      · -- a client that is not connected has no connection
        have hwf := h.wellFormed
        simp only [WellFormed, hfree] at hwf
        have hsome := hwf.2
        rw [hwf.1.mp hst, hc] at hsome
        cases hsome
      · cases hc.symm.trans hb
        exact absurd hpc hflow.notDone

/-- What is written stays written. -/
theorem completed_writeStep {c c' : Connection} {pointer : Bool} {i : WriteInput}
    (hw : c.writeStep pointer i = .ok c') : c.completed <+: c'.completed := by
  cases Connection.writeMove_of_writeStep hw with
  | same hq hp hdone | take o hq hp hp' hdone | drop hq hp' hdone => rw [hdone]
  | complete o hq hp hp' hdone =>
      rw [hdone]
      exact List.prefix_append _ _

theorem drain_step {ps : List Outgoing} (h : s.Draining ps)
    (hstep : Guarded Steps Flows s a s') :
    s'.Draining ps ∧ (s.Drained ps → s'.Drained ps) ∧
      (s.Drained ps ∨ s'.work ps + a.isWrite.toNat ≤ s.work ps) := by
  obtain ⟨hg, hs⟩ := hstep
  have htended := tended_step h.toTended hs
  obtain ⟨c, hc, hprefix⟩ := h.sequence
  have hlength := hprefix.length_le
  cases hwrite : a.isWrite with
  | false =>
      obtain ⟨d, hd, hb⟩ := beside_of_flows h.toTended hg hs hwrite hc
      have hsequence : c.sequence <+: d.sequence := by
        rw [Connection.sequence, Connection.sequence, hb.completed]
        exact (List.prefix_append_right_inj _).mpr (Connection.outgoing_beside hb)
      refine ⟨⟨htended, d, hd, hprefix.trans hsequence⟩, ?_, .inr ?_⟩
      · rintro ⟨b, hb', hdrained⟩
        cases hc.symm.trans hb'
        exact ⟨d, hd, by rwa [hb.completed]⟩
      · simp only [work, hc, hd, Option.elim_some, Bool.toNat_false]
        exact (Connection.work_beside hb hlength).le
  | true =>
      cases a with
      | write i =>
          obtain ⟨b, c', hb, hw, rfl⟩ := writeStep_of_steps hs
          cases hc.symm.trans hb
          obtain ⟨b, hb, hflow, -⟩ := hg.connection
          cases hc.symm.trans hb
          have hi : i ≠ .failed := by
            rintro rfl
            cases hg.sends
          have hdone := completed_writeStep hw
          have hstable : s.Drained ps → Drained ps { s with connection := some c' } := by
            rintro ⟨b, hb', hdrained⟩
            cases hc.symm.trans hb'
            exact ⟨c', rfl, hdrained.trans hdone⟩
          by_cases hlt : c.completed.length < ps.length
          · obtain ⟨hsequence, hwork⟩ :=
              Connection.work_writeStep hflow (h.connection c hc).1 hlt hlength hi hw
            refine ⟨⟨htended, c', rfl, by rwa [hsequence]⟩, hstable, .inr ?_⟩
            simpa only [work, hc, Option.elim_some, Bool.toNat_true] using hwork
          · have hdrained : ps <+: c.completed :=
              List.prefix_of_prefix_length_le hprefix (List.prefix_append _ _)
                (Nat.le_of_not_lt hlt)
            have hmore : ps <+: c'.sequence :=
              (hdrained.trans hdone).trans (List.prefix_append _ _)
            exact ⟨⟨htended, c', rfl, hmore⟩, hstable, .inl ⟨c, hc, hdrained⟩⟩
      | setPublishQueue | setSendQueue | setLastWill | call | hold | grant | read =>
          cases hwrite

/-- **The write thread gets done.**  From a reachable state on, in a run in which the
connection stays up and nothing with priority is queued, the packets on their way are
written after so many steps of the write thread, whatever the other threads do; and until
then it is awake, and can make the next. -/
theorem drains {as : List (Action C)} (hr : t.Reachable) (hc : t.connection = some c)
    (h : Run (Guarded Steps Flows) t as s) :
    ∃ d, s.connection = some d ∧ c.completed ++ c.outgoing <+: d.completed ++ d.outgoing ∧
      ((c.outgoing.map Outgoing.steps).sum ≤ as.countP Action.isWrite →
        c.completed ++ c.outgoing <+: d.completed) ∧
      (d.Flowing → c.completed ++ c.outgoing <+: d.completed ∨
        d.writePc.asleep = false ∧ ∃ i s', i ≠ .failed ∧ s.Steps (.write i) s') := by
  obtain ⟨hdraining, hcount⟩ := h.countP_le_rank_until (P := Drained c.sequence)
    Action.isWrite (work c.sequence) (fun _ _ _ hs hstep => drain_step hs hstep)
    ⟨tended_of_reachable hr, c, hc, List.prefix_refl _⟩
  obtain ⟨d, hd, hprefix⟩ := hdraining.sequence
  have hprompt := (hdraining.connection d hd).1
  have hall : c.sequence.length ≤ d.completed.length → c.sequence <+: d.completed :=
    List.prefix_of_prefix_length_le hprefix (List.prefix_append _ _)
  have hstart : t.work c.sequence ≤ (c.outgoing.map Outgoing.steps).sum := by
    have hahead : c.ahead c.sequence.length = c.outgoing := by
      rw [Connection.ahead, Connection.sequence, List.length_append, Nat.add_sub_cancel_left,
        List.take_length]
    simp only [work, hc, Option.elim_some, Connection.work, hahead]
    split
    · exact Nat.sub_le _ _
    · exact Nat.zero_le _
  refine ⟨d, hd, hprefix, fun hmany => ?_, fun hflow => ?_⟩
  · obtain ⟨b, hb, hdrained⟩ | hcount := hcount
    · cases hd.symm.trans hb
      exact hdrained
    · refine hall (Nat.le_of_not_lt fun hlt => ?_)
      have hleft := Connection.work_pos hprompt hlt hprefix.length_le
      have hwork : s.work c.sequence = d.work c.sequence.length := by
        simp only [work, hd, Option.elim_some]
      omega
  · by_cases hlt : d.completed.length < c.sequence.length
    · obtain ⟨o, rest, hout, -⟩ := Connection.exists_outgoing hlt hprefix.length_le
      obtain ⟨i, d', hi, hw⟩ := Connection.exists_writeStep_of_flowing hflow hprompt hlt
        hprefix.length_le s.pointer
      exact .inr ⟨hprompt.awake hout, i, _, hi, steps_write hd hw⟩
    · exact .inl (hall (Nat.le_of_not_lt hlt))

/-- A PUBLISH of six bytes is on its way. -/
def publishOnItsWay : List (Action Unit) :=
  [.call .connect, .hold] ++ toConnack ++
    [.grant, .call (.publish ⟨[97], [120], false⟩), .hold, .hold]

/-- The write thread writes it byte by byte, while another is published, which it then
takes up. -/
def writeByteByByte : List (Action Unit) :=
  [.write .next, .write .next, .write .next, .write (.sent 1),
    .call (.publish ⟨[97], [121], false⟩), .hold, .hold, .write (.sent 1), .write (.sent 1),
    .write (.sent 1), .write (.sent 1), .write (.sent 1), .write .next, .write .next]

theorem drains_writeByteByByte : ∃ c d : Connection,
    c.outgoing = [.publish ⟨[97], [120], false⟩] ∧
      d.outgoing = [.publish ⟨[97], [121], false⟩] ∧
      c.completed ++ c.outgoing <+: d.completed := by
  obtain ⟨t, hrun, htest⟩ := run_of_exec publishOnItsWay
    (fun t => t.connection.any fun c => c.outgoing = [.publish ⟨[97], [120], false⟩] ∧
      (exec (nextIf Flows) t writeByteByByte).any fun s =>
        s.connection.any fun d => d.outgoing = [.publish ⟨[97], [121], false⟩])
    (by decide +kernel)
  obtain ⟨c, hc, htest⟩ := (Option.any_eq_true _ _).mp htest
  obtain ⟨hout, hexec⟩ := of_decide_eq_true htest
  obtain ⟨s, hmore, hany⟩ := Run.of_exec (fun {_ _ _} => guarded_of_nextIf) hexec
  obtain ⟨d, hd, -, hdrained, -⟩ := drains ⟨{}, _, initial_default, hrun⟩ hc hmore
  rw [hd] at hany
  refine ⟨c, d, hout, of_decide_eq_true hany, hdrained ?_⟩
  rw [hout]
  decide +kernel

end System

end TrueMqtt
