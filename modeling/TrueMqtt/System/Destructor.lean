import TrueMqtt.Lib.Within
import TrueMqtt.System.Stop
import TrueMqtt.System.Wakeup

/-!
# TrueMqtt.System.Destructor

`~Connection` returns.  When STOP is stored, neither thread past the point where
it still heeds it, each thread has only a few steps left (`rank`), and the two
joins never wait for a thread that has none (`destructor_returns`).

A write thread in the middle of a packet is such a point: the read thread closes
the socket under it, and the error path of `sendPacket` dereferences the null
`m_connection`.
-/

namespace TrueMqtt

/-- In the loop of `sendPacket`, or on its error path up to the store. -/
def WritePc.sending : WritePc → Bool
  | writing _ _ | errorPtr | errorStore => true
  | _ => false

/-! ## the steps left -/

/-- The steps the read thread has left once STOP is stored. -/
def ReadPc.rank : ReadPc → Nat
  | done => 0
  | stopInvalidate => 1
  | stopClose => 2
  | stopTest => 3
  | loop => 4
  | resolveCheck | connectCheck | authCheck | sendConnect | sleep | recvFailed
  | subscribeCallback | errorInvalidate | clearQueue => 5
  | getaddrinfo | connectToAny | socketStore | recv | errorClose => 6
  | resolve | recvData | errorTest => 7
  | sendPingRequest => 8
  | _ => 9

/-- The steps the write thread has left once STOP is stored. -/
def WritePc.rank : WritePc → Nat
  | done => 0
  | loop => 1
  | woken | holding _ | errorInvalidate => 2
  | pop | wait | errorClose => 3
  | blocked | errorTest => 4
  | _ => 5

/-- The steps `~Connection` has left once STOP is stored. -/
def Holder.rank : Holder → Nat
  | notify _ => 3
  | joinRead _ => 2
  | joinWrite _ => 1
  | _ => 0

namespace Connection

variable {cfg : Config} {c c' : Connection}

/-- The steps both threads have left. -/
def rank (c : Connection) : Nat := c.readPc.rank + c.writePc.rank

/-- STOP is stored, and both threads heed it. -/
structure Leaving (c : Connection) : Prop where
  state : c.state = .stop
  committed : c.readPc.committed = false
  stateChange : c.readPc ≠ .stateChange
  sending : c.writePc.sending = false

theorem rank_notify_le (c : Connection) : c.notify.rank ≤ c.rank := by
  unfold notify
  split
  · next hb => simp [rank, hb, WritePc.rank]
  · exact Nat.le_refl _

theorem leaving_notify (h : c.Leaving) : c.notify.Leaving := by
  refine ⟨by simp [h.state], by simp [h.committed], by simp [h.stateChange], ?_⟩
  unfold notify
  split
  · rfl
  · exact h.sending

theorem sending_readStep {i : ReadInput} (h : c.readStep cfg i = .ok c')
    (hs : c.writePc.sending = false) : c'.writePc.sending = false := by
  have hnotify : ∀ d : Connection, d.writePc = c.writePc → d.notify.writePc.sending = false := by
    intro d hd
    unfold notify
    split
    · rfl
    · rwa [hd]
  cases readBranch_of_readStep h with
  | sendConnect | sendPingRequest => exact hnotify _ rfl
  | _ => exact hs

theorem rank_received {p : Packet} (h : (received p).committed = false) :
    (received p).rank < ReadPc.recvData.rank := by
  obtain hp | hp | hp | hp | ⟨topic, message, hp⟩ := received_cases p
  all_goals simp_all [ReadPc.committed, ReadPc.rank]

theorem rank_pushFront_le (o : Outgoing) (c : Connection) (pc : ReadPc) :
    { c.pushFront o with readPc := pc }.rank ≤ pc.rank + c.writePc.rank := by
  have h := rank_notify_le { c with sendQueue := o :: c.sendQueue }
  simp only [rank, readPc_notify] at h ⊢
  exact Nat.add_le_add_left (by rw [pushFront]; omega) _

/-- The read thread goes one step towards its end. -/
theorem rank_readStep {i : ReadInput} (h : c.Leaving) (hi : c.HeedsStop i)
    (hr : c.readStep cfg i = .ok c') : c'.rank < c.rank := by
  have hst := h.state
  have hcom := h.committed
  cases readBranch_of_readStep hr with
  | dispatch hpc => simp [rank, hpc, hst, dispatch, ReadPc.rank]
  | received hpc =>
      have hlt := rank_received hi
      simp only [rank, hpc]
      omega
  | sendConnect hpc =>
      have hle := rank_pushFront_le (.connect cfg.connectInfo) c .loop
      simp only [rank, hpc, ReadPc.rank] at hle ⊢
      omega
  | sendPingRequest hpc =>
      have hle := rank_pushFront_le .pingRequest c .recvData
      simp only [rank, hpc, ReadPc.rank] at hle ⊢
      omega
  | lookupFails | untried hpc => simp_all [HeedsStop]
  | resolveCheck _ hne | exhausted _ hne | established _ hne | authCheck _ hne | sleep _ hne
  | recvFailed _ hne => exact absurd hst hne
  | recv _ hne => exact absurd (.inr hst) hne
  | _ hpc => simp_all [rank, ReadPc.rank, ReadPc.committed]

theorem leaving_readStep {i : ReadInput} (h : c.Leaving) (hi : c.HeedsStop i)
    (hr : c.readStep cfg i = .ok c') : c'.Leaving := by
  have hne : c.writePc ≠ .errorStore := by
    intro he
    have hs := h.sending
    rw [he] at hs
    cases hs
  have hstop := stopping_readStep ⟨h.state, h.committed, hne⟩ hi hr
  exact ⟨hstop.state, hstop.readPc, (readFrame_of_readStep hr).stateChange.2,
    sending_readStep hr h.sending⟩

/-- The write thread goes one step towards its end. -/
theorem leaving_writeStep {pointer : Bool} {i : WriteInput} (h : c.Leaving)
    (hw : c.writeStep pointer i = .ok c') : c'.Leaving ∧ c'.rank < c.rank := by
  obtain ⟨hst, hcom, hsc, hs⟩ := h
  cases writeBranch_of_writeStep hw with
  | write hpc | finish hpc | fail hpc | errorPtr hpc | errorStore hpc =>
      rw [hpc] at hs
      cases hs
  | toPop hpc hon | start hpc hon =>
      rw [hst] at hon
      cases hon
  | spin _ _ hne | empty _ _ hne | wait _ _ hne | wokenPop _ hne => exact absurd hst hne
  | _ hpc => exact ⟨⟨hst, hcom, hsc, rfl⟩, by simp [rank, hpc, WritePc.rank]⟩

/-- A read thread that has not ended is not stuck, but for the lock of the queue. -/
theorem readStep_of_leaving (cfg : Config) (h : c.Leaving) (hdone : c.readPc ≠ .done)
    (hqf : c.queueFree = true) : ∃ i c', c.HeedsStop i ∧ c.readStep cfg i = .ok c' := by
  obtain ⟨hst, hcom, hsc, hs⟩ := h
  cases hpc : c.readPc with
  | getaddrinfo => exact ⟨.lookup true, by simp [HeedsStop, readStep, hpc]⟩
  | connectCheck => exact ⟨.attempt .pending, by simp [HeedsStop, readStep, hpc, hst]⟩
  | recvTimer => exact ⟨.timer false, by simp [HeedsStop, readStep, hpc]⟩
  | recvData => exact ⟨.receive .failed, by simp [HeedsStop, readStep, hpc]⟩
  | stateChange => exact absurd hpc hsc
  | done => exact absurd hpc hdone
  | _ => exact ⟨.next, by simp_all [HeedsStop, readStep, ReadPc.committed]⟩

/-- A write thread that has not ended is not stuck. -/
theorem writeStep_of_leaving (pointer : Bool) (h : c.Leaving) (hdone : c.writePc ≠ .done) :
    ∃ c', c.writeStep pointer .next = .ok c' := by
  obtain ⟨hst, hcom, hsc, hs⟩ := h
  cases hpc : c.writePc with
  | pop => cases hq : c.sendQueue <;> simp [writeStep, hpc, hq, pop]
  | done => exact absurd hpc hdone
  | writing | errorPtr | errorStore => simp [hpc, WritePc.sending] at hs
  | _ => simp [writeStep, hpc, hst, ConnectionState.online]

end Connection

namespace System

variable {C : Type} {s s' : System C} {a : Action C} {c c' : Connection}

/-- The steps in which no STOP finds the write thread in the middle of a packet. -/
def StopsBetweenPackets (s : System C) : Action C → Prop
  | .hold => match s.holder, s.connection with
      | .stop _, some c => c.writePc.sending = false
      | _, _ => True
  | _ => True

instance (s : System C) (a : Action C) : Decidable (s.StopsBetweenPackets a) := by
  unfold StopsBetweenPackets
  induction a using Action.casesOn with
  | hold =>
      induction s.holder using Holder.casesOn
      all_goals induction s.connection using Option.casesOn <;> infer_instance
  | _ => infer_instance

/-- The steps in which both threads heed a STOP: the read thread is not past its
last test, the write thread is between two packets, and not about to block when it
is notified. -/
def StopsCleanly (s : System C) (a : Action C) : Prop :=
  s.StopsInTime a ∧ s.NotifiesInTime a ∧ s.StopsBetweenPackets a

instance (s : System C) (a : Action C) : Decidable (s.StopsCleanly a) :=
  inferInstanceAs (Decidable (_ ∧ _ ∧ _))

/-! ## the invariant -/

/-- The read thread is in `connectionStateChange(true)` only while the holder is. -/
def Inhabited (s : System C) : Prop :=
  ∀ c, s.connection = some c → c.readPc = .stateChange → s.holder.restoring = true

theorem inhabited_of_ne (h : ∀ c, s.connection = some c → c.readPc ≠ .stateChange) :
    s.Inhabited :=
  fun c hc hpc => absurd hpc (h c hc)

theorem inhabited_flush (messages : List Message) : (s.flush c messages).Inhabited := by
  cases messages with
  | nil => exact inhabited_of_ne (by simp [flush, finish])
  | cons m ms => exact fun _ _ _ => rfl

theorem inhabited_resubscribe (topics : List Str) : (s.resubscribe c topics).Inhabited := by
  cases topics with
  | nil => exact inhabited_flush _
  | cons t ts => exact fun _ _ _ => rfl

/-- A send of a call outside of `connectionStateChange` leaves the read thread
where it is. -/
theorem inhabited_after {sent : Bool} {k : After}
    (h : k.restoring = false → c.readPc ≠ .stateChange) (ha : s.after c sent k = .ok s') :
    s'.Inhabited := by
  cases k with
  | publish m =>
      cases ha
      exact inhabited_of_ne (by simpa using h rfl)
  | request =>
      cases ha
      cases sent <;> exact inhabited_of_ne (by simpa [System.disconnect] using h rfl)
  | resubscribe topics =>
      cases sent with
      | true =>
          cases ha
          exact inhabited_resubscribe topics
      | false => cases ha
  | flush messages =>
      cases ha
      cases sent with
      | true => exact inhabited_flush messages
      | false => exact inhabited_of_ne (by simp [finish])

/-- Where no send of `connectionStateChange` is under way, the read thread is
elsewhere. -/
theorem Inhabited.ne (h : s.Inhabited) (hc : s.connection = some c)
    (hr : s.holder.restoring = false) : c.readPc ≠ .stateChange := by
  intro hpc
  rw [h c hc hpc] at hr
  cases hr

theorem inhabited_move (h : s.Inhabited) (hm : Move s a s') : s'.Inhabited := by
  cases hm with
  | idle => exact h
  | setPublishQueue hst => exact h
  | setSendQueue hst => exact h
  | setLastWill => exact h
  | connect hfree hst => exact inhabited_of_ne (by simp [System.connect, Connection.new])
  | disconnect hfree hst =>
      refine inhabited_of_ne fun d hd => h.ne ?_ (by rw [hfree]; rfl)
      simpa [setState] using hd
  | toPublishQueue hfree hst hq => exact h
  | addSubscription hfree hst => exact h
  | removeSubscription hfree hst hmem hi => exact h
  | publish hfree hst | subscribe hfree hst | unsubscribe hfree hst hmem hi =>
      exact inhabited_of_ne fun d hd => h.ne hd (by rw [hfree]; rfl)
  | room hc hh hsize =>
      intro d hd hpc
      have hr := h d hd hpc
      rwa [hh] at hr
  | refused hc hh hsize ha =>
      exact inhabited_after (fun hk => h.ne hc (by rw [hh]; exact hk)) ha
  | pushed hc hh hqf ha =>
      refine inhabited_after (fun hk => ?_) ha
      simpa [Connection.push] using h.ne hc (by rw [hh]; exact hk)
  | stop hc hh | notify hc hh | joinRead hc hh hpc =>
      exact inhabited_of_ne (by simpa [hc] using h.ne hc (by rw [hh]; rfl))
  | destroyed hc hh hpc => exact inhabited_of_ne (by simp)
  | replaced hc hh hpc => exact inhabited_of_ne (by simp [Connection.new])
  | assign hh hc => exact inhabited_of_ne fun d hd => h.ne hd (by rw [hh]; rfl)
  | connected hc hfree hpc => exact inhabited_resubscribe _
  | lost hc hfree hpc | message hc hfree hpc => exact inhabited_of_ne (by simp)
  | read hc hr =>
      have hne := (Connection.readFrame_of_readStep hr).stateChange.2
      exact inhabited_of_ne (by simpa using hne)
  | write hc hw =>
      intro d hd hpc
      cases hd
      rw [(Connection.writeFrame_of_writeStep hw).readPc] at hpc
      exact h _ hc hpc

/-- Once STOP is stored, both threads are on their way out. -/
def Departs (s : System C) : Prop :=
  s.holder.stopped = true → ∃ c, s.connection = some c ∧ c.Leaving

theorem departs_move (hin : s.Inhabited) (h : s.Departs)
    (hg : s.StopsCleanly a) (hm : Move s a s') : s'.Departs := by
  intro hs
  obtain ⟨htime, -, hbetween⟩ := hg
  cases stoppedMove_of_move hm hs with
  | quiet hc' hh' =>
      rw [hc']
      exact h (hh' ▸ hs)
  | stop c again ha hc hh hc' hh' =>
      subst ha
      simp only [StopsInTime, StopsBetweenPackets, hh, hc] at htime hbetween
      refine ⟨_, hc', rfl, htime.1, fun hpc => ?_, hbetween⟩
      have hrestoring := hin c hc hpc
      rw [hh] at hrestoring
      cases hrestoring
  | notify c again ha hc hh hc' hh' =>
      obtain ⟨d, hd, hleaving⟩ := h (by rw [hh]; rfl)
      cases hc.symm.trans hd
      exact ⟨_, hc', Connection.leaving_notify hleaving⟩
  | joinRead c again hc hh hpc hc' hh' =>
      rw [hc', ← hc]
      exact h (by rw [hh]; rfl)
  | read c c' i ha hc hr hc' hh' =>
      obtain ⟨d, hd, hleaving⟩ := h (hh' ▸ hs)
      cases hc.symm.trans hd
      subst ha
      simp only [StopsInTime, hc] at htime
      exact ⟨_, hc', Connection.leaving_readStep hleaving (htime hleaving.state) hr⟩
  | write c c' i ha hc hw hc' hh' =>
      obtain ⟨d, hd, hleaving⟩ := h (hh' ▸ hs)
      cases hc.symm.trans hd
      exact ⟨_, hc', (Connection.leaving_writeStep hleaving hw).1⟩

/-- The invariant of the runs in which every STOP is heeded. -/
structure Departing (s : System C) : Prop where
  wellFormed : s.WellFormed
  inhabited : s.Inhabited
  departs : s.Departs
  awake : s.Awake
  readJoined : s.ReadJoined

theorem departing_step (h : s.Departing) (hg : s.StopsCleanly a) (hstep : s.Steps a s') :
    s'.Departing := by
  have hm := move_of_step hstep
  exact
    { wellFormed := wellFormed_move h.wellFormed hm
      inhabited := inhabited_move h.inhabited hm
      departs := departs_move h.inhabited h.departs hg hm
      awake := awake_move h.awake hg.2.1 hm
      readJoined := readJoined_move h.readJoined hm }

/-! ## the result -/

/-- The steps of `~Connection` and of the two threads it joins. -/
def Joins (s : System C) (a : Action C) (s' : System C) : Prop :=
  Guarded Steps StopsCleanly s a s' ∧ (a = .hold ∨ (∃ i, a = .read i) ∨ ∃ i, a = .write i)

/-- Not a spurious wakeup. -/
def Due (s : System C) : Action C → Prop
  | .write _ => ∀ c, s.connection = some c → c.writePc ≠ .blocked
  | _ => True

/-- `~Connection` has returned, and `connect` has made the next connection if one
is to replace it. -/
def Destroyed (s : System C) : Prop :=
  (s.holder = .free ∧ s.connection = none) ∨
    (s.holder = .assign ∧ s.connection = some (.new s.config))

/-- The steps left until `~Connection` returns. -/
def rank (s : System C) : Nat :=
  if s.holder.stopped then s.holder.rank + s.connection.elim 0 Connection.rank else 0

/-- A STOP that is heeded has the threads come to their ends, and `~Connection`
with them. -/
theorem joins_step (h : s.Departing) (hs : s.holder.stopped = true) (hj : Joins s a s') :
    (s'.holder.stopped = true ∨ s'.Destroyed) ∧ s'.rank < s.rank := by
  obtain ⟨⟨hg, hstep⟩, ha⟩ := hj
  obtain ⟨c, hc, hleaving⟩ := h.departs hs
  obtain rfl | ⟨i, rfl⟩ | ⟨i, rfl⟩ := ha
  · simp only [Steps, step, hc] at hstep
    cases hh : s.holder with
    | free | sendTest | sendPush | stop | assign => simp [hh, Holder.stopped] at hs
    | notify again =>
        simp only [hold, hh] at hstep
        cases hstep
        have hle := c.rank_notify_le
        refine ⟨.inl rfl, ?_⟩
        simp only [rank, hh, hc, Holder.stopped, Holder.rank, Option.elim_some, ↓reduceIte]
        omega
    | joinRead again =>
        simp only [hold, hh] at hstep
        split at hstep
        · cases hstep
          refine ⟨.inl rfl, ?_⟩
          simp [rank, hh, hc, Holder.stopped, Holder.rank]
        · cases hstep
    | joinWrite again =>
        have hpos : 0 < s.rank := by
          simp only [rank, hh, Holder.stopped, Holder.rank, ↓reduceIte]
          omega
        simp only [hold, hh] at hstep
        split at hstep
        · cases again with
          | false =>
              cases hstep
              exact ⟨.inr (.inl ⟨rfl, rfl⟩), hpos⟩
          | true =>
              cases hstep
              exact ⟨.inr (.inr ⟨rfl, rfl⟩), hpos⟩
        · cases hstep
  · obtain ⟨d, c', hd, hr, rfl⟩ := readStep_of_steps hstep
    cases hc.symm.trans hd
    have hheeds := hg.1
    simp only [StopsInTime, hc] at hheeds
    have hlt := Connection.rank_readStep hleaving (hheeds hleaving.state) hr
    exact ⟨.inl hs, by simpa [rank, hs, hc] using hlt⟩
  · obtain ⟨d, c', hd, hw, rfl⟩ := writeStep_of_steps hstep
    cases hc.symm.trans hd
    have hlt := (Connection.leaving_writeStep hleaving hw).2
    exact ⟨.inl hs, by simpa [rank, hs, hc] using hlt⟩

section due

variable (hc : s.connection = some c) (hleaving : c.Leaving)

include hc hleaving

/-- The write thread goes on. -/
theorem exists_joins_write (hdone : c.writePc ≠ .done) (hb : c.writePc ≠ .blocked) :
    ∃ a s', s.Due a ∧ Joins s a s' := by
  obtain ⟨c', hw⟩ := Connection.writeStep_of_leaving s.pointer hleaving hdone
  have hstep : s.Steps (.write .next) { s with connection := some c' } := steps_write hc hw
  refine ⟨.write .next, _, ?_, ⟨⟨trivial, trivial, trivial⟩, hstep⟩, .inr (.inr ⟨_, rfl⟩)⟩
  intro d hd
  cases hc.symm.trans hd
  exact hb

/-- The read thread goes on, or the write thread holds the lock it waits for. -/
theorem exists_joins_read (hdone : c.readPc ≠ .done) : ∃ a s', s.Due a ∧ Joins s a s' := by
  by_cases hqf : c.queueFree = true
  · obtain ⟨i, c', hi, hr⟩ := Connection.readStep_of_leaving s.config hleaving hdone hqf
    have hstep : s.Steps (.read i) { s with connection := some c' } := steps_read hc hr
    have hheeds : s.StopsInTime (.read i) := by simpa [StopsInTime, hc] using fun _ => hi
    exact ⟨.read i, _, trivial, ⟨⟨hheeds, trivial, trivial⟩, hstep⟩, .inr (.inl ⟨_, rfl⟩)⟩
  · have hlocked : c.writePc = .blocking ∨ c.writePc = .woken := by
      by_contra hne
      rw [not_or] at hne
      exact hqf (by simpa [Connection.queueFree] using hne)
    obtain hw | hw := hlocked
    all_goals exact exists_joins_write hc hleaving (by simp [hw]) (by simp [hw])

end due

/-- `~Connection` goes on. -/
theorem exists_joins_hold (hs : s.Steps .hold s') (hg : s.StopsCleanly .hold) :
    ∃ a s', s.Due a ∧ Joins s a s' :=
  ⟨.hold, s', trivial, ⟨hg, hs⟩, .inl rfl⟩

/-- Until then one of the three is not stuck. -/
theorem exists_joins (h : s.Departing) (hs : s.holder.stopped = true) :
    ∃ a s', s.Due a ∧ Joins s a s' := by
  obtain ⟨c, hc, hleaving⟩ := h.departs hs
  cases hh : s.holder with
  | free | sendTest | sendPush | stop | assign => simp [hh, Holder.stopped] at hs
  | notify again =>
      by_cases hb : c.writePc = .blocking
      · exact exists_joins_write hc hleaving (by simp [hb]) (by simp [hb])
      · exact exists_joins_hold (by simp [Steps, step, hc, hold, hh]; rfl)
          (by simpa [StopsCleanly, StopsInTime, NotifiesInTime, StopsBetweenPackets, hh, hc]
            using hb)
  | joinRead again =>
      by_cases hdone : c.readPc = .done
      · exact exists_joins_hold (by simp [Steps, step, hc, hold, hh, hdone]; rfl)
          (by simp [StopsCleanly, StopsInTime, NotifiesInTime, StopsBetweenPackets, hh])
      · exact exists_joins_read hc hleaving hdone
  | joinWrite again =>
      by_cases hdone : c.writePc = .done
      · exact exists_joins_hold (by simp [Steps, step, hc, hold, hh, hdone]; rfl)
          (by simp [StopsCleanly, StopsInTime, NotifiesInTime, StopsBetweenPackets, hh])
      · -- notified, so not asleep
        have hawake := h.awake (by rw [hh]; rfl) c hc hleaving.state
        refine exists_joins_write hc hleaving hdone fun hb => ?_
        rw [hb] at hawake
        cases hawake

theorem rank_le (s : System C) : s.rank ≤ 17 := by
  unfold rank
  split
  · have hh : s.holder.rank ≤ 3 := by cases s.holder <;> simp [Holder.rank]
    have hc : s.connection.elim 0 Connection.rank ≤ 14 := by
      cases s.connection with
      | none => simp
      | some c =>
          have hr : c.readPc.rank ≤ 9 := by cases c.readPc <;> simp [ReadPc.rank]
          have hw : c.writePc.rank ≤ 5 := by cases c.writePc <;> simp [WritePc.rank]
          simp only [Option.elim_some, Connection.rank]
          omega
    omega
  · omega

/-- **`~Connection` returns**: in a run in which every STOP is heeded, `~Connection`
returns within 17 steps of its own and of the two threads after the STOP is stored,
and never waits for a thread that is stuck. -/
theorem destructor_returns {s₀ : System C} {as : List (Action C)} (h₀ : Initial s₀)
    (h : Run (Guarded Steps StopsCleanly) s₀ as s) (hs : s.holder.stopped = true) :
    Within Joins Due Destroyed 17 s := by
  have hinv : s.Departing := by
    refine Run.invariant ?_ (fun _ _ _ hs hstep => departing_step hs hstep.1 hstep.2) h
    obtain ⟨config, rfl⟩ := h₀
    exact
      { wellFormed := wellFormed_initial ⟨config, rfl⟩
        inhabited := inhabited_of_ne (by simp)
        departs := by simp [Departs, Holder.stopped]
        awake := by simp [Awake, Holder.notified]
        readJoined := by simp [ReadJoined] }
  refine Within.mono ?_ s.rank_le
  refine Within.of_rank (I := fun s => s.Departing ∧ (s.holder.stopped = true ∨ s.Destroyed))
    rank ?_ ?_ ⟨hinv, .inl hs⟩
  · rintro s ⟨hd, hs⟩ hp
    exact exists_joins hd (hs.resolve_right hp)
  · rintro s a s' ⟨hd, hs⟩ hp hj
    obtain ⟨hs', hlt⟩ := joins_step hd (hs.resolve_right hp) hj
    exact ⟨⟨departing_step hd hj.1.1 hj.1.2, hs'⟩, hlt⟩

/-- A client connects, its write thread blocks on the empty queue, its read thread
polls the socket, and the disconnect stores STOP. -/
def disconnectInPeace : List (Action Unit) :=
  [.call .connect, .hold] ++ toConnack ++
    [.grant, .read .next, .write .next, .write .next, .write .next, .call .disconnect, .hold]

theorem destructor_returns_disconnectInPeace : ∃ s : System Unit,
    Within Joins Due Destroyed 17 s ∧ s.holder = .notify false ∧
      s.connection.any fun c => c.readPc = .recv ∧ c.writePc = .blocked := by
  obtain ⟨s, hrun, htest⟩ := guarded_run_of_exec StopsCleanly disconnectInPeace
    (fun s => s.holder = .notify false ∧
      s.connection.any fun c => c.readPc = .recv ∧ c.writePc = .blocked)
    (by decide +kernel)
  obtain ⟨hh, hany⟩ := of_decide_eq_true htest
  exact ⟨s, destructor_returns initial_default hrun (by rw [hh]; rfl), hh, hany⟩

end System

end TrueMqtt
