import TrueMqtt.System.Handshake

/-!
# TrueMqtt.System.Teardown

`~Connection` joins the read thread while its caller holds `m_state_mutex`; a
read thread that waits for that mutex is never joined (`Deadlocked`, and
`deadlocked_forever`).

The thread tests `m_state` for STOP at several points.  A STOP that is stored
after the last such test on its way to the mutex, or to another store of
`m_state`, comes too late.  Runs in which no STOP comes too late do not deadlock
(`no_deadlock`).
-/

namespace TrueMqtt

namespace ReadPc

/-- Waiting for `m_state_mutex`, in `connectionStateChange` or `messageReceived`. -/
def waiting : ReadPc → Bool
  | lockState _ | lockMessage _ _ => true
  | _ => false

/-- Past the last test for STOP before the mutex or a store of `m_state`. -/
def committed : ReadPc → Bool
  | lookupCallback | connectingStore | backoffStore | authStore | resolvingStore | connackStore
  | errorStore | lostStore | lockState _ | lockMessage _ _ => true
  | _ => false

theorem committed_of_waiting {pc : ReadPc} (h : pc.waiting = true) : pc.committed = true := by
  cases pc <;> first | rfl | cases h

end ReadPc

/-- Whether the holder has stored STOP in the connection it destroys. -/
def Holder.stopped : Holder → Bool
  | notify _ | joinRead _ | joinWrite _ => true
  | _ => false

namespace Connection

variable {cfg : Config} {c c' : Connection}

/-- The results of the read thread's blocking calls that do not take it past its
last test for STOP: the lookup succeeds, an address is left to try, no CONNACK
or PUBLISH is complete. -/
def HeedsStop (c : Connection) : ReadInput → Prop
  | .lookup found => found = true
  | .attempt a => c.readPc = .connectToAny → a ≠ .exhausted
  | .receive (.packet p) => (received p).committed = false
  | _ => True

instance (c : Connection) (i : ReadInput) : Decidable (c.HeedsStop i) := by
  unfold HeedsStop
  split <;> infer_instance

/-- STOP is stored, and no thread is about to store something else or to wait. -/
structure Stopping (c : Connection) : Prop where
  state : c.state = .stop
  readPc : c.readPc.committed = false
  writePc : c.writePc ≠ .errorStore

theorem stopping_notify (h : c.Stopping) : c.notify.Stopping := by
  refine ⟨by simp [h.state], by simp [h.readPc], ?_⟩
  unfold notify
  split
  · simp
  · exact h.writePc

/-- A read thread that waits for the mutex makes no step of its own. -/
theorem not_waiting_of_readStep {i : ReadInput} (h : c.readStep cfg i = .ok c') :
    c.readPc.waiting = false := by
  cases readBranch_of_readStep h with
  | _ hpc =>
      rw [hpc]
      rfl

/-- A read thread that heeds the STOP does not overwrite it. -/
theorem stopping_readStep {i : ReadInput} (h : c.Stopping) (hi : c.HeedsStop i)
    (hr : c.readStep cfg i = .ok c') : c'.Stopping := by
  obtain ⟨hst, hpc, hw⟩ := h
  have hnotify : ∀ d : Connection, d.writePc = c.writePc → d.notify.writePc ≠ .errorStore := by
    intro d hd
    unfold notify
    split
    · simp
    · rwa [hd]
  cases readBranch_of_readStep hr with
  | dispatch => exact ⟨hst, by rw [hst]; rfl, hw⟩
  | lookupFails => cases hi
  | untried hpc' => exact absurd rfl (hi hpc')
  | received => exact ⟨hst, hi, hw⟩
  | sendConnect | sendPingRequest =>
      exact ⟨(state_notify _).trans hst, rfl, hnotify _ rfl⟩
  | resolveCheck _ hne | exhausted _ hne | established _ hne | authCheck _ hne | sleep _ hne
  | recvFailed _ hne => exact absurd hst hne
  | recv _ hne => exact absurd (.inr hst) hne
  | lookupCallback hpc' | connectingStore hpc' | backoffStore hpc' | authStore hpc'
  | resolvingStore hpc' | connackStore hpc' | errorStore hpc' | lostStore hpc' =>
      rw [hpc'] at hpc
      cases hpc
  | _ => exact ⟨hst, rfl, hw⟩

/-- With `m_connection` null the write thread does not get to store SOCKET_ERROR. -/
theorem stopping_writeStep {i : WriteInput} (h : c.Stopping)
    (hw : c.writeStep false i = .ok c') : c'.Stopping := by
  obtain ⟨hst, hpc, hpc'⟩ := h
  cases writeBranch_of_writeStep hw with
  | errorStore hstore => exact absurd hstore hpc'
  | errorPtr _ hptr => cases hptr
  | spin => exact ⟨hst, hpc, hpc'⟩
  | _ => exact ⟨hst, hpc, by simp⟩

end Connection

namespace System

variable {C : Type} {s s' : System C} {a : Action C} {c c' : Connection}

/-- A thread in `~Connection` waits for the read thread, which waits for the
mutex that thread holds. -/
def Deadlocked (s : System C) : Prop :=
  ∃ again c, s.holder = .joinRead again ∧ s.connection = some c ∧ c.readPc.waiting = true

/-- The steps in which no STOP comes too late. -/
def StopsInTime (s : System C) : Action C → Prop
  | .hold => match s.holder, s.connection with
      | .stop _, some c => c.readPc.committed = false ∧ c.writePc ≠ .errorStore
      | _, _ => True
  | .read i => match s.connection with
      | some c => c.state = .stop → c.HeedsStop i
      | none => True
  | _ => True

instance (s : System C) (a : Action C) : Decidable (s.StopsInTime a) := by
  unfold StopsInTime
  induction a using Action.casesOn with
  | hold =>
      induction s.holder using Holder.casesOn
      all_goals induction s.connection using Option.casesOn <;> infer_instance
  | read i => induction s.connection using Option.casesOn <;> infer_instance
  | _ => infer_instance

/-- Once STOP is stored, it stays. -/
def TearsDown (s : System C) : Prop :=
  s.holder.stopped = true → ∃ c, s.connection = some c ∧ c.Stopping

theorem tearsDown_of_not_stopped (h : s.holder.stopped = false) : s.TearsDown := by
  intro hs
  rw [h] at hs
  cases hs

theorem not_stopped_of_goesOn (h : GoesOn c s s') : s'.holder.stopped = false := by
  obtain hh | ⟨o, k, -, hh⟩ := h.holder
  all_goals simp [hh, Holder.stopped]

/-- The pointer is null while the connection is destroyed. -/
theorem pointer_of_stopped (hwf : s.WellFormed) (h : s.holder.stopped = true) :
    s.pointer = false := by
  unfold WellFormed at hwf
  split at hwf
  all_goals simp_all [Holder.stopped]

/-- A send ends before any STOP. -/
theorem stopped_after {sent : Bool} {k : After} (h : s.after c sent k = .ok s') :
    s'.holder.stopped = false := by
  obtain hon | ⟨-, -, rfl⟩ := goesOn_after h
  · exact not_stopped_of_goesOn hon
  · rfl

/-- What a step can do that leaves the system after the store of STOP: the store
itself, the steps of `~Connection` that follow, and the threads it waits for. -/
inductive StoppedMove (s : System C) (a : Action C) (s' : System C) : Prop
  | quiet (hc' : s'.connection = s.connection) (hh' : s'.holder = s.holder)
  | stop (c : Connection) (again : Bool) (ha : a = .hold) (hc : s.connection = some c)
      (hh : s.holder = .stop again) (hc' : s'.connection = some { c with state := .stop })
      (hh' : s'.holder = .notify again)
  | notify (c : Connection) (again : Bool) (ha : a = .hold) (hc : s.connection = some c)
      (hh : s.holder = .notify again) (hc' : s'.connection = some c.notify)
      (hh' : s'.holder = .joinRead again)
  | joinRead (c : Connection) (again : Bool) (hc : s.connection = some c)
      (hh : s.holder = .joinRead again) (hpc : c.readPc = .done) (hc' : s'.connection = some c)
      (hh' : s'.holder = .joinWrite again)
  | read (c c' : Connection) (i : ReadInput) (ha : a = .read i) (hc : s.connection = some c)
      (hr : c.readStep s.config i = .ok c') (hc' : s'.connection = some c')
      (hh' : s'.holder = s.holder)
  | write (c c' : Connection) (i : WriteInput) (ha : a = .write i) (hc : s.connection = some c)
      (hw : c.writeStep s.pointer i = .ok c') (hc' : s'.connection = some c')
      (hh' : s'.holder = s.holder)

theorem stoppedMove_of_move (hm : Move s a s') (h : s'.holder.stopped = true) :
    StoppedMove s a s' := by
  cases hm with
  | idle => exact .quiet rfl rfl
  | setPublishQueue hst => exact .quiet rfl rfl
  | setSendQueue hst => exact .quiet rfl rfl
  | setLastWill => exact .quiet rfl rfl
  | disconnect hfree hst =>
      cases hc : s.connection <;> simp [System.disconnect, setState, hc, Holder.stopped] at h
  | toPublishQueue hfree hst hq => simp [hfree, Holder.stopped] at h
  | addSubscription hfree hst => simp [hfree, Holder.stopped] at h
  | removeSubscription hfree hst hmem hi => simp [hfree, Holder.stopped] at h
  | refused hc hh hsize ha => simp [stopped_after ha] at h
  | pushed hc hh hqf ha => simp [stopped_after ha] at h
  | stop hc hh => exact .stop _ _ rfl hc hh rfl rfl
  | notify hc hh => exact .notify _ _ rfl hc hh rfl rfl
  | joinRead hc hh hpc => exact .joinRead _ _ hc hh hpc hc rfl
  | connected hc hfree hpc => simp [not_stopped_of_goesOn (goesOn_resubscribe _ _ _)] at h
  | lost hc hfree hpc => simp [setState, hfree, Holder.stopped] at h
  | message hc hfree hpc => simp [hfree, Holder.stopped] at h
  | read hc hr => exact .read _ _ _ rfl hc hr rfl rfl
  | write hc hw => exact .write _ _ _ rfl hc hw rfl rfl
  | _ => cases h

/-- The read thread is over once it is joined. -/
def ReadJoined (s : System C) : Prop :=
  ∀ again c, s.holder = .joinWrite again → s.connection = some c → c.readPc = .done

theorem readJoined_move (h : s.ReadJoined) (hm : Move s a s') : s'.ReadJoined := by
  intro again d hh hd
  cases stoppedMove_of_move hm (by rw [hh]; rfl) with
  | quiet hc' hh' => exact h again d (hh' ▸ hh) (hc' ▸ hd)
  | stop c again ha hc hh₀ hc' hh' => cases hh'.symm.trans hh
  | notify c again ha hc hh₀ hc' hh' => cases hh'.symm.trans hh
  | joinRead c again hc hh₀ hpc hc' hh' =>
      cases hc'.symm.trans hd
      exact hpc
  | read c c' i ha hc hr hc' hh' =>
      -- a thread that is over makes no step
      have hpc := h again c (hh' ▸ hh) hc
      cases i <;> simp [Connection.readStep, hpc] at hr
  | write c c' i ha hc hw hc' hh' =>
      cases hc'.symm.trans hd
      rw [(Connection.writeFrame_of_writeStep hw).readPc]
      exact h again c (hh' ▸ hh) hc

theorem readJoined_of_run {s₀ : System C} {as : List (Action C)} (h₀ : Initial s₀)
    (h : Run Steps s₀ as s) : s.ReadJoined := by
  refine (invariant_of_run h₀ ?_ (fun _ _ _ _ => readJoined_move) h).2
  obtain ⟨config, rfl⟩ := h₀
  intro again c hh
  cases hh

theorem tearsDown_move (hwf : s.WellFormed) (h : s.TearsDown) (hg : s.StopsInTime a)
    (hm : Move s a s') : s'.TearsDown := by
  intro hs
  cases stoppedMove_of_move hm hs with
  | quiet hc' hh' =>
      rw [hc']
      exact h (hh' ▸ hs)
  | stop c again ha hc hh hc' hh' =>
      subst ha
      simp only [StopsInTime, hh, hc] at hg
      exact ⟨_, hc', rfl, hg.1, hg.2⟩
  | notify c again ha hc hh hc' hh' =>
      obtain ⟨d, hd, hstop⟩ := h (by rw [hh]; rfl)
      cases hc.symm.trans hd
      exact ⟨_, hc', Connection.stopping_notify hstop⟩
  | joinRead c again hc hh hpc hc' hh' =>
      rw [hc', ← hc]
      exact h (by rw [hh]; rfl)
  | read c c' i ha hc hr hc' hh' =>
      obtain ⟨d, hd, hstop⟩ := h (hh' ▸ hs)
      cases hc.symm.trans hd
      subst ha
      simp only [StopsInTime, hc] at hg
      exact ⟨_, hc', Connection.stopping_readStep hstop (hg hstop.state) hr⟩
  | write c c' i ha hc hw hc' hh' =>
      obtain ⟨d, hd, hstop⟩ := h (hh' ▸ hs)
      cases hc.symm.trans hd
      rw [pointer_of_stopped hwf (hh' ▸ hs)] at hw
      exact ⟨_, hc', Connection.stopping_writeStep hstop hw⟩

/-- **No deadlock**: a run in which no STOP comes too late reaches no state in
which the mutex and the join wait for each other. -/
theorem no_deadlock {s₀ s : System C} {as : List (Action C)} (h₀ : Initial s₀)
    (h : Run (Guarded Steps StopsInTime) s₀ as s) : ¬ s.Deadlocked := by
  have hinit : s₀.TearsDown := by
    obtain ⟨config, rfl⟩ := h₀
    exact tearsDown_of_not_stopped rfl
  have hinv := invariant_of_guarded h₀ hinit (fun _ _ _ => tearsDown_move) h
  intro hdead
  obtain ⟨again, c, hh, hc, hwait⟩ := hdead
  obtain ⟨d, hd, hstop⟩ := hinv.2 (by rw [hh]; rfl)
  cases hc.symm.trans hd
  have hcommitted := ReadPc.committed_of_waiting hwait
  rw [hstop.readPc] at hcommitted
  cases hcommitted

/-- A client connects, and disconnects while its read thread polls the socket. -/
def connectAndDisconnect : List (Action Unit) :=
  [.call .connect, .hold] ++ toConnack ++
    [.grant, .read .next, .call .disconnect, .hold, .hold, .read .next, .read .next, .read .next,
      .read .next, .read .next, .read .next, .hold, .write .next]

theorem no_deadlock_connectAndDisconnect :
    ∃ s : System Unit, ¬ s.Deadlocked ∧ s.holder = .joinWrite false := by
  obtain ⟨s, hrun, htest⟩ := guarded_run_of_exec StopsInTime connectAndDisconnect
    (fun s => s.holder = .joinWrite false) (by decide +kernel)
  exact ⟨s, no_deadlock initial_default hrun, of_decide_eq_true htest⟩

/-! ## the deadlock -/

/-- Only the write thread moves in a deadlock. -/
theorem deadlocked_move (h : s.Deadlocked) (hm : Move s a s') : s'.Deadlocked := by
  obtain ⟨again, c, hh, hc, hwait⟩ := h
  cases hm with
  | idle => exact ⟨again, c, hh, hc, hwait⟩
  | setPublishQueue hst => exact ⟨again, c, hh, hc, hwait⟩
  | setSendQueue hst => exact ⟨again, c, hh, hc, hwait⟩
  | setLastWill => exact ⟨again, c, hh, hc, hwait⟩
  | joinRead hc' hh' hpc =>
      cases hc.symm.trans hc'
      rw [hpc] at hwait
      cases hwait
  | read hc' hr =>
      cases hc.symm.trans hc'
      rw [Connection.not_waiting_of_readStep hr] at hwait
      cases hwait
  | write hc' hw =>
      cases hc.symm.trans hc'
      exact ⟨again, _, hh, rfl, by rw [(Connection.writeFrame_of_writeStep hw).readPc]; exact hwait⟩
  | _ => simp_all

/-- A deadlock does not resolve. -/
theorem deadlocked_forever {as : List (Action C)} (h : s.Deadlocked) (hrun : Run Steps s as s') :
    s'.Deadlocked :=
  Run.invariant h (fun _ _ _ hs hstep => deadlocked_move hs (move_of_step hstep)) hrun

/-- A PUBLISH on topic "a". -/
def incomingPublish : Packet := Packet.ofBody .publish 0 [0, 1, 97, 120]

/-- The read thread has received a message, and waits for the mutex, when the
user calls `disconnect`. -/
def disconnectOnMessage : List (Action Unit) :=
  [.call .connect, .hold] ++ toConnack ++
    [.grant, .read .next, .read .next, .read (.timer false),
      .read (.receive (.packet incomingPublish)), .call .disconnect, .hold, .hold]

theorem disconnect_deadlocks : ∃ s : System Unit, s.Reachable ∧ s.Deadlocked := by
  obtain ⟨s, hrun, htest⟩ := run_of_exec disconnectOnMessage
    (fun s => s.holder = .joinRead false ∧ s.connection.any (·.readPc.waiting))
    (by decide +kernel)
  obtain ⟨hh, hany⟩ := of_decide_eq_true htest
  obtain ⟨c, hc, hwait⟩ := (Option.any_eq_true _ _).mp hany
  exact ⟨s, ⟨{}, disconnectOnMessage, initial_default, hrun⟩, false, c, hh, hc, hwait⟩

end System

end TrueMqtt
