import TrueMqtt.System.Teardown

/-!
# TrueMqtt.System.Stop

What becomes of a STOP that `~Connection` stores while the read thread is in a
blocking call or in a callback of the user.

`resolve`, `connectToAny`, BACKOFF and the end of `recvLoop` look at `m_state`
again before they store another value.  The exits they leave out are the failed
lookup, which is followed by a store of BACKOFF, and a CONNACK, which is followed
by a store of CONNECTED; so is the write thread's `socketError`.  The STOP stands
exactly when none of them is ahead (`stop_stands_iff`).
-/

namespace TrueMqtt

/-- In a blocking call, or in a callback of the user outside of `m_state_mutex`.
The logger is called on the way to the access the thread stands at.  The call before
`messageReceived` is left out: the thread then waits for the mutex that the caller of
`~Connection` holds, makes no step before `~Connection` returns, and so loses no STOP. -/
def ReadPc.blocking : ReadPc → Bool
  | getaddrinfo | connectCheck | sleep | recv | recvData => true
  -- the error callback
  | lookupCallback | subscribeCallback => true
  -- the logger
  | loop | resolveCheck | backoffStore | socketStore | sendConnect | sendPingRequest
  | connackStore | recvFailed => true
  | _ => false

namespace Connection

variable {cfg : Config} {c c' : Connection}

/-- Whether the read thread, left with a STOP from here on, comes to its end. -/
def willStop (c : Connection) : Bool :=
  match c.readPc with
  | .loop | .resolveCheck | .connectCheck | .socketStore | .authCheck | .sendConnect | .sleep
  | .recv | .subscribeCallback | .recvFailed | .stopTest | .stopClose | .stopInvalidate
  | .done => true
  -- a CONNACK may be there
  | .sendPingRequest | .recvData => !c.usable
  | _ => false

/-- The next step of the read thread stores no other state, and if it is a pass
through the switch, takes the STOP case. -/
def StopKept (cfg : Config) (c : Connection) : Prop :=
  (∀ i c', c.readStep cfg i = .ok c' → c'.state = c.state) ∧ (c.readPc = .loop → c.state = .stop)

/-! ## a STOP that stands -/

/-- The store of STOP is the last one. -/
structure Retiring (c : Connection) : Prop where
  state : c.state = .stop
  writePc : c.writePc ≠ .errorStore
  willStop : c.willStop = true

theorem usable_congr (hk : c'.socket = c.socket) (hcl : c'.closed = c.closed) :
    c'.usable = c.usable := by
  unfold usable
  rw [hk, hcl]

theorem writePc_notify_ne (h : c.writePc ≠ .errorStore) : c.notify.writePc ≠ .errorStore := by
  unfold notify
  split
  · simp
  · exact h

theorem willStop_notify (c : Connection) : c.notify.willStop = c.willStop := by
  unfold willStop
  rw [readPc_notify, usable_congr (socket_notify c) (closed_notify c)]

theorem retiring_notify (h : c.Retiring) : c.notify.Retiring :=
  ⟨by simp [h.state], writePc_notify_ne h.writePc, by rw [willStop_notify, h.willStop]⟩

/-- Every test the thread still makes finds the STOP. -/
theorem retiring_readStep {i : ReadInput} (h : c.Retiring) (hr : c.readStep cfg i = .ok c') :
    c'.Retiring := by
  obtain ⟨hst, hpc, hw⟩ := h
  have hnotify : ∀ d : Connection, d.writePc = c.writePc → d.notify.writePc ≠ .errorStore :=
    fun d hd => writePc_notify_ne (hd ▸ hpc)
  cases readBranch_of_readStep hr with
  | dispatch => exact ⟨hst, hpc, by rw [willStop, hst]; rfl⟩
  | sendConnect => exact ⟨(state_notify _).trans hst, hnotify _ rfl, rfl⟩
  | sendPingRequest hpc' hqf =>
      -- the PINGREQ, on a socket that is gone
      have hkeep := usable_congr (socket_notify { c with sendQueue := .pingRequest :: c.sendQueue })
        (closed_notify { c with sendQueue := .pingRequest :: c.sendQueue })
      rw [willStop, hpc'] at hw
      exact ⟨(state_notify _).trans hst, hnotify _ rfl, (congrArg Bool.not hkeep).trans hw⟩
  | received hpc' hu =>
      rw [willStop, hpc', hu] at hw
      cases hw
  | resolveCheck _ hne | pending _ hne | exhausted _ hne | established _ hne | authCheck _ hne
  | sleep _ hne | recvFailed _ hne => exact absurd hst hne
  | recv _ hne => exact absurd (.inr hst) hne
  | resolve hpc' | lookup hpc' | lookupFails hpc' | lookupCallback hpc' | connectingStore hpc'
  | backoffStore hpc' | select hpc' | tried hpc' | untried hpc' | authStore hpc'
  | resolvingStore hpc' | ping hpc' | noPing hpc' | connackStore hpc' | errorStore hpc'
  | errorGone hpc' | errorTest hpc' | errorClose hpc' | errorInvalidate hpc' | lostStore hpc'
  | clearQueue hpc' =>
      rw [willStop, hpc'] at hw
      cases hw
  | _ => exact ⟨hst, hpc, rfl⟩

/-- A socket the write thread does not close stays unusable. -/
theorem usable_writeStep {pointer : Bool} {i : WriteInput} (hu : c.usable = false)
    (hw : c.writeStep pointer i = .ok c') : c'.usable = false := by
  cases writeBranch_of_writeStep hw with
  | errorInvalidate => rfl
  | errorClose =>
      unfold usable
      cases c.socket <;> simp
  | write hpc hk hfits | finish hpc hk hfits =>
      rw [hfits.1] at hu
      cases hu
  | _ => exact hu

theorem retiring_writeStep {i : WriteInput} (h : c.Retiring)
    (hw : c.writeStep false i = .ok c') : c'.Retiring := by
  have hframe := writeFrame_of_writeStep hw
  have hstop : c'.willStop = true := by
    have hc := h.willStop
    unfold willStop at hc ⊢
    rw [hframe.readPc]
    split at hc
    all_goals first
      | rfl
      | cases hc
      | (rw [usable_writeStep (by simpa using hc) hw]; rfl)
  obtain ⟨hst, hpc, -⟩ := h
  cases writeBranch_of_writeStep hw with
  | errorStore hstore => exact absurd hstore hpc
  | errorPtr _ hptr => cases hptr
  | spin => exact ⟨hst, hpc, hstop⟩
  | _ => exact ⟨hst, by simp, hstop⟩

theorem stopKept_of_retiring (h : c.Retiring) : c.StopKept cfg :=
  ⟨fun _ _ hr => (retiring_readStep h hr).state.trans h.state.symm, fun _ => h.state⟩

/-! ## a STOP that is lost -/

/-- The steps of the read thread on its own. -/
def Reads (cfg : Config) (c : Connection) (i : ReadInput) (c' : Connection) : Prop :=
  c.readStep cfg i = .ok c'

/-- The read thread on its own may lose the STOP. -/
def MayLoseStop (cfg : Config) (c : Connection) : Prop :=
  ∃ is c', Run (Reads cfg) c is c' ∧ ¬ c'.StopKept cfg

theorem mayLoseStop_of_read {i : ReadInput} (hr : c.readStep cfg i = .ok c')
    (h : c'.MayLoseStop cfg) : c.MayLoseStop cfg := by
  obtain ⟨is, d, hrun, hlost⟩ := h
  exact ⟨i :: is, d, Run.cons hr hrun, hlost⟩

theorem mayLoseStop_of_store {i : ReadInput} (hr : c.readStep cfg i = .ok c')
    (hne : c'.state ≠ c.state) : c.MayLoseStop cfg :=
  ⟨[], c, .nil, fun h => hne (h.1 i c' hr)⟩

theorem mayLoseStop_of_loop (hpc : c.readPc = .loop) (hst : c.state ≠ .stop) :
    c.MayLoseStop cfg :=
  ⟨[], c, .nil, fun h => hst (h.2 hpc)⟩

section stop

variable (hst : c.state = .stop)

include hst

theorem mayLoseStop_backoffStore (hpc : c.readPc = .backoffStore) : c.MayLoseStop cfg := by
  have hr : c.readStep cfg .next = .ok { c with state := .backoff, readPc := .loop } := by
    simp [readStep, hpc]
  exact mayLoseStop_of_store hr (by simp [hst])

theorem mayLoseStop_lookupCallback (hpc : c.readPc = .lookupCallback) : c.MayLoseStop cfg := by
  have hr : c.readStep cfg .next = .ok { c with readPc := .backoffStore } := by
    simp [readStep, hpc]
  exact mayLoseStop_of_read hr (mayLoseStop_backoffStore hst rfl)

/-- A lookup that fails. -/
theorem mayLoseStop_getaddrinfo (hpc : c.readPc = .getaddrinfo) : c.MayLoseStop cfg := by
  have hr : c.readStep cfg (.lookup false) = .ok { c with readPc := .lookupCallback } := by
    simp [readStep, hpc]
  exact mayLoseStop_of_read hr (mayLoseStop_lookupCallback hst rfl)

theorem mayLoseStop_connackStore (hpc : c.readPc = .connackStore) : c.MayLoseStop cfg := by
  have hr : c.readStep cfg .next =
      .ok { c with state := .connected, readPc := .lockState true } := by
    simp [readStep, hpc]
  exact mayLoseStop_of_store hr (by simp [hst])

/-- A CONNACK that arrives. -/
theorem mayLoseStop_recvData (hpc : c.readPc = .recvData) (hu : c.usable = true) :
    c.MayLoseStop cfg := by
  have hpacket : received (Packet.ofBody .connack 0 [0, 0]) = .connackStore := by decide +kernel
  have hr : c.readStep cfg (.receive (.packet (Packet.ofBody .connack 0 [0, 0]))) =
      .ok { c with readPc := .connackStore } := by
    simp [readStep, hpc, hu, hpacket]
  exact mayLoseStop_of_read hr (mayLoseStop_connackStore hst rfl)

theorem mayLoseStop_sendPingRequest (hpc : c.readPc = .sendPingRequest) (hu : c.usable = true)
    (hfree : c.queueFree = true) : c.MayLoseStop cfg := by
  have hr : c.readStep cfg .next = .ok { c.pushFront .pingRequest with readPc := .recvData } := by
    simp [readStep, hpc, hfree]
  refine mayLoseStop_of_read hr (mayLoseStop_recvData ?_ rfl ?_)
  · simp [pushFront, hst]
  · rw [← hu]
    exact usable_congr (socket_notify _) (closed_notify _)

end stop

section socketError

variable (hst : c.state = .socketError)

include hst

theorem mayLoseStop_errorTest (hpc : c.readPc = .errorTest) : c.MayLoseStop cfg := by
  by_cases hk : c.socket = none
  · have hr : c.readStep cfg .next = .ok { c with readPc := .loop } := by
      simp [readStep, hpc, hk]
    exact mayLoseStop_of_read hr (mayLoseStop_of_loop rfl (by simp [hst]))
  · have hr : c.readStep cfg .next = .ok { c with readPc := .errorClose } := by
      simp [readStep, hpc, hk]
    refine mayLoseStop_of_read hr (mayLoseStop_of_read (i := .next) rfl ?_)
    exact mayLoseStop_of_read (i := .next) rfl (mayLoseStop_of_loop rfl (by simp [hst]))

theorem mayLoseStop_recvFailed (hpc : c.readPc = .recvFailed) : c.MayLoseStop cfg := by
  have hr : c.readStep cfg .next = .ok { c with readPc := .errorStore } := by
    simp [readStep, hpc, hst]
  refine mayLoseStop_of_read hr (mayLoseStop_of_read (i := .next) rfl ?_)
  exact mayLoseStop_errorTest rfl rfl

theorem mayLoseStop_authCheck (hpc : c.readPc = .authCheck) : c.MayLoseStop cfg := by
  have hr : c.readStep cfg .next = .ok { c with readPc := .authStore } := by
    simp [readStep, hpc, hst]
  exact mayLoseStop_of_read hr (mayLoseStop_of_store (i := .next) rfl (by simp [hst]))

theorem mayLoseStop_failedRecv (hpc : c.readPc = .recvData) : c.MayLoseStop cfg := by
  have hr : c.readStep cfg (.receive .failed) = .ok { c with readPc := .recvFailed } := by
    simp [readStep, hpc]
  exact mayLoseStop_of_read hr (mayLoseStop_recvFailed hst rfl)

/-- With SOCKET_ERROR in place of the STOP, the read thread does not end. -/
theorem mayLoseStop_of_socketError (hb : c.readPc.blocking = true) (hw : c.willStop = true)
    (hfree : c.queueFree = true) : c.MayLoseStop cfg := by
  cases hpc : c.readPc with
  | loop => exact mayLoseStop_of_loop hpc (by simp [hst])
  | resolveCheck =>
      have hr : c.readStep cfg .next = .ok { c with readPc := .connectingStore } := by
        simp [readStep, hpc, hst]
      exact mayLoseStop_of_read hr (mayLoseStop_of_store (i := .next) rfl (by simp [hst]))
  | connectCheck =>
      have hr : c.readStep cfg (.attempt .pending) = .ok { c with readPc := .loop } := by
        simp [readStep, hpc, hst]
      exact mayLoseStop_of_read hr (mayLoseStop_of_loop rfl (by simp [hst]))
  | socketStore =>
      have hr : c.readStep cfg .next =
          .ok { c with
            socket := some c.sockets, sockets := c.sockets + 1, readPc := .authCheck } := by
        simp [readStep, hpc]
      exact mayLoseStop_of_read hr (mayLoseStop_authCheck hst rfl)
  | sendConnect =>
      have hr : c.readStep cfg .next = .ok { c.pushFront (.connect cfg.connectInfo) with
          backoff := cfg.connectionBackoff, readPc := .loop } := by
        simp [readStep, hpc, hfree]
      exact mayLoseStop_of_read hr (mayLoseStop_of_loop rfl (by simp [pushFront, hst]))
  | sleep =>
      have hr : c.readStep cfg .next = .ok { c with
          backoff := min (c.backoff * 2) cfg.connectionBackoffMax, readPc := .resolvingStore } := by
        simp [readStep, hpc, hst]
      exact mayLoseStop_of_read hr (mayLoseStop_of_store (i := .next) rfl (by simp [hst]))
  | recv =>
      have hr : c.readStep cfg .next = .ok { c with readPc := .recvFailed } := by
        simp [readStep, hpc, hst]
      exact mayLoseStop_of_read hr (mayLoseStop_recvFailed hst rfl)
  | recvData => exact mayLoseStop_failedRecv hst hpc
  | sendPingRequest =>
      have hr : c.readStep cfg .next =
          .ok { c.pushFront .pingRequest with readPc := .recvData } := by
        simp [readStep, hpc, hfree]
      exact mayLoseStop_of_read hr (mayLoseStop_failedRecv (by simp [pushFront, hst]) rfl)
  | subscribeCallback =>
      have hr : c.readStep cfg .next = .ok { c with readPc := .loop } := by
        simp [readStep, hpc]
      exact mayLoseStop_of_read hr (mayLoseStop_of_loop rfl (by simp [hst]))
  | recvFailed => exact mayLoseStop_recvFailed hst hpc
  | _ => simp_all [ReadPc.blocking, willStop]

end socketError

end Connection

namespace System

variable {C : Type} {s s' : System C} {a : Action C} {c c' : Connection}

/-- Until `~Connection` returns, the read thread stores no other state and takes
the STOP case at its next pass through the switch, whatever its calls return. -/
def StopStands (s : System C) : Prop :=
  ∀ as s' c', Run (Guarded Steps fun s _ => s.holder.stopped = true) s as s' →
    s'.holder.stopped = true → s'.connection = some c' → c'.StopKept s'.config

theorem steps_read {i : ReadInput} (hc : s.connection = some c)
    (hr : c.readStep s.config i = .ok c') :
    s.Steps (.read i) { s with connection := some c' } := by
  simp [Steps, step, hc, hr, Except.map]

theorem steps_write {i : WriteInput} (hc : s.connection = some c)
    (hw : c.writeStep s.pointer i = .ok c') :
    s.Steps (.write i) { s with connection := some c' } := by
  simp [Steps, step, hc, hw, Except.map]

theorem stopStands_of_steps (h : s.StopStands) (hs : s.holder.stopped = true)
    (hstep : s.Steps a s') : s'.StopStands :=
  fun as s'' d hrun => h (a :: as) s'' d (Run.cons ⟨hs, hstep⟩ hrun)

/-- A read thread that may lose the STOP on its own may lose it in the system. -/
theorem not_stopStands_of_mayLoseStop (hs : s.holder.stopped = true)
    (hc : s.connection = some c) (h : c.MayLoseStop s.config) : ¬ s.StopStands := by
  obtain ⟨is, c', hreads, hlost⟩ := h
  have hrun : ∃ as, Run (Guarded Steps fun s _ => s.holder.stopped = true) s as
      { s with connection := some c' } := by
    clear hlost
    induction hreads with
    | nil => exact ⟨[], by rw [← hc]; exact .nil⟩
    | snoc _ hr ih =>
        obtain ⟨as, hrun⟩ := ih
        exact ⟨_, .snoc hrun ⟨hs, steps_read rfl hr⟩⟩
  obtain ⟨as, hrun⟩ := hrun
  exact fun hstands => hlost (hstands as { s with connection := some c' } c' hrun hs rfl)

/-- A connection that retires keeps the STOP. -/
theorem stopStands_of_retiring (hwf : s.WellFormed) (hc : s.connection = some c)
    (h : c.Retiring) : s.StopStands := by
  let Kept (s : System C) : Prop :=
    s.WellFormed ∧ (s.holder.stopped = true → ∃ c, s.connection = some c ∧ c.Retiring)
  have hmove : ∀ s a s', Kept s → Guarded Steps (fun s _ => s.holder.stopped = true) s a s' →
      Kept s' := by
    rintro s a s' ⟨hwf, hkept⟩ ⟨hs, hstep⟩
    have hm := move_of_step hstep
    refine ⟨wellFormed_move hwf hm, fun hs' => ?_⟩
    obtain ⟨c, hc, hret⟩ := hkept hs
    cases stoppedMove_of_move hm hs' with
    | quiet hc' hh' => exact ⟨c, hc'.trans hc, hret⟩
    | stop d again ha hd hh hc' hh' => simp [hh, Holder.stopped] at hs
    | notify d again ha hd hh hc' hh' =>
        cases hc.symm.trans hd
        exact ⟨_, hc', Connection.retiring_notify hret⟩
    | joinRead d again hd hh hpc hc' hh' =>
        cases hc.symm.trans hd
        exact ⟨_, hc', hret⟩
    | read d d' i ha hd hr hc' hh' =>
        cases hc.symm.trans hd
        exact ⟨_, hc', Connection.retiring_readStep hret hr⟩
    | write d d' i ha hd hw hc' hh' =>
        cases hc.symm.trans hd
        rw [pointer_of_stopped hwf hs] at hw
        exact ⟨_, hc', Connection.retiring_writeStep hret hw⟩
  intro as s' c' hrun hs' hc'
  obtain ⟨-, hkept⟩ := Run.invariant (I := Kept) ⟨hwf, fun _ => ⟨c, hc, h⟩⟩ hmove hrun
  obtain ⟨d, hd, hret⟩ := hkept hs'
  cases hc'.symm.trans hd
  exact Connection.stopKept_of_retiring hret

/-- A write thread that holds `m_send_queue_mutex` releases it. -/
theorem not_stopStands_sendPingRequest (hs : s.holder.stopped = true)
    (hc : s.connection = some c) (hst : c.state = .stop) (hpc : c.readPc = .sendPingRequest)
    (hu : c.usable = true) : ¬ s.StopStands := by
  by_cases hfree : c.queueFree = true
  · exact not_stopStands_of_mayLoseStop hs hc
      (Connection.mayLoseStop_sendPingRequest hst hpc hu hfree)
  · have hw : ∃ pc, (pc = .blocked ∨ pc = .loop) ∧
        c.writeStep s.pointer .next = .ok { c with writePc := pc } := by
      cases hw : c.writePc with
      | blocking => exact ⟨.blocked, .inl rfl, by simp [Connection.writeStep, hw]⟩
      | woken => exact ⟨.loop, .inr rfl, by simp [Connection.writeStep, hw, hst]⟩
      | _ => simp [Connection.queueFree, hw] at hfree
    obtain ⟨pc, hw', hstep⟩ := hw
    intro hstands
    refine not_stopStands_of_mayLoseStop
      (s := { s with connection := some { c with writePc := pc } }) hs rfl
      (Connection.mayLoseStop_sendPingRequest hst hpc hu ?_)
      (stopStands_of_steps hstands hs (steps_write hc hstep))
    obtain rfl | rfl := hw' <;> rfl

/-- The write thread's SOCKET_ERROR. -/
theorem not_stopStands_of_errorStore (hs : s.holder.stopped = true) (hc : s.connection = some c)
    (hb : c.readPc.blocking = true) (hw : c.willStop = true) (hpc : c.writePc = .errorStore) :
    ¬ s.StopStands := by
  have hstep : c.writeStep s.pointer .next =
      .ok { c with state := .socketError, writePc := .errorTest } := by
    simp [Connection.writeStep, hpc]
  intro hstands
  exact not_stopStands_of_mayLoseStop
    (s := { s with connection := some { c with state := .socketError, writePc := .errorTest } })
    hs rfl (Connection.mayLoseStop_of_socketError rfl hb hw rfl)
    (stopStands_of_steps hstands hs (steps_write hc hstep))

/-- A blocking call whose result the thread acts on without a look at `m_state`. -/
theorem not_stopStands_of_not_willStop (hs : s.holder.stopped = true)
    (hc : s.connection = some c) (hst : c.state = .stop) (hb : c.readPc.blocking = true)
    (hw : c.willStop = false) : ¬ s.StopStands := by
  cases hpc : c.readPc with
  | getaddrinfo =>
      exact not_stopStands_of_mayLoseStop hs hc (Connection.mayLoseStop_getaddrinfo hst hpc)
  | lookupCallback =>
      exact not_stopStands_of_mayLoseStop hs hc (Connection.mayLoseStop_lookupCallback hst hpc)
  | backoffStore =>
      exact not_stopStands_of_mayLoseStop hs hc (Connection.mayLoseStop_backoffStore hst hpc)
  | connackStore =>
      exact not_stopStands_of_mayLoseStop hs hc (Connection.mayLoseStop_connackStore hst hpc)
  | recvData =>
      have hu : c.usable = true := by simpa [Connection.willStop, hpc] using hw
      exact not_stopStands_of_mayLoseStop hs hc (Connection.mayLoseStop_recvData hst hpc hu)
  | sendPingRequest =>
      have hu : c.usable = true := by simpa [Connection.willStop, hpc] using hw
      exact not_stopStands_sendPingRequest hs hc hst hpc hu
  | _ => simp_all [ReadPc.blocking, Connection.willStop]

/-- **A STOP stands** when it is stored during a blocking call or a callback of
the read thread exactly if the exits that do not look at it are not ahead, and the
write thread is not about to store SOCKET_ERROR. -/
theorem stop_stands_iff {again : Bool} (hr : s.Reachable) (hh : s.holder = .stop again)
    (hc : s.connection = some c) (hb : c.readPc.blocking = true) (hstop : s.Steps .hold s') :
    s'.StopStands ↔ c.willStop = true ∧ c.writePc ≠ .errorStore := by
  have hs' : s' = { s with
      connection := some { c with state := .stop }, holder := .notify again } := by
    simpa [Steps, step, hold, hc, hh] using hstop.symm
  have hwf : s'.WellFormed := by
    obtain ⟨s₀, as, h₀, hrun⟩ := hr
    exact wellFormed_of_run h₀ (.snoc hrun hstop)
  subst hs'
  constructor
  · intro hstands
    by_cases hw : c.willStop = true
    · refine ⟨hw, fun hpc => ?_⟩
      exact not_stopStands_of_errorStore (c := { c with state := .stop }) rfl rfl hb hw hpc hstands
    · have hw' : c.willStop = false := by simpa using hw
      exact absurd hstands (not_stopStands_of_not_willStop (c := { c with state := .stop })
        rfl rfl rfl hb hw')
  · rintro ⟨hw, hpc⟩
    exact stopStands_of_retiring hwf rfl ⟨rfl, hpc, hw⟩

/-- A client connects, and disconnects while its read thread polls the socket. -/
def disconnectInRecv : List (Action Unit) :=
  [.call .connect, .hold] ++ toConnack ++ [.grant, .read .next, .call .disconnect]

theorem stop_stands_disconnectInRecv :
    ∃ (s s' : System Unit) (c : Connection), s.connection = some c ∧ c.readPc = .recv ∧
      s.Steps .hold s' ∧ (s'.StopStands ↔ c.willStop = true ∧ c.writePc ≠ .errorStore) := by
  obtain ⟨s, hrun, htest⟩ := run_of_exec disconnectInRecv
    (fun s => s.holder = .stop false ∧ s.connection.any (·.readPc = .recv)) (by decide +kernel)
  obtain ⟨hh, hany⟩ := of_decide_eq_true htest
  obtain ⟨c, hc, hpc⟩ := (Option.any_eq_true _ _).mp hany
  have hpc' : c.readPc = .recv := of_decide_eq_true hpc
  have hstop : s.Steps .hold { s with
      connection := some { c with state := .stop }, holder := .notify false } := by
    simp [Steps, step, hold, hc, hh]
  exact ⟨s, _, c, hc, hpc', hstop, stop_stands_iff ⟨{}, disconnectInRecv, initial_default, hrun⟩
    hh hc (by rw [hpc']; rfl) hstop⟩

/-- A client disconnects while its host is looked up. -/
def disconnectInLookup : List (Action Unit) :=
  [.call .connect, .hold, .read .next, .read .next, .call .disconnect]

/-- The lookup fails, and BACKOFF replaces the STOP. -/
theorem stop_lost_in_lookup :
    ∃ (s s' : System Unit) (c : Connection), s.Reachable ∧ s.holder = .stop false ∧
      s.connection = some c ∧ c.readPc = .getaddrinfo ∧ s.Steps .hold s' ∧ ¬ s'.StopStands := by
  obtain ⟨s, hrun, htest⟩ := run_of_exec disconnectInLookup
    (fun s => s.holder = .stop false ∧ s.connection.any (·.readPc = .getaddrinfo))
    (by decide +kernel)
  obtain ⟨hh, hany⟩ := of_decide_eq_true htest
  obtain ⟨c, hc, hpc⟩ := (Option.any_eq_true _ _).mp hany
  have hpc' : c.readPc = .getaddrinfo := of_decide_eq_true hpc
  have hstop : s.Steps .hold { s with
      connection := some { c with state := .stop }, holder := .notify false } := by
    simp [Steps, step, hold, hc, hh]
  refine ⟨s, _, c, ⟨{}, disconnectInLookup, initial_default, hrun⟩, hh, hc, hpc', hstop, ?_⟩
  exact not_stopStands_of_mayLoseStop (c := { c with state := .stop }) rfl rfl
    (Connection.mayLoseStop_getaddrinfo rfl hpc')

end System

end TrueMqtt
