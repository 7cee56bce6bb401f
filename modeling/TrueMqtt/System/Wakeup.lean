import TrueMqtt.System.Teardown

/-!
# TrueMqtt.System.Wakeup

`~Connection` stores STOP and notifies the write thread, both without
`m_send_queue_mutex`.  A write thread that has found the predicate of its wait
false and is not blocked yet (`WritePc.blocking`) gets neither: it looked at
`m_state` before the store, and the notification finds nobody to wake.  It then
blocks (`stop_not_noticed`), and `~Connection` joins a thread that never ends.

Runs in which the notification does not fall into this window leave no write
thread behind (`woken_for_stop`).
-/

namespace TrueMqtt

/-- Whether the notification of `~Connection` has happened. -/
def Holder.notified : Holder → Bool
  | joinRead _ | joinWrite _ => true
  | _ => false

theorem Holder.stopped_of_notified {h : Holder} (hn : h.notified = true) : h.stopped = true := by
  cases h <;> first | rfl | cases hn

/-- In the wait, or about to be. -/
def WritePc.asleep : WritePc → Bool
  | blocking | blocked => true
  | _ => false

namespace Connection

variable {cfg : Config} {c c' : Connection}

/-- The read thread never stores STOP. -/
theorem stop_of_readStep {i : ReadInput} (h : c.readStep cfg i = .ok c')
    (hst : c'.state = .stop) : c.state = .stop := by
  cases readBranch_of_readStep h with
  | sendConnect | sendPingRequest =>
      rw [pushFront, state_notify] at hst
      exact hst
  | connectingStore | backoffStore | authStore | resolvingStore | connackStore | errorStore
  | lostStore => cases hst
  | _ => exact hst

/-- A read thread that has ended makes no step. -/
theorem not_done_of_readStep {i : ReadInput} (h : c.readStep cfg i = .ok c') :
    c.readPc ≠ .done := by
  cases readBranch_of_readStep h with
  | _ hpc => simp [hpc]

theorem asleep_notify (c : Connection) :
    c.notify.writePc.asleep = true → c.writePc = .blocking := by
  unfold notify
  split
  · simp [WritePc.asleep]
  · next hb =>
    cases hpc : c.writePc <;> simp_all [WritePc.asleep]

/-- A step of the read thread puts nobody to sleep. -/
theorem asleep_readStep {i : ReadInput} (h : c.readStep cfg i = .ok c')
    (hp : c'.writePc.asleep = true) : c.writePc.asleep = true := by
  cases readBranch_of_readStep h with
  | sendConnect | sendPingRequest =>
      have hb := asleep_notify _ hp
      exact congrArg WritePc.asleep hb
  | _ => exact hp

/-- With STOP stored, the write thread does not go to sleep. -/
theorem asleep_writeStep {pointer : Bool} {i : WriteInput}
    (h : c.writeStep pointer i = .ok c') (hst : c'.state = .stop)
    (hp : c'.writePc.asleep = true) : c.state = .stop ∧ c.writePc = .blocking := by
  cases writeBranch_of_writeStep h with
  | block hpc => exact ⟨hst, hpc⟩
  | empty hpc hq hne | wait hpc hq hne => exact absurd hst hne
  | spin hpc =>
      rw [hpc] at hp
      cases hp
  | _ => cases hp

end Connection

/-- A step of the write thread. -/
def Action.isWrite {C : Type} : Action C → Bool
  | write _ => true
  | _ => false

namespace System

variable {C : Type} {s s' : System C} {a : Action C}

/-- STOP is stored, `~Connection` has notified, and the write thread is blocked;
no step of another thread ends its wait any more. -/
def Unwoken (s : System C) : Prop :=
  ∃ c, s.connection = some c ∧ c.state = .stop ∧ s.holder.notified = true ∧
    c.writePc = .blocked ∧
    ∀ as s', (∀ a ∈ as, a.isWrite = false) → Run Steps s as s' →
      ∃ c', s'.connection = some c' ∧ c'.writePc = .blocked

/-- The steps in which `~Connection` does not notify a write thread that is about
to block. -/
def NotifiesInTime (s : System C) : Action C → Prop
  | .hold => match s.holder, s.connection with
      | .notify _, some c => c.writePc ≠ .blocking
      | _, _ => True
  | _ => True

instance (s : System C) (a : Action C) : Decidable (s.NotifiesInTime a) := by
  unfold NotifiesInTime
  induction a using Action.casesOn with
  | hold =>
      induction s.holder using Holder.casesOn
      all_goals induction s.connection using Option.casesOn <;> infer_instance
  | _ => infer_instance

/-- After the notification, a write thread that can see the STOP is awake. -/
def Awake (s : System C) : Prop :=
  s.holder.notified = true → ∀ c, s.connection = some c → c.state = .stop →
    c.writePc.asleep = false

theorem awake_move (h : s.Awake) (hg : s.NotifiesInTime a) (hm : Move s a s') : s'.Awake := by
  intro hn d hd hst
  cases stoppedMove_of_move hm (Holder.stopped_of_notified hn) with
  | quiet hc' hh' => exact h (hh' ▸ hn) d (hc' ▸ hd) hst
  | stop c again ha hc hh hc' hh' =>
      rw [hh'] at hn
      cases hn
  | notify c again ha hc hh hc' hh' =>
      subst ha
      cases hc'.symm.trans hd
      simp only [NotifiesInTime, hh, hc] at hg
      by_contra hasleep
      exact hg (Connection.asleep_notify _ (by simpa using hasleep))
  | joinRead c again hc hh hpc hc' hh' =>
      cases hc'.symm.trans hd
      exact h (by rw [hh]; rfl) d hc hst
  | read c c' i ha hc hr hc' hh' =>
      cases hc'.symm.trans hd
      have hawake := h (hh' ▸ hn) c hc (Connection.stop_of_readStep hr hst)
      by_contra hasleep
      rw [Connection.asleep_readStep hr (by simpa using hasleep)] at hawake
      cases hawake
  | write c c' i ha hc hw hc' hh' =>
      cases hc'.symm.trans hd
      by_contra hasleep
      obtain ⟨hst', hpc⟩ := Connection.asleep_writeStep hw hst (by simpa using hasleep)
      have hawake := h (hh' ▸ hn) c hc hst'
      rw [hpc] at hawake
      cases hawake

/-- **The write thread is woken for a STOP**: in a run in which no notification of
`~Connection` falls between the predicate of the wait and the block, no write
thread stays blocked. -/
theorem woken_for_stop {s₀ s : System C} {as : List (Action C)} (h₀ : Initial s₀)
    (h : Run (Guarded Steps NotifiesInTime) s₀ as s) : ¬ s.Unwoken := by
  have hinit : s₀.Awake := by
    obtain ⟨config, rfl⟩ := h₀
    intro hn
    cases hn
  have hinv := invariant_of_guarded h₀ hinit (fun _ _ _ _ => awake_move) h
  rintro ⟨c, hc, hst, hn, hpc, -⟩
  have hawake := hinv.2 hn c hc hst
  rw [hpc] at hawake
  cases hawake

/-- A client connects, its write thread blocks on the empty queue, and the
disconnect wakes it. -/
def disconnectWhileBlocked : List (Action Unit) :=
  [.call .connect, .hold] ++ toConnack ++
    [.grant, .write .next, .write .next, .write .next, .call .disconnect, .hold, .hold]

theorem woken_for_stop_disconnectWhileBlocked :
    ∃ s : System Unit, ¬ s.Unwoken ∧ s.holder = .joinRead false ∧
      s.connection.any (·.writePc = .wait) := by
  obtain ⟨s, hrun, htest⟩ := guarded_run_of_exec NotifiesInTime disconnectWhileBlocked
    (fun s => s.holder = .joinRead false ∧ s.connection.any (·.writePc = .wait))
    (by decide +kernel)
  exact ⟨s, woken_for_stop initial_default hrun, of_decide_eq_true htest⟩

/-! ## the lost wakeup -/

/-- The read thread has ended, `~Connection` joins a write thread that is blocked. -/
def LeftBehind (s : System C) : Prop :=
  ∃ again c, s.holder = .joinWrite again ∧ s.connection = some c ∧ c.readPc = .done ∧
    c.state = .stop ∧ c.writePc = .blocked

/-- Only the write thread itself, by a spurious wakeup, gets out. -/
theorem leftBehind_move (h : s.LeftBehind) (ha : a.isWrite = false) (hm : Move s a s') :
    s'.LeftBehind := by
  obtain ⟨again, c, hh, hc, hr, hst, hw⟩ := h
  cases hm with
  | idle => exact ⟨again, c, hh, hc, hr, hst, hw⟩
  | setPublishQueue => exact ⟨again, c, hh, hc, hr, hst, hw⟩
  | setSendQueue => exact ⟨again, c, hh, hc, hr, hst, hw⟩
  | setLastWill => exact ⟨again, c, hh, hc, hr, hst, hw⟩
  | read hc' hr' =>
      cases hc.symm.trans hc'
      exact absurd hr (Connection.not_done_of_readStep hr')
  | write hc' hw' => cases ha
  | _ => simp_all

theorem unwoken_of_leftBehind (h : s.LeftBehind) : s.Unwoken := by
  obtain ⟨again, c, hh, hc, hr, hst, hw⟩ := h
  refine ⟨c, hc, hst, by rw [hh]; rfl, hw, fun as s' has hrun => ?_⟩
  suffices hleft : s'.LeftBehind by
    obtain ⟨-, c', -, hc', -, -, hw'⟩ := hleft
    exact ⟨c', hc', hw'⟩
  induction hrun with
  | nil => exact ⟨again, c, hh, hc, hr, hst, hw⟩
  | snoc hrun hstep ih =>
      have hlast := ih fun a ha => has a (List.mem_append_left _ ha)
      exact leftBehind_move hlast (has _ (by simp)) (move_of_step hstep)

/-- The disconnect stores STOP and notifies between the predicate of the wait and
the block. -/
def disconnectWhileBlocking : List (Action Unit) :=
  [.call .connect, .hold] ++ toConnack ++
    [.grant, .write .next, .write .next, .call .disconnect, .hold, .hold, .write .next,
      .read .next, .read .next, .read .next, .read .next, .hold]

theorem stop_not_noticed : ∃ s : System Unit, s.Reachable ∧ s.Unwoken := by
  obtain ⟨s, hrun, htest⟩ := run_of_exec disconnectWhileBlocking
    (fun s => s.holder = .joinWrite false ∧ s.connection.any fun c =>
      c.readPc = .done ∧ c.state = .stop ∧ c.writePc = .blocked)
    (by decide +kernel)
  obtain ⟨hh, hany⟩ := of_decide_eq_true htest
  obtain ⟨c, hc, hrest⟩ := (Option.any_eq_true _ _).mp hany
  have hleft : s.LeftBehind := ⟨false, c, hh, hc, of_decide_eq_true hrest⟩
  exact ⟨s, ⟨{}, disconnectWhileBlocking, initial_default, hrun⟩, unwoken_of_leftBehind hleft⟩

end System

end TrueMqtt
