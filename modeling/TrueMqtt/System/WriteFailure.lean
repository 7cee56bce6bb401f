import TrueMqtt.System.Greeting

/-!
# TrueMqtt.System.WriteFailure

After a failed `::send`, the write thread calls `socketError` through
`m_impl.m_connection` and closes `m_socket`: the owner's pointer, which is null
while the connection is made or destroyed, and the socket of the moment, which the
read thread may have replaced.

A failure acts on its own connection and session in the runs in which neither
happens between the failure, or the beginning of the packet, and the end of
`socketError` (`failure_keeps_to_own`).
-/

namespace TrueMqtt

/-- A part of the packet is written, or its `::send` has failed. -/
def WritePc.begun : WritePc → Bool
  | writing _ offset => offset ≠ 0
  | errorPtr | errorStore | errorTest | errorClose | errorInvalidate => true
  | _ => false

namespace Connection

variable {cfg : Config} {c c' : Connection}

/-- The socket is the one the write thread began its packet on, or none. -/
def OnOwnSocket (c : Connection) : Prop :=
  c.writePc.begun = true → c.socket = c.begun ∨ c.socket = none

theorem onOwnSocket_of_not_begun (h : c.writePc.begun = false) : c.OnOwnSocket := by
  intro hb
  rw [h] at hb
  cases hb

theorem socket_readStep {i : ReadInput} (h : c.readStep cfg i = .ok c') :
    c'.socket = c.socket ∨ c'.socket = none ∨ c.readPc = .socketStore := by
  cases socketMove_of_readStep h with
  | forget hk hn => exact .inr (.inl hk)
  | establish hpc hg' hk hn hq => exact .inr (.inr hpc)
  | quiet _ _ hk _ _ _ | greet _ _ hk _ _ | connect _ _ _ hk _ _ | ping _ _ hk _ _ _
  | connack _ _ hk _ _ | clear _ _ hk _ _ => exact .inl hk

theorem begun_readStep {i : ReadInput} (h : c.readStep cfg i = .ok c') :
    c'.begun = c.begun := by
  cases readBranch_of_readStep h with
  | sendConnect | sendPingRequest => exact begun_notify _
  | _ => rfl

theorem onOwnSocket_notify (h : c.OnOwnSocket) : c.notify.OnOwnSocket := by
  unfold notify
  split
  · exact onOwnSocket_of_not_begun rfl
  · exact h

theorem errorPtr_notify (h : c.notify.writePc = .errorPtr) : c.writePc = .errorPtr := by
  unfold notify at h
  split at h
  · cases h
  · exact h

/-- Only a failed `::send` leads into the error path. -/
theorem failed_of_errorPtr {pointer : Bool} {i : WriteInput}
    (h : c.writeStep pointer i = .ok c') (hpc : c'.writePc = .errorPtr) : i = .failed := by
  cases writeBranch_of_writeStep h with
  | fail => rfl
  | spin hloop =>
      rw [hloop] at hpc
      cases hpc
  | _ => cases hpc

theorem onOwnSocket_readStep {i : ReadInput} (h : c.OnOwnSocket)
    (hg : c.readPc = .socketStore → c.writePc.begun = false)
    (hr : c.readStep cfg i = .ok c') : c'.OnOwnSocket := by
  have hpc : c'.writePc.begun = c.writePc.begun := by
    obtain hsame | ⟨hb, hw⟩ := writePc_readStep hr
    · rw [hsame]
    · rw [hb, hw]
      rfl
  intro hb
  rw [hpc] at hb
  rw [begun_readStep hr]
  obtain hsame | hnone | hstore := socket_readStep hr
  · rw [hsame]
    exact h hb
  · exact .inr hnone
  · rw [hg hstore] at hb
    cases hb

/-- A packet goes on where it began. -/
theorem begun_begin {o : Outgoing} {offset : Nat} (h : c.OnOwnSocket)
    (hpc : c.writePc = .writing o offset) :
    c.socket = (c.begin offset).begun ∨ c.socket = none := by
  by_cases hzero : offset = 0
  · subst hzero
    exact .inl rfl
  · have hbegun : (c.begin offset).begun = c.begun := if_neg hzero
    rw [hbegun]
    exact h (by rw [hpc]; exact decide_eq_true hzero)

/-- The write thread takes note of the socket when it begins, and does not
establish another. -/
theorem onOwnSocket_writeStep {pointer : Bool} {i : WriteInput} (h : c.OnOwnSocket)
    (hw : c.writeStep pointer i = .ok c') : c'.OnOwnSocket := by
  cases writeBranch_of_writeStep hw with
  | write hpc | fail hpc => exact fun _ => begun_begin h hpc
  | errorPtr hpc | errorStore hpc | errorTest hpc | errorClose hpc =>
      exact fun _ => h (by rw [hpc]; rfl)
  | spin => exact h
  | _ => exact onOwnSocket_of_not_begun rfl

end Connection

namespace System

variable {C : Type} {s s' : System C} {a : Action C} {c c' : Connection}

/-- The error path of the write thread finds `m_connection` set, and its own socket
or none. -/
def FailsOnOwn (s : System C) : Prop :=
  ∀ c, s.connection = some c →
    (c.writePc = .errorPtr → s.pointer = true) ∧ c.OnOwnSocket

/-- The steps that leave a write failure with its own connection and session: no
`::send` fails while the connection is made or destroyed, the connection is not
reset between the failure and the call of `socketError`, and no socket is
established between the first `::send` of a packet and its last, or the end of
`socketError`. -/
def LeavesFailure (s : System C) : Action C → Prop
  | .write .failed => s.pointer = true
  | .call .disconnect => match s.connection with
      | some c => c.writePc ≠ .errorPtr
      | none => True
  | .hold => match s.holder, s.connection with
      | .sendTest _ .request, some c =>
          c.sendQueue.length > s.impl.sendQueueSize → c.writePc ≠ .errorPtr
      | _, _ => True
  | .read _ => match s.connection with
      | some c => c.readPc = .socketStore → c.writePc.begun = false
      | none => True
  | _ => True

instance (s : System C) (a : Action C) : Decidable (s.LeavesFailure a) := by
  unfold LeavesFailure
  induction a using Action.casesOn with
  | write i => induction i using WriteInput.casesOn <;> infer_instance
  | call call =>
      induction call using Call.casesOn
      all_goals induction s.connection using Option.casesOn <;> infer_instance
  | hold =>
      induction s.holder using Holder.casesOn with
      | sendTest o k =>
          induction k using After.casesOn
          all_goals induction s.connection using Option.casesOn <;> infer_instance
      | _ => infer_instance
  | read i => induction s.connection using Option.casesOn <;> infer_instance
  | _ => infer_instance

theorem failsOnOwn_of_loop (h : ∀ c, s.connection = some c → c.writePc = .loop) :
    s.FailsOnOwn := by
  intro c hc
  have hpc := h c hc
  constructor
  · intro herr
    rw [hpc] at herr
    cases herr
  · exact Connection.onOwnSocket_of_not_begun (by rw [hpc]; rfl)

/-- What a send does to the write thread of its connection. -/
theorem failsOnOwn_after {sent : Bool} {k : After}
    (h : (c.writePc = .errorPtr → s.pointer = true) ∧ c.OnOwnSocket)
    (hreset : sent = false → k = .request → c.writePc ≠ .errorPtr)
    (ha : s.after c sent k = .ok s') : s'.FailsOnOwn := by
  have hd : ∀ d, s'.connection = some d →
      d.writePc = c.writePc ∧ d.socket = c.socket ∧ d.begun = c.begun := by
    intro d hd
    obtain hsame | ⟨-, hrestored⟩ := connection_after ha
    · cases hsame.symm.trans hd
      exact ⟨rfl, rfl, rfl⟩
    · cases hrestored.symm.trans hd
      exact ⟨rfl, rfl, rfl⟩
  intro d hd'
  obtain ⟨hpc, hk, hb⟩ := hd d hd'
  rw [Connection.OnOwnSocket, hpc, hk, hb]
  refine ⟨fun herr => ?_, h.2⟩
  obtain hon | ⟨hsent, hreq, -⟩ := goesOn_after ha
  · rw [hon.pointer]
    exact h.1 herr
  · exact absurd herr (hreset hsent hreq)

theorem failsOnOwn_move (h : s.FailsOnOwn) (hg : s.LeavesFailure a) (hm : Move s a s') :
    s'.FailsOnOwn := by
  cases hm with
  | idle => exact h
  | setPublishQueue hst => exact h
  | setSendQueue hst => exact h
  | setLastWill => exact h
  | connect hfree hst =>
      refine failsOnOwn_of_loop fun d hd => ?_
      cases hd
      rfl
  | disconnect hfree hst =>
      intro d hd
      have hc : s.connection = some d :=
        (connection_disconnect (s.setState .disconnected)).symm.trans hd
      simp only [LeavesFailure, hc] at hg
      exact ⟨fun herr => absurd herr hg, (h d hc).2⟩
  | toPublishQueue hfree hst hq => exact h
  | publish hfree hst => exact h
  | addSubscription hfree hst => exact h
  | subscribe hfree hst => exact h
  | removeSubscription hfree hst hmem hi => exact h
  | unsubscribe hfree hst hmem hi => exact h
  | room hc hh hsize => exact h
  | refused hc hh hsize ha =>
      refine failsOnOwn_after (h _ hc) ?_ ha
      rintro - rfl
      simp only [LeavesFailure, hh, hc] at hg
      exact hg hsize
  | @pushed c o k s' hc hh hqf ha =>
      refine failsOnOwn_after ?_ (fun hsent => absurd hsent (by decide)) ha
      refine ⟨fun herr => ?_, Connection.onOwnSocket_notify (h c hc).2⟩
      have herr' := Connection.errorPtr_notify herr
      exact (h c hc).1 herr'
  | stop hc hh =>
      have hkeep := h _ hc
      intro d hd
      cases hd
      exact hkeep
  | notify hc hh =>
      intro d hd
      cases hd
      refine ⟨fun herr => (h _ hc).1 (Connection.errorPtr_notify herr), ?_⟩
      exact Connection.onOwnSocket_notify (h _ hc).2
  | joinRead hc hh hpc => exact h
  | destroyed hc hh hpc => exact failsOnOwn_of_loop fun d hd => (nomatch hd)
  | replaced hc hh hpc =>
      refine failsOnOwn_of_loop fun d hd => ?_
      cases hd
      rfl
  | assign hh hc =>
      intro d hd
      exact ⟨fun _ => rfl, (h d hd).2⟩
  | connected hc hfree hpc =>
      have hkeep := h _ hc
      intro d hd
      rw [(goesOn_resubscribe _ _ _).pointer]
      obtain hsame | hrestored := connection_resubscribe _ _ _
      · cases hsame.symm.trans hd
        exact hkeep
      · cases hrestored.symm.trans hd
        exact hkeep
  | lost hc hfree hpc =>
      have hkeep := h _ hc
      intro d hd
      cases hd
      exact hkeep
  | message hc hfree hpc =>
      have hkeep := h _ hc
      intro d hd
      cases hd
      exact hkeep
  | @read c c' i hc hr =>
      simp only [LeavesFailure, hc] at hg
      intro d hd
      cases hd
      refine ⟨fun herr => (h c hc).1 ?_, Connection.onOwnSocket_readStep (h c hc).2 hg hr⟩
      obtain hsame | ⟨-, hw⟩ := Connection.writePc_readStep hr
      · rw [← hsame, herr]
      · rw [hw] at herr
        cases herr
  | @write c c' i hc hw =>
      intro d hd
      cases hd
      refine ⟨fun herr => ?_, Connection.onOwnSocket_writeStep (h c hc).2 hw⟩
      cases Connection.failed_of_errorPtr hw herr
      exact hg

/-- **A write failure keeps to its own connection and session** in a run whose
steps leave it alone. -/
theorem failure_keeps_to_own {s₀ s : System C} {as : List (Action C)} (h₀ : Initial s₀)
    (h : Run (Guarded Steps LeavesFailure) s₀ as s) : s.FailsOnOwn := by
  have hinit : s₀.FailsOnOwn := by
    obtain ⟨config, rfl⟩ := h₀
    exact failsOnOwn_of_loop fun d hd => (nomatch hd)
  exact (invariant_of_guarded h₀ hinit (fun _ _ _ _ => failsOnOwn_move) h).2

/-- A client connects and publishes, up to the first `::send` of the packet. -/
def connectAndBegin : List (Action Unit) :=
  [.call .connect, .hold] ++ toConnack ++
    [.grant, .call (.publish ⟨[97], [120], false⟩), .hold, .hold, .write .next, .write .next,
      .write .next]

/-- A part of the packet is written before the failure. -/
theorem failure_keeps_to_own_connectAndBegin :
    ∃ s : System Unit, s.FailsOnOwn ∧ s.connection.any (·.writePc = .errorPtr) := by
  obtain ⟨s, hrun, htest⟩ := guarded_run_of_exec LeavesFailure
    (connectAndBegin ++ [.write (.sent 1), .write .failed])
    (fun s => s.connection.any (·.writePc = .errorPtr)) (by decide +kernel)
  exact ⟨s, failure_keeps_to_own initial_default hrun, htest⟩

/-- The `::send` fails after `disconnect` has reset the pointer. -/
theorem failure_finds_null : ∃ s : System Unit, s.Reachable ∧ ¬ s.FailsOnOwn := by
  obtain ⟨s, hrun, htest⟩ := run_of_exec
    (connectAndBegin ++ [.call .disconnect, .write .failed])
    (fun s => s.pointer = false ∧ s.connection.any (·.writePc = .errorPtr)) (by decide +kernel)
  obtain ⟨hp, hany⟩ := of_decide_eq_true htest
  obtain ⟨c, hc, hpc⟩ := (Option.any_eq_true _ _).mp hany
  refine ⟨s, ⟨{}, _, initial_default, hrun⟩, fun h => ?_⟩
  have hset := (h c hc).1 (of_decide_eq_true hpc)
  rw [hp] at hset
  cases hset

end System

end TrueMqtt
