import TrueMqtt.System.Handshake

/-!
# TrueMqtt.System.Restore

`connectionStateChange(true)` sends a SUBSCRIBE for every topic, on the read
thread and under `m_state_mutex`.  When `send` refuses one, because the queue is
longer than `m_send_queue_size`, it destroys the connection, and `~Connection`
joins the read thread it runs on (`Fault.selfJoin`).

The queue grows by one with every topic, and only the write thread makes it
shorter; it may be slow.  So the topics have to fit into what the queue has room
for when the loop starts (`restore_fits`, `restore_overflows`).
-/

namespace TrueMqtt

namespace Connection

variable {c c' : Connection}

/-- The length of the queue at the next push: a write thread that holds
`m_send_queue_mutex` after its wait takes a packet first. -/
def backlog (c : Connection) : Nat :=
  if c.writePc = .woken ∧ c.state ≠ .stop then c.sendQueue.length - 1 else c.sendQueue.length

theorem backlog_of_queueFree (h : c.queueFree = true) : c.backlog = c.sendQueue.length := by
  have hpc : c.writePc ≠ .woken := by
    simp only [queueFree, decide_eq_true_eq] at h
    exact h.2
  rw [backlog, if_neg (by simp [hpc])]

/-- The write thread only takes packets off the queue. -/
theorem backlog_writeStep {pointer : Bool} {i : WriteInput}
    (h : c.writeStep pointer i = .ok c') :
    c'.backlog ≤ c.backlog ∧ c'.sendQueue.length ≤ c.sendQueue.length := by
  cases writeBranch_of_writeStep h with
  | pop hpc hq => simp [backlog, hpc, hq]
  | wokenPop hpc hst hq => simp [backlog, hpc, hst, hq]
  | empty hpc hq | emptyStop hpc hq => simp [backlog, hq]
  | waited hpc htest =>
      have hc : c.backlog = c.sendQueue.length := if_neg (by simp [hpc])
      refine ⟨?_, Nat.le_refl _⟩
      rw [hc, backlog]
      split
      · exact Nat.sub_le _ 1
      · exact Nat.le_refl _
  | wokenStop hpc hst => simp [backlog, hpc, hst]
  | _ hpc => simp [backlog, hpc, writeTo, begin]

theorem queueFree_push (h : c.queueFree = true) (o : Outgoing) : (c.push o).queueFree = true := by
  unfold push notify
  split
  · rfl
  · exact h

end Connection

namespace System

variable {C : Type} {s s' : System C} {a : Action C} {c c' : Connection}

/-- Room for a SUBSCRIBE that is tested next, and for those of `topics` after it. -/
def Room (s : System C) (c : Connection) (topics : List Str) : Prop :=
  c.sendQueue.length ≤ s.impl.sendQueueSize ∧ c.backlog + topics.length ≤ s.impl.sendQueueSize

instance (s : System C) (c : Connection) (topics : List Str) : Decidable (s.Room c topics) := by
  unfold Room
  infer_instance

/-- The steps in which no resubscribe loop starts whose topics do not fit into the
send queue. -/
def RestoreFits (s : System C) : Action C → Prop
  | .grant => match s.connection, s.impl.subscriptionTopics.elems with
      | some c, _ :: topics => c.readPc = .lockState true → s.Room c topics
      | _, _ => True
  | _ => True

instance (s : System C) (a : Action C) : Decidable (s.RestoreFits a) := by
  unfold RestoreFits
  induction a using Action.casesOn with
  | grant =>
      induction s.connection using Option.casesOn
      all_goals induction s.impl.subscriptionTopics.elems using List.casesOn <;> infer_instance
  | _ => infer_instance

/-- The rest of the resubscribe loop fits. -/
def Restores (s : System C) : Prop :=
  match s.holder with
  | .sendTest _ (.resubscribe topics) =>
      ∃ c, s.connection = some c ∧ c.readPc = .stateChange ∧ s.Room c topics
  | .sendPush _ (.resubscribe topics) =>
      ∃ c, s.connection = some c ∧ c.readPc = .stateChange ∧
        c.backlog + topics.length ≤ s.impl.sendQueueSize
  | _ => True

theorem restores_flush (messages : List Message) : (s.flush c messages).Restores := by
  cases messages <;> trivial

/-- The loop goes on with a queue that has room for its topics. -/
theorem restores_resubscribe {topics : List Str} (hpc : c.readPc = .stateChange)
    (hroom : ∀ t ts, topics = t :: ts → s.Room c ts) : (s.resubscribe c topics).Restores := by
  cases topics with
  | nil => exact restores_flush _
  | cons t ts => exact ⟨c, rfl, hpc, hroom t ts rfl⟩

theorem restores_sent {k : After} (h : s.after c true k = .ok s')
    (hk : ∀ topics, k = .resubscribe topics → c.readPc = .stateChange ∧
      ∀ t ts, topics = t :: ts → s.Room c ts) : s'.Restores := by
  cases k with
  | publish m =>
      cases h
      trivial
  | request =>
      cases h
      trivial
  | resubscribe topics =>
      cases h
      obtain ⟨hpc, hroom⟩ := hk topics rfl
      exact restores_resubscribe hpc hroom
  | flush messages =>
      cases h
      exact restores_flush messages

theorem restores_refused {k : After} (h : s.after c false k = .ok s') : s'.Restores := by
  cases k with
  | resubscribe topics => cases h
  | publish m | request | flush messages =>
      cases h
      trivial

/-- A thread's step leaves room, if the read thread stays where it is. -/
theorem restores_of_step (h : s.Restores) (hc : s.connection = some c)
    (hpc : c.readPc = .stateChange → c'.readPc = .stateChange)
    (hlen : c.readPc = .stateChange →
      c'.backlog ≤ c.backlog ∧ c'.sendQueue.length ≤ c.sendQueue.length) :
    { s with connection := some c' }.Restores := by
  unfold Restores
  split
  · next o topics hh =>
    have hh' : s.holder = .sendTest o (.resubscribe topics) := hh
    simp only [Restores, hh'] at h
    obtain ⟨d, hd, hdpc, hroom⟩ := h
    cases hc.symm.trans hd
    obtain ⟨hb, hq⟩ := hlen hdpc
    exact ⟨c', rfl, hpc hdpc, by unfold Room at hroom ⊢; dsimp only; omega⟩
  · next o topics hh =>
    have hh' : s.holder = .sendPush o (.resubscribe topics) := hh
    simp only [Restores, hh'] at h
    obtain ⟨d, hd, hdpc, hroom⟩ := h
    cases hc.symm.trans hd
    obtain ⟨hb, -⟩ := hlen hdpc
    exact ⟨c', rfl, hpc hdpc, by dsimp only; omega⟩
  · trivial

theorem restores_move (hwf : s.WellFormed) (h : s.Restores) (hg : s.RestoreFits a)
    (hm : Move s a s') : s'.Restores := by
  cases hm with
  | idle => exact h
  | setPublishQueue hst => exact h
  | setSendQueue hst =>
      unfold WellFormed at hwf
      unfold Restores
      split <;> simp_all
  | setLastWill => exact h
  | connect hfree hst => trivial
  | disconnect hfree hst =>
      cases hc : s.connection <;> simp [Restores, System.disconnect, setState, hc]
  | toPublishQueue hfree hst hq => simp [Restores, hfree]
  | publish hfree hst => trivial
  | addSubscription hfree hst => simp [Restores, hfree]
  | subscribe hfree hst => trivial
  | removeSubscription hfree hst hmem hi => simp [Restores, hfree]
  | unsubscribe hfree hst hmem hi => trivial
  | @room c o k hc hh hsize =>
      cases k with
      | resubscribe topics =>
          simp only [Restores, hh] at h
          obtain ⟨d, hd, hpc, hroom⟩ := h
          exact ⟨d, hd, hpc, hroom.2⟩
      | _ => trivial
  | refused hc hh hsize ha => exact restores_refused ha
  | @pushed c o k s' hc hh hqf ha =>
      refine restores_sent ha ?_
      rintro topics rfl
      simp only [Restores, hh] at h
      obtain ⟨d, hd, hpc, hroom⟩ := h
      cases hc.symm.trans hd
      refine ⟨by simpa [Connection.push] using hpc, ?_⟩
      rintro t ts rfl
      have hb := Connection.backlog_of_queueFree (Connection.queueFree_push hqf o)
      rw [Connection.backlog_of_queueFree hqf, List.length_cons] at hroom
      have hlen : (c.push o).sendQueue.length = c.sendQueue.length + 1 := by
        simp [Connection.push]
      unfold Room
      omega
  | stop hc hh => trivial
  | notify hc hh => trivial
  | joinRead hc hh hpc => trivial
  | destroyed hc hh hpc => trivial
  | replaced hc hh hpc => trivial
  | assign hh hc => trivial
  | @connected c hc hfree hpc =>
      refine restores_resubscribe rfl ?_
      intro t ts hts
      simp only [RestoreFits, hc, hts] at hg
      exact hg hpc
  | lost hc hfree hpc => simp [Restores, setState, hfree]
  | message hc hfree hpc => simp [Restores, hfree]
  | read hc hr =>
      refine restores_of_step h hc ?_ ?_
      all_goals exact fun hpc => absurd hpc (Connection.readFrame_of_readStep hr).stateChange.1
  | write hc hw =>
      refine restores_of_step h hc ?_ fun _ => Connection.backlog_writeStep hw
      rw [(Connection.writeFrame_of_writeStep hw).readPc]
      exact id

/-! ## the destructor on the connection's own read thread -/

/-- Only a refused SUBSCRIBE of the resubscribe loop gets there. -/
theorem of_selfJoin (h : s.step a = .error (.fault .selfJoin)) :
    ∃ c o topics, s.connection = some c ∧ s.holder = .sendTest o (.resubscribe topics) ∧
      c.sendQueue.length > s.impl.sendQueueSize := by
  have hafter : ∀ d k, s.after d true k ≠ .error (.fault .selfJoin) := by
    intro d k
    cases k <;> simp [after]
  cases a with
  | setPublishQueue | setSendQueue | setLastWill =>
      rw [step, setting] at h
      split at h <;> cases h
  | call k =>
      cases k
      all_goals simp only [step, call] at h
      all_goals repeat' split at h
      all_goals cases h
  | grant =>
      simp only [step, grant] at h
      repeat' split at h
      all_goals cases h
  | read i =>
      simp only [step, Connection.readStep] at h
      repeat' split at h
      all_goals simp [Except.map] at h
  | write i =>
      simp only [step, Connection.writeStep, Connection.pop] at h
      repeat' split at h
      all_goals simp [Except.map] at h
  | hold =>
      simp only [step] at h
      split at h
      · cases h
      · next c hc =>
        cases hh : s.holder with
        | sendTest o k =>
            simp only [hold, hh] at h
            split at h
            · cases h
            · split at h
              · next hsize =>
                cases k with
                | resubscribe topics => exact ⟨c, o, topics, hc, rfl, hsize⟩
                | publish | request | flush => cases h
              · cases h
        | sendPush o k =>
            simp only [hold, hh] at h
            split at h
            · exact absurd h (hafter _ _)
            · cases h
        | _ =>
            simp only [hold, hh] at h
            repeat' split at h
            all_goals cases h

/-- While the write thread does nothing, the loop overruns the bound. -/
theorem selfJoin_of_long {topics : List Str} :
    ∀ {s : System C} {c : Connection} {o : Outgoing}, s.pointer = true →
      s.connection = some c → s.holder = .sendTest o (.resubscribe topics) →
      c.queueFree = true → s.impl.sendQueueSize < c.sendQueue.length + topics.length →
      ∃ as s', Run Steps s as s' ∧ s'.step .hold = .error (.fault .selfJoin) := by
  induction topics with
  | nil =>
      intro s c o hp hc hh hqf hlen
      have hsize : s.impl.sendQueueSize < c.sendQueue.length := by simpa using hlen
      exact ⟨[], s, .nil, by simp [step, hold, hc, hh, hp, hsize, after]⟩
  | cons t ts ih =>
      intro s c o hp hc hh hqf hlen
      by_cases hsize : s.impl.sendQueueSize < c.sendQueue.length
      · exact ⟨[], s, .nil, by simp [step, hold, hc, hh, hp, hsize, after]⟩
      · have htest : s.Steps .hold { s with holder := .sendPush o (.resubscribe (t :: ts)) } := by
          simp [Steps, step, hold, hc, hh, hp, hsize]
        have hpush : Steps { s with holder := .sendPush o (.resubscribe (t :: ts)) } .hold
            (({ s with holder := .sendPush o (.resubscribe (t :: ts)) } : System C).resubscribe
              (c.push o) (t :: ts)) := by
          simp [Steps, step, hold, hc, hqf, after]
        have hlen' : s.impl.sendQueueSize < (c.push o).sendQueue.length + ts.length := by
          simp only [Connection.push, Connection.sendQueue_notify, List.length_append,
            List.length_cons, List.length_nil] at hlen ⊢
          omega
        obtain ⟨as, s', hrun, hjoin⟩ := ih (s := ({ s with
            holder := .sendPush o (.resubscribe (t :: ts)) } : System C).resubscribe
              (c.push o) (t :: ts))
          hp rfl rfl (Connection.queueFree_push hqf o) hlen'
        exact ⟨_, s', Run.cons htest (Run.cons hpush hrun), hjoin⟩

/-- **The read thread does not destroy its own connection** in a run in which every
resubscribe loop fits into the send queue.  From a loop that does not fit, when the
write thread does not hold the queue, there is a run that does. -/
theorem restore_fits :
    (∀ {s₀ s : System C} {as : List (Action C)}, Initial s₀ →
      Run (Guarded Steps RestoreFits) s₀ as s → ∀ a, s.step a ≠ .error (.fault .selfJoin)) ∧
    ∀ {s : System C} {c : Connection}, s.Reachable → s.holder = .free → s.connection = some c →
      c.readPc = .lockState true → c.queueFree = true → ¬ s.RestoreFits .grant →
      ∃ as s', Run Steps s as s' ∧ s'.step .hold = .error (.fault .selfJoin) := by
  constructor
  · intro s₀ s as h₀ hrun a hjoin
    have hinit : s₀.Restores := by
      obtain ⟨config, rfl⟩ := h₀
      trivial
    have hinv := invariant_of_guarded h₀ hinit (fun _ _ _ => restores_move) hrun
    obtain ⟨c, o, topics, hc, hh, hsize⟩ := of_selfJoin hjoin
    have hrestores := hinv.2
    simp only [Restores, hh] at hrestores
    obtain ⟨d, hd, -, hroom⟩ := hrestores
    cases hc.symm.trans hd
    have hle := hroom.1
    omega
  · intro s c hr hfree hc hpc hqf hfits
    have hwf : s.WellFormed := by
      obtain ⟨s₀, as, h₀, hrun⟩ := hr
      exact wellFormed_of_run h₀ hrun
    simp only [WellFormed, hfree, hc] at hwf
    cases htopics : s.impl.subscriptionTopics.elems with
    | nil => simp [RestoreFits, hc, htopics] at hfits
    | cons t ts =>
        simp only [RestoreFits, hc, htopics, hpc, true_implies, Room,
          Connection.backlog_of_queueFree hqf] at hfits
        have hlen : s.impl.sendQueueSize < c.sendQueue.length + ts.length := by omega
        have hgrant : s.Steps .grant
            ((s.setState .connected).resubscribe { c with readPc := .stateChange } (t :: ts)) := by
          simp [Steps, step, grant, hc, hfree, hpc, setState, htopics]
        obtain ⟨as, s', hrun, hjoin⟩ := selfJoin_of_long
          (s := (s.setState .connected).resubscribe { c with readPc := .stateChange } (t :: ts))
          hwf.2.symm rfl rfl hqf hlen
        exact ⟨_, s', Run.cons hgrant hrun, hjoin⟩

/-- A client subscribes twice before it is CONNECTED; the resubscribe loop has sent
the first topic. -/
def subscribeTwice : List (Action Unit) :=
  [.call .connect, .hold, .call (.subscribe [97] ()), .call (.subscribe [98] ())] ++
    toConnack ++ [.grant, .hold, .hold]

theorem restore_fits_subscribeTwice :
    ∃ s : System Unit, (∀ a, s.step a ≠ .error (.fault .selfJoin)) ∧
      s.holder = .sendTest (.subscribe 2 [98]) (.resubscribe []) := by
  obtain ⟨s, hrun, htest⟩ := guarded_run_of_exec RestoreFits subscribeTwice
    (fun s => s.holder = .sendTest (.subscribe 2 [98]) (.resubscribe [])) (by decide +kernel)
  exact ⟨s, restore_fits.1 initial_default hrun, of_decide_eq_true htest⟩

/-- The same with a send queue of size 0: the first SUBSCRIBE waits for the write
thread when the second one is tested. -/
theorem restore_overflows :
    ∃ s : System Unit, s.Reachable ∧ s.step .hold = .error (.fault .selfJoin) := by
  obtain ⟨s, hrun, htest⟩ := run_of_exec (.setSendQueue 0 :: subscribeTwice)
    (fun s => s.holder = .sendTest (.subscribe 2 [98]) (.resubscribe []) ∧ s.pointer = true ∧
      s.impl.sendQueueSize = 0 ∧ s.connection.any (·.sendQueue.length = 1))
    (by decide +kernel)
  obtain ⟨hh, hp, hsize, hany⟩ := of_decide_eq_true htest
  obtain ⟨c, hc, hlen⟩ := (Option.any_eq_true _ _).mp hany
  have hlen' : c.sendQueue.length = 1 := of_decide_eq_true hlen
  refine ⟨s, ⟨{}, .setSendQueue 0 :: subscribeTwice, initial_default, hrun⟩, ?_⟩
  simp [step, hold, hc, hh, hp, hsize, hlen', after]

end System

end TrueMqtt
