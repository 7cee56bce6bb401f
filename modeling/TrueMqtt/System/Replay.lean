import TrueMqtt.System.Handshake

/-!
# TrueMqtt.System.Replay

The subscriptions the broker sees.  A session starts clean, so the broker's view
is the replay of the SUBSCRIBE and UNSUBSCRIBE packets queued since the send
queue was last cleared.  Once a connection has processed a CONNACK, the replay is
`m_subscription_topics` whenever the client is CONNECTED (`subscriptions_restored`),
however the calls, the losses and the reconnects interleave.
-/

namespace TrueMqtt

/-- What a packet does to the broker's set of subscriptions. -/
def Outgoing.apply (topics : SortedSet Str) : Outgoing → SortedSet Str
  | subscribe _ topic => topics.insert topic
  | unsubscribe _ topic => topics.erase topic
  | _ => topics

/-- The broker's subscriptions after a list of packets, from a clean session. -/
def replay (os : List Outgoing) : SortedSet Str := os.foldl Outgoing.apply ∅

@[simp] theorem replay_nil : replay [] = ∅ := rfl

@[simp] theorem replay_snoc (os : List Outgoing) (o : Outgoing) :
    replay (os ++ [o]) = o.apply (replay os) := by
  simp [replay]

/-- A PUBLISH leaves the subscriptions alone. -/
theorem apply_of_message? {o : Outgoing} (h : o.message?.isSome = true) (topics : SortedSet Str) :
    o.apply topics = topics := by
  cases o <;> first | rfl | cases h

/-- A packet does the same to a smaller set. -/
theorem apply_mono {o : Outgoing} {A B : SortedSet Str} (h : ∀ t ∈ A, t ∈ B) :
    ∀ t ∈ o.apply A, t ∈ o.apply B := by
  cases o with
  | connect | pingRequest | publish => exact h
  | subscribe packetId topic =>
      intro t ht
      rw [Outgoing.apply, SortedSet.mem_insert] at ht ⊢
      exact ht.imp_right (h t)
  | unsubscribe packetId topic =>
      intro t ht
      rw [Outgoing.apply, SortedSet.mem_erase] at ht ⊢
      exact ⟨h t ht.1, ht.2⟩

namespace After

/-- The topics the resubscribe loop has not come to yet. -/
def topics : After → List Str
  | resubscribe ts => ts
  | _ => []

/-- Whether the packet being sent is a PUBLISH. -/
def ofMessage : After → Bool
  | publish _ | flush _ => true
  | _ => false

end After

namespace System

variable {C : Type} {s s' : System C} {a : Action C} {c c' : Connection}

/-- The relation between the topics `T` of a client in state `st` and its
connection, while no packet is being sent. -/
structure InStep (T : SortedSet Str) (st : State) (c : Connection) : Prop where
  /-- the queue is not cleared while the client is CONNECTED -/
  clearQueue : st = .connected → c.readPc ≠ .clearQueue
  sound : st = .connected → ∀ t ∈ replay c.enqueued, t ∈ T
  complete : st = .connected → c.processed = true → ∀ t ∈ T, t ∈ replay c.enqueued
  /-- nothing is subscribed before the CONNACK -/
  clean : st = .connecting → c.readPc ≠ .clearQueue → replay c.enqueued = ∅

/-- The relation while the packet `o` is being sent. -/
structure Sending (T : SortedSet Str) (c : Connection) (o : Outgoing) (k : After) : Prop where
  sound : ∀ t ∈ o.apply (replay c.enqueued), t ∈ T
  complete : c.processed = true ∨ k.restoring = true →
    ∀ t ∈ T, t ∈ o.apply (replay c.enqueued) ∨ t ∈ k.topics
  topics : ∀ t ∈ k.topics, t ∈ T
  message : k.ofMessage = true → o.message?.isSome = true
  /-- the read thread is inside of `connectionStateChange`, or not about to clear -/
  readPc : if k.restoring = true then c.readPc = .stateChange else c.readPc ≠ .clearQueue

/-- The invariant of the runs; a connection that is being destroyed is free of
any obligation. -/
def Follows (s : System C) : Prop :=
  ∀ c, s.connection = some c →
    match s.holder with
    | .free | .assign => InStep s.impl.subscriptionTopics s.impl.state c
    | .sendTest o k | .sendPush o k => Sending s.impl.subscriptionTopics c o k
    | _ => True

/-- A CONNECTED client outside of critical sections. -/
theorem follows_free (hfree : s.holder = .free) (hc : s.connection = some c)
    (hst : s.impl.state = .connected) (hpc : c.readPc ≠ .clearQueue)
    (hsound : ∀ t ∈ replay c.enqueued, t ∈ s.impl.subscriptionTopics)
    (hcomplete : c.processed = true → ∀ t ∈ s.impl.subscriptionTopics, t ∈ replay c.enqueued) :
    s.Follows := by
  intro d hd
  cases hc.symm.trans hd
  rw [hfree]
  exact
    { clearQueue := fun _ => hpc
      sound := fun _ => hsound
      complete := fun _ => hcomplete
      clean := fun h => by simp [hst] at h }

/-! ## the loops of `connectionStateChange` -/

/-- When all is restored, the connection is in step. -/
theorem follows_finish (hst : s.impl.state = .connected)
    (hsound : ∀ t ∈ replay c.enqueued, t ∈ s.impl.subscriptionTopics)
    (hcomplete : ∀ t ∈ s.impl.subscriptionTopics, t ∈ replay c.enqueued) :
    (s.finish c).Follows :=
  follows_free rfl rfl hst (by simp) hsound fun _ => hcomplete

theorem follows_flush (hst : s.impl.state = .connected) (hpc : c.readPc = .stateChange)
    (hsound : ∀ t ∈ replay c.enqueued, t ∈ s.impl.subscriptionTopics)
    (hcomplete : ∀ t ∈ s.impl.subscriptionTopics, t ∈ replay c.enqueued)
    (messages : List Message) : (s.flush c messages).Follows := by
  cases messages with
  | nil => exact follows_finish hst hsound hcomplete
  | cons m ms =>
      intro d hd
      cases hd
      exact
        { sound := hsound
          complete := fun _ t ht => .inl (hcomplete t ht)
          topics := fun t ht => by simp [After.topics] at ht
          message := fun _ => rfl
          readPc := hpc }

theorem follows_resubscribe (hst : s.impl.state = .connected) (hpc : c.readPc = .stateChange)
    {topics : List Str} (htopics : ∀ t ∈ topics, t ∈ s.impl.subscriptionTopics)
    (hsound : ∀ t ∈ replay c.enqueued, t ∈ s.impl.subscriptionTopics)
    (hcomplete : ∀ t ∈ s.impl.subscriptionTopics, t ∈ replay c.enqueued ∨ t ∈ topics) :
    (s.resubscribe c topics).Follows := by
  cases topics with
  | nil =>
      have hall : ∀ t ∈ s.impl.subscriptionTopics, t ∈ replay c.enqueued := by
        intro t ht
        simpa using hcomplete t ht
      exact follows_flush hst hpc hsound hall _
  | cons t ts =>
      intro d hd
      cases hd
      refine
        { sound := ?_, complete := ?_, topics := ?_, message := ?_, readPc := hpc }
      · intro u hu
        rcases SortedSet.mem_insert.mp hu with rfl | hu
        · exact htopics u List.mem_cons_self
        · exact hsound u hu
      · intro _ u hu
        rcases hcomplete u hu with hin | hin
        · exact .inl (SortedSet.mem_insert.mpr (.inr hin))
        · rcases List.mem_cons.mp hin with rfl | hin
          · exact .inl (SortedSet.mem_insert.mpr (.inl rfl))
          · exact .inr hin
      · intro u hu
        exact htopics u (List.mem_cons_of_mem t hu)
      · intro h
        cases h

/-! ## sends -/

/-- After the packet is queued. -/
theorem follows_sent {o : Outgoing} {k : After} (hst : s.impl.state = .connected)
    (h : Sending s.impl.subscriptionTopics c o k) (ha : s.after (c.push o) true k = .ok s') :
    s'.Follows := by
  have henq : replay (c.push o).enqueued = o.apply (replay c.enqueued) := by
    simp [Connection.push]
  have hproc : (c.push o).processed = c.processed := by simp [Connection.push]
  have hpc : (c.push o).readPc = c.readPc := by simp [Connection.push]
  have hreadPc := h.readPc
  have hdone : k.topics = [] → (c.push o).processed = true →
      ∀ t ∈ s.impl.subscriptionTopics, t ∈ replay (c.push o).enqueued := by
    intro hnil hp t ht
    rw [hproc] at hp
    rw [henq]
    simpa [hnil] using h.complete (.inl hp) t ht
  cases k with
  | publish m =>
      cases ha
      exact follows_free rfl rfl hst (hpc ▸ hreadPc) (henq ▸ h.sound) (hdone rfl)
  | request =>
      cases ha
      exact follows_free rfl rfl hst (hpc ▸ hreadPc) (henq ▸ h.sound) (hdone rfl)
  | resubscribe topics =>
      cases ha
      refine follows_resubscribe hst (hpc.trans hreadPc) h.topics ?_ ?_
      · rw [henq]
        exact h.sound
      · rw [henq]
        exact h.complete (.inr rfl)
  | flush messages =>
      cases ha
      refine follows_flush hst (hpc.trans hreadPc) ?_ ?_ messages
      · rw [henq]
        exact h.sound
      · rw [henq]
        intro t ht
        simpa [After.topics] using h.complete (.inr rfl) t ht

/-- After the packet is refused: a PUBLISH is not missed, a request or a
resubscription closes the connection. -/
theorem follows_refused {o : Outgoing} {k : After} (hst : s.impl.state = .connected)
    (h : Sending s.impl.subscriptionTopics c o k) (ha : s.after c false k = .ok s') :
    s'.Follows := by
  have hreadPc := h.readPc
  cases k with
  | publish m =>
      have hsame := apply_of_message? (h.message rfl) (replay c.enqueued)
      cases ha
      refine follows_free rfl rfl hst hreadPc (hsame ▸ h.sound) ?_
      intro hp t ht
      rw [← hsame]
      simpa [After.topics] using h.complete (.inl hp) t ht
  | request =>
      cases ha
      intro d hd
      trivial
  | resubscribe topics => cases ha
  | flush messages =>
      have hsame := apply_of_message? (h.message rfl) (replay c.enqueued)
      cases ha
      refine follows_finish hst ?_ ?_
      · rw [← hsame]
        exact h.sound
      · rw [← hsame]
        intro t ht
        simpa [After.topics] using h.complete (.inr rfl) t ht

/-! ## steps -/

/-- A connection that was just constructed. -/
theorem inStep_new (T : SortedSet Str) (st : State) (config : Config) :
    InStep T st (.new config) :=
  { clearQueue := fun _ => by simp [Connection.new]
    sound := fun _ t ht => by simp [Connection.new] at ht
    complete := fun _ hp => by simp [Connection.new] at hp
    clean := fun _ _ => rfl }

/-- A step of the read thread clears the queue of a client that is not CONNECTED,
or leaves what was queued alone. -/
theorem inStep_readStep {T : SortedSet Str} {st : State} {i : ReadInput} {cfg : Config}
    (h : InStep T st c) (hr : c.readStep cfg i = .ok c') : InStep T st c' := by
  have hframe := Connection.readFrame_of_readStep hr
  have hqueue := Connection.queueMove_of_readStep hr
  cases hqueue with
  | same hpc hq he | urgent o ho hpc hq he =>
      refine ⟨fun _ => hframe.clearQueue, ?_, ?_, fun hst _ => ?_⟩
      · rw [he]
        exact h.sound
      · rw [he, hframe.processed]
        exact h.complete
      · rw [he]
        exact h.clean hst hpc
  | clear hpc hq he =>
      refine ⟨fun _ => hframe.clearQueue, ?_, ?_, fun _ _ => ?_⟩
      · intro hst
        exact absurd hpc (h.clearQueue hst)
      · intro hst
        exact absurd hpc (h.clearQueue hst)
      · rw [he, replay_nil]

/-- A step of the read thread in the middle of a send: it is not the sender. -/
theorem sending_readStep {T : SortedSet Str} {o : Outgoing} {k : After} {i : ReadInput}
    {cfg : Config} (h : Sending T c o k) (hr : c.readStep cfg i = .ok c') : Sending T c' o k := by
  have hframe := Connection.readFrame_of_readStep hr
  have hqueue := Connection.queueMove_of_readStep hr
  have hreadPc := h.readPc
  cases hk : k.restoring with
  | true =>
      rw [if_pos hk] at hreadPc
      exact absurd hreadPc hframe.stateChange.1
  | false =>
      rw [if_neg (by simp [hk])] at hreadPc
      have he : c'.enqueued = c.enqueued := by
        cases hqueue with
        | same hpc hq he => exact he
        | urgent o ho hpc hq he => exact he
        | clear hpc hq he => exact absurd hpc hreadPc
      refine ⟨?_, ?_, h.topics, h.message, ?_⟩
      · rw [he]
        exact h.sound
      · rw [he, hframe.processed]
        exact h.complete
      · rw [if_neg (by simp [hk])]
        exact hframe.clearQueue

theorem inStep_writeStep {T : SortedSet Str} {st : State} {i : WriteInput} {pointer : Bool}
    (h : InStep T st c) (hw : c.writeStep pointer i = .ok c') : InStep T st c' := by
  have hframe := Connection.writeFrame_of_writeStep hw
  constructor
  · rw [hframe.readPc]
    exact h.clearQueue
  · rw [hframe.enqueued]
    exact h.sound
  · rw [hframe.processed, hframe.enqueued]
    exact h.complete
  · rw [hframe.readPc, hframe.enqueued]
    exact h.clean

theorem sending_writeStep {T : SortedSet Str} {o : Outgoing} {k : After} {i : WriteInput}
    {pointer : Bool} (h : Sending T c o k) (hw : c.writeStep pointer i = .ok c') :
    Sending T c' o k := by
  have hframe := Connection.writeFrame_of_writeStep hw
  refine ⟨?_, ?_, h.topics, h.message, ?_⟩
  · rw [hframe.enqueued]
    exact h.sound
  · rw [hframe.processed, hframe.enqueued]
    exact h.complete
  · rw [hframe.readPc]
    exact h.readPc

/-- A request has done to the topics what its packet does to the replay. -/
theorem sending_request {T : SortedSet Str} {o : Outgoing} (h : InStep T .connected c) :
    Sending (o.apply T) c o .request where
  sound := apply_mono (h.sound rfl)
  complete := by
    intro hp t ht
    have hp' : c.processed = true := by simpa [After.restoring] using hp
    exact .inl (apply_mono (h.complete rfl hp') t ht)
  topics := fun t ht => by simp [After.topics] at ht
  message := fun hm => by cases hm
  readPc := h.clearQueue rfl

theorem follows_move (hwf : s.WellFormed) (h : s.Follows) (hm : Move s a s') : s'.Follows := by
  cases hm with
  | idle => exact h
  | setPublishQueue hst => exact h
  | setSendQueue hst => exact h
  | setLastWill => exact h
  | connect hfree hst =>
      intro d hd
      cases hd
      exact inStep_new _ _ _
  | disconnect hfree hst =>
      cases hc : s.connection <;> simp [Follows, System.disconnect, setState, hc]
  | toPublishQueue hfree hst hq =>
      obtain ⟨-, rfl⟩ | ⟨-, q, -, rfl⟩ := Impl.toPublishQueue_spec hq <;> exact h
  | publish hfree hst =>
      intro d hd
      have hin := h d hd
      rw [hfree, hst] at hin
      exact
        { sound := hin.sound rfl
          complete := fun hp t ht =>
            .inl (hin.complete rfl (by simpa [After.restoring] using hp) t ht)
          topics := fun t ht => by simp [After.topics] at ht
          message := fun _ => rfl
          readPc := hin.clearQueue rfl }
  | addSubscription hfree hst =>
      intro d hd
      have hin := h d hd
      rw [hfree] at hin
      simp only [hfree]
      refine ⟨?_, ?_, ?_, hin.clean⟩ <;> simp [Impl.addSubscription, hst]
  | @subscribe topic callback hfree hst =>
      intro d hd
      have hin := h d hd
      rw [hfree, hst] at hin
      exact sending_request (o := .subscribe s.impl.takePacketId.1 topic) hin
  | removeSubscription hfree hst hmem hi =>
      obtain ⟨subscriptions, rfl⟩ := Impl.removeSubscription_spec hi
      intro d hd
      have hin := h d hd
      rw [hfree] at hin
      simp only [hfree]
      refine ⟨?_, ?_, ?_, hin.clean⟩ <;> simp [hst]
  | @unsubscribe topic i hfree hst hmem hi =>
      obtain ⟨subscriptions, rfl⟩ := Impl.removeSubscription_spec hi
      intro d hd
      have hin := h d hd
      rw [hfree, hst] at hin
      exact sending_request (o := .unsubscribe s.impl.takePacketId.1 topic) hin
  | room hc hh hsize =>
      intro d hd
      have hin := h d hd
      rw [hh] at hin
      exact hin
  | refused hc hh hsize ha =>
      simp only [WellFormed, hh] at hwf
      have hin := h _ hc
      rw [hh] at hin
      exact follows_refused hwf.1 hin ha
  | pushed hc hh hqf ha =>
      simp only [WellFormed, hh] at hwf
      have hin := h _ hc
      rw [hh] at hin
      exact follows_sent hwf.1 hin ha
  | stop hc hh => exact fun d hd => trivial
  | notify hc hh => exact fun d hd => trivial
  | joinRead hc hh hpc => exact fun d hd => trivial
  | destroyed hc hh hpc => exact fun d hd => by cases hd
  | replaced hc hh hpc =>
      intro d hd
      cases hd
      exact inStep_new _ _ _
  | assign hh hc =>
      intro d hd
      have hin := h d hd
      rw [hh] at hin
      exact hin
  | connected hc hfree hpc =>
      have hin := h _ hc
      rw [hfree] at hin
      simp only [WellFormed, hfree, hc] at hwf
      refine follows_resubscribe (s := s.setState .connected) rfl rfl (fun t ht => ht) ?_
        (fun t ht => .inr ht)
      cases hst : s.impl.state with
      | disconnected => simp [hst] at hwf
      | connecting =>
          have hclean := hin.clean hst (by simp [hpc])
          intro t ht
          simp [hclean] at ht
      | connected => exact hin.sound hst
  | lost hc hfree hpc =>
      intro d hd
      cases hd
      simp only [setState, hfree]
      exact ⟨by simp, by simp, by simp, by simp⟩
  | message hc hfree hpc =>
      intro d hd
      cases hd
      have hin := h _ hc
      rw [hfree] at hin
      simp only [hfree]
      exact ⟨by simp, hin.sound, hin.complete, fun hst _ => hin.clean hst (by simp [hpc])⟩
  | read hc hr =>
      intro d hd
      cases hd
      have hin := h _ hc
      simp only
      split at hin
      · exact inStep_readStep hin hr
      · exact inStep_readStep hin hr
      · exact sending_readStep hin hr
      · exact sending_readStep hin hr
      · trivial
  | write hc hw =>
      intro d hd
      cases hd
      have hin := h _ hc
      simp only
      split at hin
      · exact inStep_writeStep hin hw
      · exact inStep_writeStep hin hw
      · exact sending_writeStep hin hw
      · exact sending_writeStep hin hw
      · trivial

/-! ## the result -/

theorem follows_initial (h : Initial s) : s.Follows := by
  obtain ⟨config, rfl⟩ := h
  intro c hc
  cases hc

theorem follows_of_run {s₀ : System C} {as : List (Action C)} (h₀ : Initial s₀)
    (h : Run Steps s₀ as s) : s.Follows :=
  (invariant_of_run h₀ (follows_initial h₀) (fun _ _ _ => follows_move) h).2

/-- **Agreement with the broker**: outside of critical sections, what was queued
on a connection that has processed a CONNACK adds up to the client's topics. -/
theorem subscriptions_restored (h : s.Reachable) (hfree : s.holder = .free)
    (hst : s.impl.state = .connected) (hc : s.connection = some c) (hp : c.processed = true) :
    replay c.enqueued = s.impl.subscriptionTopics := by
  obtain ⟨s₀, as, h₀, hrun⟩ := h
  have hin := follows_of_run h₀ hrun c hc
  rw [hfree] at hin
  apply SortedSet.ext_mem
  intro t
  exact ⟨hin.sound hst t, hin.complete hst hp t⟩

/-- A client subscribes twice while it connects, loses the connection after a
third subscription, unsubscribes, and connects again. -/
def subscribeLoseReconnect : List (Action Unit) :=
  [.call .connect, .hold, .call (.subscribe [97] ()), .call (.subscribe [98] ())] ++ toConnack ++
    [.grant, .hold, .hold, .hold, .hold, .call (.subscribe [99] ()), .hold, .hold,
      -- the broker closes the connection
      .read .next, .read .next, .read (.timer false), .read (.receive .failed), .read .next,
      .read .next, .read .next, .read .next, .read .next, .read .next, .read .next, .grant,
      .call (.unsubscribe [97]), .read .next, .read .next, .read .next, .read .next] ++
    toConnack ++ [.grant, .hold, .hold, .hold, .hold]

theorem subscriptions_restored_subscribeLoseReconnect :
    ∃ (s : System Unit) (c : Connection), s.connection = some c ∧
      replay c.enqueued = s.impl.subscriptionTopics ∧
        s.impl.subscriptionTopics.elems = [[98], [99]] := by
  obtain ⟨s, hrun, htest⟩ := run_of_exec subscribeLoseReconnect
    (fun s => s.holder = .free ∧ s.impl.state = .connected ∧
      s.connection.any (·.processed) ∧ s.impl.subscriptionTopics.elems = [[98], [99]])
    (by decide +kernel)
  obtain ⟨hfree, hst, hany, htopics⟩ := of_decide_eq_true htest
  obtain ⟨c, hc, hp⟩ := (Option.any_eq_true _ _).mp hany
  have hreach : s.Reachable := ⟨{}, subscribeLoseReconnect, initial_default, hrun⟩
  exact ⟨s, c, hc, subscriptions_restored hreach hfree hst hc hp, htopics⟩

end System

end TrueMqtt
