import TrueMqtt.System.Broker
import TrueMqtt.System.Teardown

/-!
# TrueMqtt.System.Mirror

The subscriptions of the broker and of the client.

`TrueMqtt.System.Replay` adds up what is queued, `TrueMqtt.System.Broker` reads what
is written.  Between the two a packet can get lost, or be written in the session after
its own.  The first is the end of its session; the second does not happen in the runs
that establish no socket while the write thread has a packet (`StartsClean`).  Then the
SUBSCRIBEs and UNSUBSCRIBEs a broker reads from the socket of a CONNECTED client, and
those on their way, add up to `m_subscription_topics` (`broker_agrees`).
-/

namespace TrueMqtt

/-- Without a packet, no part of one. -/
theorem WritePc.part_of_packet? {pc : WritePc} (h : pc.packet? = none) : pc.part.getD [] = [] := by
  cases pc <;> first | rfl | cases h

/-! ## the stages of a connection -/

/-- What a connection is at. -/
inductive Stage where
  /-- on its way to a socket -/
  | dialing
  | session
  /-- from the loss of the session until the send queue is cleared -/
  | ending
  | leaving
deriving DecidableEq, Repr

def ConnectionState.stage : ConnectionState → Stage
  | resolving | connecting | backoff => .dialing
  | authenticating | connected => .session
  | socketError => .ending
  | stop => .leaving

namespace ReadPc

/-- The stage at each point of the read thread; at the switch it is that of `m_state`. -/
def stage (st : ConnectionState) : ReadPc → Stage
  | loop => st.stage
  | resolve | getaddrinfo | lookupCallback | resolveCheck | connectingStore | backoffStore
  | connectToAny | connectCheck | socketStore | authCheck | authStore | sleep
  | resolvingStore => .dialing
  | errorTest | errorClose | errorInvalidate | lostStore | lockState false | clearQueue => .ending
  | stopTest | stopClose | stopInvalidate | done => .leaving
  | _ => .session

/-- The values `m_state` can have there, as long as no STOP is stored. -/
def Expects (st : ConnectionState) (pc : ReadPc) : Prop :=
  st ≠ .stop ∧
    match pc.stage st with
    | .dialing => st.online = false
    | .session => st.online = true ∨ st = .socketError
    | .ending => st = .socketError ∨ pc.losing = true ∧ st.online = false
    | .leaving => False

theorem stage_of_ne_loop {pc : ReadPc} (h : pc ≠ .loop) (st st' : ConnectionState) :
    pc.stage st = pc.stage st' := by
  cases pc with
  | loop => exact absurd rfl h
  | lockState connected => cases connected <;> rfl
  | _ => rfl

/-- The switch leads on in the same stage. -/
theorem stage_dispatch (st : ConnectionState) :
    (Connection.dispatch st).stage st = (loop : ReadPc).stage st := by
  cases st <;> rfl

theorem expects_loop {st : ConnectionState} (h : st ≠ .stop) : (loop : ReadPc).Expects st := by
  refine ⟨h, ?_⟩
  cases st <;> simp_all [stage, ConnectionState.stage, ConnectionState.online]

/-- Back at the switch the stage is the same, unless the write thread has ended it. -/
theorem Expects.stage_loop {st : ConnectionState} {pc : ReadPc} (h : pc.Expects st)
    (hl : pc.losing = false) : st.stage = pc.stage st ∨ st.stage = .ending := by
  obtain ⟨hst, h⟩ := h
  cases hstage : pc.stage st <;> cases st <;>
    simp_all [ConnectionState.stage, ConnectionState.online]

theorem losing_of_session {st : ConnectionState} {pc : ReadPc} (h : pc.stage st = .session) :
    pc.losing = false := by
  cases pc with
  | lockState connected =>
      cases connected with
      | false => cases h
      | true => rfl
  | lostStore | clearQueue => cases h
  | _ => rfl

/-- A connection that is online is in a session. -/
theorem Expects.stage_of_online {st : ConnectionState} {pc : ReadPc} (h : pc.Expects st)
    (hon : st.online = true) : pc.stage st = .session := by
  obtain ⟨hst, h⟩ := h
  cases hstage : pc.stage st with
  | session => rfl
  | dialing =>
      rw [hstage] at h
      cases hon.symm.trans h
  | ending =>
      rw [hstage] at h
      obtain rfl | ⟨-, hoff⟩ := h
      · cases hon
      · cases hon.symm.trans hoff
  | leaving =>
      rw [hstage] at h
      exact h.elim

/-- The write thread may store SOCKET_ERROR at any time. -/
theorem Expects.socketError {st : ConnectionState} {pc : ReadPc} (h : pc.Expects st) :
    pc.Expects .socketError := by
  obtain ⟨hst, h⟩ := h
  refine ⟨by decide, ?_⟩
  cases pc with
  | loop => exact .inl rfl
  | lockState connected => cases connected <;> simp_all [stage, ConnectionState.online]
  | _ => simp_all [stage, ConnectionState.online]

end ReadPc

namespace Connection

variable {cfg : Config} {c c' : Connection}

def stage (c : Connection) : Stage := c.readPc.stage c.state

def Expected (c : Connection) : Prop := c.readPc.Expects c.state

theorem expected_readStep {i : ReadInput} (h : c.Expected) (hr : c.readStep cfg i = .ok c') :
    c'.Expected := by
  obtain ⟨hst, hstage⟩ := h
  have hloop := ReadPc.expects_loop hst
  cases readBranch_of_readStep hr with
  | dispatch hpc =>
      refine ⟨hst, ?_⟩
      have hexpected := hloop.2
      rw [← ReadPc.stage_dispatch] at hexpected
      cases hs : c.state <;> simp_all [dispatch, ReadPc.losing, ReadPc.stage]
  | tried | pending | sendConnect | subscribeCallback | errorGone | errorInvalidate | clearQueue =>
      simpa [Expected, pushFront] using hloop
  | resolveStop _ hstop | connectStop _ hstop | authStop _ hstop | sleepStop _ hstop
  | failedStop _ hstop => exact absurd hstop hst
  | connectingStore | backoffStore | resolvingStore =>
      refine ReadPc.expects_loop fun hstop => ?_
      cases hstop
  | authStore | connackStore =>
      refine ⟨fun hstop => ?_, .inl rfl⟩
      cases hstop
  | errorStore =>
      refine ⟨fun hstop => ?_, .inl rfl⟩
      cases hstop
  | lostStore =>
      refine ⟨fun hstop => ?_, .inr ⟨rfl, rfl⟩⟩
      cases hstop
  | @received p hpc hu =>
      obtain hp | hp | hp | hp | ⟨topic, message, hp⟩ := received_cases p
      all_goals simp_all [Expected, ReadPc.Expects, ReadPc.stage]
  | stopGone hpc | stopTest hpc | stopClose hpc | stopInvalidate hpc =>
      simp [hpc, ReadPc.stage] at hstage
  | sendPingRequest hpc => simp_all [Expected, ReadPc.Expects, ReadPc.stage, pushFront]
  | _ hpc => simp_all [Expected, ReadPc.Expects, ReadPc.stage, ReadPc.losing]

/-- The next stage: `dialing` leads to a session, and the end of a session back to
`dialing`, at one point each; a session ends anywhere. -/
theorem stage_readStep {i : ReadInput} (h : c.Expected) (hr : c.readStep cfg i = .ok c') :
    c'.stage = c.stage ∨ c'.stage = .ending ∨ (c.readPc = .authStore ∧ c'.stage = .session) ∨
      c.readPc = .clearQueue := by
  have hloop : c.readPc.losing = false → c.state.stage = c.stage ∨ c.state.stage = .ending :=
    h.stage_loop
  obtain ⟨hst, hstage⟩ := h
  cases readBranch_of_readStep hr with
  | dispatch hpc =>
      left
      simp only [stage, hpc]
      exact ReadPc.stage_dispatch c.state
  | tried hpc | pending hpc | subscribeCallback hpc | errorGone hpc | errorInvalidate hpc =>
      exact (hloop (by rw [hpc]; rfl)).imp_right .inl
  | sendConnect hpc =>
      have hnext := hloop (by rw [hpc]; rfl)
      simp only [stage, pushFront, state_notify]
      exact hnext.imp_right .inl
  | sendPingRequest hpc => simp [stage, hpc, ReadPc.stage]
  | resolveStop _ hstop | connectStop _ hstop | authStop _ hstop | sleepStop _ hstop
  | failedStop _ hstop => exact absurd hstop hst
  | @received p hpc hu =>
      obtain hp | hp | hp | hp | ⟨topic, message, hp⟩ := received_cases p
      · have hnext := hloop (by rw [hpc]; rfl)
        simp only [stage, hp]
        exact hnext.imp_right .inl
      all_goals simp [stage, hpc, hp, ReadPc.stage]
  | authStore hpc => exact .inr (.inr (.inl ⟨hpc, rfl⟩))
  | clearQueue hpc => exact .inr (.inr (.inr hpc))
  | errorStore => exact .inr (.inl rfl)
  | _ hpc => simp [stage, hpc, ReadPc.stage, ConnectionState.stage]

/-! ## the packets of a session -/

/-- No session yet: what is queued is all there. -/
def Fresh (c : Connection) : Prop := c.writePc = .loop ∧ c.sendQueue = c.enqueued

/-- The packets of the current session: those queued since the send queue was cleared
are on the socket, or on their way to it, as far as the broker's subscriptions go. -/
structure Carries (per : Nat → List Outgoing) (c : Connection) : Prop where
  expected : c.Expected
  dialing : c.stage = .dialing → (c.sendQueue = [] ∧ c.enqueued = []) ∨ c.Fresh
  /-- a socket that has just been stored -/
  stored : c.readPc = .authCheck ∨ c.readPc = .authStore →
    c.writePc.packet? = none ∧ ∀ k, c.socket = some k → per k = []
  session : c.stage = .session → ∀ k, c.socket = some k → c.writePc.failing = false →
    c.state.online = true ∧ replay (per k ++ c.outgoing) = replay c.enqueued

theorem carries_new (cfg : Config) : (new cfg).Carries fun _ => [] where
  expected := ReadPc.expects_loop fun h => by cases h
  dialing := fun _ => .inl ⟨rfl, rfl⟩
  stored := fun h => by obtain h | h := h <;> cases h
  session := fun h => by cases h

/-- A packet with priority is none of the subscriptions. -/
theorem replay_urgent {o : Outgoing} (ho : o.isUrgent = true) (before after : List Outgoing) :
    replay (before ++ o :: after) = replay (before ++ after) := by
  have hid : ∀ topics, o.apply topics = topics := by
    intro topics
    cases o <;> first | rfl | cases ho
  simp only [replay, List.foldl_append, List.foldl_cons, hid]

theorem failing_notify (c : Connection) : c.notify.writePc.failing = c.writePc.failing := by
  unfold notify
  split
  · next hb =>
    rw [hb]
    rfl
  · rfl

/-- Before a session the read thread queues nothing. -/
theorem queue_of_dialing {i : ReadInput} (hd : c.stage = .dialing)
    (hr : c.readStep cfg i = .ok c') :
    c'.sendQueue = c.sendQueue ∧ c'.enqueued = c.enqueued ∧ c'.writePc = c.writePc := by
  cases readBranch_of_readStep hr with
  | sendConnect hpc | sendPingRequest hpc | clearQueue hpc => simp [stage, hpc, ReadPc.stage] at hd
  | _ => exact ⟨rfl, rfl, rfl⟩

variable {per per' : Nat → List Outgoing} {rest : Nat → Str}

/-- Within a session the read thread queues packets with priority. -/
theorem session_pushFront {o : Outgoing} (ho : o.isUrgent = true) {k : Nat}
    (h : c.state.online = true ∧ replay (per k ++ c.outgoing) = replay c.enqueued) :
    (c.pushFront o).state.online = true ∧
      replay (per k ++ (c.pushFront o).outgoing) = replay (c.pushFront o).enqueued := by
  have hreplay := replay_urgent ho (per k ++ c.writePc.packet?.toList) c.sendQueue
  simp only [List.append_assoc] at hreplay
  simp only [pushFront, outgoing, state_notify, packet?_notify, sendQueue_notify, enqueued_notify]
  exact ⟨h.1, hreplay.trans h.2⟩

theorem session_readStep {i : ReadInput} (h : c.Carries per) (hs : c.stage = .session)
    (hs' : c'.stage = .session) (hr : c.readStep cfg i = .ok c') (k : Nat)
    (hk : c'.socket = some k) (hf : c'.writePc.failing = false) :
    c'.state.online = true ∧ replay (per k ++ c'.outgoing) = replay c'.enqueued := by
  have hsession := h.session hs
  cases readBranch_of_readStep hr with
  | sendConnect | sendPingRequest =>
      have hk' := hk
      have hf' := hf
      simp only [pushFront, socket_notify, failing_notify] at hk' hf'
      exact session_pushFront rfl (hsession k hk' hf')
  | connackStore hpc => exact ⟨rfl, (hsession k hk hf).2⟩
  | errorStore => cases hs'
  | _ hpc => first | exact hsession k hk hf | simp [stage, hpc, ReadPc.stage] at hs

/-- The session begins with nothing written, and with all that is queued. -/
theorem session_authStore (h : c.Carries per) (hpc : c.readPc = .authStore) {k : Nat}
    (hk : c.socket = some k) : replay (per k ++ c.outgoing) = replay c.enqueued := by
  obtain ⟨hnone, hper⟩ := h.stored (.inr hpc)
  have hqueue : c.sendQueue = c.enqueued := by
    obtain ⟨hq, he⟩ | hfresh := h.dialing (by simp [stage, hpc, ReadPc.stage])
    · rw [hq, he]
    · exact hfresh.2
  rw [hper k hk, outgoing, hnone, hqueue]
  rfl

/-- The queue is cleared where no session can follow. -/
theorem clearQueue_readStep {i : ReadInput} (h : c.Expected) (hpc : c.readPc = .clearQueue)
    (hr : c.readStep cfg i = .ok c') :
    c'.sendQueue = [] ∧ c'.enqueued = [] ∧ c'.stage ≠ .session := by
  obtain ⟨hst, hstage⟩ := h
  cases readBranch_of_readStep hr with
  | clearQueue =>
      refine ⟨rfl, rfl, ?_⟩
      cases hs : c.state <;>
        simp_all [stage, ReadPc.stage, ConnectionState.stage, ConnectionState.online]
  | _ hpc' => cases hpc.symm.trans hpc'

theorem carries_readStep {i : ReadInput} (h : c.Carries per)
    (hnew : ∀ k, c.sockets ≤ k → per k = [])
    (hg : c.readPc = .socketStore → c.writePc.packet? = none)
    (hr : c.readStep cfg i = .ok c') : c'.Carries per where
  expected := expected_readStep h.expected hr
  dialing := fun hd => by
    obtain hsame | hend | ⟨-, hsession⟩ | hpc := stage_readStep h.expected hr
    · have hd' := hsame.symm.trans hd
      obtain ⟨hq, he, hw⟩ := queue_of_dialing hd' hr
      rw [Fresh, hq, he, hw]
      exact h.dialing hd'
    · cases hend.symm.trans hd
    · cases hsession.symm.trans hd
    · obtain ⟨hq, he, -⟩ := clearQueue_readStep h.expected hpc hr
      exact .inl ⟨hq, he⟩
  stored := fun hpc' => by
    cases readBranch_of_readStep hr with
    | socketStore hpc =>
        refine ⟨hg hpc, fun k hk => ?_⟩
        cases hk
        exact hnew c.sockets (Nat.le_refl _)
    | authCheck hpc => exact h.stored (.inl hpc)
    | dispatch => cases hst : c.state <;> simp [hst, dispatch] at hpc'
    | @received p =>
        obtain hp | hp | hp | hp | ⟨topic, message, hp⟩ := received_cases p
        all_goals simp [hp] at hpc'
    | _ => simp at hpc'
  session := fun hs' k hk hf => by
    obtain hsame | hend | ⟨hpc, -⟩ | hpc := stage_readStep h.expected hr
    · exact session_readStep h (hsame.symm.trans hs') hs' hr k hk hf
    · cases hend.symm.trans hs'
    · cases readBranch_of_readStep hr with
      | authStore => exact ⟨rfl, session_authStore h hpc hk⟩
      | _ hpc' => cases hpc.symm.trans hpc'
    · exact absurd hs' (clearQueue_readStep h.expected hpc hr).2.2

/-- The write thread ends a session or leaves the stage alone. -/
theorem stage_writeStep {pointer : Bool} {i : WriteInput} (hw : c.writeStep pointer i = .ok c') :
    c'.stage = c.stage ∨ c'.stage = .ending := by
  cases writeBranch_of_writeStep hw with
  | errorStore =>
      by_cases hpc : c.readPc = .loop
      · right
        simp only [stage, hpc]
        rfl
      · exact .inl (ReadPc.stage_of_ne_loop hpc _ _)
  | _ => exact .inl rfl

/-- Before the first session the write thread waits at the switch. -/
theorem Fresh.eq_of_writeStep {pointer : Bool} {i : WriteInput} (hf : c.Fresh) (h : c.Expected)
    (hd : c.stage = .dialing) (hw : c.writeStep pointer i = .ok c') : c' = c := by
  have hoff : c.state.online = false := by
    have hexpected := h.2
    rw [show c.readPc.stage c.state = .dialing from hd] at hexpected
    exact hexpected
  cases writeBranch_of_writeStep hw with
  | spin => rfl
  | toPop _ hon => cases hoff.symm.trans hon
  | done _ _ hst => exact absurd hst h.1
  | _ hpc => cases hf.1.symm.trans hpc

/-- Before a session the write thread takes no packet. -/
theorem dialing_writeStep {pointer : Bool} {i : WriteInput} (h : c.Carries per)
    (hd : c.stage = .dialing) (hw : c.writeStep pointer i = .ok c') :
    ((c'.sendQueue = [] ∧ c'.enqueued = []) ∨ c'.Fresh) ∧
      (c.writePc.packet? = none → c'.writePc.packet? = none ∧ c'.completed = c.completed) := by
  obtain ⟨hq, he⟩ | hfresh := h.dialing hd
  · rw [(writeFrame_of_writeStep hw).enqueued]
    cases writeMove_of_writeStep hw with
    | take o hq' => cases hq.symm.trans hq'
    | same hq' hp hdone =>
        exact ⟨.inl ⟨hq'.trans hq, he⟩, fun hnone => ⟨hp.trans hnone, hdone⟩⟩
    | drop hq' hp hdone => exact ⟨.inl ⟨hq'.trans hq, he⟩, fun _ => ⟨hp, hdone⟩⟩
    | complete o hq' hp =>
        refine ⟨.inl ⟨hq'.trans hq, he⟩, fun hnone => ?_⟩
        cases hnone.symm.trans hp
  · rw [hfresh.eq_of_writeStep h.expected hd hw]
    exact ⟨.inr hfresh, fun hnone => ⟨hnone, rfl⟩⟩

theorem expected_writeStep {pointer : Bool} {i : WriteInput} (h : c.Expected)
    (hw : c.writeStep pointer i = .ok c') : c'.Expected := by
  cases writeBranch_of_writeStep hw with
  | errorStore => exact h.socketError
  | _ => exact h

/-- A packet the write thread takes or completes is still one of the session; one that
is lost is the end of the session. -/
theorem session_writeStep {pointer : Bool} {i : WriteInput} {k : Nat}
    (h : c.socket = some k → c.writePc.failing = false →
      c.state.online = true ∧ replay (per k ++ c.outgoing) = replay c.enqueued)
    (hadds : c.Adds c' per per') (hw : c.writeStep pointer i = .ok c')
    (hk : c'.socket = some k) (hf : c'.writePc.failing = false) :
    c'.state.online = true ∧ replay (per' k ++ c'.outgoing) = replay c'.enqueued := by
  have hper : c'.completed = c.completed → c.socket = some k → per' k = per k := by
    intro hdone hk'
    rw [hadds k [] hk' (by rw [hdone, List.append_nil]), List.append_nil]
  cases writeBranch_of_writeStep hw with
  | @finish o offset count j hpc hj =>
      cases hj.symm.trans hk
      obtain ⟨hon, hreplay⟩ := h hj (by rw [hpc]; rfl)
      refine ⟨hon, ?_⟩
      rw [hadds _ _ hj rfl, List.append_assoc]
      simpa [outgoing, hpc, WritePc.packet?, begin, writeTo] using hreplay
  | drop hpc hoff =>
      obtain ⟨hon, -⟩ := h hk (by rw [hpc]; rfl)
      cases hon.symm.trans hoff
  | errorGone hpc hnone => cases hnone.symm.trans hk
  | errorInvalidate => cases hk
  | fail | errorPtr | errorStore | errorTest | errorClose => cases hf
  | spin =>
      rw [hper rfl hk]
      exact h hk hf
  | _ hpc =>
      obtain ⟨hon, hreplay⟩ := h hk (by rw [hpc]; rfl)
      refine ⟨hon, ?_⟩
      rw [hper rfl hk]
      simp_all [outgoing, WritePc.packet?, begin, writeTo]

theorem carries_writeStep {pointer : Bool} {i : WriteInput} (h : c.Carries per)
    (hadds : c.Adds c' per per') (hw : c.writeStep pointer i = .ok c') : c'.Carries per' where
  expected := expected_writeStep h.expected hw
  dialing := fun hd => by
    obtain hsame | hend := stage_writeStep hw
    · exact (dialing_writeStep h (hsame.symm.trans hd) hw).1
    · cases hend.symm.trans hd
  stored := fun hpc => by
    rw [(writeFrame_of_writeStep hw).readPc] at hpc
    obtain ⟨hnone, hper⟩ := h.stored hpc
    have hdialing : c.stage = .dialing := by
      obtain hpc | hpc := hpc <;> simp [stage, hpc, ReadPc.stage]
    obtain ⟨hnone', hdone⟩ := (dialing_writeStep h hdialing hw).2 hnone
    refine ⟨hnone', fun k hk => ?_⟩
    obtain hsame | hgone := (socket_writeStep hw).1
    · rw [hsame] at hk
      rw [hadds k [] hk (by rw [hdone, List.append_nil]), hper k hk]
      rfl
    · cases hgone.symm.trans hk
  session := fun hs' k hk hf => by
    obtain hsame | hend := stage_writeStep hw
    · exact session_writeStep (h.session (hsame.symm.trans hs') k) hadds hw hk hf
    · cases hend.symm.trans hs'

/-! ## what the client does to a connection -/

theorem fresh_push (hf : c.Fresh) (o : Outgoing) : (c.push o).Fresh := by
  obtain ⟨hpc, hqueue⟩ := hf
  exact ⟨by simp [push, notify, hpc], by simp [push, hqueue]⟩

theorem carries_push (h : c.Carries per) (hf : c.stage = .dialing → c.Fresh) (o : Outgoing) :
    (c.push o).Carries per where
  expected := by simpa [Expected, push] using h.expected
  dialing := fun hd => by
    have hd' : c.stage = .dialing := by simpa [stage, push] using hd
    exact .inr (fresh_push (hf hd') o)
  stored := by simpa [push] using h.stored
  session := fun hs k hk hfail => by
    simp only [stage, push, readPc_notify, state_notify] at hs
    simp only [push, socket_notify, failing_notify] at hk hfail
    obtain ⟨hon, hreplay⟩ := h.session hs k hk hfail
    refine ⟨by simpa [push] using hon, ?_⟩
    simp only [push, outgoing, packet?_notify, sendQueue_notify, enqueued_notify]
    rw [replay_snoc, ← hreplay, ← List.append_assoc, ← List.append_assoc, replay_snoc]
    rw [outgoing, List.append_assoc]

/-- The read thread goes on in its session, or has lost it. -/
theorem carries_goTo (h : c.Carries per) {pc : ReadPc} (processed : Bool)
    (hexpected : pc.Expects c.state) (hd : pc.stage c.state ≠ .dialing)
    (hs : pc.stage c.state = .session → c.stage = .session) :
    { c with readPc := pc, processed := processed }.Carries per where
  expected := hexpected
  dialing := fun hd' => absurd hd' hd
  stored := fun hpc => by
    refine absurd ?_ hd
    obtain hpc | hpc := hpc
    all_goals
      change pc = _ at hpc
      rw [hpc]
      rfl
  session := fun hs' => h.session (hs hs')

/-- A session does not lead back to `dialing`. -/
theorem not_dialing (h : c.Expected) (hs : c.stage = .session) : c.state.stage ≠ .dialing := by
  intro hd
  obtain hsame | hend := h.stage_loop (ReadPc.losing_of_session hs)
  · cases hs.symm.trans (hsame.symm.trans hd)
  · cases hend.symm.trans hd

end Connection

/-! ## the subscriptions of a broker -/

/-- What a packet does to the subscriptions of a broker; a session has none at its
beginning, since a CONNECT asks for a clean one. -/
def ControlPacket.apply (topics : SortedSet Str) : ControlPacket → SortedSet Str
  | subscribe _ filters => filters.foldl (fun topics filter => topics.insert filter.1) topics
  | unsubscribe _ filters => filters.foldl (fun topics filter => topics.erase filter) topics
  | _ => topics

/-- The subscriptions of a broker that has read these packets. -/
def subscribed (packets : List ControlPacket) : SortedSet Str :=
  packets.foldl ControlPacket.apply ∅

/-- Read by a broker, the packets of the client do what `replay` says. -/
theorem subscribed_control (os : List Outgoing) :
    subscribed (os.map Outgoing.control) = replay os := by
  have hone : ∀ topics (o : Outgoing), o.control.apply topics = o.apply topics := by
    intro topics o
    cases o <;> rfl
  rw [subscribed, List.foldl_map]
  simp only [hone]
  rfl

namespace System

variable {C : Type} {s s' : System C} {a : Action C} {c c' : Connection}

/-- The steps that establish no socket while the write thread has a packet. -/
def StartsClean (s : System C) : Action C → Prop
  | .read _ => match s.connection with
      | some c => c.readPc = .socketStore → c.writePc.packet? = none
      | none => True
  | _ => True

instance (s : System C) (a : Action C) : Decidable (s.StartsClean a) := by
  unfold StartsClean
  induction a using Action.casesOn with
  | read i => induction s.connection using Option.casesOn <;> infer_instance
  | _ => infer_instance

/-- The steps of the runs in which the broker's subscriptions are the client's. -/
structure Mirrored (s : System C) (a : Action C) : Prop where
  fitting : s.NamesFitting a
  clean : s.StartsClean a

instance (s : System C) (a : Action C) : Decidable (s.Mirrored a) :=
  decidable_of_iff (s.NamesFitting a ∧ s.StartsClean a)
    ⟨fun h => ⟨h.1, h.2⟩, fun h => ⟨h.fitting, h.clean⟩⟩

/-- The packets of a connection are those of its session. -/
structure Mirroring (st : State) (c : Connection) : Prop where
  packets : ∃ per rest, c.Spells per rest ∧ c.Carries per
  connected : st = .connected → c.readPc ≠ .clearQueue ∧ (c.stage = .dialing → c.Fresh)

/-- So they are until its STOP. -/
def Mirrors (s : System C) : Prop :=
  s.holder.stopped = false → ∀ c, s.connection = some c → Mirroring s.impl.state c

theorem mirrors_of_some (hc : s.connection = some c) (h : Mirroring s.impl.state c) :
    s.Mirrors := by
  intro _ d hd
  cases hc.symm.trans hd
  exact h

theorem mirrors_of_new (h : s.connection = some (.new s.config)) : s.Mirrors := by
  refine mirrors_of_some h ⟨⟨_, _, Connection.spells_new _, Connection.carries_new _⟩, fun _ => ?_⟩
  exact ⟨by simp [Connection.new], fun _ => ⟨rfl, rfl⟩⟩

theorem mirroring_goTo {st st' : State} {pc : ReadPc} (h : Mirroring st c) (processed : Bool)
    (hexpected : c.Expected → pc.Expects c.state) (hd : c.Expected → pc.stage c.state ≠ .dialing)
    (hs : pc.stage c.state = .session → c.stage = .session)
    (hclear : st' = .connected → pc ≠ .clearQueue) :
    Mirroring st' { c with readPc := pc, processed := processed } := by
  obtain ⟨per, rest, hspells, hcarries⟩ := h.packets
  have hd' := hd hcarries.expected
  refine ⟨⟨per, rest, ?_, ?_⟩, fun hst => ⟨hclear hst, fun hdialing => absurd hdialing hd'⟩⟩
  · exact hspells.of_same rfl rfl rfl fun _ hsock => ⟨hsock, fun _ hp => hp⟩
  · exact Connection.carries_goTo hcarries processed (hexpected hcarries.expected) hd' hs

/-- The end of `connectionStateChange(true)`, or of `messageReceived`. -/
theorem mirroring_loop {st st' : State} (h : Mirroring st c) (hs : c.stage = .session)
    (processed : Bool) : Mirroring st' { c with readPc := .loop, processed := processed } :=
  mirroring_goTo h processed (fun hexpected => ReadPc.expects_loop hexpected.1)
    (fun hexpected => Connection.not_dialing hexpected hs) (fun _ => hs) (fun _ => by simp)

/-- A send leaves the connection as it is, or is the last one of
`connectionStateChange`. -/
theorem mirrors_after {sent : Bool} {k : After} (h : Mirroring .connected c)
    (hk : k.restoring = true → c.readPc = .stateChange)
    (ha : s.after c sent k = .ok s') : s'.Mirrors := by
  obtain hsame | ⟨hrestoring, hrestored⟩ := connection_after ha
  · exact mirrors_of_some hsame ⟨h.packets, fun _ => h.connected rfl⟩
  · refine mirrors_of_some hrestored (mirroring_loop h ?_ true)
    rw [Connection.stage, hk hrestoring]
    rfl

theorem mirroring_push {o : Outgoing} (h : Mirroring .connected c) :
    Mirroring .connected (c.push o) := by
  obtain ⟨per, rest, hspells, hcarries⟩ := h.packets
  obtain ⟨hclear, hfresh⟩ := h.connected rfl
  have hcarries' := Connection.carries_push hcarries hfresh o
  refine ⟨⟨per, rest, hspells.of_aside (aside_push o c), hcarries'⟩, fun _ => ⟨?_, fun hd => ?_⟩⟩
  · simpa [Connection.push] using hclear
  · refine Connection.fresh_push (hfresh ?_) o
    simpa [Connection.stage, Connection.push] using hd

theorem mirroring_readStep {st : State} {cfg : Config} {i : ReadInput} (h : Mirroring st c)
    (hg : c.readPc = .socketStore → c.writePc.packet? = none) (hr : c.readStep cfg i = .ok c') :
    Mirroring st c' := by
  obtain ⟨per, rest, hspells, hcarries⟩ := h.packets
  refine ⟨⟨per, rest, ?_, ?_⟩, fun hst => ⟨?_, fun hd => ?_⟩⟩
  · exact Connection.spells_readStep hspells (fun hpc => WritePc.part_of_packet? (hg hpc)) hr
  · exact Connection.carries_readStep hcarries (fun k hk => (hspells.unused k hk).1) hg hr
  · exact (Connection.readFrame_of_readStep hr).clearQueue
  · obtain ⟨hclear, hfresh⟩ := h.connected hst
    obtain hsame | hend | ⟨-, hsession⟩ | hpc := Connection.stage_readStep hcarries.expected hr
    · have hd' := hsame.symm.trans hd
      obtain ⟨hq, he, hw⟩ := Connection.queue_of_dialing hd' hr
      rw [Connection.Fresh, hq, he, hw]
      exact hfresh hd'
    · cases hend.symm.trans hd
    · cases hsession.symm.trans hd
    · exact absurd hpc hclear

theorem mirroring_writeStep {st : State} {pointer : Bool} {i : WriteInput} (h : Mirroring st c)
    (hvalid : ∀ o ∈ c.outgoing, o.Valid) (hw : c.writeStep pointer i = .ok c') :
    Mirroring st c' := by
  obtain ⟨per, rest, hspells, hcarries⟩ := h.packets
  obtain ⟨per', rest', hspells', hadds⟩ := Connection.spells_writeStep hspells hvalid hw
  refine ⟨⟨per', rest', hspells', Connection.carries_writeStep hcarries hadds hw⟩,
    fun hst => ?_⟩
  obtain ⟨hclear, hfresh⟩ := h.connected hst
  refine ⟨?_, fun hd => ?_⟩
  · rw [(Connection.writeFrame_of_writeStep hw).readPc]
    exact hclear
  · obtain hsame | hend := Connection.stage_writeStep hw
    · have hd' := hsame.symm.trans hd
      rw [(hfresh hd').eq_of_writeStep hcarries.expected hd' hw]
      exact hfresh hd'
    · cases hend.symm.trans hd

theorem mirrors_move (hwf : s.WellFormed) (hfits : s.Fits) (hfollows : s.Follows) (h : s.Mirrors)
    (hg : s.StartsClean a) (hm : Move s a s') : s'.Mirrors := by
  cases hm with
  | idle | setPublishQueue | setSendQueue | setLastWill => exact h
  | connect => exact mirrors_of_new rfl
  | disconnect hfree hst =>
      intro _ c hc
      rw [connection_disconnect] at hc
      refine ⟨(h (by rw [hfree]; rfl) c hc).packets, fun hconnected => ?_⟩
      rw [impl_disconnect] at hconnected
      cases hconnected
  | toPublishQueue hfree hst hq =>
      intro hs c hc
      obtain ⟨-, rfl⟩ | ⟨-, q, -, rfl⟩ := Impl.toPublishQueue_spec hq
      all_goals exact h hs c hc
  | publish hfree | addSubscription hfree | subscribe hfree =>
      intro _ c hc
      exact h (by rw [hfree]; rfl) c hc
  | removeSubscription hfree hst hmem hi | unsubscribe hfree hst hmem hi =>
      obtain ⟨subscriptions, rfl⟩ := Impl.removeSubscription_spec hi
      intro _ c hc
      exact h (by rw [hfree]; rfl) c hc
  | room hc hh => exact fun _ => h (by rw [hh]; rfl)
  | refused hc hh hsize ha =>
      have hst : s.impl.state = .connected := by
        simp only [WellFormed, hh] at hwf
        exact hwf.1
      have hmirroring := hst ▸ h (by rw [hh]; rfl) _ hc
      exact mirrors_after hmirroring (readPc_of_restoring hfollows hc (.inl hh)) ha
  | @pushed c o k s' hc hh hqf ha =>
      have hst : s.impl.state = .connected := by
        simp only [WellFormed, hh] at hwf
        exact hwf.1
      have hmirroring := hst ▸ h (by rw [hh]; rfl) c hc
      refine mirrors_after (mirroring_push hmirroring) (fun hk => ?_) ha
      simpa [Connection.push] using readPc_of_restoring hfollows hc (.inr hh) hk
  | stop | notify | joinRead =>
      intro hs
      cases hs
  | destroyed =>
      intro _ c hc
      cases hc
  | replaced => exact mirrors_of_new rfl
  | assign hh hc => exact fun _ => h (by rw [hh]; rfl)
  | @connected c hc hfree hpc =>
      have hs : c.stage = .session := by simp [Connection.stage, hpc, ReadPc.stage]
      have hmirroring : ∀ st, Mirroring st { c with readPc := .stateChange } := by
        refine fun st => mirroring_goTo (h (by rw [hfree]; rfl) c hc) c.processed (fun he => ?_)
          (fun _ => by simp [ReadPc.stage]) (fun _ => hs) (fun _ => by simp)
        rw [Connection.Expected, hpc] at he
        exact he
      obtain hd | hd := connection_resubscribe { c with readPc := .stateChange }
        s.impl.subscriptionTopics.elems (s.setState .connected)
      · exact mirrors_of_some hd (hmirroring _)
      · exact mirrors_of_some hd (mirroring_loop (hmirroring .connected) rfl true)
  | @lost c hc hfree hpc =>
      have hmirroring := h (by rw [hfree]; rfl) c hc
      refine mirrors_of_some rfl (mirroring_goTo hmirroring c.processed (fun he => ?_)
        (fun _ => by simp [ReadPc.stage]) (fun hs => by cases hs) (fun hst => by cases hst))
      rw [Connection.Expected, hpc] at he
      exact he
  | @message c topic message hc hfree hpc =>
      have hs : c.stage = .session := by simp [Connection.stage, hpc, ReadPc.stage]
      exact mirrors_of_some rfl (mirroring_loop (h (by rw [hfree]; rfl) c hc) hs c.processed)
  | read hc hr =>
      simp only [StartsClean, hc] at hg
      intro hs c hc'
      cases hc'
      exact mirroring_readStep (h hs _ hc) hg hr
  | write hc hw =>
      intro hs c hc'
      cases hc'
      exact mirroring_writeStep (h hs _ hc) (hfits.connection _ hc) hw

/-! ## the result -/

theorem mirrors_step (hwf : s.WellFormed) (hfits : s.Fits) (hfollows : s.Follows) (h : s.Mirrors)
    (hg : s.Mirrored a) (hstep : s.Steps a s') :
    s'.WellFormed ∧ s'.Fits ∧ s'.Follows ∧ s'.Mirrors := by
  have hm := move_of_step hstep
  exact ⟨wellFormed_move hwf hm, fits_step hfits hg.fitting hstep, follows_move hwf hfollows hm,
    mirrors_move hwf hfits hfollows h hg.clean hm⟩

/-- **The broker agrees**: in a run whose calls name nothing the format cannot
represent, and which establishes no socket while the write thread has a packet, the
SUBSCRIBEs and UNSUBSCRIBEs a broker reads from the current socket, together with those
on their way to it, add up to the topics of the client. -/
theorem broker_agrees {s₀ s : System C} {as : List (Action C)} {c : Connection} {k : Nat}
    (h₀ : Initial s₀) (hconfig : s₀.config.Fits) (h : Run (Guarded Steps Mirrored) s₀ as s)
    (hfree : s.holder = .free) (hst : s.impl.state = .connected) (hc : s.connection = some c)
    (hp : c.processed = true) (hk : c.socket = some k) (hon : c.state.online = true)
    (hf : c.writePc.failing = false) :
    subscribed ((c.broker k).1 ++ c.outgoing.map Outgoing.control) =
      s.impl.subscriptionTopics := by
  have hinit : s₀.WellFormed ∧ s₀.Fits ∧ s₀.Follows ∧ s₀.Mirrors := by
    refine ⟨wellFormed_initial h₀, fits_initial h₀ hconfig, follows_initial h₀, ?_⟩
    obtain ⟨config, rfl⟩ := h₀
    intro _ d hd
    cases hd
  have hinv : s.WellFormed ∧ s.Fits ∧ s.Follows ∧ s.Mirrors :=
    h.invariant (I := fun s => s.WellFormed ∧ s.Fits ∧ s.Follows ∧ s.Mirrors) hinit
      fun t b t' ht hstep => mirrors_step ht.1 ht.2.1 ht.2.2.1 ht.2.2.2 hstep.1 hstep.2
  obtain ⟨-, -, -, hmirrors⟩ := hinv
  obtain ⟨per, rest, hspells, hcarries⟩ := (hmirrors (by rw [hfree]; rfl) c hc).packets
  have hsession : c.stage = .session := hcarries.expected.stage_of_online hon
  have hreplay := (hcarries.session hsession k hk hf).2
  have hreach : s.Reachable := ⟨s₀, as, h₀, h.mono fun _ _ _ hstep => hstep.2⟩
  rw [hspells.broker_eq, ← List.map_append, subscribed_control, hreplay]
  exact subscriptions_restored hreach hfree hst hc hp

/-- The client of `subscribeLoseReconnect` writes one of its two SUBSCRIBEs. -/
def writeOneOfTwo : List (Action Unit) :=
  subscribeLoseReconnect ++ [.write .next, .write .next, .write .next, .write (.sent 8)]

theorem broker_agrees_writeOneOfTwo : ∃ c : Connection,
    c.outgoing = [.subscribe 5 [99]] ∧
      (subscribed ((c.broker 1).1 ++ [.subscribe 5 [([99], 0)]])).elems = [[98], [99]] := by
  obtain ⟨s, hrun, htest⟩ := guarded_run_of_exec Mirrored writeOneOfTwo
    (fun s => s.holder = .free ∧ s.impl.state = .connected ∧
      s.impl.subscriptionTopics.elems = [[98], [99]] ∧
      s.connection.any fun c => c.processed ∧ c.socket = some 1 ∧ c.state.online ∧
        c.writePc.failing = false ∧ c.outgoing = [.subscribe 5 [99]]) (by decide +kernel)
  obtain ⟨hfree, hst, htopics, hany⟩ := of_decide_eq_true htest
  obtain ⟨c, hc, htest⟩ := (Option.any_eq_true _ _).mp hany
  obtain ⟨hp, hk, hon, hf, hout⟩ := of_decide_eq_true htest
  have hconfig : ({} : System Unit).config.Fits :=
    (Draft.representable_connect _).mpr ⟨by decide, .inl rfl⟩
  have hagrees := broker_agrees initial_default hconfig hrun hfree hst hc hp hk hon hf
  rw [hout] at hagrees
  exact ⟨c, hout, (congrArg SortedSet.elems hagrees).trans htopics⟩

end System

end TrueMqtt
