import TrueMqtt.RecvLoop.Reader
import TrueMqtt.System.Dispatch

/-!
# TrueMqtt.System.Inbound

From the bytes of the sockets to the callbacks.

A run of the system names the packets its read thread receives.  Here it names the
bytes each `::recv` returns instead, and the packets are what `recvLoop` makes of them
(`Receives`): it starts afresh on every call, and is interrupted between two calls of
`recv` by whatever the other threads do.  A socket is read from its first byte on, and
never again once `recvLoop` has failed on it.  So what the client handles is what the
bytes of its sockets say, socket after socket, each up to its first malformed packet
(`handled_of_bytes`).
-/

namespace TrueMqtt

namespace ReadPc

/-- In `recvLoop`, on the way to a call of `::recv`. -/
def receiving : ReadPc → Bool
  | recv | recvTimer | sendPingRequest | recvData => true
  | _ => false

/-- From the store of a socket on, as long as the read thread reads from it; at the
switch it depends on `m_state`. -/
def attends (st : ConnectionState) : ReadPc → Bool
  | loop => st.online
  | authCheck | authStore | sendConnect | recv | recvTimer | sendPingRequest | recvData
  | subscribeCallback | connackStore | lockState true | stateChange | lockMessage _ _ => true
  | _ => false

end ReadPc

namespace Connection

variable {cfg : Config} {c c' : Connection}

def attends (c : Connection) : Bool := c.readPc.attends c.state

/-- A socket given up is not taken for one that is online. -/
def Settled (c : Connection) : Prop :=
  c.attends = true ∨ c.readPc = .recvFailed ∨ c.readPc = .errorStore ∨ c.state.online = false

theorem settled_readStep {i : ReadInput} (h : c.Settled) (hr : c.readStep cfg i = .ok c') :
    c'.Settled := by
  unfold Settled attends at *
  cases readBranch_of_readStep hr with
  | dispatch hpc => cases hs : c.state <;>
      simp_all [dispatch, ReadPc.attends, ConnectionState.online]
  | @received p hpc hu =>
      obtain hp | hp | hp | hp | ⟨topic, message, hp⟩ := received_cases p
      all_goals simp_all [ReadPc.attends]
  | sendConnect hpc | sendPingRequest hpc => simp_all [pushFront, ReadPc.attends]
  | _ hpc => simp_all [ReadPc.attends, ConnectionState.online]

/-- The read thread comes to a socket by storing it. -/
theorem attends_of_readStep {i : ReadInput} (h : c.Settled) (hr : c.readStep cfg i = .ok c')
    (ha : c'.attends = true) : c.attends = true ∨ c.readPc = .socketStore := by
  unfold Settled attends at *
  cases readBranch_of_readStep hr with
  | dispatch hpc => cases hs : c.state <;>
      simp_all [dispatch, ReadPc.attends, ConnectionState.online]
  | _ hpc => simp_all [ReadPc.attends, ConnectionState.online]

/-- Between two packets and within one, the read thread stays where it is. -/
theorem receiving_of_readStep {i : ReadInput} (hr : c.readStep cfg i = .ok c')
    (ha : c'.attends = true) :
    c.readPc = .loop ∨ c.readPc = .socketStore ∨ (∃ p, i = .receive (.packet p)) ∨
      c'.readPc.receiving = c.readPc.receiving := by
  cases readBranch_of_readStep hr with
  | dispatch hpc => exact .inl hpc
  | socketStore hpc => exact .inr (.inl hpc)
  | received => exact .inr (.inr (.inl ⟨_, rfl⟩))
  | _ hpc => first | (cases ha; done) | exact .inr (.inr (.inr (by rw [hpc]; rfl)))

theorem receiving_received (p : Packet) : (received p).receiving = false := by
  obtain hp | hp | hp | hp | ⟨topic, message, hp⟩ := received_cases p
  all_goals rw [hp]; rfl

/-- The read thread goes on with a socket after a packet that has an event. -/
theorem incoming_of_attends {p : Packet} {st : ConnectionState}
    (ha : (received p).attends st = true) : ∃ e, p.incoming = some e := by
  cases he : p.incoming with
  | some e => exact ⟨e, rfl⟩
  | none =>
      rw [received, he] at ha
      cases ha

/-- What the steps of other threads do to the read thread. -/
structure Bystands (c d : Connection) : Prop where
  settled : c.Settled → d.Settled
  attends : d.attends = true → c.attends = true
  receiving : d.attends = true → d.readPc.receiving = c.readPc.receiving

theorem bystands_refl (c : Connection) : Bystands c c := ⟨id, id, fun _ => rfl⟩

/-- `m_state` is changed to a value that is not online. -/
theorem bystands_of_offline {d : Connection} (hpc : d.readPc = c.readPc)
    (hst : d.state = c.state ∨ d.state.online = false) : Bystands c d := by
  refine ⟨fun hc => ?_, fun hd => ?_, fun _ => by rw [hpc]⟩
  · unfold Settled attends at *
    obtain hst | hst := hst
    · rwa [hpc, hst]
    · exact .inr (.inr (.inr hst))
  · unfold attends at *
    rw [hpc] at hd
    obtain hst | hst := hst
    · rwa [hst] at hd
    · cases hc : c.readPc with
      | loop =>
          rw [hc] at hd
          cases hst.symm.trans hd
      | lockState connected => cases connected <;> simp_all [ReadPc.attends]
      | _ => simp_all [ReadPc.attends]

/-- At the switch it is a matter of `m_state`. -/
theorem settled_of_loop (h : c.readPc = .loop) : c.Settled := by
  unfold Settled attends
  rw [h]
  cases hon : c.state.online with
  | true => exact .inl hon
  | false => exact .inr (.inr (.inr rfl))

/-- A call that holds the mutex lets the read thread go on. -/
theorem bystands_of_attends {d : Connection} (hpc : c.attends = true)
    (hr : c.readPc.receiving = false) (hd : d.readPc = .stateChange ∨ d.readPc = .loop) :
    Bystands c d := by
  obtain hd | hd := hd
  · refine ⟨fun _ => .inl ?_, fun _ => hpc, fun _ => by rw [hd, hr]; rfl⟩
    rw [attends, hd]
    rfl
  · exact ⟨fun _ => settled_of_loop hd, fun _ => hpc, fun _ => by rw [hd, hr]; rfl⟩

theorem bystands_writeStep {pointer : Bool} {i : WriteInput}
    (hw : c.writeStep pointer i = .ok c') : Bystands c c' := by
  refine bystands_of_offline (writeFrame_of_writeStep hw).readPc ?_
  cases writeBranch_of_writeStep hw with
  | errorStore => exact .inr rfl
  | _ => exact .inl rfl

end Connection

/-- The bytes received from the sockets of all connections, the last one apart, where
`recvLoop` stands with them, and the events it has raised. -/
structure Inflow where
  earlier : List Str := []
  bytes : Str := []
  reader : Reader := .header
  events : List Incoming := []
deriving DecidableEq, Repr

/-- What the read thread receives. -/
def Action.received? {C : Type} : Action C → Option Received
  | read (.receive r) => some r
  | _ => none

namespace System

variable {C : Type} {s s' : System C} {a : Action C} {c : Connection} {g : Inflow}
  {split : Split} {chunk : Str}

/-- What the read thread receives is what `recvLoop` makes of the bytes it takes from a
socket that is open.  Without any, `recv` has waited in vain, or fails. -/
def Takes (s : System C) (reader : Reader) (a : Action C) (chunk : Str) : Prop :=
  (a.received? = none → chunk = []) ∧
    ∀ r ∈ a.received?,
      (chunk = [] ∧ (r = .failed ∨ r = .more)) ∨
        (chunk ≠ [] ∧ chunk.length ≤ reader.asked ∧
          s.connection.any Connection.usable = true ∧ (reader.feed chunk).1 = r)

instance (s : System C) (reader : Reader) (a : Action C) (chunk : Str) :
    Decidable (s.Takes reader a chunk) := by
  unfold Takes
  infer_instance

/-- Whether the read thread stands here. -/
def readsAt (s : System C) (pc : ReadPc) : Bool := s.connection.any (·.readPc = pc)

/-- Take down the bytes of a step, and their event.  `recvLoop` is called at the switch of
`runRead`. -/
def noteBytes (s : System C) (a : Action C) (chunk : Str) (g : Inflow) : Inflow :=
  match a with
  | .read .next =>
      if s.readsAt .loop then { g with reader := .header }
      else if s.readsAt .socketStore then
        { g with earlier := g.earlier ++ [g.bytes], bytes := [] }
      else g
  | .read (.receive r) =>
      if chunk = [] then g
      else
        { g with
          bytes := g.bytes ++ chunk
          reader := (g.reader.feed chunk).2
          events := g.events ++ r.event?.toList }
  | _ => g

/-- A step of the system, with the bytes it receives. -/
def Receives (p : System C × Inbox C × Inflow) (e : Action C × Str)
    (p' : System C × Inbox C × Inflow) : Prop :=
  p.1.Steps e.1 p'.1 ∧ p.1.Takes p.2.2.reader e.1 e.2 ∧
    p'.2.1 = p.1.noteMessage e.1 p'.1 p.2.1 ∧ p'.2.2 = p.1.noteBytes e.1 e.2 p.2.2

/-- The events are those of the bytes received, and the current socket is read on where
`recvLoop` stands. -/
structure Heard (split : Split) (s : System C) (g : Inflow) : Prop where
  settled : ∀ c, s.connection = some c → c.Settled
  events : g.events = (g.earlier ++ [g.bytes]).flatMap (Reader.eventsOf split)
  reads : ∀ c, s.connection = some c → c.attends = true →
    Reader.Reads split g.bytes (Reader.eventsOf split g.bytes)
      (if c.readPc.receiving then g.reader else .header)

/-- The steps of other threads. -/
theorem heard_of_bystands (h : s.Heard split g)
    (hb : ∀ d, s'.connection = some d →
      (∃ c, s.connection = some c ∧ c.Bystands d) ∨ d = .new s.config) :
    s'.Heard split g where
  settled := fun d hd => by
    obtain ⟨c, hc, hb⟩ | rfl := hb d hd
    · exact hb.settled (h.settled c hc)
    · exact .inr (.inr (.inr rfl))
  events := h.events
  reads := fun d hd ha => by
    obtain ⟨c, hc, hb⟩ | rfl := hb d hd
    · rw [hb.receiving ha]
      exact h.reads c hc (hb.attends ha)
    · cases ha

/-- What a step other than the read thread's own leaves of the connection. -/
theorem bystands_move (hf : s.Follows) (hm : Move s a s') (hread : ∀ i, a ≠ .read i) :
    ∀ d, s'.connection = some d →
      (∃ c, s.connection = some c ∧ c.Bystands d) ∨ d = .new s.config := by
  intro d hd
  have hkeep : s'.connection = s.connection →
      (∃ c, s.connection = some c ∧ c.Bystands d) ∨ d = .new s.config := by
    intro hsame
    exact .inl ⟨d, hsame.symm.trans hd, Connection.bystands_refl d⟩
  cases hm with
  | connect hfree hst =>
      cases hd
      exact .inr rfl
  | disconnect hfree hst => exact hkeep (connection_disconnect _)
  | @refused c o k s' hc hh hsize ha =>
      obtain hsame | ⟨hk, hrestored⟩ := connection_after ha
      · exact hkeep (hsame.trans hc.symm)
      · have hpc := readPc_of_restoring hf hc (.inl hh) hk
        cases hrestored.symm.trans hd
        refine .inl ⟨c, hc, Connection.bystands_of_attends ?_ (by rw [hpc]; rfl) (.inr rfl)⟩
        rw [Connection.attends, hpc]
        rfl
  | @pushed c o k s' hc hh hqf ha =>
      refine .inl ⟨c, hc, ?_⟩
      obtain hsame | ⟨hk, hrestored⟩ := connection_after ha
      · cases hsame.symm.trans hd
        exact Connection.bystands_of_offline (Connection.readPc_push o c) (.inl (by
          rw [Connection.push, Connection.state_notify]))
      · have hpc := readPc_of_restoring hf hc (.inr hh) hk
        cases hrestored.symm.trans hd
        refine Connection.bystands_of_attends ?_ (by rw [hpc]; rfl) (.inr rfl)
        rw [Connection.attends, hpc]
        rfl
  | @stop c again hc hh =>
      cases hd
      exact .inl ⟨c, hc, Connection.bystands_of_offline rfl (.inr rfl)⟩
  | @notify c again hc hh =>
      cases hd
      exact .inl ⟨c, hc, Connection.bystands_of_offline (Connection.readPc_notify c)
        (.inl (Connection.state_notify c))⟩
  | destroyed => cases hd
  | replaced =>
      cases hd
      exact .inr rfl
  | @connected c hc hfree hpc =>
      refine .inl ⟨c, hc, Connection.bystands_of_attends ?_ (by rw [hpc]; rfl) ?_⟩
      · rw [Connection.attends, hpc]
        rfl
      · obtain hsame | hrestored := connection_resubscribe { c with readPc := .stateChange }
          s.impl.subscriptionTopics.elems (s.setState .connected)
        · cases hsame.symm.trans hd
          exact .inl rfl
        · cases hrestored.symm.trans hd
          exact .inr rfl
  | @lost c hc hfree hpc =>
      cases hd
      refine .inl ⟨c, hc, fun hset => .inr (.inr (.inr ?_)), fun ha => ?_, fun ha => ?_⟩
      · simpa [Connection.Settled, Connection.attends, hpc, ReadPc.attends] using hset
      all_goals cases ha
  | @message c topic message hc hfree hpc =>
      cases hd
      refine .inl ⟨c, hc, Connection.bystands_of_attends ?_ (by rw [hpc]; rfl) (.inr rfl)⟩
      rw [Connection.attends, hpc]
      rfl
  | read => exact absurd rfl (hread _)
  | @write c c' i hc hw =>
      cases hd
      exact .inl ⟨c, hc, Connection.bystands_writeStep hw⟩
  | idle | setPublishQueue | setSendQueue | setLastWill | toPublishQueue | publish
  | addSubscription | subscribe | removeSubscription | unsubscribe | room | joinRead | assign =>
      exact hkeep rfl

/-- A step of the read thread that receives nothing. -/
theorem heard_of_silent {c' : Connection} {i : ReadInput} (h : s.Heard split g)
    (hc : s.connection = some c) (hr : c.readStep s.config i = .ok c')
    (hi : ∀ p, i ≠ .receive (.packet p)) :
    { s with connection := some c' }.Heard split (s.noteBytes (.read i) [] g) := by
  have hat : ∀ pc, s.readsAt pc = decide (c.readPc = pc) := by
    intro pc
    rw [readsAt, hc]
    rfl
  have hsettled := Connection.settled_readStep (h.settled c hc) hr
  have hattends := Connection.attends_of_readStep (h.settled c hc) hr
  have hreceiving := Connection.receiving_of_readStep hr
  by_cases hloop : c.readPc = .loop
  · -- `recvLoop` may be called: with the next packet
    have hnext : i = .next := by
      cases Connection.readBranch_of_readStep hr with
      | dispatch => rfl
      | _ hpc => cases hloop.symm.trans hpc
    subst hnext
    rw [show s.noteBytes (.read .next) [] g = { g with reader := .header } from
      if_pos (by rw [hat, hloop]; rfl)]
    refine ⟨fun d hd => ?_, h.events, fun d hd ha => ?_⟩
    · cases hd
      exact hsettled
    · cases hd
      have hreads := h.reads c hc ((hattends ha).resolve_right (by rw [hloop]; simp))
      rw [hloop] at hreads
      rw [ite_self]
      exact hreads
  · by_cases hstore : c.readPc = .socketStore
    · -- nothing has come from the new socket yet
      have hnext : i = .next ∧ c'.readPc.receiving = false := by
        cases Connection.readBranch_of_readStep hr with
        | socketStore => exact ⟨rfl, rfl⟩
        | _ hpc => cases hstore.symm.trans hpc
      obtain ⟨rfl, hrec⟩ := hnext
      rw [show s.noteBytes (.read .next) [] g =
          { g with earlier := g.earlier ++ [g.bytes], bytes := [] } by
        simp [noteBytes, hat, hstore]]
      refine ⟨fun d hd => ?_, ?_, fun d hd ha => ?_⟩
      · cases hd
        exact hsettled
      · have hnothing : [([] : Str)].flatMap (Reader.eventsOf split) = [] := rfl
        rw [List.flatMap_append, hnothing, List.append_nil]
        exact h.events
      · cases hd
        rw [hrec]
        exact Reader.reads_nil
    · have hsame : s.noteBytes (.read i) [] g = g := by
        cases i <;> simp [noteBytes, hat, hloop, hstore]
      rw [hsame]
      refine ⟨fun d hd => ?_, h.events, fun d hd ha => ?_⟩
      · cases hd
        exact hsettled
      · cases hd
        obtain hpc | hpc | ⟨p, hp⟩ | hrec := hreceiving ha
        · exact absurd hpc hloop
        · exact absurd hpc hstore
        · exact absurd hp (hi p)
        · rw [hrec]
          exact h.reads c hc ((hattends ha).resolve_right hstore)

/-- A call of `::recv` that returns bytes. -/
theorem heard_of_received {c' : Connection} {r : Received} (h : s.Heard split g)
    (hsplit : split.Legal) (hc : s.connection = some c)
    (hr : c.readStep s.config (.receive r) = .ok c') (hne : chunk ≠ [])
    (hle : chunk.length ≤ g.reader.asked) (hfeed : (g.reader.feed chunk).1 = r) :
    { s with connection := some c' }.Heard split (s.noteBytes (.read (.receive r)) chunk g) := by
  have hpc : c.readPc = .recvData := by
    cases Connection.readBranch_of_readStep hr with
    | receiveFails hpc | more hpc | received hpc => exact hpc
  have hreads := h.reads c hc (by rw [Connection.attends, hpc]; rfl)
  rw [hpc, if_pos (by rfl)] at hreads
  obtain ⟨hevents, hmore, hevent⟩ := hreads.feed hsplit hne hle (Prod.ext hfeed rfl)
  rw [show s.noteBytes (.read (.receive r)) chunk g =
      { g with
        bytes := g.bytes ++ chunk
        reader := (g.reader.feed chunk).2
        events := g.events ++ r.event?.toList } from if_neg hne]
  refine ⟨fun d hd => ?_, ?_, fun d hd ha => ?_⟩
  · cases hd
    exact Connection.settled_readStep (h.settled c hc) hr
  · rw [h.events]
    simp only [List.flatMap_append, List.flatMap_singleton, hevents, List.append_assoc]
  · cases hd
    dsimp only
    rw [hevents]
    cases Connection.readBranch_of_readStep hr with
    | receiveFails => cases ha
    | more =>
        rw [show Received.more.event?.toList = [] from rfl, List.append_nil]
        exact hmore rfl
    | @received p =>
        obtain ⟨e, he⟩ := Connection.incoming_of_attends ha
        have hp : (Received.packet p).event? = some e := he
        rw [hp, Option.toList_some, Connection.receiving_received]
        exact hevent e hp

theorem heard_step (hf : s.Follows) (hsplit : split.Legal) (h : s.Heard split g)
    (hs : s.Steps a s') (ht : s.Takes g.reader a chunk) :
    s'.Heard split (s.noteBytes a chunk g) := by
  obtain ⟨hsilent, htakes⟩ := ht
  cases a with
  | read i =>
      obtain ⟨c, c', hc, hr, rfl⟩ := readStep_of_steps hs
      cases i with
      | receive r =>
          obtain ⟨rfl, hnothing⟩ | ⟨hne, hle, -, hfeed⟩ := htakes r rfl
          · refine heard_of_silent h hc hr fun p hp => ?_
            cases hp
            obtain hr' | hr' := hnothing <;> cases hr'
          · exact heard_of_received h hsplit hc hr hne hle hfeed
      | next | lookup | attempt | timer =>
          rw [hsilent rfl]
          exact heard_of_silent h hc hr fun p hp => by cases hp
  | setPublishQueue | setSendQueue | setLastWill | call | hold | grant | write =>
      exact heard_of_bystands h (bystands_move hf (move_of_step hs) fun i hi => by cases hi)

/-- A step receives the message of its event. -/
theorem message?_receive (r : Received) :
    (ReadInput.receive r).message?.toList = r.event?.toList.filterMap Incoming.message? := by
  cases r with
  | failed | more => rfl
  | packet p =>
      show (p.incoming.bind Incoming.message?).toList = p.incoming.toList.filterMap _
      cases p.incoming with
      | none => rfl
      | some e => cases he : e.message? <;> simp [he]

/-- The messages received are those of the events. -/
theorem received_noteBytes {inbox : Inbox C} (ht : s.Takes g.reader a chunk)
    (h : inbox.received = g.events.filterMap Incoming.message?) :
    (s.noteMessage a s' inbox).received =
      (s.noteBytes a chunk g).events.filterMap Incoming.message? := by
  cases a with
  | read i =>
      cases i with
      | receive r =>
          show inbox.received ++ (ReadInput.receive r).message?.toList = _
          rw [message?_receive, h]
          obtain ⟨rfl, hnothing⟩ | ⟨hne, -⟩ := ht.2 r rfl
          · have hnone : r.event? = none := by
              obtain rfl | rfl := hnothing <;> rfl
            rw [hnone]
            exact List.append_nil _
          · have hevents : (s.noteBytes (.read (.receive r)) chunk g).events =
                g.events ++ r.event?.toList := by
              rw [noteBytes, if_neg hne]
            rw [hevents, List.filterMap_append]
      | next =>
          have hevents : (s.noteBytes (.read .next) chunk g).events = g.events := by
            simp only [noteBytes]
            repeat' split
            all_goals rfl
          rw [hevents]
          exact (List.append_nil _).trans h
      | lookup | attempt | timer => exact (List.append_nil _).trans h
  | setPublishQueue | setSendQueue | setLastWill | call | hold | grant | write => exact h

/-- **From the bytes to the callbacks**: in a run, however the `::recv` calls cut the
bytes of the sockets and whatever happens between them, the messages handled, and the
one that may wait for the mutex, are those of the bytes received, socket after socket;
and the callbacks are theirs. -/
theorem handled_of_bytes {s₀ : System C} {es : List (Action C × Str)} {inbox : Inbox C}
    (h₀ : Initial s₀) (hsplit : split.Legal) (h : Run Receives (s₀, {}, {}) es (s, inbox, g)) :
    inbox.handled.map Prod.snd ++ s.waiting =
        ((g.earlier ++ [g.bytes]).flatMap (Reader.eventsOf split)).filterMap
          Incoming.message? ∧
      s.delivered = inbox.handled.flatMap fun h => h.1.messageReceived h.2.1 h.2.2 := by
  have hall : (s.WellFormed ∧ s.Follows ∧ s.ReadJoined) ∧ Dispatched (s, inbox) ∧
      s.Heard split g ∧ inbox.received = g.events.filterMap Incoming.message? := by
    refine h.invariant (I := fun p => (p.1.WellFormed ∧ p.1.Follows ∧ p.1.ReadJoined) ∧
      Dispatched (p.1, p.2.1) ∧ p.1.Heard split p.2.2 ∧
        p.2.1.received = p.2.2.events.filterMap Incoming.message?) ?_ ?_
    · refine ⟨⟨wellFormed_initial h₀, follows_initial h₀, readJoined_of_run h₀ .nil⟩, ?_⟩
      obtain ⟨config, rfl⟩ := h₀
      refine ⟨⟨rfl, rfl⟩, ⟨fun c hc => ?_, rfl, fun c hc => ?_⟩, rfl⟩
      all_goals cases hc
    · intro p e p' hp hstep
      obtain ⟨s, inbox, g⟩ := p
      obtain ⟨⟨hwf, hf, hj⟩, hd, hheard, hreceived⟩ := hp
      obtain ⟨hs, ht, hinbox, hg⟩ := hstep
      have hm := move_of_step hs
      rw [hinbox, hg]
      exact ⟨⟨wellFormed_move hwf hm, follows_move hwf hf hm, readJoined_move hj hm⟩,
        dispatched_step hwf hf hj hd ⟨hs, rfl⟩, heard_step hf hsplit hheard hs ht,
        received_noteBytes ht hreceived⟩
  obtain ⟨-, hd, hheard, hreceived⟩ := hall
  rw [← hheard.events, ← hreceived]
  exact ⟨hd.order.symm, hd.delivered⟩

/-- A step with its bytes, by evaluation. -/
def receiveNext (p : System C × Inbox C × Inflow) (e : Action C × Str) :
    Option (System C × Inbox C × Inflow) :=
  if p.1.Takes p.2.2.reader e.1 e.2 then
    (next p.1 e.1).map fun s' =>
      (s', p.1.noteMessage e.1 s' p.2.1, p.1.noteBytes e.1 e.2 p.2.2)
  else none

theorem receives_of_receiveNext {p p' : System C × Inbox C × Inflow} {e : Action C × Str}
    (h : receiveNext p e = some p') : Receives p e p' := by
  unfold receiveNext at h
  split at h
  · next ht =>
    obtain ⟨s', hs', rfl⟩ := Option.map_eq_some_iff.mp h
    exact ⟨steps_of_next hs', ht, rfl, rfl⟩
  · cases h

/-- A round of `recv` that returns these bytes. -/
def round (r : Received) (chunk : Str) : List (Action Nat × Str) :=
  [(.read .next, []), (.read (.timer false), []), (.read (.receive r), chunk)]

/-- A CONNACK and a PUBLISH in pieces, with a call in between, and a header byte of no
type. -/
def receivePieces : List (Action Nat × Str) :=
  ([.call .connect, .hold] ++ toConnack.take 19 : List (Action Nat)).map (·, []) ++
    round .more [0x20] ++ round .more [2] ++ round .more [0] ++
    round (.packet connack) [0] ++ [(.read .next, []), (.grant, []), (.read .next, [])] ++
    round .more [0x30] ++ [(.call (.subscribe [97] 1), []), (.hold, []), (.hold, [])] ++
    round .more [4] ++ round .more [0, 1, 97] ++ round (.packet incomingPublish) [120] ++
    [(.grant, []), (.read .next, [])] ++ round .failed [0xF0]

theorem handled_of_bytes_receivePieces : ∃ (s : System Nat) (inbox : Inbox Nat) (g : Inflow),
    g.earlier ++ [g.bytes] = [[], [0x20, 2, 0, 0, 0x30, 4, 0, 1, 97, 120, 0xF0]] ∧
      inbox.handled.map Prod.snd ++ s.waiting = [([97], [120])] ∧
      s.delivered = [(1, [97], [120])] := by
  have heval : (exec receiveNext (({} : System Nat), {}, {}) receivePieces).any
      (fun p => p.2.2.earlier ++ [p.2.2.bytes] =
          [[], [0x20, 2, 0, 0, 0x30, 4, 0, 1, 97, 120, 0xF0]] ∧
        p.1.delivered = [(1, [97], [120])]) = true := by
    decide +kernel
  obtain ⟨⟨s, inbox, g⟩, hrun, htest⟩ := Run.of_exec (R := Receives)
    (fun {_ _ _} h => receives_of_receiveNext h) heval
  obtain ⟨hbytes, hdelivered⟩ := of_decide_eq_true htest
  have hsplit : Split.Legal (fun _ asked => asked) := fun _ _ h => ⟨h, Nat.le_refl _⟩
  obtain ⟨horder, -⟩ := handled_of_bytes initial_default hsplit hrun
  rw [hbytes] at horder
  exact ⟨s, inbox, g, hbytes, horder, hdelivered⟩

end System

end TrueMqtt
