import Mathlib.Data.Fintype.EquivFin
import TrueMqtt.Network
import TrueMqtt.System.Destructor
import TrueMqtt.System.Drain

/-!
# TrueMqtt.Network.Recovery

A client that is not disconnected can always become CONNECTED.

Wherever its threads stand, with whatever `m_state` the write thread has left behind, a
few steps of theirs are enough if the network and the broker answer (`Answers`): no state
is a dead end (`recovers`).  Only an attempt that is pending comes up, and the broker
answers a CONNECT that comes first on its connection; it closes a connection otherwise.

The write thread comes to rest first (`WritePc.unrest`), for what it still writes of an
older packet would come before the CONNECT.  Then the read thread gives up what it has,
unless it is about to be answered, and comes to a new socket (`Connection.distance`); from
there on the two threads make the handshake, step by step (`can_greet`).
-/

namespace TrueMqtt

namespace WritePc

/-- Between two packets, or in the wait for one. -/
def resting : WritePc → Bool
  | loop | blocked | wait => true
  | _ => false

/-- The steps to there. -/
def unrest : WritePc → Nat
  | pop => 9
  | woken => 8
  | holding _ => 7
  | writing _ _ => 6
  | errorPtr => 5
  | errorStore => 4
  | errorTest => 3
  | errorClose => 2
  | errorInvalidate | blocking => 1
  | _ => 0

end WritePc

/-! ## an environment that answers -/

namespace Connection

/-- The CONNECT comes first on the current socket, and is not answered yet. -/
structure Introduced (cfg : Config) (c : Connection) : Prop where
  state : c.state = .authenticating
  usable : c.usable = true
  connect : ∃ k ∈ c.socket, (Outgoing.connect cfg.connectInfo).encode <+: c.wires k

/-- The host has this address, a connection attempt to it is pending at first and then
comes up, and the broker sends a CONNACK to a client that has introduced itself, but closes
the connection of any other. -/
def ReadsWell {A : Type} (host : A) (cfg : Config) (c : Connection) (a : Attempts A) :
    NetworkInput A → Prop
  | .next | .timer _ => True
  | .lookup found => found = some [(.ipv4, host)]
  | .turn t => t.polled = .ready a.sockets [] ∧ ∃ fd, t.dial = .pending fd
  | .receive (.packet p) => p = System.connack ∧ c.Introduced cfg
  | .receive .more => True
  | .receive .failed => ¬ c.Introduced cfg

/-- `::send` only fails on a socket that is gone, and there are no spurious wakeups. -/
def WritesWell (c : Connection) : WriteInput → Prop
  | .next => c.writePc ≠ .blocked
  | .sent _ => True
  | .failed => c.usable = false

end Connection

/-- A step of the client's own threads, in a network and with a broker that answer. -/
def Network.Answers {C A : Type} (host : A) (n : Network C A) : NetworkAction C A → Prop
  | .read i => ∃ c, n.system.connection = some c ∧ c.ReadsWell host n.system.config n.attempts i
  | .write i => ∃ c, n.system.connection = some c ∧ c.WritesWell i
  | .client .grant => True
  | .client _ => False

/-! ## the steps to a new socket -/

/-- The calls of `connectToAny` before an attempt is pending: none, one, or more than there
are addresses left for. -/
def Attempts.lack {A : Type} (a : Attempts A) : Nat :=
  if a.sockets ≠ [] then 0
  else if a.addressCurrent < a.addresses.length then 1
  else 2

/-- The steps from the switch of `runRead` to the store of a new socket. -/
def ConnectionState.distance (lack : Nat) : ConnectionState → Nat
  | connecting => if lack = 0 then 3 else if lack = 1 then 5 else 16
  | resolving => 10
  | backoff => 13
  | socketError => 17
  | authenticating | connected => 27
  | stop => 0

/-- The same from every point of the read thread, or the steps to the grant of CONNECTED
from those past a CONNACK. -/
def ReadPc.distance {A : Type} (st : ConnectionState) (a : Attempts A) : ReadPc → Nat
  | loop => st.distance a.lack
  | lockState true => 1
  | connackStore => 2
  | connectCheck => if a.lack = 0 then 1 else if a.lack = 1 then st.distance 0 + 1 else 15
  | connectToAny => if a.lack = 0 then 2 else if a.lack = 1 then st.distance 0 + 1 else 15
  | connectingStore => if a.lack = 2 then 17 else 6
  | resolveCheck => if a.lack = 2 then 18 else 7
  | getaddrinfo => if a.addressCurrent = 0 then 8 else 19
  | resolve => 9
  | resolvingStore => 11
  | sleep => 12
  | backoffStore => 14
  | lookupCallback => 15
  | lostStore => 16
  | clearQueue => st.distance a.lack + 1
  | lockState false => st.distance a.lack + 2
  | errorInvalidate => st.distance a.lack + 1
  | errorClose => st.distance a.lack + 2
  | errorTest => st.distance a.lack + 3
  | errorStore => 21
  | recvFailed => 22
  | recvData => 23
  | sendPingRequest => 24
  | recvTimer => 25
  | recv => 26
  | sendConnect | subscribeCallback | lockMessage _ _ => st.distance a.lack + 1
  | authStore => 29
  | authCheck => 30
  | _ => 0

theorem Attempts.lack_le {A : Type} (a : Attempts A) : a.lack ≤ 2 := by
  unfold lack
  split
  · omega
  · split <;> omega

theorem ConnectionState.distance_le (st : ConnectionState) (lack : Nat) :
    st.distance lack ≤ 27 := by
  cases st with
  | connecting =>
      simp only [distance]
      split
      · omega
      · split <;> omega
  | _ => simp [distance]

theorem ReadPc.distance_le {A : Type} (pc : ReadPc) (st : ConnectionState) (a : Attempts A) :
    pc.distance st a ≤ 30 := by
  have hst := st.distance_le a.lack
  have hzero := st.distance_le 0
  cases pc with
  | lockState connected =>
      cases connected
      · simp only [distance]
        omega
      · simp [distance]
  | connectCheck | connectToAny =>
      simp only [distance]
      split
      · omega
      · split <;> omega
  | connectingStore | resolveCheck | getaddrinfo =>
      simp only [distance]
      split <;> omega
  | _ =>
      simp only [distance]
      omega

/-- On the way out, or in the hands of the holder of the mutex. -/
def ReadPc.aside : ReadPc → Bool
  | stateChange | stopTest | stopClose | stopInvalidate | done => true
  | _ => false

namespace Connection

variable {cfg : Config} {c c' : Connection}

/-! ## every connection is up until its STOP -/

/-- No STOP has been stored, and no thread has come to its end; the sockets are the
established ones, with nothing written to others; the write thread is not woken for
nothing. -/
structure Up (c : Connection) : Prop where
  state : c.state ≠ .stop
  readPc : c.readPc.aside = false ∨ c.readPc = .stateChange
  writePc : c.writePc ≠ .done
  woken : c.writePc = .woken → c.sendQueue ≠ []
  socket : ∀ k, c.socket = some k → k < c.sockets
  closed : ∀ k ∈ c.closed, k < c.sockets
  unused : ∀ k, c.sockets ≤ k → c.wires k = []

theorem up_new (cfg : Config) : (new cfg).Up where
  state := (by decide : ConnectionState.resolving ≠ .stop)
  readPc := .inl rfl
  writePc := (by decide : WritePc.loop ≠ .done)
  woken := fun h => by cases h
  socket := fun k hk => by cases hk
  closed := fun k hk => (List.not_mem_nil hk).elim
  unused := fun _ _ => rfl

theorem up_notify (h : c.Up) : c.notify.Up := by
  unfold notify
  split
  · exact { h with writePc := by simp, woken := fun hw => by cases hw }
  · exact h

theorem up_pushFront (h : c.Up) (o : Outgoing) : (c.pushFront o).Up :=
  up_notify { h with woken := fun _ => List.cons_ne_nil _ _ }

theorem up_push (h : c.Up) (o : Outgoing) : (c.push o).Up :=
  up_notify { h with woken := fun _ => by simp }

/-- The read thread goes to another point, and stores a state other than STOP on its
way. -/
theorem Up.goTo (h : c.Up) {st : ConnectionState} (hst : st ≠ .stop) {pc : ReadPc}
    (hpc : pc.aside = false ∨ pc = .stateChange) : { c with state := st, readPc := pc }.Up :=
  { h with state := hst, readPc := hpc }

theorem aside_received (p : Packet) : (received p).aside = false := by
  obtain h | h | h | h | ⟨topic, message, h⟩ := received_cases p <;> rw [h] <;> rfl

theorem aside_dispatch {st : ConnectionState} (h : st ≠ .stop) : (dispatch st).aside = false := by
  cases st <;> first | rfl | exact absurd rfl h

/-- `closesocket(m_socket)`. -/
theorem lt_of_closed (h : c.Up) {k : Nat} (hk : k ∈ c.socket.toList ++ c.closed) :
    k < c.sockets := by
  obtain hk | hk := List.mem_append.mp hk
  · exact h.socket k (Option.mem_toList.mp hk)
  · exact h.closed k hk

theorem up_readStep {i : ReadInput} (h : c.Up) (hr : c.readStep cfg i = .ok c') : c'.Up := by
  cases readBranch_of_readStep hr with
  | dispatch hpc => exact h.goTo h.state (.inl (aside_dispatch h.state))
  | received hpc hu => exact h.goTo h.state (.inl (aside_received _))
  | resolve hpc | errorInvalidate hpc =>
      exact { h with readPc := .inl rfl, socket := fun k hk => by cases hk }
  | connectingStore hpc | backoffStore hpc | authStore hpc | resolvingStore hpc
  | connackStore hpc | errorStore hpc | lostStore hpc => exact h.goTo (by simp) (.inl rfl)
  | socketStore hpc =>
      exact
        { h with
          readPc := .inl rfl
          socket := fun k hk => by
            cases hk
            exact Nat.lt_succ_self _
          closed := fun k hk => Nat.lt_succ_of_lt (h.closed k hk)
          unused := fun k hk => h.unused k (Nat.le_of_succ_le hk) }
  | sendConnect hpc hqf =>
      exact { up_pushFront h (.connect cfg.connectInfo) with readPc := .inl rfl }
  | sendPingRequest hpc hqf =>
      exact { up_pushFront h .pingRequest with readPc := .inl rfl }
  | errorClose hpc =>
      exact { h with readPc := .inl rfl, closed := fun k hk => lt_of_closed h hk }
  | clearQueue hpc hqf =>
      refine { h with readPc := .inl rfl, woken := fun hw => ?_ }
      change c.writePc = .woken at hw
      simp [queueFree, hw] at hqf
  | stopGone hpc | stopTest hpc | stopClose hpc | stopInvalidate hpc =>
      have haside := h.readPc
      simp [hpc, ReadPc.aside] at haside
  | authStop hpc hst | resolveStop hpc hst | connectStop hpc hst | sleepStop hpc hst
  | failedStop hpc hst => exact absurd hst h.state
  | sleep hpc hst => exact { h with readPc := .inl rfl }
  | _ hpc => exact h.goTo h.state (.inl rfl)

theorem up_writeStep {pointer : Bool} {i : WriteInput} (h : c.Up)
    (hw : c.writeStep pointer i = .ok c') : c'.Up := by
  have hwrites : ∀ {k : Nat} (bytes : Str), c.socket = some k →
      ∀ j, c.sockets ≤ j → (if j = k then c.wires j ++ bytes else c.wires j) = [] := by
    intro k bytes hk j hj
    have hlt := h.socket k hk
    rw [if_neg (by omega), h.unused j hj]
  cases writeBranch_of_writeStep hw with
  | spin => exact h
  | done hpc hoff hst | emptyStop hpc hq hst | wokenStop hpc hst => exact absurd hst h.state
  | waited hpc htest =>
      exact { h with writePc := by simp, woken := fun _ => htest.resolve_right h.state }
  | errorStore hpc =>
      exact { h with state := by simp, writePc := by simp, woken := fun hp => by cases hp }
  | errorClose hpc =>
      exact
        { h with
          writePc := by simp
          woken := fun hp => by cases hp
          closed := fun k hk => lt_of_closed h hk }
  | errorInvalidate hpc =>
      exact
        { h with
          writePc := by simp
          woken := fun hp => by cases hp
          socket := fun k hk => by cases hk }
  | write hpc hk | finish hpc hk =>
      exact
        { h with
          writePc := by simp
          woken := fun hp => by cases hp
          unused := hwrites _ hk }
  | _ => exact { h with writePc := by simp, woken := fun hp => by cases hp }

end Connection

namespace System

variable {C : Type} {s s' : System C} {a : Action C} {c : Connection}

/-- Until `~Connection` stores STOP, the connection is up. -/
def Up (s : System C) : Prop :=
  s.holder.stopped = false → ∀ c, s.connection = some c → c.Up

theorem up_of_connection (h : ∀ c, s.connection = some c → c.Up) : s.Up := fun _ => h

/-- The connection, but for the point where `connectionStateChange` leaves it. -/
theorem up_of_restored (h : c.Up)
    (hc' : s'.connection = some c ∨ s'.connection = some (restored c)) : s'.Up := by
  refine up_of_connection fun d hd => ?_
  obtain hc' | hc' := hc'
  · cases hc'.symm.trans hd
    exact h
  · cases hc'.symm.trans hd
    exact { h with readPc := .inl rfl }

theorem up_move (h : s.Up) (hm : Move s a s') : s'.Up := by
  cases hm with
  | idle | setPublishQueue | setSendQueue | setLastWill | toPublishQueue | addSubscription
  | removeSubscription => exact h
  | connect hfree hst | replaced hc hh hpc =>
      intro _ d hd
      cases hd
      exact Connection.up_new _
  | disconnect hfree hst =>
      refine up_of_connection fun d hd => h (by rw [hfree]; rfl) d ?_
      simpa [setState] using hd
  | publish hfree | subscribe hfree | unsubscribe hfree =>
      exact up_of_connection fun d hd => h (by rw [hfree]; rfl) d hd
  | room hc hh => exact up_of_connection fun d hd => h (by rw [hh]; rfl) d hd
  | refused hc hh hsize ha =>
      exact up_of_restored (h (by rw [hh]; rfl) _ hc) ((connection_after ha).imp_right And.right)
  | pushed hc hh hqf ha =>
      exact up_of_restored (Connection.up_push (h (by rw [hh]; rfl) _ hc) _)
        ((connection_after ha).imp_right And.right)
  | stop hc hh | notify hc hh | joinRead hc hh =>
      intro hs
      cases hs
  | destroyed hc hh hpc =>
      intro _ d hd
      cases hd
  | assign hh hc => exact up_of_connection fun d hd => h (by rw [hh]; rfl) d hd
  | connected hc hfree hpc =>
      have hup := h (by rw [hfree]; rfl) _ hc
      exact up_of_restored (hup.goTo hup.state (.inr rfl)) (connection_resubscribe _ _ _)
  | lost hc hfree hpc | message hc hfree hpc =>
      have hup := h (by rw [hfree]; rfl) _ hc
      intro _ d hd
      cases hd
      exact hup.goTo hup.state (.inl rfl)
  | read hc hr =>
      intro hs d hd
      cases hd
      exact Connection.up_readStep (h hs _ hc) hr
  | write hc hw =>
      intro hs d hd
      cases hd
      exact Connection.up_writeStep (h hs _ hc) hw

/-- A connection no thread of which is in `~Connection` or `connectionStateChange`. -/
theorem up_of_reachable (hr : s.Reachable) (hfree : s.holder = .free)
    (hc : s.connection = some c) : c.Up ∧ c.readPc ≠ .stateChange := by
  obtain ⟨s₀, as, h₀, hrun⟩ := hr
  have hinit : s₀.Up ∧ s₀.Inhabited := by
    obtain ⟨config, rfl⟩ := h₀
    exact ⟨up_of_connection (by simp), inhabited_of_ne (by simp)⟩
  obtain ⟨-, hup, hin⟩ := invariant_of_run (I := fun s => s.Up ∧ s.Inhabited) h₀ hinit
    (fun _ _ _ _ hs hm => ⟨up_move hs.1 hm, inhabited_move hs.2 hm⟩) hrun
  exact ⟨hup (by rw [hfree]; rfl) c hc, hin.ne hc (by rw [hfree]; rfl)⟩

end System

/-! ## the steps on the way -/

namespace Connection

variable {A : Type} {host : A} {timeout : Nat} {cfg : Config} {c c' : Connection}
  {a a' : Attempts A}

/-- The write thread comes nearer to its rest: an open socket takes what is left of its
packet, and a `::send` on another fails. -/
theorem exists_writeStep_of_unrest (h : c.Up) (hp : c.Prompt) (hrest : c.writePc.resting = false) :
    ∃ i c', c.WritesWell i ∧ c.writeStep true i = .ok c' ∧
      c'.writePc.unrest < c.writePc.unrest := by
  have hst := h.state
  cases hpc : c.writePc with
  | loop | blocked | wait =>
      rw [hpc] at hrest
      cases hrest
  | done => exact absurd hpc h.writePc
  | pop =>
      cases hq : c.sendQueue with
      | nil =>
          exact ⟨.next, { c with writePc := .blocking }, by simp [WritesWell, hpc],
            by simp [writeStep, hpc, hq, hst], by simp [WritePc.unrest]⟩
      | cons o q =>
          exact ⟨.next, { c with sendQueue := q, writePc := .holding o }, by simp [WritesWell, hpc],
            by simp [writeStep, hpc, hq, pop], by simp [WritePc.unrest]⟩
  | woken =>
      obtain ⟨o, q, hq⟩ := List.exists_cons_of_ne_nil (h.woken hpc)
      exact ⟨.next, { c with sendQueue := q, writePc := .holding o }, by simp [WritesWell, hpc],
        by simp [writeStep, hpc, hst, pop, hq], by simp [WritePc.unrest]⟩
  | holding o =>
      refine ⟨.next, { c with writePc := if c.state.online then .writing o 0 else .loop },
        by simp [WritesWell, hpc], by simp [writeStep, hpc], ?_⟩
      cases hon : c.state.online <;> simp [WritePc.unrest]
  | writing o offset =>
      cases hu : c.usable with
      | false =>
          exact ⟨.failed, { c.begin offset with writePc := .errorPtr }, hu,
            by simp [writeStep, hpc], by simp [WritePc.unrest]⟩
      | true =>
          cases hk : c.socket with
          | none =>
              rw [usable, hk] at hu
              cases hu
          | some k =>
              have hpart := hp.part o offset hpc
              have hfits : c.usable = true ∧ 1 ≤ o.encode.length - offset ∧
                  offset + (o.encode.length - offset) ≤ o.encode.length := by
                refine ⟨hu, ?_, ?_⟩ <;> omega
              have hend : offset + (o.encode.length - offset) = o.encode.length := by omega
              have hw : ∃ c', c.writeStep true (.sent (o.encode.length - offset)) = .ok c' ∧
                  c'.writePc = .loop := by
                simp only [writeStep, hpc, hk, if_pos hfits, if_pos hend]
                exact ⟨_, rfl, rfl⟩
              obtain ⟨c', hw, hpc'⟩ := hw
              exact ⟨.sent _, c', trivial, hw, by simp [hpc', WritePc.unrest]⟩
  | blocking =>
      exact ⟨.next, { c with writePc := .blocked }, by simp [WritesWell, hpc],
        by simp [writeStep, hpc], by simp [WritePc.unrest]⟩
  | errorPtr =>
      exact ⟨.next, { c with writePc := .errorStore }, by simp [WritesWell, hpc],
        by simp [writeStep, hpc], by simp [WritePc.unrest]⟩
  | errorStore =>
      exact ⟨.next, { c with state := .socketError, writePc := .errorTest },
        by simp [WritesWell, hpc], by simp [writeStep, hpc], by simp [WritePc.unrest]⟩
  | errorTest =>
      refine ⟨.next, { c with writePc := if c.socket = none then .loop else .errorClose },
        by simp [WritesWell, hpc], by simp [writeStep, hpc], ?_⟩
      by_cases hk : c.socket = none <;> simp [hk, WritePc.unrest]
  | errorClose =>
      exact ⟨.next, { c with closed := c.socket.toList ++ c.closed, writePc := .errorInvalidate },
        by simp [WritesWell, hpc], by simp [writeStep, hpc], by simp [WritePc.unrest]⟩
  | errorInvalidate =>
      exact ⟨.next, { c with socket := none, writePc := .loop }, by simp [WritesWell, hpc],
        by simp [writeStep, hpc], by simp [WritePc.unrest]⟩

/-- The steps left to a new socket. -/
def distance (c : Connection) (a : Attempts A) : Nat := c.readPc.distance c.state a

theorem queueFree_of_resting (h : c.writePc.resting = true) : c.queueFree = true := by
  cases hpc : c.writePc <;> simp_all [queueFree, WritePc.resting]

/-- Who is notified rests still. -/
theorem resting_notify (h : c.writePc.resting = true) : c.notify.writePc.resting = true := by
  unfold notify
  split
  · rfl
  · exact h

/-- Who is notified does not sleep. -/
theorem awake_notify (h : c.writePc.resting = true) :
    c.notify.writePc = .loop ∨ c.notify.writePc = .wait := by
  unfold notify
  split
  · exact .inr rfl
  · next hb => cases hpc : c.writePc <;> simp_all [WritePc.resting]

/-- Where the read thread does not work on its sockets. -/
theorem readSockets_of_quiet (h : c.readPc.touches = false) :
    Network.readSockets timeout c a .next = some (.next, a) := by
  cases hpc : c.readPc <;> simp_all [Network.readSockets, ReadPc.touches]

/-- A step that brings the read thread nearer to a new socket. -/
def Nearer (host : A) (timeout : Nat) (cfg : Config) (c : Connection) (a : Attempts A) : Prop :=
  ∃ i j c' a', c.ReadsWell host cfg a i ∧ Network.readSockets timeout c a i = some (j, a') ∧
    c.readStep cfg j = .ok c' ∧ c'.writePc.resting = true ∧ c'.distance a' < c.distance a

theorem nearer_next (c' : Connection) (a' : Attempts A) (hrest : c'.writePc.resting = true)
    (hs : Network.readSockets timeout c a .next = some (.next, a'))
    (hr : c.readStep cfg .next = .ok c') (hlt : c'.distance a' < c.distance a) :
    c.Nearer host timeout cfg a :=
  ⟨.next, .next, c', a', trivial, hs, hr, hrest, hlt⟩

/-- The attempts that are pending come up. -/
def upTurn (a : Attempts A) (fd : Nat) : Turn :=
  { polled := .ready a.sockets [], dial := .pending fd }

theorem established_of_sockets (timeout : Nat) (hs : a.sockets ≠ []) (fd : Nat) :
    ∃ a', a.connectToAny timeout (upTurn a fd) = (a', .established) := by
  obtain ⟨k, ks, hk⟩ := List.exists_cons_of_ne_nil hs
  have hfound : (a.swept a.sockets []).socketConnected = some k := by
    rw [Attempts.socketConnected_swept, hk]
    simp
  rw [Attempts.connectToAny, if_neg hs]
  simp only [upTurn, hfound]
  exact ⟨_, rfl⟩

/-- An attempt is pending after `tryNextAddress`. -/
theorem tried_of_lack (timeout : Nat) (hs : a.sockets = [])
    (hlt : a.addressCurrent < a.addresses.length) (fd : Nat) :
    ∃ a', a.connectToAny timeout (upTurn a fd) = (a', .pending) ∧ a'.lack = 0 := by
  rw [Attempts.connectToAny, if_pos hs, Attempts.tryNextAddress, dif_pos hlt]
  refine ⟨_, rfl, ?_⟩
  simp [Attempts.lack, upTurn, Attempts.connect]

theorem exhausted_of_lack (hs : a.sockets = []) (hge : ¬ a.addressCurrent < a.addresses.length)
    (fd : Nat) : a.connectToAny timeout (upTurn a fd) = (a, .exhausted) := by
  rw [Attempts.connectToAny, if_pos hs, Attempts.tryNextAddress, dif_neg hge]
  rfl

theorem fresh_upTurn {fd : Nat} (hfd : fd ∉ a.handles.live) :
    (upTurn a fd).dial.fresh a.handles = true := by
  simp [upTurn, Dial.fresh, hfd]

/-- A call of `connectToAny`, before the select or after it. -/
theorem nearer_connectToAny (h : c.Up) (hrest : c.writePc.resting = true)
    (hpc : c.readPc = .connectToAny ∨ c.readPc = .connectCheck) : c.Nearer host timeout cfg a := by
  obtain ⟨fd, hfd⟩ := Infinite.exists_notMem_finset a.handles.live.toFinset
  rw [List.mem_toFinset] at hfd
  have hfresh := fresh_upTurn hfd
  have hwell : c.ReadsWell host cfg a (.turn (upTurn a fd)) := ⟨rfl, fd, rfl⟩
  by_cases hs : a.sockets = []
  · -- nothing is pending: `tryNextAddress`
    have hread : ∀ {r a'}, a.connectToAny timeout (upTurn a fd) = (a', r) →
        Network.readSockets timeout c a (.turn (upTurn a fd)) = some (.attempt r, a') := by
      intro r a' hcall
      obtain hpc | hpc := hpc <;> simp [Network.readSockets, hcall, hfresh, hpc, hs, h.state]
    by_cases hlt : a.addressCurrent < a.addresses.length
    · obtain ⟨a', hcall, hlack⟩ := tried_of_lack timeout hs hlt fd
      have hr : c.readStep cfg (.attempt .pending) = .ok { c with readPc := .loop } := by
        obtain hpc | hpc := hpc <;> simp [readStep, hpc, h.state]
      refine ⟨_, _, _, a', hwell, hread hcall, hr, hrest, ?_⟩
      have hone : a.lack = 1 := by simp [Attempts.lack, hs, hlt]
      obtain hpc | hpc := hpc <;> simp [distance, ReadPc.distance, hpc, hone, hlack]
    · have hr : c.readStep cfg (.attempt .exhausted) = .ok { c with readPc := .backoffStore } := by
        obtain hpc | hpc := hpc <;> simp [readStep, hpc, h.state]
      refine ⟨_, _, _, a, hwell, hread (exhausted_of_lack hs hlt fd), hr, hrest, ?_⟩
      have htwo : a.lack = 2 := by simp [Attempts.lack, hs, hlt]
      obtain hpc | hpc := hpc <;> simp [distance, ReadPc.distance, hpc, htwo]
  · have hzero : a.lack = 0 := by simp [Attempts.lack, hs]
    obtain hpc | hpc := hpc
    · refine nearer_next { c with readPc := .connectCheck } a hrest ?_ ?_ ?_
      · simp [Network.readSockets, hpc, hs]
      · simp [readStep, hpc]
      · simp [distance, ReadPc.distance, hpc, hzero]
    · obtain ⟨a', hcall⟩ := established_of_sockets timeout hs fd
      refine ⟨_, .attempt .established, { c with readPc := .socketStore }, a', hwell, ?_, ?_,
        hrest, ?_⟩
      · simp [Network.readSockets, hcall, hfresh, hpc, h.state]
      · simp [readStep, hpc, h.state]
      · simp [distance, ReadPc.distance, hpc, hzero]

/-- A lookup finds an address to try. -/
theorem nearer_getaddrinfo (hrest : c.writePc.resting = true) (hpc : c.readPc = .getaddrinfo) :
    c.Nearer host timeout cfg a := by
  refine ⟨.lookup (some [(.ipv4, host)]), .lookup true, { c with readPc := .resolveCheck },
    a.resolved [(.ipv4, host)], rfl, rfl, by simp [readStep, hpc], hrest, ?_⟩
  have haddresses : (a.resolved [(.ipv4, host)]).addresses = [host] := rfl
  have hlack : a.addressCurrent = 0 → (a.resolved [(.ipv4, host)]).lack ≠ 2 := by
    intro hzero
    have hcurrent : (a.resolved [(.ipv4, host)]).addressCurrent = 0 := hzero
    rw [Attempts.lack, haddresses, hcurrent]
    split <;> simp
  simp only [distance, ReadPc.distance, hpc]
  split
  · next htwo => rw [if_neg fun hzero => hlack hzero htwo]; decide
  · split <;> decide

/-- From the switch, by the state it finds. -/
theorem distance_dispatch {st : ConnectionState} (hst : st ≠ .stop) (a : Attempts A) :
    (dispatch st).distance st a < st.distance a.lack := by
  have hlack := a.lack_le
  cases st with
  | stop => exact absurd rfl hst
  | connecting =>
      simp only [dispatch, ReadPc.distance, ConnectionState.distance]
      split
      · omega
      · split <;> simp
  | _ => simp [dispatch, ReadPc.distance, ConnectionState.distance]

theorem received_connack : received System.connack = .connackStore := by decide

/-- A `::send` that takes a whole packet. -/
theorem writeStep_sent {o : Outgoing} {s : Nat} (hpc : c.writePc = .writing o 0)
    (hk : c.socket = some s) (hu : c.usable = true) :
    c.writeStep true (.sent o.encode.length) =
      .ok { (c.begin 0).writeTo s o.encode with
        completed := c.completed ++ [o], writePc := .loop } := by
  have hfits : c.usable = true ∧ 1 ≤ o.encode.length ∧ o.encode.length ≤ o.encode.length :=
    ⟨hu, o.length_encode_pos, Nat.le_refl _⟩
  simp only [writeStep, hpc, hk, Nat.zero_add, if_pos hfits, if_true, List.drop_zero,
    List.take_length]

/-- The read thread goes to another point, and may store a state on its way. -/
theorem nearer_goTo (st : ConnectionState) (pc : ReadPc) (hrest : c.writePc.resting = true)
    (hquiet : c.readPc.touches = false)
    (hr : c.readStep cfg .next = .ok { c with state := st, readPc := pc })
    (hlt : pc.distance st a < c.readPc.distance c.state a) : c.Nearer host timeout cfg a :=
  nearer_next { c with state := st, readPc := pc } a hrest (readSockets_of_quiet hquiet) hr hlt

/-- The read thread sends with priority. -/
theorem nearer_pushFront (o : Outgoing) (backoff : Nat) (pc : ReadPc)
    (hrest : c.writePc.resting = true) (hquiet : c.readPc.touches = false)
    (hr : c.readStep cfg .next = .ok { c.pushFront o with backoff := backoff, readPc := pc })
    (hlt : pc.distance c.state a < c.readPc.distance c.state a) : c.Nearer host timeout cfg a := by
  refine nearer_next _ a ?_ (readSockets_of_quiet hquiet) hr ?_
  · exact resting_notify (c := { c with sendQueue := o :: c.sendQueue }) hrest
  · simpa [distance, pushFront] using hlt

/-- With the write thread at rest and the mutex not needed, the read thread can come nearer
to a new socket, or to the grant of CONNECTED. -/
theorem nearer (host : A) (timeout : Nat) (cfg : Config) (a : Attempts A) (h : c.Up)
    (hrest : c.writePc.resting = true) (haside : c.readPc.aside = false)
    (hwaiting : c.readPc.waiting = false) (hne : c.readPc ≠ .socketStore) :
    c.Nearer host timeout cfg a := by
  have hst := h.state
  have hqf := queueFree_of_resting hrest
  cases hp : c.readPc with
  | socketStore => exact absurd hp hne
  | lockState | lockMessage =>
      rw [hp] at hwaiting
      cases hwaiting
  | stateChange | stopTest | stopClose | stopInvalidate | done =>
      rw [hp] at haside
      cases haside
  | connectToAny => exact nearer_connectToAny h hrest (.inl hp)
  | connectCheck => exact nearer_connectToAny h hrest (.inr hp)
  | getaddrinfo => exact nearer_getaddrinfo hrest hp
  | loop =>
      refine nearer_goTo c.state (dispatch c.state) hrest (by rw [hp]; rfl)
        (by simp [readStep, hp]) ?_
      rw [hp]
      exact distance_dispatch hst a
  | resolve =>
      refine nearer_next { c with socket := none, readPc := .getaddrinfo }
        a.resolve hrest (by simp [Network.readSockets, hp]) (by simp [readStep, hp]) ?_
      have hcurrent : a.resolve.addressCurrent = 0 := rfl
      simp [distance, ReadPc.distance, hp, hcurrent]
  | lookupCallback =>
      exact nearer_goTo c.state .backoffStore hrest (by rw [hp]; rfl)
        (by simp [readStep, hp]) (by simp [hp, ReadPc.distance])
  | resolveCheck =>
      refine nearer_goTo c.state .connectingStore hrest (by rw [hp]; rfl)
        (by simp [readStep, hp, hst]) ?_
      simp only [hp, ReadPc.distance]
      split <;> omega
  | connectingStore =>
      refine nearer_goTo .connecting .loop hrest (by rw [hp]; rfl)
        (by simp [readStep, hp]) ?_
      have hlack := a.lack_le
      simp only [hp, ReadPc.distance, ConnectionState.distance]
      split
      · split <;> omega
      · split <;> split <;> omega
  | backoffStore =>
      exact nearer_goTo .backoff .loop hrest (by rw [hp]; rfl)
        (by simp [readStep, hp]) (by simp [hp, ReadPc.distance, ConnectionState.distance])
  | authCheck =>
      exact nearer_goTo c.state .authStore hrest (by rw [hp]; rfl)
        (by simp [readStep, hp, hst]) (by simp [hp, ReadPc.distance])
  | authStore =>
      exact nearer_goTo .authenticating .sendConnect hrest (by rw [hp]; rfl)
        (by simp [readStep, hp]) (by simp [hp, ReadPc.distance, ConnectionState.distance])
  | sendConnect =>
      exact nearer_pushFront (.connect cfg.connectInfo) cfg.connectionBackoff .loop hrest
        (by rw [hp]; rfl) (by simp [readStep, hp, hqf])
        (by simp [hp, ReadPc.distance])
  | sleep =>
      refine nearer_next { c with
          backoff := min (c.backoff * 2) cfg.connectionBackoffMax, readPc := .resolvingStore }
        a hrest (readSockets_of_quiet (by rw [hp]; rfl)) (by simp [readStep, hp, hst]) ?_
      simp [distance, hp, ReadPc.distance]
  | resolvingStore =>
      exact nearer_goTo .resolving .loop hrest (by rw [hp]; rfl)
        (by simp [readStep, hp]) (by simp [hp, ReadPc.distance, ConnectionState.distance])
  | recv =>
      by_cases hs : c.state = .socketError
      · exact nearer_goTo c.state .recvFailed hrest (by rw [hp]; rfl)
          (by simp [readStep, hp, hs]) (by simp [hp, ReadPc.distance])
      · exact nearer_goTo c.state .recvTimer hrest (by rw [hp]; rfl)
          (by simp [readStep, hp, hs, hst]) (by simp [hp, ReadPc.distance])
  | recvTimer =>
      exact ⟨.timer false, .timer false, { c with readPc := .recvData }, a, trivial, rfl,
        by simp [readStep, hp], hrest, by simp [distance, hp, ReadPc.distance]⟩
  | sendPingRequest =>
      exact nearer_pushFront .pingRequest (c.pushFront .pingRequest).backoff .recvData hrest
        (by rw [hp]; rfl) (by simp [readStep, hp, hqf])
        (by simp [hp, ReadPc.distance])
  | recvData =>
      by_cases hi : c.Introduced cfg
      · exact ⟨.receive (.packet System.connack), _, { c with readPc := .connackStore }, a,
          ⟨rfl, hi⟩, rfl, by simp [readStep, hp, hi.usable, received_connack], hrest,
          by simp [distance, hp, ReadPc.distance]⟩
      · exact ⟨.receive .failed, _, { c with readPc := .recvFailed }, a, hi, rfl,
          by simp [readStep, hp], hrest, by simp [distance, hp, ReadPc.distance]⟩
  | subscribeCallback =>
      exact nearer_goTo c.state .loop hrest (by rw [hp]; rfl)
        (by simp [readStep, hp]) (by simp [hp, ReadPc.distance])
  | connackStore =>
      exact nearer_goTo .connected (.lockState true) hrest (by rw [hp]; rfl)
        (by simp [readStep, hp]) (by simp [hp, ReadPc.distance])
  | recvFailed =>
      exact nearer_goTo c.state .errorStore hrest (by rw [hp]; rfl)
        (by simp [readStep, hp, hst]) (by simp [hp, ReadPc.distance])
  | errorStore =>
      exact nearer_goTo .socketError .errorTest hrest (by rw [hp]; rfl)
        (by simp [readStep, hp]) (by simp [hp, ReadPc.distance, ConnectionState.distance])
  | errorTest =>
      by_cases hk : c.socket = none
      · exact nearer_goTo c.state .loop hrest (by rw [hp]; rfl)
          (by simp [readStep, hp, hk]) (by simp [hp, ReadPc.distance])
      · exact nearer_goTo c.state .errorClose hrest (by rw [hp]; rfl)
          (by simp [readStep, hp, hk]) (by simp [hp, ReadPc.distance])
  | errorClose =>
      refine nearer_next { c with
          closed := c.socket.toList ++ c.closed, readPc := .errorInvalidate }
        a.closeSocket hrest (by simp [Network.readSockets, hp]) (by simp [readStep, hp]) ?_
      have hlack : a.closeSocket.lack = a.lack := rfl
      simp [distance, hp, ReadPc.distance, hlack]
  | errorInvalidate =>
      refine nearer_next { c with socket := none, readPc := .loop }
        a.invalidate hrest (by simp [Network.readSockets, hp]) (by simp [readStep, hp]) ?_
      have hlack : a.invalidate.lack = a.lack := rfl
      simp [distance, hp, ReadPc.distance, hlack]
  | lostStore =>
      exact nearer_goTo .backoff (.lockState false) hrest (by rw [hp]; rfl)
        (by simp [readStep, hp]) (by simp [hp, ReadPc.distance, ConnectionState.distance])
  | clearQueue =>
      refine nearer_next { c with sendQueue := [], enqueued := [], readPc := .loop }
        a hrest (readSockets_of_quiet (by rw [hp]; rfl)) (by simp [readStep, hp, hqf]) ?_
      simp [distance, hp, ReadPc.distance]

end Connection

namespace Network

variable {C A : Type} {host : A} {t : System C} {n n' : Network C A} {b : NetworkAction C A}
  {c c' : Connection} {a' : Attempts A} {k : Nat} {P : Network C A → Prop}

/-- The network with its connection and its sockets in another state. -/
def update (n : Network C A) (c : Connection) (a : Attempts A) : Network C A :=
  { n with system := { n.system with connection := some c }, attempts := a }

theorem steps_of_readStep {i : NetworkInput A} {j : ReadInput} (hc : n.system.connection = some c)
    (hs : readSockets n.connectionTimeout c n.attempts i = some (j, a'))
    (hr : c.readStep n.system.config j = .ok c') : n.Steps (.read i) (n.update c' a') := by
  simp [Steps, step, System.step, hc, hs, hr, Except.map, update]

theorem steps_of_writeStep {i : WriteInput} (hc : n.system.connection = some c)
    (hw : c.writeStep n.system.pointer i = .ok c') :
    n.Steps (.write i) (n.update c' (writeSockets c n.attempts)) := by
  simp [Steps, step, System.step, hc, hw, Except.map, update]

/-- The grant of the mutex makes no connection. -/
theorem steps_of_grant {s : System C} (hs : n.system.Steps .grant s) (hh : s.holder ≠ .assign) :
    n.Steps (.client .grant) { n with system := s } := by
  have hmakes : ¬ Makes n.system s := fun hm => hh hm.2
  simp only [System.Steps] at hs
  simp [Steps, step, hs, Except.map, hmakes]

/-! ## the invariant of the way -/

/-- On the way from `t` to CONNECTED. -/
structure Recovering (t : System C) (n : Network C A) : Prop where
  reachable : n.Reachable
  free : n.system.holder = .free
  connection : n.system.connection.isSome = true
  stateChanges : t.stateChanges <+: n.system.stateChanges

/-- CONNECTED, and reported. -/
structure Recovered (t : System C) (n : Network C A) : Prop where
  state : n.system.impl.state = .connected
  stateChanges : ∃ changes, n.system.stateChanges = t.stateChanges ++ changes ++ [.connected]

theorem reachable_step (h : n.Reachable) (hstep : n.Steps b n') : n'.Reachable := by
  obtain ⟨n₀, bs, h₀, hrun⟩ := h
  exact ⟨n₀, _, h₀, .snoc hrun hstep⟩

theorem Recovering.update (h : Recovering t n) (hstep : n.Steps b (n.update c' a')) :
    Recovering t (n.update c' a') :=
  ⟨reachable_step h.reachable hstep, h.free, rfl, h.stateChanges⟩

theorem Recovering.up (h : Recovering t n) (hc : n.system.connection = some c) :
    c.Up ∧ c.readPc ≠ .stateChange :=
  System.up_of_reachable (system_reachable h.reachable) h.free hc

theorem Recovering.pointer (h : Recovering t n) : n.system.pointer = true := by
  have hwf := System.wellFormed_of_reachable (system_reachable h.reachable)
  simp only [System.WellFormed, h.free] at hwf
  rw [← hwf.2]
  exact h.connection

/-- A step of the read thread, and then the others. -/
theorem can_read (h : Recovering t n) (hc : n.system.connection = some c) {i : NetworkInput A}
    {j : ReadInput} (hwell : c.ReadsWell host n.system.config n.attempts i)
    (hs : readSockets n.connectionTimeout c n.attempts i = some (j, a'))
    (hr : c.readStep n.system.config j = .ok c')
    (hnext : Recovering t (n.update c' a') →
      Can (Guarded Steps (Answers host)) P k (n.update c' a')) :
    Can (Guarded Steps (Answers host)) P (k + 1) n := by
  have hstep := steps_of_readStep hc hs hr
  exact .step (e := .read i) ⟨⟨c, hc, hwell⟩, hstep⟩ (hnext (h.update hstep))

/-- A step of the write thread, and then the others. -/
theorem can_write (h : Recovering t n) (hc : n.system.connection = some c) {i : WriteInput}
    (hwell : c.WritesWell i) (hw : c.writeStep true i = .ok c')
    (hnext : ∀ a', Recovering t (n.update c' a') →
      Can (Guarded Steps (Answers host)) P k (n.update c' a')) :
    Can (Guarded Steps (Answers host)) P (k + 1) n := by
  have hstep := steps_of_writeStep hc (h.pointer ▸ hw)
  exact .step (e := .write i) ⟨⟨c, hc, hwell⟩, hstep⟩ (hnext _ (h.update hstep))

/-! ## the write thread comes to rest -/

/-- The write thread is at rest. -/
structure Rested (t : System C) (n : Network C A) : Prop extends Recovering t n where
  resting : ∀ c, n.system.connection = some c → c.writePc.resting = true

theorem can_rest (h : Recovering t n) : Can (Guarded Steps (Answers host)) (Rested t) 10 n := by
  let unrest (n : Network C A) : Nat := n.system.connection.elim 0 (·.writePc.unrest)
  have hle : unrest n ≤ 9 := by
    simp only [unrest]
    cases n.system.connection with
    | none => simp
    | some c => cases hpc : c.writePc <;> simp [hpc, WritePc.unrest]
  refine (Can.of_rank (I := Recovering t) unrest ?_ h).mono (by omega)
  intro n h hne
  obtain ⟨c, hc⟩ := Option.isSome_iff_exists.mp h.connection
  have hrest : c.writePc.resting = false := by
    by_contra hrest
    refine hne { h with resting := fun d hd => ?_ }
    cases hc.symm.trans hd
    simpa using hrest
  have hprompt := ((System.tended_of_reachable (system_reachable h.reachable)).connection c hc).1
  obtain ⟨i, c', hwell, hw, hlt⟩ :=
    Connection.exists_writeStep_of_unrest (h.up hc).1 hprompt hrest
  have hstep := steps_of_writeStep hc (h.pointer ▸ hw)
  refine ⟨.write i, _, ⟨⟨c, hc, hwell⟩, hstep⟩, .inr ⟨h.update hstep, ?_⟩⟩
  simpa [unrest, Network.update, hc] using hlt

/-! ## the read thread comes to a new socket -/

/-- About to store a new socket, with the write thread at rest. -/
structure Poised (t : System C) (n : Network C A) : Prop extends Rested t n where
  poised : ∃ c, n.system.connection = some c ∧ c.readPc = .socketStore

/-- The steps left to a new socket. -/
def distance (n : Network C A) : Nat :=
  n.system.connection.elim 0 fun c => c.distance n.attempts

theorem distance_le (n : Network C A) : n.distance ≤ 30 := by
  unfold distance
  cases n.system.connection with
  | none => simp
  | some c => exact ReadPc.distance_le _ _ _

/-- CONNECTED is granted. -/
theorem recovered_grant (h : Recovering t n) (hc : n.system.connection = some c)
    (hpc : c.readPc = .lockState true) :
    ∃ n', n.Steps (.client .grant) n' ∧ Recovered t n' := by
  have hstep : n.system.Steps .grant ((n.system.setState .connected).resubscribe
      { c with readPc := .stateChange } n.system.impl.subscriptionTopics.elems) := by
    simp [System.Steps, System.step, hc, System.grant, h.free, hpc]
    rfl
  have hon := System.goesOn_resubscribe { c with readPc := .stateChange }
    n.system.impl.subscriptionTopics.elems (n.system.setState .connected)
  obtain ⟨earlier, hearlier⟩ := h.stateChanges
  refine ⟨_, steps_of_grant hstep hon.not_assign, hon.state, earlier, ?_⟩
  exact hon.stateChanges.trans (by rw [hearlier]; rfl)

/-- The mutex is granted to the read thread. -/
theorem nearer_grant (h : Rested t n) (hc : n.system.connection = some c)
    (hw : c.readPc.waiting = true) :
    ∃ n', n.Steps (.client .grant) n' ∧
      (Recovered t n' ∨ Rested t n' ∧ n'.distance < n.distance) := by
  have hrest := h.resting c hc
  cases hpc : c.readPc with
  | lockState connected =>
      cases connected with
      | true =>
          obtain ⟨n', hstep, hrec⟩ := recovered_grant h.toRecovering hc hpc
          exact ⟨n', hstep, .inl hrec⟩
      | false =>
          have hstep : n.system.Steps .grant { n.system.setState .connecting with
              connection := some { c with readPc := .clearQueue } } := by
            simp [System.Steps, System.step, hc, System.grant, h.free, hpc]
          have hnet := steps_of_grant hstep (by simp [System.setState, h.free])
          refine ⟨_, hnet, .inr ⟨⟨⟨reachable_step h.reachable hnet, h.free, rfl, ?_⟩, ?_⟩, ?_⟩⟩
          · exact h.stateChanges.trans (List.prefix_append _ _)
          · intro d hd
            cases hd
            exact hrest
          · simp [distance, hc, Connection.distance, hpc, ReadPc.distance]
  | lockMessage topic message =>
      have hstep : n.system.Steps .grant { n.system with
          delivered := n.system.delivered ++ n.system.impl.messageReceived topic message
          connection := some { c with readPc := .loop } } := by
        simp [System.Steps, System.step, hc, System.grant, h.free, hpc]
      have hnet := steps_of_grant hstep (by simp [h.free])
      refine ⟨_, hnet, .inr ⟨⟨⟨reachable_step h.reachable hnet, h.free, rfl, ?_⟩, ?_⟩, ?_⟩⟩
      · exact h.stateChanges
      · intro d hd
        cases hd
        exact hrest
      · simp [distance, hc, Connection.distance, hpc, ReadPc.distance]
  | _ =>
      rw [hpc] at hw
      cases hw

/-- The read thread comes to a new socket, unless CONNECTED is granted before. -/
theorem can_poise (h : Rested t n) :
    Can (Guarded Steps (Answers host)) (fun n => Poised t n ∨ Recovered t n) 31 n := by
  have hle := n.distance_le
  refine (Can.of_rank (I := Rested t) distance ?_ h).mono (by omega)
  intro n h hne
  rw [not_or] at hne
  obtain ⟨c, hc⟩ := Option.isSome_iff_exists.mp h.connection
  obtain ⟨hup, hchange⟩ := h.up hc
  have hrest := h.resting c hc
  have hstore : c.readPc ≠ .socketStore := fun hpc => hne.1 { h with poised := ⟨c, hc, hpc⟩ }
  cases hw : c.readPc.waiting with
  | true =>
      obtain ⟨n', hstep, hrec | hnear⟩ := nearer_grant h hc hw
      · exact ⟨.client .grant, n', ⟨trivial, hstep⟩, .inl (.inr hrec)⟩
      · exact ⟨.client .grant, n', ⟨trivial, hstep⟩, .inr hnear⟩
  | false =>
      obtain ⟨i, j, c', a', hwell, hs, hr, hrest', hlt⟩ :=
        Connection.nearer host n.connectionTimeout n.system.config n.attempts hup hrest
          (hup.readPc.resolve_right hchange) hw hstore
      have hstep := steps_of_readStep hc hs hr
      refine ⟨.read i, _, ⟨⟨c, hc, hwell⟩, hstep⟩, .inr ⟨?_, ?_⟩⟩
      · refine { h.update hstep with resting := fun d hd => ?_ }
        cases hd
        exact hrest'
      · simpa [distance, Network.update, hc] using hlt

/-! ## the handshake -/

/-- The CONNACK comes, and the mutex is free. -/
theorem can_answer (h : Recovering t n) (hc : n.system.connection = some c)
    (hpc : c.readPc = .recvData) (hi : c.Introduced n.system.config) :
    Can (Guarded Steps (Answers host)) (Recovered t) 3 n := by
  have hanswered : c.readStep n.system.config (.receive (.packet System.connack)) =
      .ok { c with readPc := .connackStore } := by
    simp [Connection.readStep, hpc, hi.usable, Connection.received_connack]
  refine can_read (i := .receive (.packet System.connack)) h hc ⟨rfl, hi⟩ rfl hanswered
    fun h => ?_
  refine can_read (i := .next) h rfl trivial rfl rfl fun h => ?_
  obtain ⟨n', hstep, hrec⟩ := recovered_grant h rfl rfl
  exact .step (e := .client .grant) ⟨trivial, hstep⟩ (.now hrec)

/-- The read thread waits for the CONNACK. -/
theorem can_receive (h : Recovering t n) (hc : n.system.connection = some c)
    (hpc : c.readPc = .loop) (hi : c.Introduced n.system.config) :
    Can (Guarded Steps (Answers host)) (Recovered t) 6 n := by
  have hquiet : c.readPc.touches = false := by
    rw [hpc]
    rfl
  have hswitched : c.readStep n.system.config .next = .ok { c with readPc := .recv } := by
    simp [Connection.readStep, hpc, hi.state, Connection.dispatch]
  have hselected : { c with readPc := .recv }.readStep n.system.config .next =
      .ok { c with readPc := .recvTimer } := by
    simp [Connection.readStep, hi.state]
  refine can_read (i := .next) h hc trivial (Connection.readSockets_of_quiet hquiet) hswitched
    fun h => ?_
  refine can_read (i := .next) h rfl trivial rfl hselected fun h => ?_
  refine can_read (i := .timer false) h rfl trivial rfl rfl fun h => ?_
  exact can_answer h rfl rfl ⟨hi.state, hi.usable, hi.connect⟩

/-- A new socket to which nothing has been written, with the read thread at this point. -/
structure Introducing (n : Network C A) (c : Connection) (pc : ReadPc) (s : Nat) : Prop where
  connection : n.system.connection = some c
  readPc : c.readPc = pc
  state : c.state = .authenticating
  socket : c.socket = some s
  usable : c.usable = true
  wires : c.wires s = []

/-- The write thread writes the CONNECT. -/
theorem can_introduce {s : Nat} (h : Recovering t n) (hi : Introducing n c .loop s)
    (hpc : c.writePc = .holding (.connect n.system.config.connectInfo)) :
    Can (Guarded Steps (Answers host)) (Recovered t) 8 n := by
  let o : Outgoing := .connect n.system.config.connectInfo
  have htaken : c.writeStep true .next = .ok { c with writePc := .writing o 0 } := by
    simp [Connection.writeStep, hpc, hi.state, ConnectionState.online, o]
  refine can_write (i := .next) h hi.connection (by simp [Connection.WritesWell, hpc]) htaken
    fun a' h => ?_
  have hwritten := Connection.writeStep_sent (c := { c with writePc := .writing o 0 })
    rfl hi.socket hi.usable
  refine can_write (i := .sent o.encode.length) h rfl trivial hwritten fun a' h => ?_
  refine can_receive h rfl hi.readPc ⟨hi.state, hi.usable, s, hi.socket, ?_⟩
  change o.encode <+: if s = s then c.wires s ++ o.encode else c.wires s
  rw [if_pos rfl, hi.wires, List.nil_append]

/-- The write thread wakes up for it, and takes it off the queue. -/
theorem can_take {s : Nat} (h : Recovering t n) (hi : Introducing n c .loop s)
    (hrest : c.writePc = .loop ∨ c.writePc = .wait) {q : List Outgoing}
    (hq : c.sendQueue = .connect n.system.config.connectInfo :: q) :
    Can (Guarded Steps (Answers host)) (Recovered t) 10 n := by
  have hwell : c.WritesWell .next := by
    obtain hpc | hpc := hrest <;> simp [Connection.WritesWell, hpc]
  obtain ⟨pc, hpc', hw⟩ : ∃ pc, (pc = .pop ∨ pc = .woken) ∧
      c.writeStep true .next = .ok { c with writePc := pc } := by
    obtain hpc | hpc := hrest
    · exact ⟨.pop, .inl rfl, by
        simp [Connection.writeStep, hpc, hi.state, ConnectionState.online]⟩
    · exact ⟨.woken, .inr rfl, by simp [Connection.writeStep, hpc, hq]⟩
  refine can_write (i := .next) h hi.connection hwell hw fun a' h => ?_
  let o : Outgoing := .connect n.system.config.connectInfo
  have htaken : { c with writePc := pc }.writeStep true .next =
      .ok { c with sendQueue := q, writePc := .holding o } := by
    obtain rfl | rfl := hpc' <;> simp [Connection.writeStep, Connection.pop, hq, hi.state, o]
  refine can_write (i := .next) h rfl (by obtain rfl | rfl := hpc' <;> simp [Connection.WritesWell])
    htaken fun a'' h => ?_
  exact can_introduce h ⟨rfl, hi.readPc, hi.state, hi.socket, hi.usable, hi.wires⟩ rfl

/-- The read thread queues it. -/
theorem can_queue {s : Nat} (h : Recovering t n) (hi : Introducing n c .sendConnect s)
    (hrest : c.writePc.resting = true) :
    Can (Guarded Steps (Answers host)) (Recovered t) 11 n := by
  let o : Outgoing := .connect n.system.config.connectInfo
  let d : Connection := { c.pushFront o with
    backoff := n.system.config.connectionBackoff, readPc := .loop }
  have hqueued : c.readStep n.system.config .next = .ok d := by
    simp [Connection.readStep, hi.readPc, Connection.queueFree_of_resting hrest, d, o]
  have hquiet : c.readPc.touches = false := by
    rw [hi.readPc]
    rfl
  refine can_read (i := .next) h hi.connection trivial (Connection.readSockets_of_quiet hquiet)
    hqueued fun h => ?_
  have husable : d.usable = true :=
    (Connection.usable_congr (Connection.socket_notify _) (Connection.closed_notify _)).trans
      hi.usable
  refine can_take (c := d) (s := s) (q := c.sendQueue) h ⟨rfl, rfl, ?_, ?_, husable, ?_⟩ ?_ ?_
  · exact (Connection.state_notify _).trans hi.state
  · exact (Connection.socket_notify _).trans hi.socket
  · exact (congrFun (Connection.wires_notify _) s).trans hi.wires
  · exact Connection.awake_notify (c := { c with sendQueue := o :: c.sendQueue }) hrest
  · exact Connection.sendQueue_notify _

/-- The read thread stores the new socket. -/
theorem can_greet (h : Poised t n) : Can (Guarded Steps (Answers host)) (Recovered t) 14 n := by
  obtain ⟨c, hc, hpc⟩ := h.poised
  have hup := (h.up hc).1
  have hrest := h.resting c hc
  let d : Connection :=
    { c with socket := some c.sockets, sockets := c.sockets + 1, readPc := .authCheck }
  have hstored : c.readStep n.system.config .next = .ok d := by simp [Connection.readStep, hpc, d]
  have hsockets : readSockets n.connectionTimeout c n.attempts .next =
      some (.next, n.attempts.storeSocket) := by
    simp [readSockets, hpc]
  refine can_read (i := .next) h.toRecovering hc trivial hsockets hstored fun h => ?_
  have hchecked : d.readStep n.system.config .next = .ok { d with readPc := .authStore } := by
    simp [Connection.readStep, d, hup.state]
  refine can_read (i := .next) h rfl trivial rfl hchecked fun h => ?_
  refine can_read (i := .next) h rfl trivial rfl rfl fun h => ?_
  have husable : d.usable = true :=
    decide_eq_true fun hmem => Nat.lt_irrefl _ (hup.closed _ hmem)
  exact can_queue h ⟨rfl, rfl, rfl, rfl, husable, hup.unused _ (Nat.le_refl _)⟩ hrest

/-- **No dead end**: wherever a client that is not disconnected stands, its threads can
bring it to CONNECTED in at most 55 steps, in a network and with a broker that answer. -/
theorem recovers (host : A) (hr : n.Reachable) (hfree : n.system.holder = .free)
    (hst : n.system.impl.state ≠ .disconnected) :
    ∃ bs n', Run (Guarded Steps (Answers host)) n bs n' ∧ bs.length ≤ 55 ∧
      Recovered n.system n' := by
  have hwf := System.wellFormed_of_reachable (system_reachable hr)
  simp only [System.WellFormed, hfree] at hwf
  have hstart : Recovering n.system n :=
    { reachable := hr
      free := hfree
      connection := by
        rw [hwf.2]
        simpa using mt hwf.1.mpr hst
      stateChanges := List.prefix_refl _ }
  have hpoised : Can (Guarded Steps (Answers host)) (Recovered n.system) (10 + (31 + 14)) n := by
    refine (can_rest hstart).trans fun m hm => (can_poise hm).trans fun m hm => ?_
    obtain hm | hm := hm
    · exact can_greet hm
    · exact .now hm
  exact hpoised.exists_run

/-- A client connects, and the broker closes the connection when a part of the CONNECT is
written. -/
def closedInConnect : List (NetworkAction Unit Nat) :=
  [.client (.call .connect), .client .hold, .read .next, .read .next,
    .read (.lookup (some [(.ipv6, 1)])), .read .next, .read .next, .read .next,
    .read (.turn { dial := .pending 3 }), .read .next, .read .next,
    .read (.turn { polled := .ready [3] [] }), .read .next, .read .next, .read .next, .read .next,
    .write .next, .write .next, .write .next, .write (.sent 5), .read .next, .read .next,
    .read (.timer false), .read (.receive .failed), .read .next, .read .next]

theorem recovers_closedInConnect : ∃ (bs : List (NetworkAction Unit Nat)) (n n' : Network Unit Nat),
    n.system.connection.any (fun c => c.readPc = .errorTest ∧
        c.writePc = .writing (.connect { clientId := [] }) 5) = true ∧
      Run (Guarded Steps (Answers 2)) n bs n' ∧ bs.length ≤ 55 ∧ Recovered n.system n' := by
  obtain ⟨n, hrun, htest⟩ := run_of_exec closedInConnect
    (fun n => n.system.holder = .free ∧ n.system.impl.state = .connecting ∧
      n.system.connection.any fun c => c.readPc = .errorTest ∧
        c.writePc = .writing (.connect { clientId := [] }) 5)
    (by decide +kernel)
  obtain ⟨hfree, hst, hany⟩ := of_decide_eq_true htest
  obtain ⟨bs, n', hback⟩ := recovers 2 ⟨{}, _, initial_default, hrun⟩ hfree (by rw [hst]; decide)
  exact ⟨bs, n, n', hany, hback⟩

end Network

end TrueMqtt
