import TrueMqtt.Network.Custody

/-!
# TrueMqtt.Network.Sockets

The read thread's own bookkeeping of its sockets, through resolving, connecting,
losing the connection and backing off, until a STOP arrives at any point: which of
`m_sockets`, `socket_connected` and `m_socket` are in use where (`SocketPhase`), and
that `m_socket_to_address` follows `m_sockets` (`read_sockets_kept`).

The write thread takes part as long as no `::send` fails, since its `socketError` works
on the same `m_socket`.
-/

namespace TrueMqtt

/-- Which sockets the read thread has. -/
inductive SocketPhase where
  /-- none -/
  | idle
  /-- pending attempts, if any -/
  | connecting
  /-- the one chosen, which is not stored yet -/
  | chosen
  /-- `m_socket` -/
  | up
  /-- what there was when STOP was seen -/
  | stopping
deriving DecidableEq, Repr

namespace SocketPhase

/-- The phases a read thread passes to without touching its sockets. -/
def passesTo (p q : SocketPhase) : Bool :=
  p = q ∨ (p = idle ∧ q = connecting) ∨ (p ≠ chosen ∧ q = stopping)

theorem passesTo_refl (p : SocketPhase) : p.passesTo p = true := by cases p <;> rfl

end SocketPhase

namespace ReadPc

def phase (st : ConnectionState) : ReadPc → SocketPhase
  | loop => match st with
      | .resolving | .backoff | .socketError => .idle
      | .connecting => .connecting
      | .authenticating | .connected => .up
      | .stop => .stopping
  | resolve | getaddrinfo | lookupCallback | resolveCheck | connectingStore | backoffStore | sleep
  | resolvingStore | lostStore | lockState false | clearQueue => .idle
  | connectToAny | connectCheck => .connecting
  | socketStore => .chosen
  | stopTest | stopClose | stopInvalidate | done => .stopping
  | _ => .up

/-- The states the read thread can be there in, as long as it is the only one to store
states but STOP. -/
def allows (st : ConnectionState) : ReadPc → Bool
  | loop => true
  | resolve | getaddrinfo | lookupCallback | resolveCheck | connectingStore =>
      st = .resolving ∨ st = .stop
  | backoffStore => st = .resolving ∨ st = .connecting ∨ st = .stop
  | connectToAny | connectCheck | socketStore | authCheck | authStore =>
      st = .connecting ∨ st = .stop
  | sendConnect => st = .authenticating ∨ st = .stop
  | sleep | resolvingStore | lockState false | clearQueue => st = .backoff ∨ st = .stop
  | errorTest | errorClose | errorInvalidate | lostStore => st = .socketError ∨ st = .stop
  | stopTest | stopClose | stopInvalidate | done => st = .stop
  | _ => st.online ∨ st = .stop

/-- A STOP may arrive anywhere, and is seen in the loop. -/
theorem allows_stop (pc : ReadPc) : pc.allows .stop = true := by
  cases pc with
  | lockState connected => cases connected <;> rfl
  | _ => rfl

theorem phase_stop (st : ConnectionState) (pc : ReadPc) :
    (pc.phase st).passesTo (pc.phase .stop) = true := by
  cases pc with
  | loop => cases st <;> rfl
  | lockState connected => cases connected <;> rfl
  | _ => rfl

theorem state_of_connecting {pc : ReadPc} {st : ConnectionState} (h : pc.allows st = true)
    (hp : pc.phase st = .connecting) : st = .connecting ∨ st = .stop := by
  cases pc with
  | lockState connected => cases connected <;> cases hp
  | loop => cases st <;> simp_all [phase]
  | connectToAny => exact of_decide_eq_true h
  | connectCheck => exact of_decide_eq_true h
  | _ => cases hp

theorem state_of_stopping {pc : ReadPc} {st : ConnectionState} (h : pc.allows st = true)
    (hp : pc.phase st = .stopping) : st = .stop := by
  cases pc with
  | lockState connected => cases connected <;> cases hp
  | loop => cases st <;> simp_all [phase]
  | stopTest => exact of_decide_eq_true h
  | stopClose => exact of_decide_eq_true h
  | stopInvalidate => exact of_decide_eq_true h
  | done => exact of_decide_eq_true h
  | _ => cases hp

/-- The read thread has `m_socket` in AUTHENTICATING and CONNECTED. -/
theorem phase_of_online {pc : ReadPc} {st : ConnectionState} (h : pc.allows st = true)
    (hst : st.online = true) : pc.phase st = .up := by
  cases pc with
  | lockState connected =>
      cases connected <;> cases st <;> simp_all [allows, phase, ConnectionState.online]
  | _ => cases st <;> simp_all [allows, phase, ConnectionState.online]

end ReadPc

namespace Connection

variable {cfg : Config} {c c' : Connection}

/-- Where the read thread goes without touching its sockets. -/
structure PassesOn (c c' : Connection) : Prop where
  allowed : c'.readPc.allows c'.state = true
  phase : (c.readPc.phase c.state).passesTo (c'.readPc.phase c'.state) = true
  closing : c'.readPc.closing = c.readPc.closing
  getaddrinfo : c'.readPc = .getaddrinfo → c.readPc = .getaddrinfo

theorem passesOn_dispatch (hpc : c.readPc = .loop) :
    PassesOn c { c with readPc := dispatch c.state } := by
  cases hst : c.state
  all_goals constructor
  all_goals simp [dispatch, hpc, hst, ReadPc.allows, ReadPc.phase, ReadPc.closing,
    SocketPhase.passesTo, ConnectionState.online]

theorem passesOn_received (p : Packet) (hpc : c.readPc = .recvData)
    (hst : c.readPc.allows c.state = true) : PassesOn c { c with readPc := received p } := by
  rw [hpc] at hst
  obtain h | h | h | h | ⟨topic, message, h⟩ := received_cases p
  case inl =>
    -- back to the loop, whose phase is that of the state
    rw [h]
    cases hs : c.state
    all_goals simp [hs, ReadPc.allows, ConnectionState.online] at hst
    all_goals constructor
    all_goals simp [hpc, ReadPc.allows, ReadPc.phase, ReadPc.closing, SocketPhase.passesTo]
  all_goals
    rw [h]
    exact ⟨hst, by rw [hpc]; rfl, by rw [hpc]; rfl, fun hg => by cases hg⟩

/-- The steps around the lookup and the select. -/
theorem passesOn_seeking {pc : ReadPc} (hst : c.readPc.allows c.state = true)
    (hpc : (c.readPc = .getaddrinfo ∧ (pc = .resolveCheck ∨ pc = .lookupCallback)) ∨
      (c.readPc = .connectToAny ∧ pc = .connectCheck) ∨
      (c.readPc = .connectCheck ∧ c.state = .stop ∧ pc = .loop)) :
    PassesOn c { c with readPc := pc } := by
  obtain ⟨hpc, rfl | rfl⟩ | ⟨hpc, rfl⟩ | ⟨hpc, hs, rfl⟩ := hpc
  all_goals constructor
  all_goals simp_all [ReadPc.allows, ReadPc.phase, ReadPc.closing, SocketPhase.passesTo]

/-- The steps of the client. -/
theorem passesOn_between (hst : c.readPc.allows c.state = true) (h : Between c c') :
    PassesOn c c' := by
  cases h with
  | same hpc hs =>
      refine ⟨?_, ?_, by rw [hpc], fun h => hpc ▸ h⟩
      · rw [hpc, hs]
        exact hst
      · rw [hpc, hs]
        exact SocketPhase.passesTo_refl _
  | stop hpc hs =>
      refine ⟨?_, ?_, by rw [hpc], fun h => hpc ▸ h⟩
      · rw [hpc, hs]
        exact ReadPc.allows_stop _
      · rw [hpc, hs]
        exact ReadPc.phase_stop _ _
  | resumed hpc hpc' hs =>
      cases hs' : c.state
      all_goals
        obtain hpc | hpc | ⟨topic, message, hpc⟩ := hpc <;>
          simp [hpc, hs', ReadPc.allows, ConnectionState.online] at hst
      all_goals
        obtain hpc' | hpc' := hpc' <;> constructor <;>
          simp [hpc, hpc', hs, hs', ReadPc.allows, ReadPc.phase, ReadPc.closing,
            SocketPhase.passesTo, ConnectionState.online]
  | lost hpc hpc' hs =>
      rw [hpc] at hst
      constructor
      · rw [hpc', hs]
        exact hst
      · rw [hpc, hpc', hs]
        rfl
      · rw [hpc, hpc']
        rfl
      · simp [hpc']

/-- A socket is there when `socketError` tests it. -/
theorem passesOn_of_readStep {i : ReadInput} (hpc : c.readPc.touches = false)
    (hst : c.readPc.allows c.state = true) (hsocket : c.readPc = .errorTest → c.socket ≠ none)
    (h : c.readStep cfg i = .ok c') : PassesOn c c' := by
  cases readBranch_of_readStep h with
  | dispatch hpc' => exact passesOn_dispatch hpc'
  | received hpc' => exact passesOn_received _ hpc' hst
  | resolve hpc' | lookup hpc' | lookupFails hpc' | select hpc' | tried hpc' | untried hpc'
  | connectStop hpc' | pending hpc' | exhausted hpc' | established hpc' | socketStore hpc'
  | errorClose hpc' | errorInvalidate hpc' | stopClose hpc' | stopInvalidate hpc' =>
      rw [hpc'] at hpc
      cases hpc
  | errorGone hpc' hk => exact absurd hk (hsocket hpc')
  | connectingStore hpc' | backoffStore hpc' | authStore hpc' | resolvingStore hpc'
  | connackStore hpc' | errorStore hpc' | lostStore hpc' =>
      exact ⟨rfl, by rw [hpc']; rfl, by rw [hpc']; rfl, fun hg => by cases hg⟩
  | resolveStop hpc' hs | authStop hpc' hs | sleepStop hpc' hs | failedStop hpc' hs =>
      exact ⟨rfl, by simp only [hpc', hs]; rfl, by rw [hpc']; rfl, fun hg => by cases hg⟩
  | sendConnect hpc' | subscribeCallback hpc' | clearQueue hpc' =>
      -- back to the loop, whose phase is that of the state
      rw [hpc'] at hst
      cases hs : c.state
      all_goals simp [hs, ReadPc.allows, ConnectionState.online] at hst
      all_goals constructor
      all_goals simp [hpc', hs, pushFront, ReadPc.allows, ReadPc.phase, ReadPc.closing,
        SocketPhase.passesTo]
  | lookupCallback hpc' =>
      rw [hpc'] at hst
      have hor : c.state = .resolving ∨ c.state = .stop := of_decide_eq_true hst
      exact ⟨decide_eq_true (hor.imp_right .inr), by rw [hpc']; rfl, by rw [hpc']; rfl,
        fun hg => by cases hg⟩
  | sendPingRequest hpc' =>
      have hkeep : (c.pushFront .pingRequest).state = c.state := state_notify _
      rw [hpc', ← hkeep] at hst
      exact ⟨hst, by rw [hpc']; rfl, by rw [hpc']; rfl, fun hg => by cases hg⟩
  | _ hpc' =>
      rw [hpc'] at hst
      exact ⟨hst, by rw [hpc']; rfl, by rw [hpc']; rfl, fun hg => by cases hg⟩

/-- Only a failed `::send` leads the write thread away from sending. -/
theorem writes_of_not_failing {pointer : Bool} {i : WriteInput}
    (hfail : c.writePc.failing = false) (hi : i ≠ .failed)
    (h : c.writeStep pointer i = .ok c') :
    c'.writePc.failing = false ∧ c'.socket = c.socket ∧ c'.state = c.state := by
  cases writeBranch_of_writeStep h with
  | fail => exact absurd rfl hi
  | errorPtr hpc | errorStore hpc | errorGone hpc | errorTest hpc | errorClose hpc
  | errorInvalidate hpc =>
      rw [hpc] at hfail
      cases hfail
  | spin => exact ⟨hfail, rfl, rfl⟩
  | _ => exact ⟨rfl, rfl, rfl⟩

end Connection

namespace Attempts

variable {A : Type} {a a' : Attempts A} {p q : SocketPhase}

/-- The sockets in use in a phase. -/
def InPhase (a : Attempts A) : SocketPhase → Prop
  | .idle => a.sockets = [] ∧ a.socketConnected = none ∧ a.socket = none
  | .connecting => a.socketConnected = none ∧ a.socket = none
  | .chosen => a.sockets = [] ∧ a.socketConnected.isSome = true ∧ a.socket = none
  | .up => a.sockets = [] ∧ a.socketConnected = none ∧ a.socket.isSome = true
  | .stopping => a.socketConnected = none ∧ (a.sockets = [] ∨ a.socket = none)

theorem inPhase_of_passesTo (h : a.InPhase p) (hpq : p.passesTo q = true) : a.InPhase q := by
  have hpq' : p = q ∨ (p = .idle ∧ q = .connecting) ∨ (p ≠ .chosen ∧ q = .stopping) := by
    simpa [SocketPhase.passesTo] using hpq
  obtain rfl | ⟨rfl, rfl⟩ | ⟨hp, rfl⟩ := hpq'
  · exact h
  · exact h.2
  · cases p with
    | idle => exact ⟨h.2.1, .inl h.1⟩
    | connecting => exact ⟨h.1, .inr h.2⟩
    | chosen => exact absurd rfl hp
    | up => exact ⟨h.2.1, .inl h.1⟩
    | stopping => exact h

end Attempts

namespace Network

variable {C A : Type} {cfg : Config} {c c' : Connection} {a a' : Attempts A}

/-- The sockets of the read thread at each point of it, with a write thread that does not
fail. -/
structure Placed (c : Connection) (a : Attempts A) : Prop where
  writer : c.writePc.failing = false
  allowed : c.readPc.allows c.state = true
  phase : a.InPhase (c.readPc.phase c.state)
  getaddrinfo : c.readPc = .getaddrinfo → a.addressCurrent = 0
  socket : c.socket.isSome = a.socket.isSome
  ordered : a.Ordered a.sockets
  holds : a.Holds (own c a)

theorem errorInvalidate_of_failing {pc : WritePc} (h : pc.failing = false) :
    pc ≠ .errorInvalidate := by
  rintro rfl
  cases h

/-- A step that leaves the sockets alone. -/
theorem placed_of_passesOn (h : Placed c a) (hp : c.PassesOn c') (hk : c'.socket = c.socket)
    (hw : c'.writePc = c.writePc ∨ (c.writePc = .blocked ∧ c'.writePc = .wait)) :
    Placed c' a where
  writer := by
    obtain hw | ⟨-, hw⟩ := hw
    · rw [hw]
      exact h.writer
    · rw [hw]
      rfl
  allowed := hp.allowed
  phase := Attempts.inPhase_of_passesTo h.phase hp.phase
  getaddrinfo := fun hpc => h.getaddrinfo (hp.getaddrinfo hpc)
  socket := by
    rw [hk]
    exact h.socket
  ordered := h.ordered
  holds := by
    have hown : own c' a = own c a :=
      own_congr hp.closing (errorInvalidate_of_woken hw) rfl
    rw [hown]
    exact h.holds

theorem placed_new : Placed (.new cfg) ({} : Attempts A) where
  writer := rfl
  allowed := rfl
  phase := ⟨rfl, rfl, rfl⟩
  getaddrinfo := fun hpc => (nomatch hpc)
  socket := rfl
  ordered := ⟨rfl, Nat.le_refl 0, .nil, fun _ hfd => (nomatch hfd), fun _ _ => rfl, rfl⟩
  holds := Handles.Holds.empty

/-! ## the steps of the read thread -/

theorem placed_resolve (h : Placed c a) (hpc : c.readPc = .resolve) :
    Placed { c with socket := none, readPc := .getaddrinfo } a.resolve := by
  have hphase := h.phase
  rw [hpc] at hphase
  obtain ⟨hsockets, hchosen, hsocket⟩ := hphase
  have hallowed := h.allowed
  rw [hpc] at hallowed
  have hown : own c a = [] := own_of_none hsocket
  refine ⟨h.writer, hallowed, ⟨hsockets, hchosen, rfl⟩, fun _ => rfl, rfl, ?_, ?_⟩
  · have ho := h.ordered
    have hs : a.resolve.sockets = [] := hsockets
    rw [hs]
    rw [hsockets] at ho
    exact ⟨rfl, Nat.le_refl 0, .nil, fun _ hfd => (nomatch hfd), ho.stale, ho.missed⟩
  · rw [own_of_none rfl, ← hown]
    exact h.holds

theorem placed_resolved {found : List (Family × A)} {pc : ReadPc} (h : Placed c a)
    (hpc : c.readPc = .getaddrinfo) (hpc' : pc = .resolveCheck ∨ pc = .lookupCallback) :
    Placed { c with readPc := pc } (a.resolved found) := by
  have hphase := h.phase
  have hkeep : Placed { c with readPc := pc } a :=
    placed_of_passesOn h (Connection.passesOn_seeking h.allowed (.inl ⟨hpc, hpc'⟩)) rfl (.inl rfl)
  rw [hpc] at hphase
  have hsockets : (a.resolved found).sockets = [] := hphase.1
  have ho := h.ordered
  have hfirst := h.getaddrinfo hpc
  rw [hphase.1] at ho
  refine ⟨hkeep.writer, hkeep.allowed, hkeep.phase, hkeep.getaddrinfo, hkeep.socket, ?_,
    hkeep.holds⟩
  rw [hsockets]
  refine ⟨?_, ?_, .nil, fun _ hfd => (nomatch hfd), ho.stale, ho.missed⟩
  · show a.dialed = List.take a.addressCurrent _
    rw [ho.dialed, hfirst, List.take_zero, List.take_zero]
  · show a.addressCurrent ≤ _
    rw [hfirst]
    exact Nat.zero_le _

theorem placed_called {t : Turn} {r : Attempt} (h : Placed c a)
    (hpc : c.readPc = .connectToAny ∨ c.readPc = .connectCheck)
    (hd : t.dial.fresh a.handles = true) (hcalled : a.Called t a' r) :
    Placed { c with readPc := r.next } a' := by
  have hphase := h.phase
  have hconnecting : a.InPhase .connecting ∧ (c.state = .connecting ∨ c.state = .stop) ∧
      c.readPc.closing = false := by
    have hallowed := h.allowed
    obtain hpc | hpc := hpc
    all_goals
      rw [hpc] at hphase hallowed ⊢
      exact ⟨hphase, of_decide_eq_true hallowed, rfl⟩
  obtain ⟨⟨hnone, hsocket⟩, hst, hclosing⟩ := hconnecting
  have hsocket' := (Attempts.frame_called hcalled).2
  have hown : own { c with readPc := r.next } a' = own c a :=
    own_congr (by rw [hclosing]; cases r <;> rfl) Iff.rfl hsocket'
  obtain ⟨hresult, hover⟩ := Attempts.results_called hnone hcalled
  refine ⟨h.writer, ?_, ?_, ?_, ?_, ?_, ?_⟩
  · obtain hst | hst := hst <;> cases r <;> simp [hst, Attempt.next, ReadPc.allows]
  · rw [hsocket] at hsocket'
    cases r with
    | pending =>
        have hnone' : a'.socketConnected = none := by simpa using hresult
        obtain hst | hst := hst
        · simp [hst, Attempt.next, ReadPc.phase, Attempts.InPhase, hnone', hsocket']
        · simp [hst, Attempt.next, ReadPc.phase, Attempts.InPhase, hnone', hsocket']
    | exhausted =>
        have hnone' : a'.socketConnected = none := by simpa using hresult
        exact ⟨hover (by decide), hnone', hsocket'⟩
    | established => exact ⟨hover (by decide), hresult.mp rfl, hsocket'⟩
  · cases r <;> simp [Attempt.next]
  · rw [hsocket']
    exact h.socket
  · exact Attempts.ordered_called h.ordered h.holds hd hcalled
  · rw [hown]
    exact Attempts.holds_called h.holds hnone hd hcalled

theorem placed_store (h : Placed c a) (hpc : c.readPc = .socketStore) :
    Placed { c with socket := some c.sockets, sockets := c.sockets + 1, readPc := .authCheck }
      a.storeSocket := by
  have hphase := h.phase
  have hwriter := errorInvalidate_of_failing h.writer
  have hallowed := h.allowed
  rw [hpc] at hphase hallowed
  obtain ⟨hsockets, hchosen, hsocket⟩ := hphase
  have hnone : own c a = [] := own_of_none hsocket
  have hown : own { c with
      socket := some c.sockets, sockets := c.sockets + 1, readPc := .authCheck } a.storeSocket =
      a.storeSocket.socket.toList := own_of_open rfl hwriter
  refine ⟨h.writer, hallowed, ⟨hsockets, rfl, hchosen⟩, fun hpc' => (nomatch hpc'), ?_, ?_, ?_⟩
  · exact hchosen.symm
  · exact Attempts.ordered_of_same h.ordered _ _ _ _
  · rw [hown]
    exact Attempts.holds_storeSocket (hnone ▸ h.holds)

theorem placed_close {pc : ReadPc} (h : Placed c a)
    (hpc : c.readPc = .errorClose ∧ pc = .errorInvalidate ∨
      c.readPc = .stopClose ∧ pc = .stopInvalidate) :
    Placed { c with closed := c.socket.toList ++ c.closed, readPc := pc } a.closeSocket := by
  have hphase := h.phase
  have hwriter := errorInvalidate_of_failing h.writer
  have hallowed := h.allowed
  have hclosing : c.readPc.closing = false ∧ pc.closing = true ∧ pc ≠ .getaddrinfo := by
    obtain ⟨hpc, rfl⟩ | ⟨hpc, rfl⟩ := hpc
    all_goals exact ⟨by rw [hpc]; rfl, rfl, by simp⟩
  have hopen : own c a = a.socket.toList := own_of_open hclosing.1 hwriter
  have hown : own { c with closed := c.socket.toList ++ c.closed, readPc := pc }
      a.closeSocket = [] := own_of_closing hclosing.2.1
  refine ⟨h.writer, ?_, ?_, fun hpc' => absurd hpc' hclosing.2.2, h.socket, ?_, ?_⟩
  · obtain ⟨hpc, rfl⟩ | ⟨hpc, rfl⟩ := hpc
    all_goals
      rw [hpc] at hallowed
      exact hallowed
  · obtain ⟨hpc, rfl⟩ | ⟨hpc, rfl⟩ := hpc
    all_goals
      rw [hpc] at hphase
      exact hphase
  · exact Attempts.ordered_of_same h.ordered _ _ _ _
  · rw [hown]
    exact Attempts.holds_closeSocket (hopen ▸ h.holds)

theorem placed_invalidate {pc : ReadPc} (h : Placed c a)
    (hpc : c.readPc = .errorInvalidate ∧ pc = .loop ∨ c.readPc = .stopInvalidate ∧ pc = .done) :
    Placed { c with socket := none, readPc := pc } a.invalidate := by
  have hphase := h.phase
  have hallowed := h.allowed
  have hclosed : own c a = [] := by
    obtain ⟨hpc, -⟩ | ⟨hpc, -⟩ := hpc
    all_goals exact own_of_closing (by rw [hpc]; rfl)
  refine ⟨h.writer, ?_, ?_, ?_, rfl, ?_, ?_⟩
  · obtain ⟨hpc, rfl⟩ | ⟨hpc, rfl⟩ := hpc
    · rfl
    · rw [hpc] at hallowed
      exact hallowed
  · obtain ⟨hpc, rfl⟩ | ⟨hpc, rfl⟩ := hpc
    · rw [hpc] at hphase hallowed
      have hst : c.state = .socketError ∨ c.state = .stop := of_decide_eq_true hallowed
      obtain hst | hst := hst
      · simpa [hst, ReadPc.phase, Attempts.InPhase, Attempts.invalidate] using
          And.intro hphase.1 hphase.2.1
      · simpa [hst, ReadPc.phase, Attempts.InPhase, Attempts.invalidate] using hphase.2.1
    · rw [hpc] at hphase
      exact ⟨hphase.1, .inr rfl⟩
  · obtain ⟨-, rfl⟩ | ⟨-, rfl⟩ := hpc <;> simp
  · exact Attempts.ordered_of_same h.ordered _ _ _ _
  · rw [own_of_none rfl, ← hclosed]
    exact h.holds

/-- A step of the read thread. -/
theorem placed_read (h : Placed c a) (he : ReadEffect cfg c a c' a') : Placed c' a' := by
  cases he with
  | quiet hpc hr =>
      refine placed_of_passesOn h (Connection.passesOn_of_readStep hpc h.allowed ?_ hr)
        (Connection.quietRead_of_readStep hpc hr).socket (Connection.writePc_readStep hr)
      intro htest hnone
      have hphase := h.phase
      have hsocket := h.socket
      rw [htest] at hphase
      rw [hnone, hphase.2.2] at hsocket
      cases hsocket
  | resolve hpc => exact placed_resolve h hpc
  | unresolved hpc =>
      exact placed_of_passesOn h (Connection.passesOn_seeking h.allowed (.inl ⟨hpc, .inr rfl⟩)) rfl
        (.inl rfl)
  | resolved hpc hpc' => exact placed_resolved h hpc hpc'
  | polls hpc =>
      exact placed_of_passesOn h (Connection.passesOn_seeking h.allowed (.inr (.inl ⟨hpc, rfl⟩)))
        rfl (.inl rfl)
  | interrupted hpc hst =>
      exact placed_of_passesOn h
        (Connection.passesOn_seeking h.allowed (.inr (.inr ⟨hpc, hst, rfl⟩))) rfl (.inl rfl)
  | called hpc hd hcalled => exact placed_called h hpc hd hcalled
  | store hpc => exact placed_store h hpc
  | close hpc => exact placed_close h hpc
  | invalidate hpc => exact placed_invalidate h hpc

/-- A step of a write thread that does not fail. -/
theorem placed_write {pointer : Bool} {i : WriteInput} (h : Placed c a) (hi : i ≠ .failed)
    (he : WriteEffect pointer c a i c' a') : Placed c' a' := by
  cases he with
  | quiet hclose hinvalidate hw =>
      obtain ⟨hfail, hsocket, hst⟩ := Connection.writes_of_not_failing h.writer hi hw
      have hpc := (Connection.writeFrame_of_writeStep hw).readPc
      have hown : own c' a = own c a :=
        own_congr (by rw [hpc])
          (iff_of_false (errorInvalidate_of_failing hfail) hinvalidate) rfl
      refine ⟨hfail, ?_, ?_, ?_, ?_, h.ordered, ?_⟩
      · rw [hpc, hst]
        exact h.allowed
      · rw [hpc, hst]
        exact h.phase
      · rw [hpc]
        exact h.getaddrinfo
      · rw [hsocket]
        exact h.socket
      · rw [hown]
        exact h.holds
  | close hpc =>
      have hfail := h.writer
      rw [hpc] at hfail
      cases hfail
  | invalidate hpc =>
      have hfail := h.writer
      rw [hpc] at hfail
      cases hfail

/-! ## the bookkeeping -/

/-- What the read thread relies on: the pending sockets are distinct, open and the keys of
`m_socket_to_address`, each with an address of the current resolution; `m_socket` is open
and none of them; pending sockets are left while CONNECTING or on STOP only, `m_socket` is
there while online and gone when `resolve` frees the addresses; nothing is closed twice,
and no address is missed. -/
structure Kept (c : Connection) (a : Attempts A) : Prop where
  nodup : a.sockets.Nodup
  keys : ∀ fd, fd ∈ a.sockets ↔ (a.socketToAddress.lookup fd).isSome = true
  address : ∀ fd address, a.socketToAddress.lookup fd = some address → address ∈ a.addresses
  pending : ∀ fd ∈ a.sockets, fd ∈ a.handles.live
  /-- but for the moment between its `closesocket` and the store of INVALID_SOCKET -/
  socket : ∀ fd, a.socket = some fd →
    fd ∉ a.sockets ∧ (c.readPc.closing = false → fd ∈ a.handles.live)
  connecting : a.sockets ≠ [] → c.state = .connecting ∨ c.state = .stop
  online : c.state.online = true → a.socket.isSome = true
  resolve : c.readPc = .resolve →
    a.socket = none ∧ a.sockets = [] ∧ ∀ fd, a.socketToAddress.lookup fd = none
  once : a.handles.stray = []
  missed : a.missed = false

theorem sockets_of_inPhase {p : SocketPhase} (h : a.InPhase p) (hs : a.sockets ≠ []) :
    p = .connecting ∨ p = .stopping := by
  cases p with
  | idle => exact absurd h.1 hs
  | connecting => exact .inl rfl
  | chosen => exact absurd h.1 hs
  | up => exact absurd h.1 hs
  | stopping => exact .inr rfl

theorem kept_of_placed (h : Placed c a) : Kept c a := by
  have hholds : a.handles.Holds (a.sockets ++ (a.socketConnected.toList ++ own c a)) := h.holds
  constructor
  · exact (List.nodup_append.mp hholds.nodup).1
  · intro fd
    constructor
    · intro hfd
      obtain ⟨address, -, hlookup⟩ := Attempts.lookup_of_ordered h.ordered hfd
      rw [hlookup]
      rfl
    · intro hsome
      by_contra hfd
      rw [h.ordered.stale fd hfd] at hsome
      cases hsome
  · intro fd address hlookup
    by_cases hfd : fd ∈ a.sockets
    · obtain ⟨address', hmem, hlookup'⟩ := Attempts.lookup_of_ordered h.ordered hfd
      cases hlookup.symm.trans hlookup'
      exact hmem
    · rw [h.ordered.stale fd hfd] at hlookup
      cases hlookup
  · exact fun fd hfd => hholds.mem_live_iff.mpr (List.mem_append_left _ hfd)
  · intro fd hfd
    constructor
    · -- with `m_socket` valid, no attempt is pending
      intro hmem
      have hphase := h.phase
      obtain hp | hp := sockets_of_inPhase hphase (List.ne_nil_of_mem hmem)
      · rw [hp] at hphase
        cases hfd.symm.trans hphase.2
      · rw [hp] at hphase
        obtain hnil | hnone := hphase.2
        · rw [hnil] at hmem
          cases hmem
        · cases hfd.symm.trans hnone
    · intro hclosing
      have hown : own c a = a.socket.toList :=
        own_of_open hclosing (errorInvalidate_of_failing h.writer)
      rw [hown, hfd] at hholds
      refine hholds.mem_live_iff.mpr (List.mem_append_right _ (List.mem_append_right _ ?_))
      exact List.mem_cons_self
  · intro hs
    have hallowed := h.allowed
    obtain hp | hp := sockets_of_inPhase h.phase hs
    · exact ReadPc.state_of_connecting hallowed hp
    · exact .inr (ReadPc.state_of_stopping hallowed hp)
  · intro honline
    have hphase := h.phase
    rw [ReadPc.phase_of_online h.allowed honline] at hphase
    exact hphase.2.2
  · intro hpc
    have hphase := h.phase
    rw [hpc] at hphase
    obtain ⟨hsockets, -, hsocket⟩ := hphase
    refine ⟨hsocket, hsockets, fun fd => h.ordered.stale fd ?_⟩
    rw [hsockets]
    exact List.not_mem_nil
  · exact hholds.stray
  · exact h.ordered.missed

/-- No `::send` fails. -/
def Sends (_ : Network C A) : NetworkAction C A → Prop
  | .write .failed => False
  | _ => True

instance (n : Network C A) (b : NetworkAction C A) : Decidable (Sends n b) := by
  unfold Sends
  induction b using NetworkAction.casesOn with
  | write i => induction i using WriteInput.casesOn <;> infer_instance
  | _ => infer_instance

/-- **The read thread keeps its sockets** over any number of connections, whatever the
lookups, attempts and reads come to and wherever STOP arrives. -/
theorem read_sockets_kept {n₀ n : Network C A} {bs : List (NetworkAction C A)} (h₀ : Initial n₀)
    (h : Run (Guarded Steps Sends) n₀ bs n) (hc : n.system.connection = some c) :
    Kept c n.attempts := by
  have hplaced : ∀ c, n.system.connection = some c → Placed c n.attempts := by
    refine invariant_of_guarded (I := Placed) (fun _ => placed_new) ?_ ?_ ?_ h₀ h
    · exact fun n i c c' a' hc hI hg he => placed_read hI he
    · intro n i c c' a' hc hI hg he
      refine placed_write hI ?_ he
      rintro rfl
      exact hg
    · exact fun c c' a hI hk hw hb =>
        placed_of_passesOn hI (Connection.passesOn_between hI.allowed hb) hk hw
  exact kept_of_placed (hplaced c hc)

/-- The broker closes the connection, and the host is looked up again. -/
theorem read_sockets_kept_connectAndDial :
    ∃ (n : Network Unit Nat) (c : Connection), c.readPc = .resolve ∧
      n.attempts.handles.closed = [3] ∧ Kept c n.attempts := by
  obtain ⟨n, hrun, htest⟩ := guarded_run_of_exec Sends
    (connectAndDial ++
      [.read .next, .read .next, .read (.turn { polled := .ready [3] [] }), .read .next,
        .read .next, .read .next, .read .next, .read .next, .read .next, .read (.timer false),
        .read (.receive .failed), .read .next, .read .next, .read .next, .read .next, .read .next,
        .read .next, .read .next, .client .grant, .read .next, .read .next, .read .next,
        .read .next, .read .next])
    (fun n => n.attempts.handles.closed = [3] ∧
      n.system.connection.any (·.readPc = .resolve)) (by decide +kernel)
  obtain ⟨hclosed, hany⟩ := of_decide_eq_true htest
  obtain ⟨c, hc, hpc⟩ := (Option.any_eq_true _ _).mp hany
  exact ⟨n, c, of_decide_eq_true hpc, hclosed, read_sockets_kept initial_default hrun hc⟩

end Network

end TrueMqtt
