import TrueMqtt.Network
import TrueMqtt.System.Teardown

/-!
# TrueMqtt.Network.Custody

Who closes the descriptors a connection has opened.  Those pending are closed by
`connectToAny`, and `m_socket` by `socketError` of either thread or by the STOP case
of `runRead`.

`~Connection` leaves a descriptor open when STOP is seen while attempts are pending,
since the STOP case looks at `m_socket` only (`pending_leaks`).  Apart from this, the
two threads can get in each other's way between `closesocket(m_socket)` and
`m_socket = INVALID_SOCKET`, as nothing keeps the write thread's `socketError` from
running next to the read thread.  In a run without either, every descriptor has been
closed exactly once when `~Connection` returns (`closed_once`).
-/

namespace TrueMqtt

namespace ReadPc

/-- Between `m_socket = INVALID_SOCKET` in `resolve` and `m_socket = socket_connected`. -/
def seeking : ReadPc → Bool
  | getaddrinfo | lookupCallback | resolveCheck | connectingStore | connectToAny | connectCheck
  | socketStore => true
  | _ => false

/-- In the STOP case. -/
def stopping : ReadPc → Bool
  | stopTest | stopClose | stopInvalidate | done => true
  | _ => false

end ReadPc

namespace Connection

variable {cfg : Config} {c c' : Connection}

/-- What a step of the read thread that leaves its sockets alone does. -/
structure QuietRead (c c' : Connection) : Prop where
  socket : c'.socket = c.socket
  closing : c'.readPc.closing = false
  socketStore : c'.readPc ≠ .socketStore
  seeking : c'.readPc.seeking = true →
    c.readPc.seeking = true ∨ (c.readPc = .loop ∧ c.state = .connecting)
  connecting : c'.state = .connecting → c.readPc.seeking = true ∨
    (c.state = .connecting ∧
      (c'.readPc = .authStore ∨ (c.readPc ≠ .authCheck ∧ c.readPc ≠ .authStore)))
  stopping : c'.readPc.stopping = true →
    c.readPc.stopping = true ∨ (c.readPc = .loop ∧ c.state = .stop)
  done : c'.readPc = .done → c.socket = none

theorem quietRead_dispatch (hpc : c.readPc = .loop) :
    QuietRead c { c with readPc := dispatch c.state } := by
  cases hst : c.state
  all_goals constructor
  all_goals simp [dispatch, hpc, hst, ReadPc.closing, ReadPc.seeking, ReadPc.stopping]

theorem quietRead_received (p : Packet) (hpc : c.readPc = .recvData) :
    QuietRead c { c with readPc := received p } := by
  obtain h | h | h | h | ⟨topic, message, h⟩ := received_cases p
  all_goals rw [h]
  all_goals constructor
  all_goals simp [hpc, ReadPc.closing, ReadPc.seeking, ReadPc.stopping]

/-- The steps around the lookup and the select do not go anywhere else, either. -/
theorem quietRead_seeking {pc : ReadPc} (hpc : c.readPc.seeking = true)
    (hpc' : pc = .lookupCallback ∨ pc = .resolveCheck ∨ pc = .connectCheck ∨ pc = .loop) :
    QuietRead c { c with readPc := pc } := by
  obtain rfl | rfl | rfl | rfl := hpc'
  all_goals constructor
  all_goals simp [hpc, ReadPc.closing, ReadPc.stopping]

/-- The same for the write thread. -/
theorem quietWrite_of_writeStep {pointer : Bool} {i : WriteInput} (hclose : c.writePc ≠ .errorClose)
    (hinvalidate : c.writePc ≠ .errorInvalidate) (h : c.writeStep pointer i = .ok c') :
    c'.socket = c.socket ∧ c'.writePc ≠ .errorInvalidate ∧
      (c'.state = .connecting → c.state = .connecting) := by
  cases writeBranch_of_writeStep h with
  | errorClose hpc => exact absurd hpc hclose
  | errorInvalidate hpc => exact absurd hpc hinvalidate
  | errorStore => exact ⟨rfl, by simp, nofun⟩
  | spin => exact ⟨rfl, hinvalidate, id⟩
  | _ => exact ⟨rfl, by simp, id⟩

theorem quietRead_of_readStep {i : ReadInput} (hpc : c.readPc.touches = false)
    (h : c.readStep cfg i = .ok c') : QuietRead c c' := by
  cases readBranch_of_readStep h with
  | dispatch hpc' => exact quietRead_dispatch hpc'
  | received hpc' => exact quietRead_received _ hpc'
  | resolve hpc' | lookup hpc' | lookupFails hpc' | select hpc' | tried hpc' | untried hpc'
  | connectStop hpc' | pending hpc' | exhausted hpc' | established hpc' | socketStore hpc'
  | errorClose hpc' | errorInvalidate hpc' | stopClose hpc' | stopInvalidate hpc' =>
      rw [hpc'] at hpc
      cases hpc
  | stopGone hpc' hk =>
      constructor
      all_goals simp [hpc', hk, ReadPc.closing, ReadPc.seeking, ReadPc.stopping]
  | authStop hpc' hst =>
      constructor
      all_goals simp [hpc', hst, ReadPc.closing, ReadPc.seeking, ReadPc.stopping]
  | _ hpc' =>
      constructor
      all_goals simp [hpc', ReadPc.closing, ReadPc.seeking, ReadPc.stopping, pushFront]

end Connection

namespace Network

variable {C A : Type} {cfg : Config} {c c' : Connection} {a a' : Attempts A}

/-- The descriptor of `m_socket`, if it is open. -/
def own (c : Connection) (a : Attempts A) : List Nat :=
  if c.readPc.closing = true ∨ c.writePc = .errorInvalidate then [] else a.socket.toList

/-- Every open descriptor is pending, or chosen, or that of `m_socket`, at each point of
the two threads. -/
structure Custody (c : Connection) (a : Attempts A) : Prop where
  socket : c.socket.isSome = a.socket.isSome
  holds : a.Holds (own c a)
  chosen : a.socketConnected.isSome = true ↔ c.readPc = .socketStore
  seeking : c.readPc.seeking = true → c.socket = none
  connecting : c.state = .connecting →
    c.readPc = .authCheck ∨ c.readPc = .authStore ∨ c.socket = none
  stopping : c.readPc.stopping = true → a.sockets = []
  done : c.readPc = .done → c.socket = none

/-- The step of the read thread neither gives up pending attempts, nor meets the write
thread on `m_socket`: it does not enter the STOP case with attempts pending, it does not
forget a socket in `resolve` that the write thread is about to close, and it does not
store or close one that the write thread is about to forget. -/
def ReadsAlone (c : Connection) (a : Attempts A) : Prop :=
  (c.readPc = .loop → c.state = .stop → a.sockets = []) ∧
  (c.readPc = .resolve → c.socket = none ∨ c.writePc = .errorInvalidate) ∧
  (c.readPc = .socketStore ∨ c.readPc = .errorClose ∨ c.readPc = .stopClose →
    c.writePc ≠ .errorInvalidate)

/-- The write thread does not close a socket that the read thread is about to forget. -/
def WritesAlone (c : Connection) : Prop := c.writePc = .errorClose → c.readPc.closing = false

/-- The steps that leave no descriptor behind and close none twice. -/
def KeepsCustody (n : Network C A) : NetworkAction C A → Prop
  | .read _ => match n.system.connection with
      | some c => ReadsAlone c n.attempts
      | none => True
  | .write _ => match n.system.connection with
      | some c => WritesAlone c
      | none => True
  | .client _ => True

instance (n : Network C A) (b : NetworkAction C A) : Decidable (KeepsCustody n b) := by
  unfold KeepsCustody ReadsAlone WritesAlone
  split
  · split <;> infer_instance
  · split <;> infer_instance
  · infer_instance

theorem socket_eq_none_iff (h : Custody c a) : c.socket = none ↔ a.socket = none := by
  have hs := h.socket
  cases hc : c.socket <;> cases ha : a.socket <;> simp_all

theorem socketConnected_eq_none (h : Custody c a) (hpc : c.readPc ≠ .socketStore) :
    a.socketConnected = none := by
  have hchosen := mt h.chosen.mp hpc
  simpa using hchosen

theorem own_of_none (h : a.socket = none) : own c a = [] := by
  unfold own
  rw [h]
  split <;> rfl

theorem own_of_closing (h : c.readPc.closing = true) : own c a = [] := if_pos (.inl h)

theorem own_of_errorInvalidate (h : c.writePc = .errorInvalidate) : own c a = [] :=
  if_pos (.inr h)

theorem own_of_open (hr : c.readPc.closing = false) (hw : c.writePc ≠ .errorInvalidate) :
    own c a = a.socket.toList := if_neg (by simp [hr, hw])

theorem own_congr (hr : c'.readPc.closing = c.readPc.closing)
    (hw : c'.writePc = .errorInvalidate ↔ c.writePc = .errorInvalidate)
    (hs : a'.socket = a.socket) : own c' a' = own c a := by
  simp only [own, hr, hw, hs]

theorem errorInvalidate_of_woken
    (h : c'.writePc = c.writePc ∨ (c.writePc = .blocked ∧ c'.writePc = .wait)) :
    c'.writePc = .errorInvalidate ↔ c.writePc = .errorInvalidate := by
  obtain h | ⟨hb, hw⟩ := h
  · rw [h]
  · simp [hb, hw]

theorem custody_new : Custody (.new cfg) ({} : Attempts A) where
  socket := rfl
  holds := Handles.Holds.empty
  chosen := by simp [Connection.new]
  seeking := fun _ => rfl
  connecting := fun _ => .inr (.inr rfl)
  stopping := fun _ => rfl
  done := fun _ => rfl

/-- A step of the read thread away from the sockets. -/
theorem custody_quiet (h : Custody c a) (hclosing : c.readPc.closing = false)
    (hstore : c.readPc ≠ .socketStore)
    (hstop : c.readPc = .loop → c.state = .stop → a.sockets = []) (hq : c.QuietRead c')
    (hw : c'.writePc = c.writePc ∨ (c.writePc = .blocked ∧ c'.writePc = .wait)) :
    Custody c' a := by
  constructor
  case socket =>
    rw [hq.socket]
    exact h.socket
  case holds =>
    rw [own_congr (hq.closing.trans hclosing.symm) (errorInvalidate_of_woken hw) rfl]
    exact h.holds
  case chosen => simp [socketConnected_eq_none h hstore, hq.socketStore]
  case seeking =>
    intro hs
    rw [hq.socket]
    obtain hs | ⟨hl, hst⟩ := hq.seeking hs
    · exact h.seeking hs
    · simpa [hl] using h.connecting hst
  case connecting =>
    intro hst
    rw [hq.socket]
    obtain hs | ⟨hst, hauth | ⟨hcheck, hauth⟩⟩ := hq.connecting hst
    · exact .inr (.inr (h.seeking hs))
    · exact .inr (.inl hauth)
    · exact .inr (.inr (by simpa [hcheck, hauth] using h.connecting hst))
  case stopping =>
    intro hs
    obtain hs | ⟨hl, hst⟩ := hq.stopping hs
    · exact h.stopping hs
    · exact hstop hl hst
  case done =>
    intro hd
    rw [hq.socket]
    exact hq.done hd

/-- `m_socket = INVALID_SOCKET`, of either thread, once it is closed. -/
theorem holds_invalidate (h : Custody c a) (hclosed : own c a = []) : a.invalidate.Holds [] := by
  rw [← hclosed]
  exact h.holds

/-! ## the steps of the read thread -/

theorem custody_resolve (h : Custody c a) (hpc : c.readPc = .resolve)
    (hresolve : c.socket = none ∨ c.writePc = .errorInvalidate) :
    Custody { c with socket := none, readPc := .getaddrinfo } a.resolve := by
  have hnone := socketConnected_eq_none h (by simp [hpc])
  have hown : own c a = [] := by
    obtain hs | hw := hresolve
    · exact own_of_none ((socket_eq_none_iff h).mp hs)
    · exact own_of_errorInvalidate hw
  constructor
  case socket => rfl
  case holds =>
    rw [own_of_none rfl, ← hown]
    exact h.holds
  case chosen => simp [Attempts.resolve, hnone]
  case seeking => exact fun _ => rfl
  case connecting => exact fun _ => .inr (.inr rfl)
  case stopping => simp [ReadPc.stopping]
  case done => exact fun _ => rfl

theorem custody_called {t : Turn} {r : Attempt} (h : Custody c a)
    (hpc : c.readPc = .connectToAny ∨ c.readPc = .connectCheck)
    (hd : t.dial.fresh a.handles = true) (hcalled : a.Called t a' r) :
    Custody { c with readPc := r.next } a' := by
  have hseeking : c.readPc.seeking = true := by
    obtain hpc | hpc := hpc <;> rw [hpc] <;> rfl
  have hclosing : c.readPc.closing = false ∧ r.next.closing = false := by
    obtain hpc | hpc := hpc <;> cases r <;> simp [hpc, Attempt.next, ReadPc.closing]
  have hnone := socketConnected_eq_none h (by obtain hpc | hpc := hpc <;> simp [hpc])
  have hsocket := (Attempts.frame_called hcalled).2
  obtain ⟨hresult, -⟩ := Attempts.results_called hnone hcalled
  have hown : own { c with readPc := r.next } a' = own c a :=
    own_congr (hclosing.2.trans hclosing.1.symm) Iff.rfl hsocket
  constructor
  case socket =>
    rw [hsocket]
    exact h.socket
  case holds =>
    rw [hown]
    exact Attempts.holds_called h.holds hnone hd hcalled
  case chosen =>
    rw [← hresult]
    cases r <;> simp [Attempt.next]
  case seeking => exact fun _ => h.seeking hseeking
  case connecting => exact fun _ => .inr (.inr (h.seeking hseeking))
  case stopping => cases r <;> simp [Attempt.next, ReadPc.stopping]
  case done => cases r <;> simp [Attempt.next]

theorem custody_store (h : Custody c a) (hpc : c.readPc = .socketStore)
    (hw : c.writePc ≠ .errorInvalidate) :
    Custody { c with socket := some c.sockets, sockets := c.sockets + 1, readPc := .authCheck }
      a.storeSocket := by
  have hchosen := h.chosen.mpr hpc
  have hnone : own c a = [] :=
    own_of_none ((socket_eq_none_iff h).mp (h.seeking (by rw [hpc]; rfl)))
  constructor
  case socket => exact hchosen.symm
  case holds =>
    have hown : own { c with
        socket := some c.sockets, sockets := c.sockets + 1, readPc := .authCheck } a.storeSocket =
        a.socketConnected.toList := own_of_open rfl hw
    rw [hown]
    exact Attempts.holds_storeSocket (hnone ▸ h.holds)
  case chosen => simp [Attempts.storeSocket]
  case seeking => simp [ReadPc.seeking]
  case connecting => exact fun _ => .inl rfl
  case stopping => simp [ReadPc.stopping]
  case done => simp

theorem custody_close {pc : ReadPc} (h : Custody c a)
    (hpc : c.readPc = .errorClose ∧ pc = .errorInvalidate ∨
      c.readPc = .stopClose ∧ pc = .stopInvalidate) (hw : c.writePc ≠ .errorInvalidate) :
    Custody { c with closed := c.socket.toList ++ c.closed, readPc := pc } a.closeSocket := by
  have hopen : own c a = a.socket.toList := by
    obtain ⟨hpc, -⟩ | ⟨hpc, -⟩ := hpc
    all_goals exact own_of_open (by rw [hpc]; rfl) hw
  have hclosing : pc.closing = true := by
    obtain ⟨-, rfl⟩ | ⟨-, rfl⟩ := hpc <;> rfl
  have hown : own { c with closed := c.socket.toList ++ c.closed, readPc := pc }
      a.closeSocket = [] := own_of_closing hclosing
  have hnone : a.socketConnected = none := by
    obtain ⟨hpc, -⟩ | ⟨hpc, -⟩ := hpc
    all_goals exact socketConnected_eq_none h (by simp [hpc])
  constructor
  case socket => exact h.socket
  case holds =>
    rw [hown]
    exact Attempts.holds_closeSocket (hopen ▸ h.holds)
  case chosen => obtain ⟨-, rfl⟩ | ⟨-, rfl⟩ := hpc <;> simp [Attempts.closeSocket, hnone]
  case seeking => obtain ⟨-, rfl⟩ | ⟨-, rfl⟩ := hpc <;> simp [ReadPc.seeking]
  case connecting =>
    intro hst
    obtain ⟨hpc, -⟩ | ⟨hpc, -⟩ := hpc
    all_goals exact .inr (.inr (by simpa [hpc] using h.connecting hst))
  case stopping =>
    obtain ⟨hpc, rfl⟩ | ⟨hpc, rfl⟩ := hpc
    · simp [ReadPc.stopping]
    · exact fun _ => h.stopping (by rw [hpc]; rfl)
  case done => obtain ⟨-, rfl⟩ | ⟨-, rfl⟩ := hpc <;> simp

theorem custody_invalidate {pc : ReadPc} (h : Custody c a)
    (hpc : c.readPc = .errorInvalidate ∧ pc = .loop ∨ c.readPc = .stopInvalidate ∧ pc = .done) :
    Custody { c with socket := none, readPc := pc } a.invalidate := by
  have hclosed : own c a = [] := by
    obtain ⟨hpc, -⟩ | ⟨hpc, -⟩ := hpc
    all_goals exact own_of_closing (by rw [hpc]; rfl)
  have hnone : a.socketConnected = none := by
    obtain ⟨hpc, -⟩ | ⟨hpc, -⟩ := hpc
    all_goals exact socketConnected_eq_none h (by simp [hpc])
  constructor
  case socket => rfl
  case holds =>
    rw [own_of_none rfl]
    exact holds_invalidate h hclosed
  case chosen => obtain ⟨-, rfl⟩ | ⟨-, rfl⟩ := hpc <;> simp [Attempts.invalidate, hnone]
  case seeking => exact fun _ => rfl
  case connecting => exact fun _ => .inr (.inr rfl)
  case stopping =>
    obtain ⟨hpc, rfl⟩ | ⟨hpc, rfl⟩ := hpc
    · simp [ReadPc.stopping]
    · exact fun _ => h.stopping (by rw [hpc]; rfl)
  case done => exact fun _ => rfl

/-- A step of the read thread. -/
theorem custody_read (h : Custody c a) (hg : ReadsAlone c a) (he : ReadEffect cfg c a c' a') :
    Custody c' a' := by
  obtain ⟨hstop, hresolve, halone⟩ := hg
  cases he with
  | quiet hpc hr =>
      have hclosing : c.readPc.closing = false := by
        cases hr : c.readPc <;> simp [hr, ReadPc.touches, ReadPc.closing] at hpc ⊢
      have hstore : c.readPc ≠ .socketStore := by
        intro hs
        simp [hs, ReadPc.touches] at hpc
      exact custody_quiet h hclosing hstore hstop (Connection.quietRead_of_readStep hpc hr)
        (Connection.writePc_readStep hr)
  | resolve hpc => exact custody_resolve h hpc (hresolve hpc)
  | unresolved hpc =>
      exact custody_quiet h (by rw [hpc]; rfl) (by simp [hpc]) hstop
        (Connection.quietRead_seeking (by rw [hpc]; rfl) (.inl rfl)) (.inl rfl)
  | @resolved found pc hpc hpc' =>
      have hkeep : Custody { c with readPc := pc } a :=
        custody_quiet h (by rw [hpc]; rfl) (by simp [hpc]) hstop
          (Connection.quietRead_seeking (by rw [hpc]; rfl)
            (hpc'.elim (fun h => .inr (.inl h)) .inl)) (.inl rfl)
      exact ⟨hkeep.socket, hkeep.holds, hkeep.chosen, hkeep.seeking, hkeep.connecting,
        hkeep.stopping, hkeep.done⟩
  | polls hpc =>
      exact custody_quiet h (by rw [hpc]; rfl) (by simp [hpc]) hstop
        (Connection.quietRead_seeking (by rw [hpc]; rfl) (.inr (.inr (.inl rfl)))) (.inl rfl)
  | interrupted hpc hst =>
      exact custody_quiet h (by rw [hpc]; rfl) (by simp [hpc]) hstop
        (Connection.quietRead_seeking (by rw [hpc]; rfl) (.inr (.inr (.inr rfl)))) (.inl rfl)
  | called hpc hd hcalled => exact custody_called h hpc hd hcalled
  | store hpc => exact custody_store h hpc (halone (.inl hpc))
  | close hpc =>
      refine custody_close h hpc ?_
      obtain ⟨hpc, -⟩ | ⟨hpc, -⟩ := hpc
      · exact halone (.inr (.inl hpc))
      · exact halone (.inr (.inr hpc))
  | invalidate hpc => exact custody_invalidate h hpc

/-- What keeps both threads where they are keeps the sockets. -/
theorem custody_congr (h : Custody c a) (hk : c'.socket = c.socket)
    (hpc : c'.readPc = c.readPc)
    (hw : c'.writePc = .errorInvalidate ↔ c.writePc = .errorInvalidate)
    (hst : c'.state = .connecting → c.state = .connecting) : Custody c' a := by
  have hown : own c' a = own c a := own_congr (by rw [hpc]) hw rfl
  constructor
  case socket =>
    rw [hk]
    exact h.socket
  case holds =>
    rw [hown]
    exact h.holds
  case chosen =>
    rw [hpc]
    exact h.chosen
  case seeking =>
    rw [hpc, hk]
    exact h.seeking
  case connecting =>
    rw [hpc, hk]
    exact fun hc => h.connecting (hst hc)
  case stopping =>
    rw [hpc]
    exact h.stopping
  case done =>
    rw [hpc, hk]
    exact h.done

/-- A step of the write thread. -/
theorem custody_write {pointer : Bool} {i : WriteInput} (h : Custody c a) (hg : WritesAlone c)
    (he : WriteEffect pointer c a i c' a') : Custody c' a' := by
  cases he with
  | quiet hclose hinvalidate hw =>
      obtain ⟨hsocket, hwrite, hstate⟩ := Connection.quietWrite_of_writeStep hclose hinvalidate hw
      exact custody_congr h hsocket (Connection.writeFrame_of_writeStep hw).readPc
        (iff_of_false hwrite hinvalidate) hstate
  | close hpc =>
      have hopen : own c a = a.socket.toList := own_of_open (hg hpc) (by simp [hpc])
      have hown : own { c with
          closed := c.socket.toList ++ c.closed, writePc := .errorInvalidate } a.closeSocket = [] :=
        own_of_errorInvalidate rfl
      refine ⟨h.socket, ?_, h.chosen, h.seeking, h.connecting, h.stopping, h.done⟩
      rw [hown]
      exact Attempts.holds_closeSocket (hopen ▸ h.holds)
  | invalidate hpc =>
      refine ⟨rfl, ?_, h.chosen, fun _ => rfl, fun _ => .inr (.inr rfl), h.stopping, fun _ => rfl⟩
      rw [own_of_none rfl]
      exact holds_invalidate h (own_of_errorInvalidate hpc)

/-- A step of neither thread. -/
theorem custody_between (h : Custody c a) (hk : c'.socket = c.socket)
    (hw : c'.writePc = c.writePc ∨ (c.writePc = .blocked ∧ c'.writePc = .wait))
    (hb : Between c c') : Custody c' a := by
  cases hb with
  | same hpc hst =>
      exact custody_congr h hk hpc (errorInvalidate_of_woken hw) (fun hc => hst ▸ hc)
  | stop hpc hst =>
      refine custody_congr h hk hpc (errorInvalidate_of_woken hw) fun hc => ?_
      rw [hst] at hc
      cases hc
  | resumed hpc hpc' hst =>
      have hfrom : c.readPc.closing = false ∧ c.readPc ≠ .socketStore ∧ c.readPc ≠ .loop ∧
          c.readPc ≠ .authCheck ∧ c.readPc ≠ .authStore := by
        obtain hpc | hpc | ⟨topic, message, hpc⟩ := hpc <;> simp [hpc, ReadPc.closing]
      obtain ⟨hclosing, hstore, hloop, hcheck, hauth⟩ := hfrom
      refine custody_quiet h hclosing hstore (fun hl => absurd hl hloop) ?_ hw
      constructor
      case socket => exact hk
      case closing => obtain hpc' | hpc' := hpc' <;> rw [hpc'] <;> rfl
      case socketStore => obtain hpc' | hpc' := hpc' <;> simp [hpc']
      case seeking => obtain hpc' | hpc' := hpc' <;> simp [hpc', ReadPc.seeking]
      case connecting => exact fun hc => .inr ⟨hst ▸ hc, .inr ⟨hcheck, hauth⟩⟩
      case stopping => obtain hpc' | hpc' := hpc' <;> simp [hpc', ReadPc.stopping]
      case done => obtain hpc' | hpc' := hpc' <;> simp [hpc']
  | lost hpc hpc' hst =>
      refine custody_quiet h (by rw [hpc]; rfl) (by simp [hpc]) (by simp [hpc]) ?_ hw
      constructor
      case socket => exact hk
      case closing =>
        rw [hpc']
        rfl
      case socketStore => simp [hpc']
      case seeking => simp [hpc', ReadPc.seeking]
      case connecting => exact fun hc => .inr ⟨hst ▸ hc, .inr (by simp [hpc])⟩
      case stopping => simp [hpc', ReadPc.stopping]
      case done => simp [hpc']

/-! ## `~Connection` -/

variable {n : Network C A}

/-- `~Connection` returns: both threads are over. -/
def Returns (n : Network C A) : Prop :=
  ∃ again c, n.system.holder = .joinWrite again ∧ n.system.connection = some c ∧
    c.writePc = .done

/-- Every descriptor has been closed exactly once when `~Connection` returns. -/
def ClosesOnce (n : Network C A) : Prop := Returns n → n.attempts.handles.Settled

theorem custody_of_run {n₀ : Network C A} {bs : List (NetworkAction C A)} (h₀ : Initial n₀)
    (h : Run (Guarded Steps KeepsCustody) n₀ bs n) :
    ∀ c, n.system.connection = some c → Custody c n.attempts := by
  refine invariant_of_guarded (I := Custody) (fun _ => custody_new) ?_ ?_ ?_ h₀ h
  · intro n i c c' a' hc hI hg he
    simp only [KeepsCustody, hc] at hg
    exact custody_read hI hg he
  · intro n i c c' a' hc hI hg he
    simp only [KeepsCustody, hc] at hg
    exact custody_write hI hg he
  · exact fun c c' a hI hk hw hb => custody_between hI hk hw hb

/-- **No socket outlives its connection** in a run whose steps keep them in custody. -/
theorem closed_once {n₀ : Network C A} {bs : List (NetworkAction C A)} (h₀ : Initial n₀)
    (h : Run (Guarded Steps KeepsCustody) n₀ bs n) : ClosesOnce n := by
  rintro ⟨again, c, hh, hc, hpc⟩
  have hcustody := custody_of_run h₀ h c hc
  have hreach := system_reachable ⟨n₀, bs, h₀, h.mono fun _ _ _ hs => hs.2⟩
  obtain ⟨s₀, as, hs₀, hrun⟩ := hreach
  have hdone := System.readJoined_of_run hs₀ hrun again c hh hc
  have hsockets := hcustody.stopping (by rw [hdone]; rfl)
  have hchosen := socketConnected_eq_none hcustody (by simp [hdone])
  have hsocket := (socket_eq_none_iff hcustody).mp (hcustody.done hdone)
  have hholds : n.attempts.handles.Holds
      (n.attempts.sockets ++ (n.attempts.socketConnected.toList ++ own c n.attempts)) :=
    hcustody.holds
  rw [hsockets, hchosen, own_of_none hsocket] at hholds
  exact hholds.settled

/-- A client starts a connection attempt. -/
def connectAndDial : List (NetworkAction Unit Nat) :=
  [.client (.call .connect), .client .hold, .read .next, .read .next,
    .read (.lookup (some [(.ipv4, 1), (.ipv6, 2)])), .read .next, .read .next, .read .next,
    .read (.turn { dial := .pending 3 })]

/-- The client disconnects, and waits for its threads. -/
def disconnectAndJoin (stopping : List (NetworkAction Unit Nat)) : List (NetworkAction Unit Nat) :=
  [.client (.call .disconnect), .client .hold, .client .hold] ++ stopping ++
    [.client .hold, .write .next]

/-- The second of two attempts connects, and the client disconnects after its CONNECT. -/
theorem closed_once_connectAndDial :
    ∃ n : Network Unit Nat, Returns n ∧ n.attempts.handles.opened = [4, 3] ∧
      n.attempts.handles.Settled := by
  obtain ⟨n, hrun, htest⟩ := guarded_run_of_exec KeepsCustody
    (connectAndDial ++
      [.read .next, .read .next,
        .read (.turn { dial := .pending 4, idleAt := ms 250, attemptAt := ms 250 }),
        .read .next, .read .next, .read (.turn { polled := .ready [4] [] }),
        .read .next, .read .next, .read .next, .read .next] ++
      disconnectAndJoin [.read .next, .read .next, .read .next, .read .next])
    (fun n => n.system.holder = .joinWrite false ∧ n.attempts.handles.opened = [4, 3] ∧
      n.system.connection.any (·.writePc = .done)) (by decide +kernel)
  obtain ⟨hh, hopened, hany⟩ := of_decide_eq_true htest
  obtain ⟨c, hc, hpc⟩ := (Option.any_eq_true _ _).mp hany
  have hreturns : Returns n := ⟨false, c, hh, hc, of_decide_eq_true hpc⟩
  exact ⟨n, hreturns, hopened, closed_once initial_default hrun hreturns⟩

/-- The client disconnects while the attempt is pending. -/
theorem pending_leaks : ∃ n : Network Unit Nat, n.Reachable ∧ ¬ ClosesOnce n := by
  obtain ⟨n, hrun, htest⟩ := run_of_exec
    (connectAndDial ++ disconnectAndJoin [.read .next, .read .next])
    (fun n => n.system.holder = .joinWrite false ∧ n.attempts.handles.opened = [3] ∧
      n.attempts.handles.closed = [] ∧ n.system.connection.any (·.writePc = .done))
    (by decide +kernel)
  obtain ⟨hh, hopened, hclosed, hany⟩ := of_decide_eq_true htest
  obtain ⟨c, hc, hpc⟩ := (Option.any_eq_true _ _).mp hany
  refine ⟨n, ⟨{}, _, initial_default, hrun⟩, fun h => ?_⟩
  have hsettled := h ⟨false, c, hh, hc, of_decide_eq_true hpc⟩
  refine Handles.not_settled_of_mem (n := 3) ?_ ?_ hsettled
  · rw [hopened]
    exact List.mem_cons_self
  · rw [hclosed]
    exact List.not_mem_nil

end Network

end TrueMqtt
