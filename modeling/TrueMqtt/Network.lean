import TrueMqtt.Attempts
import TrueMqtt.System.Greeting

/-!
# TrueMqtt.Network

The system with the sockets of its connection.  `TrueMqtt.System` leaves open which
connection attempt wins, and numbers the sockets in the order they are established;
here `connectToAny` decides on it with the descriptors it holds
(`TrueMqtt.Attempts`), and the steps that close or forget `m_socket` do so to its
descriptor.

Every step of the network is one of the system (`steps_system`), so what holds in the
runs of the system holds here.  A step of the read thread does to the sockets what
`ReadEffect` lists, one of the write thread what `WriteEffect` lists, and every other
step leaves them alone (`Outside`), unless it makes a new connection.
-/

namespace TrueMqtt

/-- What the environment decides in a step of the read thread. -/
inductive NetworkInput (A : Type) where
  | next
  | lookup (found : Option (List (Family × A)))
  | turn (t : Turn)
  | timer (ping : Bool)
  | receive (r : Received)

/-- One step of the network: of one of the two threads, or of the client. -/
inductive NetworkAction (C A : Type) where
  | read (i : NetworkInput A)
  | write (i : WriteInput)
  | client (a : Action C)

/-- The client, and the sockets of its connection. -/
structure Network (C A : Type) where
  system : System C := {}
  attempts : Attempts A := {}
  /-- in milliseconds -/
  connectionTimeout : Nat := 5000

namespace Network

variable {C A : Type}

/-- What a step of the read thread is to the system, and what it does to the sockets. -/
def readSockets (timeout : Nat) (c : Connection) (a : Attempts A) :
    NetworkInput A → Option (ReadInput × Attempts A)
  | .next =>
      match c.readPc with
      | .resolve => some (.next, a.resolve)
      | .connectToAny => if a.sockets = [] then none else some (.next, a)
      | .socketStore => some (.next, a.storeSocket)
      | .errorClose | .stopClose => some (.next, a.closeSocket)
      | .errorInvalidate | .stopInvalidate => some (.next, a.invalidate)
      | _ => some (.next, a)
  | .lookup none => some (.lookup false, a)
  | .lookup (some found) =>
      let a' := a.resolved found
      some (.lookup (!a'.addresses.isEmpty), a')
  | .turn t =>
      let (a', r) := a.connectToAny timeout t
      if t.dial.fresh a.handles then
        match c.readPc with
        -- before the select there is nothing to wait for
        | .connectToAny => if a.sockets = [] then some (.attempt r, a') else none
        | .connectCheck =>
            if c.state = .stop then some (.attempt .pending, a) else some (.attempt r, a')
        | _ => none
      else none
  | .timer ping => some (.timer ping, a)
  | .receive r => some (.receive r, a)

/-- What a step of the write thread does to the sockets. -/
def writeSockets (c : Connection) (a : Attempts A) : Attempts A :=
  match c.writePc with
  | .errorClose => a.closeSocket
  | .errorInvalidate => a.invalidate
  | _ => a

/-- A `Connection` has been constructed. -/
def Makes (s s' : System C) : Prop := s.holder ≠ .assign ∧ s'.holder = .assign

instance (s s' : System C) : Decidable (Makes s s') := by
  unfold Makes
  infer_instance

def step (n : Network C A) : NetworkAction C A → Except Halt (Network C A)
  | .read i => match n.system.connection with
      | none => .error .disabled
      | some c => match readSockets n.connectionTimeout c n.attempts i with
          | none => .error .disabled
          | some (j, a) =>
              (n.system.step (.read j)).map fun s => { n with system := s, attempts := a }
  | .write i => match n.system.connection with
      | none => .error .disabled
      | some c =>
          (n.system.step (.write i)).map fun s =>
            { n with system := s, attempts := writeSockets c n.attempts }
  | .client (.read _) | .client (.write _) => .error .disabled
  | .client b =>
      (n.system.step b).map fun s =>
        { n with system := s, attempts := if Makes n.system s then {} else n.attempts }

/-- The transitions of the network. -/
def Steps (n : Network C A) (b : NetworkAction C A) (n' : Network C A) : Prop := n.step b = .ok n'

/-- A client before its first call. -/
def Initial (n : Network C A) : Prop := n.system.Initial ∧ n.attempts = {}

/-- A state some run leads to. -/
def Reachable (n : Network C A) : Prop := ∃ n₀ bs, Initial n₀ ∧ Run Steps n₀ bs n

/-! ## the steps of the system -/

variable {n n' : Network C A} {b : NetworkAction C A}

theorem map_eq_ok {α β ε : Type} {x : Except ε α} {f : α → β} {y : β} (h : x.map f = .ok y) :
    ∃ a, x = .ok a ∧ y = f a := by
  cases x with
  | error e => cases h
  | ok a =>
      cases h
      exact ⟨a, rfl, rfl⟩

theorem steps_read {i : NetworkInput A} (h : n.Steps (.read i) n') :
    ∃ c c' j, n.system.connection = some c ∧
      readSockets n.connectionTimeout c n.attempts i = some (j, n'.attempts) ∧
      c.readStep n.system.config j = .ok c' ∧
      n.system.Steps (.read j) n'.system ∧
      n'.system = { n.system with connection := some c' } := by
  unfold Steps step at h
  cases hc : n.system.connection with
  | none => simp [hc] at h
  | some c =>
      simp only [hc] at h
      split at h
      · cases h
      · next j a hread =>
        obtain ⟨s, hs, rfl⟩ := map_eq_ok h
        have hstep : n.system.Steps (.read j) s := hs
        rw [System.step, hc] at hs
        obtain ⟨c', hr, rfl⟩ := map_eq_ok hs
        exact ⟨c, c', j, rfl, hread, hr, hstep, rfl⟩

theorem steps_write {i : WriteInput} (h : n.Steps (.write i) n') :
    ∃ c c', n.system.connection = some c ∧ n'.attempts = writeSockets c n.attempts ∧
      c.writeStep n.system.pointer i = .ok c' ∧
      n.system.Steps (.write i) n'.system ∧
      n'.system = { n.system with connection := some c' } := by
  unfold Steps step at h
  cases hc : n.system.connection with
  | none => simp [hc] at h
  | some c =>
      simp only [hc] at h
      obtain ⟨s, hs, rfl⟩ := map_eq_ok h
      have hstep : n.system.Steps (.write i) s := hs
      rw [System.step, hc] at hs
      obtain ⟨c', hw, rfl⟩ := map_eq_ok hs
      exact ⟨c, c', rfl, rfl, hw, hstep, rfl⟩

theorem steps_client {a : Action C} (h : n.Steps (.client a) n') :
    n.system.Steps a n'.system ∧ (∀ i, a ≠ .read i) ∧ (∀ i, a ≠ .write i) ∧
      n'.attempts = if Makes n.system n'.system then {} else n.attempts := by
  unfold Steps step at h
  split at h
  · next heq => cases heq
  · next heq => cases heq
  · cases h
  · cases h
  · next hread hwrite heq =>
    cases heq
    obtain ⟨s, hs, rfl⟩ := map_eq_ok h
    exact ⟨hs, fun i hi => hread i hi, fun i hi => hwrite i hi, rfl⟩

/-- Every step of the network is a step of the system. -/
theorem steps_system (h : n.Steps b n') : ∃ a, n.system.Steps a n'.system := by
  cases b with
  | read i =>
      obtain ⟨c, c', j, hc, hread, hr, hstep, hs⟩ := steps_read h
      exact ⟨_, hstep⟩
  | write i =>
      obtain ⟨c, c', hc, ha, hw, hstep, hs⟩ := steps_write h
      exact ⟨_, hstep⟩
  | client a => exact ⟨_, (steps_client h).1⟩

/-- The system of a reachable network is a reachable system. -/
theorem system_reachable (h : n.Reachable) : n.system.Reachable := by
  obtain ⟨n₀, bs, h₀, hrun⟩ := h
  refine Run.invariant (I := fun n => n.system.Reachable) ⟨n₀.system, [], h₀.1, .nil⟩ ?_ hrun
  rintro n b n' ⟨s₀, as, hs₀, hs⟩ hstep
  obtain ⟨a, ha⟩ := steps_system hstep
  exact ⟨s₀, _, hs₀, .snoc hs ha⟩

end Network

/-! ## what a step does to the sockets -/

/-- Where the read thread works on its sockets. -/
def ReadPc.touches : ReadPc → Bool
  | resolve | getaddrinfo | connectToAny | connectCheck | socketStore | errorClose
  | errorInvalidate | stopClose | stopInvalidate => true
  | _ => false

/-- Between `closesocket(m_socket)` and `m_socket = INVALID_SOCKET`. -/
def ReadPc.closing : ReadPc → Bool
  | errorInvalidate | stopInvalidate => true
  | _ => false

/-- Where `connectToAny` goes on. -/
def Attempt.next : Attempt → ReadPc
  | pending => .loop
  | exhausted => .backoffStore
  | established => .socketStore

/-- What a step of the read thread can do. -/
inductive ReadEffect {A : Type} (cfg : Config) (c : Connection) (a : Attempts A) :
    Connection → Attempts A → Prop
  | quiet {c' : Connection} {j : ReadInput} (hpc : c.readPc.touches = false)
      (hr : c.readStep cfg j = .ok c') : ReadEffect cfg c a c' a
  | resolve (hpc : c.readPc = .resolve) :
      ReadEffect cfg c a { c with socket := none, readPc := .getaddrinfo } a.resolve
  | unresolved (hpc : c.readPc = .getaddrinfo) :
      ReadEffect cfg c a { c with readPc := .lookupCallback } a
  | resolved {found : List (Family × A)} {pc : ReadPc} (hpc : c.readPc = .getaddrinfo)
      (hpc' : pc = .resolveCheck ∨ pc = .lookupCallback) :
      ReadEffect cfg c a { c with readPc := pc } (a.resolved found)
  | polls (hpc : c.readPc = .connectToAny) :
      ReadEffect cfg c a { c with readPc := .connectCheck } a
  | interrupted (hpc : c.readPc = .connectCheck) (hst : c.state = .stop) :
      ReadEffect cfg c a { c with readPc := .loop } a
  | called {t : Turn} {a' : Attempts A} {r : Attempt}
      (hpc : c.readPc = .connectToAny ∨ c.readPc = .connectCheck)
      (hd : t.dial.fresh a.handles = true) (hcalled : a.Called t a' r) :
      ReadEffect cfg c a { c with readPc := r.next } a'
  | store (hpc : c.readPc = .socketStore) :
      ReadEffect cfg c a
        { c with socket := some c.sockets, sockets := c.sockets + 1, readPc := .authCheck }
        a.storeSocket
  | close {pc : ReadPc} (hpc : c.readPc = .errorClose ∧ pc = .errorInvalidate ∨
        c.readPc = .stopClose ∧ pc = .stopInvalidate) :
      ReadEffect cfg c a { c with closed := c.socket.toList ++ c.closed, readPc := pc }
        a.closeSocket
  | invalidate {pc : ReadPc} (hpc : c.readPc = .errorInvalidate ∧ pc = .loop ∨
        c.readPc = .stopInvalidate ∧ pc = .done) :
      ReadEffect cfg c a { c with socket := none, readPc := pc } a.invalidate

/-- What a step of the write thread can do. -/
inductive WriteEffect {A : Type} (pointer : Bool) (c : Connection) (a : Attempts A) :
    WriteInput → Connection → Attempts A → Prop
  | quiet {c' : Connection} {i : WriteInput} (hclose : c.writePc ≠ .errorClose)
      (hinvalidate : c.writePc ≠ .errorInvalidate) (hw : c.writeStep pointer i = .ok c') :
      WriteEffect pointer c a i c' a
  | close (hpc : c.writePc = .errorClose) :
      WriteEffect pointer c a .next
        { c with closed := c.socket.toList ++ c.closed, writePc := .errorInvalidate } a.closeSocket
  | invalidate (hpc : c.writePc = .errorInvalidate) :
      WriteEffect pointer c a .next { c with socket := none, writePc := .loop } a.invalidate

namespace Network

variable {C A : Type} {cfg : Config} {c c' : Connection} {a a' : Attempts A}

theorem readEffect_of_readStep {timeout : Nat} {i : NetworkInput A} {j : ReadInput}
    (h : readSockets timeout c a i = some (j, a')) (hr : c.readStep cfg j = .ok c') :
    ReadEffect cfg c a c' a' := by
  cases i with
  | next =>
      simp only [readSockets] at h
      split at h
      case h_8 =>
        cases h
        refine .quiet ?_ hr
        cases hpc : c.readPc <;> simp_all [ReadPc.touches, Connection.readStep]
      case h_2 hpc =>
        split at h
        · cases h
        · cases h
          simp only [Connection.readStep, hpc] at hr
          cases hr
          exact .polls hpc
      all_goals
        cases h
        simp only [Connection.readStep, ‹c.readPc = _›] at hr
        cases hr
      · exact .resolve ‹_›
      · exact .store ‹_›
      · exact .close (.inl ⟨‹_›, rfl⟩)
      · exact .close (.inr ⟨‹_›, rfl⟩)
      · exact .invalidate (.inl ⟨‹_›, rfl⟩)
      · exact .invalidate (.inr ⟨‹_›, rfl⟩)
  | lookup found =>
      cases found with
      | none =>
          cases h
          cases Connection.readBranch_of_readStep hr with
          | lookupFails hpc => exact .unresolved hpc
      | some found =>
          cases h
          simp only [Connection.readStep] at hr
          split at hr
          · next hpc =>
            cases hr
            refine .resolved hpc ?_
            split
            · exact .inl rfl
            · exact .inr rfl
          · cases hr
  | turn t =>
      simp only [readSockets] at h
      cases hcall : a.connectToAny timeout t with
      | mk b r =>
        have hcalled := Attempts.called_of_connectToAny hcall
        simp only [hcall] at h
        split at h
        · next hd =>
          split at h
          · next hpc =>
            split at h
            · cases h
              simp only [Connection.readStep, hpc] at hr
              cases r <;> cases hr
              · exact .called (.inl hpc) hd hcalled
              · exact .called (.inl hpc) hd hcalled
            · cases h
          · next hpc =>
            split at h
            · next hst =>
              cases h
              simp only [Connection.readStep, hpc, if_pos hst] at hr
              cases hr
              exact .interrupted hpc hst
            · next hst =>
              cases h
              simp only [Connection.readStep, hpc, if_neg hst] at hr
              cases r <;> cases hr
              all_goals exact .called (.inr hpc) hd hcalled
          · cases h
        · cases h
  | timer ping =>
      cases h
      refine .quiet ?_ hr
      cases Connection.readBranch_of_readStep hr with
      | ping hpc | noPing hpc =>
          rw [hpc]
          rfl
  | receive r =>
      cases h
      refine .quiet ?_ hr
      cases Connection.readBranch_of_readStep hr with
      | receiveFails hpc | more hpc | received hpc =>
          rw [hpc]
          rfl

theorem writeEffect_of_writeStep {pointer : Bool} {i : WriteInput}
    (hw : c.writeStep pointer i = .ok c') :
    WriteEffect pointer c a i c' (writeSockets c a) := by
  unfold writeSockets
  split
  · next hpc =>
    cases i <;> simp only [Connection.writeStep, hpc] at hw <;> cases hw
    exact .close hpc
  · next hpc =>
    cases i <;> simp only [Connection.writeStep, hpc] at hw <;> cases hw
    exact .invalidate hpc
  · next hclose hinvalidate => exact .quiet hclose hinvalidate hw

end Network

/-! ## what the client does to a connection -/

/-- The read thread and `m_state`, over a step of neither thread. -/
inductive Between (c c' : Connection) : Prop
  | same (hpc : c'.readPc = c.readPc) (hst : c'.state = c.state)
  | stop (hpc : c'.readPc = c.readPc) (hst : c'.state = .stop)
  /-- the read thread has the mutex, and goes on -/
  | resumed (hpc : c.readPc = .lockState true ∨ c.readPc = .stateChange ∨
        ∃ topic message, c.readPc = .lockMessage topic message)
      (hpc' : c'.readPc = .stateChange ∨ c'.readPc = .loop) (hst : c'.state = c.state)
  | lost (hpc : c.readPc = .lockState false) (hpc' : c'.readPc = .clearQueue)
      (hst : c'.state = c.state)

namespace System

variable {C : Type} {s s' : System C} {a : Action C} {c c' : Connection}

/-- What a step of neither thread can do: leave no connection, make one, or keep the
one there is, with its socket. -/
inductive Outside (s s' : System C) : Prop
  | absent (hc' : s'.connection = none)
  | made (hm : Network.Makes s s') (hc' : s'.connection = some (.new s.config))
  | kept (c c' : Connection) (hm : ¬ Network.Makes s s') (hc : s.connection = some c)
      (hc' : s'.connection = some c') (hk : c'.socket = c.socket)
      (hw : c'.writePc = c.writePc ∨ (c.writePc = .blocked ∧ c'.writePc = .wait))
      (hb : Between c c')

theorem not_makes_of_holder (h : s'.holder = s.holder) : ¬ Network.Makes s s' := by
  rintro ⟨hne, he⟩
  exact hne (h.symm.trans he)

theorem not_makes_of_ne (h : s'.holder ≠ .assign) : ¬ Network.Makes s s' := fun hm => h hm.2

theorem writePc_notify (c : Connection) :
    c.notify.writePc = c.writePc ∨ (c.writePc = .blocked ∧ c.notify.writePc = .wait) := by
  unfold Connection.notify
  split
  · next hb => exact .inr ⟨hb, rfl⟩
  · exact .inl rfl

theorem outside_of_same (hm : ¬ Network.Makes s s') (hc' : s'.connection = s.connection) :
    Outside s s' := by
  cases hc : s.connection with
  | none => exact .absent (hc'.trans hc)
  | some c => exact .kept c c hm hc (hc'.trans hc) rfl (.inl rfl) (.same rfl rfl)

/-- A send, on the connection `d` that is `c` but for its queue. -/
theorem outside_after {d : Connection} {sent : Bool} {k : After} (hc : s.connection = some c)
    (h : s.after d sent k = .ok s') (hk : d.socket = c.socket) (hpc : d.readPc = c.readPc)
    (hst : d.state = c.state)
    (hw : d.writePc = c.writePc ∨ (c.writePc = .blocked ∧ d.writePc = .wait))
    (hr : k.restoring = true → c.readPc = .stateChange) : Outside s s' := by
  have hm := not_makes_of_ne (s := s) (holder_after h)
  obtain hsame | ⟨hrestoring, hrestored⟩ := connection_after h
  · exact .kept c d hm hc hsame hk hw (.same hpc hst)
  · exact .kept c _ hm hc hrestored hk hw
      (.resumed (.inr (.inl (hr hrestoring))) (.inr rfl) hst)

theorem outside_of_move (hf : s.Follows) (hm : Move s a s') (hread : ∀ i, a ≠ .read i)
    (hwrite : ∀ i, a ≠ .write i) : Outside s s' := by
  cases hm with
  | idle => exact outside_of_same (not_makes_of_holder rfl) rfl
  | setPublishQueue hst => exact outside_of_same (not_makes_of_holder rfl) rfl
  | setSendQueue hst => exact outside_of_same (not_makes_of_holder rfl) rfl
  | setLastWill => exact outside_of_same (not_makes_of_holder rfl) rfl
  | connect hfree hst => exact .made ⟨by simp [hfree], rfl⟩ rfl
  | disconnect hfree hst =>
      exact outside_of_same (not_makes_of_ne (disconnect_not_assign _)) (connection_disconnect _)
  | toPublishQueue hfree hst hq => exact outside_of_same (not_makes_of_holder rfl) rfl
  | publish hfree hst =>
      exact outside_of_same (not_makes_of_ne (by simp [sendPublish])) rfl
  | addSubscription hfree hst => exact outside_of_same (not_makes_of_holder rfl) rfl
  | subscribe hfree hst =>
      exact outside_of_same (not_makes_of_ne (by simp [sendSubscribe])) rfl
  | removeSubscription hfree hst hmem hi => exact outside_of_same (not_makes_of_holder rfl) rfl
  | unsubscribe hfree hst hmem hi =>
      exact outside_of_same (not_makes_of_ne (by simp [sendUnsubscribe])) rfl
  | room hc hh hsize => exact outside_of_same (not_makes_of_ne (by simp)) rfl
  | refused hc hh hsize ha =>
      exact outside_after hc ha rfl rfl rfl (.inl rfl) (readPc_of_restoring hf hc (.inl hh))
  | pushed hc hh hqf ha =>
      exact outside_after hc ha (Connection.socket_notify _) (Connection.readPc_notify _)
        (Connection.state_notify _) (writePc_notify _) (readPc_of_restoring hf hc (.inr hh))
  | stop hc hh =>
      exact .kept _ _ (not_makes_of_ne (by simp)) hc rfl rfl (.inl rfl) (.stop rfl rfl)
  | notify hc hh =>
      exact .kept _ _ (not_makes_of_ne (by simp)) hc rfl (Connection.socket_notify _)
        (writePc_notify _) (.same (Connection.readPc_notify _) (Connection.state_notify _))
  | joinRead hc hh hpc => exact outside_of_same (not_makes_of_ne (by simp)) rfl
  | destroyed hc hh hpc => exact .absent rfl
  | replaced hc hh hpc => exact .made ⟨by simp [hh], rfl⟩ rfl
  | assign hh hc => exact outside_of_same (not_makes_of_ne (by simp)) rfl
  | connected hc hfree hpc =>
      obtain hsame | hrestored := connection_resubscribe _ _ _
      · exact .kept _ _ (not_makes_of_ne (goesOn_resubscribe _ _ _).not_assign) hc hsame rfl
          (.inl rfl) (.resumed (.inl hpc) (.inl rfl) rfl)
      · exact .kept _ _ (not_makes_of_ne (goesOn_resubscribe _ _ _).not_assign) hc hrestored rfl
          (.inl rfl) (.resumed (.inl hpc) (.inr rfl) rfl)
  | lost hc hfree hpc =>
      exact .kept _ _ (not_makes_of_holder rfl) hc rfl rfl (.inl rfl) (.lost hpc rfl rfl)
  | message hc hfree hpc =>
      exact .kept _ _ (not_makes_of_holder rfl) hc rfl rfl (.inl rfl)
        (.resumed (.inr (.inr ⟨_, _, hpc⟩)) (.inr rfl) rfl)
  | read hc hr => exact absurd rfl (hread _)
  | write hc hw => exact absurd rfl (hwrite _)

end System

namespace Network

variable {C A : Type} {n n' : Network C A} {b : NetworkAction C A}

/-- **Invariant rule for the sockets.**  A relation between the connection and its
sockets that a new connection meets, and that every step keeps where it meets the
condition `G`, holds in every run of such steps. -/
theorem invariant_of_guarded {G : Network C A → NetworkAction C A → Prop}
    {I : Connection → Attempts A → Prop} {n₀ : Network C A} {bs : List (NetworkAction C A)}
    (hnew : ∀ cfg, I (.new cfg) {})
    (hread : ∀ (n : Network C A) i c c' a', n.system.connection = some c → I c n.attempts →
      G n (.read i) → ReadEffect n.system.config c n.attempts c' a' → I c' a')
    (hwrite : ∀ (n : Network C A) i c c' a', n.system.connection = some c → I c n.attempts →
      G n (.write i) → WriteEffect n.system.pointer c n.attempts i c' a' → I c' a')
    (hbetween : ∀ c c' (a : Attempts A), I c a → c'.socket = c.socket →
      (c'.writePc = c.writePc ∨ (c.writePc = .blocked ∧ c'.writePc = .wait)) →
      Between c c' → I c' a)
    (h₀ : Initial n₀) (h : Run (Guarded Steps G) n₀ bs n) :
    ∀ c, n.system.connection = some c → I c n.attempts := by
  have hinv : n.system.Reachable ∧ ∀ c, n.system.connection = some c → I c n.attempts := by
    refine Run.invariant
      (I := fun n => n.system.Reachable ∧ ∀ c, n.system.connection = some c → I c n.attempts)
      ⟨⟨n₀.system, [], h₀.1, .nil⟩, ?_⟩ ?_ h
    · obtain ⟨⟨config, hs⟩, -⟩ := h₀
      intro c hc
      rw [hs] at hc
      cases hc
    · rintro n b n' ⟨hreach, hI⟩ ⟨hg, hstep⟩
      obtain ⟨s₀, as, hs₀, hrun⟩ := hreach
      have hf := System.follows_of_run hs₀ hrun
      obtain ⟨a, ha⟩ := steps_system hstep
      refine ⟨⟨s₀, _, hs₀, .snoc hrun ha⟩, ?_⟩
      cases b with
      | read i =>
          obtain ⟨c, c', j, hc, hsockets, hr, -, hs'⟩ := steps_read hstep
          intro d hd
          rw [hs'] at hd
          cases hd
          exact hread n i c c' _ hc (hI c hc) hg (readEffect_of_readStep hsockets hr)
      | write i =>
          obtain ⟨c, c', hc, hsockets, hw, -, hs'⟩ := steps_write hstep
          intro d hd
          rw [hs'] at hd
          cases hd
          rw [hsockets]
          exact hwrite n i c c' _ hc (hI c hc) hg (writeEffect_of_writeStep hw)
      | client a =>
          obtain ⟨hs, hnr, hnw, hsockets⟩ := steps_client hstep
          rw [hsockets]
          intro d hd
          cases System.outside_of_move hf (System.move_of_step hs) hnr hnw with
          | absent hc' => cases hc'.symm.trans hd
          | made hm hc' =>
              cases hc'.symm.trans hd
              rw [if_pos hm]
              exact hnew _
          | kept c c' hm hc hc' hk hw hb =>
              cases hc'.symm.trans hd
              rw [if_neg hm]
              exact hbetween c _ _ (hI c hc) hk hw hb
  exact hinv.2

/-! ## evaluation -/

/-- The state after a step that meets a condition, for evaluation. -/
def nextIf (G : Network C A → NetworkAction C A → Prop) [∀ n b, Decidable (G n b)]
    (n : Network C A) (b : NetworkAction C A) : Option (Network C A) :=
  if G n b then (n.step b).toOption else none

theorem guarded_of_nextIf {G : Network C A → NetworkAction C A → Prop} [∀ n b, Decidable (G n b)]
    (h : n.nextIf G b = some n') : Guarded Steps G n b n' := by
  unfold nextIf at h
  split at h
  · next hg =>
    refine ⟨hg, ?_⟩
    unfold Steps
    cases hs : n.step b with
    | error e => simp [hs, Except.toOption] at h
    | ok m =>
        simp only [hs, Except.toOption, Option.some.injEq] at h
        rw [h]
  · cases h

/-- A run from the initial state, by evaluation of a test on its last state. -/
theorem guarded_run_of_exec (G : Network C A → NetworkAction C A → Prop)
    [∀ n b, Decidable (G n b)] (bs : List (NetworkAction C A)) (test : Network C A → Bool)
    (h : (exec (nextIf G) {} bs).any test = true) :
    ∃ n, Run (Guarded Steps G) ({} : Network C A) bs n ∧ test n = true :=
  Run.of_exec (fun {_ _ _} => guarded_of_nextIf) h

/-- The same without a condition. -/
theorem run_of_exec (bs : List (NetworkAction C A)) (test : Network C A → Bool)
    (h : (exec (nextIf fun _ _ => True) {} bs).any test = true) :
    ∃ n, Run Steps ({} : Network C A) bs n ∧ test n = true := by
  obtain ⟨n, hrun, htest⟩ := guarded_run_of_exec (fun _ _ => True) bs test h
  exact ⟨n, hrun.mono fun _ _ _ hs => hs.2, htest⟩

theorem initial_default : Initial ({} : Network C A) := ⟨System.initial_default, rfl⟩

end Network

end TrueMqtt
