import TrueMqtt.Connection.Moves

/-!
# TrueMqtt.Connection.Greeting

What is written to a socket, and which packet comes first.

`WireState` lists the situations of the current socket: nothing written and the
CONNECT still to come, queued or held; between packets, or within one; given up
on, either in the middle of a packet or because the CONNECT was dropped.
`WiresOk` is kept by the steps of a connection that meet `GreetsFirst`.
-/

namespace TrueMqtt

/-- Bytes that complete packets are, of which the first is a CONNECT. -/
def Whole (w : Str) : Prop :=
  ∃ info os, w = (Outgoing.connect info :: os).flatMap Outgoing.encode

/-- Bytes that are the beginning of such packets. -/
def Greeted (w : Str) : Prop :=
  ∃ info os, w <+: (Outgoing.connect info :: os).flatMap Outgoing.encode

/-- The bytes before the packet `o`: it is a CONNECT, or one came before. -/
def Precedes (pre : Str) (o : Outgoing) : Prop :=
  (pre = [] ∧ o.isConnect = true) ∨ Whole pre

theorem greeted_nil : Greeted [] := ⟨{ clientId := [] }, [], List.nil_prefix⟩

theorem greeted_of_whole {w : Str} (h : Whole w) : Greeted w := by
  obtain ⟨info, os, rfl⟩ := h
  exact ⟨info, os, List.prefix_rfl⟩

/-- The first byte on a socket is the header of a CONNECT. -/
theorem head_of_greeted {b : UInt8} {w : Str} (h : Greeted (b :: w)) : b = 0x10 := by
  obtain ⟨info, os, hpre⟩ := h
  have hpacket := Packet.build_eq .connect 0 (Draft.connect info).fields
  obtain ⟨tail, htail⟩ := Packet.unsent_writeHeader_eq_cons
    (Packet.build .connect 0 (Draft.connect info).fields) (by simp [hpacket])
  have hheader : Packet.headerByte .connect 0 = 0x10 := by decide
  have hencode : (Outgoing.connect info).encode = 0x10 :: tail := by
    rw [← hheader]
    rw [hpacket] at htail
    change (Packet.build .connect 0 (Draft.connect info).fields).writeHeader.unsent = _
    rw [hpacket, htail]
  rw [List.flatMap_cons, hencode, List.cons_append] at hpre
  exact (List.cons_prefix_cons.mp hpre).1

/-- A packet in its place makes whole packets. -/
theorem whole_of_precedes {pre : Str} {o : Outgoing} (h : Precedes pre o) :
    Whole (pre ++ o.encode) := by
  obtain ⟨rfl, ho⟩ | ⟨info, os, rfl⟩ := h
  · cases o with
    | connect info => exact ⟨info, [], by simp⟩
    | pingRequest | publish | subscribe | unsubscribe => cases ho
  · exact ⟨info, os ++ [o], by simp⟩

/-- A part of it makes the beginning of some. -/
theorem greeted_of_precedes {pre : Str} {o : Outgoing} (h : Precedes pre o) (n : Nat) :
    Greeted (pre ++ o.encode.take n) := by
  obtain ⟨info, os, hos⟩ := whole_of_precedes h
  refine ⟨info, os, ?_⟩
  rw [← hos]
  exact (List.prefix_append_right_inj pre).mpr (List.take_prefix n o.encode)

/-- The read thread has stored a socket and not yet queued the CONNECT. -/
def ReadPc.greeting : ReadPc → Bool
  | authCheck | authStore | sendConnect => true
  | _ => false

/-- The read thread is told of a lost connection. -/
def ReadPc.losing : ReadPc → Bool
  | lostStore | lockState false | clearQueue => true
  | _ => false

namespace WritePc

def isWriting : WritePc → Bool
  | writing _ _ => true
  | _ => false

/-- After a failed `::send`. -/
def failing : WritePc → Bool
  | errorPtr | errorStore | errorTest | errorClose | errorInvalidate => true
  | _ => false

theorem isWriting_of_packet? {pc : WritePc} (h : pc.packet? = none) : pc.isWriting = false := by
  cases pc <;> first | rfl | cases h

end WritePc

/-- The current socket: whether the read thread is about to queue its CONNECT,
whether the connection is online, the send queue, the write thread and the bytes
written. -/
inductive WireState (greeting online : Bool) (queue : List Outgoing) (pc : WritePc) (w : Str) :
    Prop
  | fresh (hg : greeting = true) (hq : queue = []) (hp : pc.packet? = none) (hw : w = [])
  | queued (info : ConnectInfo) (q : List Outgoing) (hg : greeting = false)
      (hq : queue = .connect info :: q) (hp : pc.packet? = none) (hw : w = [])
  | held (info : ConnectInfo) (hg : greeting = false) (hp : pc = .holding (.connect info))
      (hw : w = [])
  | between (hp : pc.isWriting = false) (hw : Whole w)
  | within (o : Outgoing) (offset : Nat) (pre : Str) (hp : pc = .writing o offset)
      (hpre : Precedes pre o) (hw : w = pre ++ o.encode.take offset)
  | failed (hp : pc.failing = true) (hw : Greeted w)
  | dropped (hg : greeting = false) (ho : online = false) (hp : pc.isWriting = false) (hw : w = [])

section

variable {greeting greeting' online online' : Bool} {queue queue' : List Outgoing}
  {pc pc' : WritePc} {w : Str}

theorem WireState.greeted (h : WireState greeting online queue pc w) : Greeted w := by
  cases h with
  | fresh hg hq hp hw => exact hw ▸ greeted_nil
  | queued info q hg hq hp hw => exact hw ▸ greeted_nil
  | held info hg hp hw => exact hw ▸ greeted_nil
  | between hp hw => exact greeted_of_whole hw
  | within o offset pre hp hpre hw => exact hw ▸ greeted_of_precedes hpre offset
  | failed hp hw => exact hw
  | dropped hg ho hp hw => exact hw ▸ greeted_nil

/-- Waking the write thread changes nothing for the socket. -/
theorem WireState.woken (h : WireState greeting online queue pc w)
    (hpc : pc' = pc ∨ (pc = .blocked ∧ pc' = .wait)) : WireState greeting online queue pc' w := by
  obtain rfl | ⟨rfl, rfl⟩ := hpc
  · exact h
  · cases h with
    | fresh hg hq hp hw => exact .fresh hg hq rfl hw
    | queued info q hg hq hp hw => exact .queued info q hg hq rfl hw
    | held info hg hp hw => cases hp
    | between hp hw => exact .between rfl hw
    | within o offset pre hp hpre hw => cases hp
    | failed hp hw => cases hp
    | dropped hg ho hp hw => exact .dropped hg ho rfl hw

/-- What happens besides the write thread concerns a socket only as long as
nothing is written to it. -/
theorem WireState.change (h : WireState greeting online queue pc w)
    (hfresh : greeting = true → queue = [] → pc.packet? = none → w = [] →
      WireState greeting' online' queue' pc w)
    (hqueued : ∀ info q, greeting = false → queue = .connect info :: q → pc.packet? = none →
      w = [] → WireState greeting' online' queue' pc w)
    (hheld : ∀ info, greeting = false → pc = .holding (.connect info) → w = [] →
      WireState greeting' online' queue' pc w)
    (hdropped : greeting = false → online = false → pc.isWriting = false → w = [] →
      WireState greeting' online' queue' pc w) : WireState greeting' online' queue' pc w := by
  cases h with
  | fresh hg hq hp hw => exact hfresh hg hq hp hw
  | queued info q hg hq hp hw => exact hqueued info q hg hq hp hw
  | held info hg hp hw => exact hheld info hg hp hw
  | between hp hw => exact .between hp hw
  | within o offset pre hp hpre hw => exact .within o offset pre hp hpre hw
  | failed hp hw => exact .failed hp hw
  | dropped hg ho hp hw => exact hdropped hg ho hp hw

/-- Outside of the greeting, a change of `m_state` matters only when it puts a
connection online whose socket has had no CONNECT. -/
theorem WireState.quiet (h : WireState false online queue pc w)
    (ho : online = false → w = [] → online' = false) : WireState false online' queue pc w :=
  h.change (fun hg => (nomatch hg)) .queued .held
    fun hg ho' hp hw => .dropped hg (ho ho' hw) hp hw

/-- Neither does a change of the queue that leaves a CONNECT at its head. -/
theorem WireState.requeue (h : WireState false online queue pc w)
    (hq : ∀ info q, queue = .connect info :: q → ∃ q', queue' = .connect info :: q') :
    WireState false online queue' pc w := by
  refine h.change (fun hg => (nomatch hg)) (fun info q hg hq' hp hw => ?_) .held .dropped
  obtain ⟨q', hq''⟩ := hq info q hq'
  exact .queued info q' hg hq'' hp hw

/-- Going offline changes nothing. -/
theorem WireState.offline (h : WireState greeting online queue pc w) :
    WireState greeting false queue pc w :=
  h.change .fresh .queued .held fun hg _ hp hw => .dropped hg rfl hp hw

/-- The greeting goes on, or is given up by a connection that is offline. -/
theorem WireState.greet (h : WireState true online queue pc w)
    (hg' : greeting' = true ∨ (greeting' = false ∧ online' = false)) :
    WireState greeting' online' queue pc w := by
  refine h.change (fun _ hq hp hw => ?_) (fun _ _ hg => (nomatch hg)) (fun _ hg => (nomatch hg))
    fun hg => (nomatch hg)
  obtain hg' | ⟨hg', ho⟩ := hg'
  · exact .fresh hg' hq hp hw
  · exact .dropped hg' ho (WritePc.isWriting_of_packet? hp) hw

/-- The greeting ends with the CONNECT in the queue. -/
theorem WireState.connect (h : WireState true online queue pc w) (info : ConnectInfo) :
    WireState false online' (.connect info :: queue) pc w :=
  h.change (fun _ _ hp hw => .queued info queue rfl rfl hp hw) (fun _ _ hg => (nomatch hg))
    (fun _ hg => (nomatch hg)) fun hg => (nomatch hg)

/-- A connection that is offline can clear its queue. -/
theorem WireState.clear (h : WireState false false queue pc w) :
    WireState false false queue' pc w :=
  h.change (fun hg => (nomatch hg))
    (fun _ _ hg _ hp hw => .dropped hg rfl (WritePc.isWriting_of_packet? hp) hw) .held .dropped

/-- A write thread without a packet moves on. -/
theorem WireState.idle (h : WireState greeting online queue pc w)
    (hp : pc.packet? = none) (hp' : pc'.packet? = none)
    (hf : pc.failing = true → pc'.failing = true) (ho : online = false → online' = false) :
    WireState greeting online' queue pc' w := by
  cases h with
  | fresh hg hq _ hw => exact .fresh hg hq hp' hw
  | queued info q hg hq _ hw => exact .queued info q hg hq hp' hw
  | held info hg hheld hw =>
      rw [hheld] at hp
      cases hp
  | between _ hw => exact .between (WritePc.isWriting_of_packet? hp') hw
  | within o offset pre hwriting _ _ =>
      rw [hwriting] at hp
      cases hp
  | failed hfail hw => exact .failed (hf hfail) hw
  | dropped hg ho' _ hw => exact .dropped hg (ho ho') (WritePc.isWriting_of_packet? hp') hw

/-- The write thread takes the first packet off the queue: on a silent socket
that is online, the CONNECT. -/
theorem WireState.take {o : Outgoing} (h : WireState greeting online (o :: queue) pc w)
    (hp : pc.packet? = none) (hf : pc.failing = false) :
    WireState greeting online queue (.holding o) w := by
  cases h with
  | fresh _ hq _ _ => cases hq
  | queued info q hg hq _ hw =>
      cases hq
      exact .held info hg rfl hw
  | held info hg hheld hw =>
      rw [hheld] at hp
      cases hp
  | between _ hw => exact .between rfl hw
  | within o offset pre hwriting _ _ =>
      rw [hwriting] at hp
      cases hp
  | failed hfail _ =>
      rw [hf] at hfail
      cases hfail
  | dropped hg ho _ hw => exact .dropped hg ho rfl hw

/-- A socket while the write thread holds a packet. -/
theorem WireState.of_holding {o : Outgoing} (h : WireState greeting online queue (.holding o) w) :
    (w = [] ∧ greeting = false ∧ (o.isConnect = true ∨ online = false)) ∨ Whole w := by
  cases h with
  | fresh hg hq hp hw => cases hp
  | queued info q hg hq hp hw => cases hp
  | held info hg hp hw =>
      cases hp
      exact .inl ⟨hw, hg, .inl rfl⟩
  | between hp hw => exact .inr hw
  | within o offset pre hp hpre hw => cases hp
  | failed hp hw => cases hp
  | dropped hg ho hp hw => exact .inl ⟨hw, hg, .inr ho⟩

/-- A socket while the write thread writes a packet. -/
theorem WireState.of_writing {o : Outgoing} {offset : Nat}
    (h : WireState greeting online queue (.writing o offset) w) :
    ∃ pre, Precedes pre o ∧ w = pre ++ o.encode.take offset := by
  cases h with
  | fresh hg hq hp hw => cases hp
  | queued info q hg hq hp hw => cases hp
  | held info hg hp hw => cases hp
  | between hp hw => cases hp
  | within o offset pre hp hpre hw =>
      cases hp
      exact ⟨pre, hpre, hw⟩
  | failed hp hw => cases hp
  | dropped hg ho hp hw => cases hp

end

namespace Connection

variable {cfg : Config} {c c' : Connection}

/-- Nothing has been written to the current socket. -/
def silent (c : Connection) : Bool :=
  match c.socket with
  | some k => c.wires k = []
  | none => false

/-- The condition on a step of the read thread: a socket is stored when no packet
of an earlier one is left, a PINGREQ does not overtake the CONNECT, and no CONNACK
that comes before anything was written overwrites a STOP or SOCKET_ERROR. -/
def GreetsFirst (c : Connection) : Prop :=
  match c.readPc with
  | .socketStore => c.sendQueue = [] ∧ c.writePc.packet? = none
  | .sendPingRequest => ∀ o ∈ c.sendQueue, o.isConnect = false
  | .connackStore => c.state.online = true ∨ c.silent = false
  | _ => True

instance (c : Connection) : Decidable c.GreetsFirst := by
  unfold GreetsFirst
  split <;> infer_instance

/-- The invariant of a connection. -/
structure WiresOk (c : Connection) : Prop where
  greeted : ∀ k, Greeted (c.wires k)
  unused : ∀ k, c.sockets ≤ k → c.wires k = []
  bound : ∀ k, c.socket = some k → k < c.sockets
  current : ∀ k, c.socket = some k →
    WireState c.readPc.greeting c.state.online c.sendQueue c.writePc (c.wires k)
  offline : c.readPc.losing = true → c.state.online = false

theorem wiresOk_new (cfg : Config) : (new cfg).WiresOk where
  greeted := fun _ => greeted_nil
  unused := fun _ _ => rfl
  bound := fun _ h => by cases h
  current := fun _ h => by cases h
  offline := fun h => by cases h

/-! ## the read thread -/

/-- What a step of the read thread does to the socket and the greeting. -/
inductive SocketMove (c c' : Connection) : Prop
  | quiet (hg : c.readPc.greeting = false) (hg' : c'.readPc.greeting = false)
      (hk : c'.socket = c.socket) (hn : c'.sockets = c.sockets) (hq : c'.sendQueue = c.sendQueue)
      (hs : c'.state = c.state ∨ c'.state.online = false)
  | forget (hk : c'.socket = none) (hn : c'.sockets = c.sockets)
  | establish (hpc : c.readPc = .socketStore) (hg' : c'.readPc.greeting = true)
      (hk : c'.socket = some c.sockets) (hn : c'.sockets = c.sockets + 1)
      (hq : c'.sendQueue = c.sendQueue)
  | greet (hg : c.readPc.greeting = true)
      (hg' : c'.readPc.greeting = true ∨ (c'.readPc.greeting = false ∧ c'.state.online = false))
      (hk : c'.socket = c.socket) (hn : c'.sockets = c.sockets) (hq : c'.sendQueue = c.sendQueue)
  | connect (info : ConnectInfo) (hg : c.readPc.greeting = true)
      (hg' : c'.readPc.greeting = false) (hk : c'.socket = c.socket) (hn : c'.sockets = c.sockets)
      (hq : c'.sendQueue = .connect info :: c.sendQueue)
  | ping (hpc : c.readPc = .sendPingRequest) (hg' : c'.readPc.greeting = false)
      (hk : c'.socket = c.socket) (hn : c'.sockets = c.sockets)
      (hq : c'.sendQueue = .pingRequest :: c.sendQueue) (hs : c'.state = c.state)
  | connack (hpc : c.readPc = .connackStore) (hg' : c'.readPc.greeting = false)
      (hk : c'.socket = c.socket) (hn : c'.sockets = c.sockets) (hq : c'.sendQueue = c.sendQueue)
  | clear (hpc : c.readPc = .clearQueue) (hg' : c'.readPc.greeting = false)
      (hk : c'.socket = c.socket) (hn : c'.sockets = c.sockets) (hs : c'.state = c.state)

theorem greeting_received (p : Packet) : (received p).greeting = false := by
  obtain h | h | h | h | ⟨topic, message, h⟩ := received_cases p <;> rw [h] <;> rfl

theorem greeting_dispatch (st : ConnectionState) : (dispatch st).greeting = false := by
  cases st <;> rfl

theorem socketMove_of_readStep {i : ReadInput} (h : c.readStep cfg i = .ok c') :
    SocketMove c c' := by
  cases readBranch_of_readStep h with
  | dispatch hpc =>
      exact .quiet (by rw [hpc]; rfl) (greeting_dispatch _) rfl rfl rfl (.inl rfl)
  | received hpc hu =>
      exact .quiet (by rw [hpc]; rfl) (greeting_received _) rfl rfl rfl (.inl rfl)
  | resolve hpc | errorInvalidate hpc | stopInvalidate hpc => exact .forget rfl rfl
  | socketStore hpc => exact .establish hpc rfl rfl rfl rfl
  | authStop hpc hst =>
      exact .greet (by rw [hpc]; rfl) (.inr ⟨rfl, by rw [hst]; rfl⟩) rfl rfl rfl
  | authCheck hpc hst => exact .greet (by rw [hpc]; rfl) (.inl rfl) rfl rfl rfl
  | authStore hpc => exact .greet (by rw [hpc]; rfl) (.inl rfl) rfl rfl rfl
  | sendConnect hpc hqf =>
      exact .connect cfg.connectInfo (by rw [hpc]; rfl) rfl (socket_notify _) (sockets_notify _)
        (sendQueue_notify _)
  | sendPingRequest hpc hqf =>
      exact .ping hpc rfl (socket_notify _) (sockets_notify _) (sendQueue_notify _)
        (state_notify _)
  | connackStore hpc => exact .connack hpc rfl rfl rfl rfl
  | clearQueue hpc hqf => exact .clear hpc rfl rfl rfl rfl
  | connectingStore hpc | backoffStore hpc | resolvingStore hpc | errorStore hpc
  | lostStore hpc =>
      -- a state that is stored elsewhere is one without a session
      exact .quiet (by rw [hpc]; rfl) rfl rfl rfl rfl (.inr rfl)
  | _ hpc => exact .quiet (by rw [hpc]; rfl) rfl rfl rfl rfl (.inl rfl)

/-- The read thread moves the write thread only by waking it. -/
theorem writePc_readStep {i : ReadInput} (h : c.readStep cfg i = .ok c') :
    c'.writePc = c.writePc ∨ (c.writePc = .blocked ∧ c'.writePc = .wait) := by
  have hnotify : ∀ d : Connection, d.writePc = c.writePc → d.notify.writePc = c.writePc ∨
      (c.writePc = .blocked ∧ d.notify.writePc = .wait) := by
    intro d hd
    unfold notify
    split
    · next hb => exact .inr ⟨hd.symm.trans hb, rfl⟩
    · exact .inl hd
  cases readBranch_of_readStep h with
  | sendConnect | sendPingRequest => exact hnotify _ rfl
  | _ => exact .inl rfl

theorem losing_received (p : Packet) : (received p).losing = false := by
  obtain h | h | h | h | ⟨topic, message, h⟩ := received_cases p <;> rw [h] <;> rfl

theorem offline_of_losing_dispatch {st : ConnectionState} (h : (dispatch st).losing = true) :
    st.online = false := by
  cases st <;> first | rfl | cases h

/-- A read thread that turns to clear the queue has gone offline. -/
theorem offline_readStep {i : ReadInput} (hr : c.readStep cfg i = .ok c') :
    c'.readPc.losing = true → c'.state.online = false := by
  intro hl
  cases readBranch_of_readStep hr with
  | dispatch hpc => exact offline_of_losing_dispatch hl
  | received hpc hu =>
      rw [losing_received] at hl
      cases hl
  | lostStore hpc => rfl
  | _ => cases hl

/-- A step of the read thread that meets the condition keeps the current socket
in order. -/
theorem wireState_readStep {i : ReadInput} {k : Nat} (h : c.WiresOk) (hgreets : c.GreetsFirst)
    (hr : c.readStep cfg i = .ok c') (hsock : c'.socket = some k) :
    WireState c'.readPc.greeting c'.state.online c'.sendQueue c.writePc (c.wires k) := by
  cases socketMove_of_readStep hr with
  | quiet hg hg' hk hn hq hs =>
      have hcur := h.current k (hk ▸ hsock)
      rw [hg] at hcur
      rw [hg', hq]
      refine hcur.quiet fun ho _ => ?_
      obtain hs | hs := hs
      · rw [hs, ho]
      · exact hs
  | forget hk hn =>
      rw [hk] at hsock
      cases hsock
  | establish hpc hg' hk hn hq =>
      rw [hk] at hsock
      cases hsock
      simp only [GreetsFirst, hpc] at hgreets
      exact .fresh hg' (hq.trans hgreets.1) hgreets.2 (h.unused _ (Nat.le_refl _))
  | greet hg hg' hk hn hq =>
      have hcur := h.current k (hk ▸ hsock)
      rw [hg] at hcur
      rw [hq]
      exact hcur.greet hg'
  | connect info hg hg' hk hn hq =>
      have hcur := h.current k (hk ▸ hsock)
      rw [hg] at hcur
      rw [hg', hq]
      exact hcur.connect info
  | ping hpc hg' hk hn hq hs =>
      have hcur := h.current k (hk ▸ hsock)
      have hg : c.readPc.greeting = false := by rw [hpc]; rfl
      rw [hg] at hcur
      simp only [GreetsFirst, hpc] at hgreets
      rw [hg', hq, hs]
      refine hcur.requeue fun info q hq' => ?_
      have hno := hgreets (.connect info) (by rw [hq']; exact List.mem_cons_self)
      cases hno
  | connack hpc hg' hk hn hq =>
      have hcur := h.current k (hk ▸ hsock)
      have hg : c.readPc.greeting = false := by rw [hpc]; rfl
      rw [hg] at hcur
      simp only [GreetsFirst, hpc] at hgreets
      rw [hg', hq]
      refine hcur.quiet fun ho hw => ?_
      obtain honline | hsilent := hgreets
      · rw [ho] at honline
        cases honline
      · simp [silent, hk ▸ hsock, hw] at hsilent
  | clear hpc hg' hk hn hs =>
      have hcur := h.current k (hk ▸ hsock)
      have hoff : c.state.online = false := h.offline (by rw [hpc]; rfl)
      have hg : c.readPc.greeting = false := by rw [hpc]; rfl
      rw [hg, hoff] at hcur
      rw [hg', hs, hoff]
      exact hcur.clear

theorem wiresOk_readStep {i : ReadInput} (h : c.WiresOk) (hgreets : c.GreetsFirst)
    (hr : c.readStep cfg i = .ok c') : c'.WiresOk := by
  have hwires := (readFrame_of_readStep hr).wires
  have hmove := socketMove_of_readStep hr
  have hsockets : c.sockets ≤ c'.sockets := by
    cases hmove <;> omega
  have hbound : ∀ k, c'.socket = some k → k < c'.sockets := by
    intro k hsock
    cases hmove with
    | forget hk hn =>
        rw [hk] at hsock
        cases hsock
    | establish hpc hg' hk hn hq =>
        rw [hk] at hsock
        cases hsock
        omega
    | quiet _ _ hk hn _ _ | greet _ _ hk hn _ | connect _ _ _ hk hn _ | ping _ _ hk hn _ _
    | connack _ _ hk hn _ | clear _ _ hk hn _ =>
        have hlt := h.bound k (hk ▸ hsock)
        omega
  refine ⟨?_, ?_, hbound, ?_, offline_readStep hr⟩
  · rw [hwires]
    exact h.greeted
  · intro k hk
    rw [hwires]
    exact h.unused k (by omega)
  · intro k hsock
    rw [hwires]
    exact (wireState_readStep h hgreets hr hsock).woken (writePc_readStep hr)

/-! ## the write thread -/

/-- What a step of the write thread does to the socket and the bytes. -/
inductive WireMove (c c' : Connection) : Prop
  /-- it holds and writes nothing -/
  | idle (hp : c.writePc.packet? = none) (hp' : c'.writePc.packet? = none)
      (hf : c.writePc.failing = true → c'.socket = none ∨ c'.writePc.failing = true)
      (hk : c'.socket = c.socket ∨ c'.socket = none) (hq : c'.sendQueue = c.sendQueue)
      (hs : c'.state = c.state ∨ c'.state.online = false) (hw : c'.wires = c.wires)
  | take (o : Outgoing) (hp : c.writePc.packet? = none) (hf : c.writePc.failing = false)
      (hp' : c'.writePc = .holding o) (hk : c'.socket = c.socket)
      (hq : c.sendQueue = o :: c'.sendQueue) (hs : c'.state = c.state) (hw : c'.wires = c.wires)
  | start (o : Outgoing) (hp : c.writePc = .holding o) (hp' : c'.writePc = .writing o 0)
      (ho : c.state.online = true) (hk : c'.socket = c.socket)
      (hq : c'.sendQueue = c.sendQueue) (hs : c'.state = c.state) (hw : c'.wires = c.wires)
  | drop (o : Outgoing) (hp : c.writePc = .holding o) (hp' : c'.writePc = .loop)
      (ho : c.state.online = false) (hk : c'.socket = c.socket)
      (hq : c'.sendQueue = c.sendQueue) (hs : c'.state = c.state) (hw : c'.wires = c.wires)
  | write (o : Outgoing) (offset count k : Nat) (hp : c.writePc = .writing o offset)
      (hp' : c'.writePc = .writing o (offset + count)) (hsock : c.socket = some k)
      (hc' : c' = { c.writeTo k ((o.encode.drop offset).take count) with
        begun := c'.begun, writePc := c'.writePc })
  | finish (o : Outgoing) (offset count k : Nat) (hp : c.writePc = .writing o offset)
      (hend : offset + count = o.encode.length) (hsock : c.socket = some k)
      (hc' : c' = { c.writeTo k ((o.encode.drop offset).take count) with
        begun := c'.begun, completed := c'.completed, writePc := .loop })
  | fail (o : Outgoing) (offset : Nat) (hp : c.writePc = .writing o offset)
      (hc' : c' = { c with begun := c'.begun, writePc := .errorPtr })

theorem wireMove_of_writeStep {pointer : Bool} {i : WriteInput}
    (h : c.writeStep pointer i = .ok c') : WireMove c c' := by
  cases writeBranch_of_writeStep h with
  | pop hpc hq | wokenPop hpc hst hq =>
      exact .take _ (by rw [hpc]; rfl) (by rw [hpc]; rfl) rfl rfl hq rfl rfl
  | start hpc hst => exact .start _ hpc rfl hst rfl rfl rfl rfl
  | drop hpc hoff => exact .drop _ hpc rfl hoff rfl rfl rfl rfl
  | write hpc hk hfits hmore => exact .write _ _ _ _ hpc rfl hk rfl
  | finish hpc hk hfits hend => exact .finish _ _ _ _ hpc hend hk rfl
  | fail hpc => exact .fail _ _ hpc rfl
  | errorPtr hpc | errorTest hpc | errorClose hpc =>
      exact .idle (by rw [hpc]; rfl) rfl (fun _ => .inr rfl) (.inl rfl) rfl (.inl rfl) rfl
  | errorStore hpc =>
      exact .idle (by rw [hpc]; rfl) rfl (fun _ => .inr rfl) (.inl rfl) rfl (.inr rfl) rfl
  | errorGone hpc hk =>
      exact .idle (by rw [hpc]; rfl) rfl (fun _ => .inl hk) (.inl rfl) rfl (.inl rfl) rfl
  | errorInvalidate hpc =>
      exact .idle (by rw [hpc]; rfl) rfl (fun _ => .inl rfl) (.inr rfl) rfl (.inl rfl) rfl
  | spin hpc =>
      have hp : c.writePc.packet? = none := by rw [hpc]; rfl
      exact .idle hp hp (by rw [hpc]; nofun) (.inl rfl) rfl (.inl rfl) rfl
  | _ hpc =>
      exact .idle (by rw [hpc]; rfl) rfl (by rw [hpc]; nofun) (.inl rfl) rfl (.inl rfl) rfl

/-- The write thread puts what it holds after what was written. -/
theorem wireState_writeStep {pointer : Bool} {i : WriteInput} {k : Nat} (h : c.WiresOk)
    (hw : c.writeStep pointer i = .ok c') (hsock : c'.socket = some k) :
    WireState c'.readPc.greeting c'.state.online c'.sendQueue c'.writePc (c'.wires k) := by
  have hreadPc := (writeFrame_of_writeStep hw).readPc
  rw [hreadPc]
  cases wireMove_of_writeStep hw with
  | idle hp hp' hf hk hq hs hwires =>
      obtain hk | hk := hk
      · have hcur := h.current k (hk ▸ hsock)
        rw [hq, hwires]
        refine hcur.idle hp hp' (fun hfail => ?_) fun ho => ?_
        · obtain hnone | hfail' := hf hfail
          · rw [hnone] at hsock
            cases hsock
          · exact hfail'
        · obtain hs | hs := hs
          · rw [hs, ho]
          · exact hs
      · rw [hk] at hsock
        cases hsock
  | take o hp hf hp' hk hq hs hwires =>
      have hcur := h.current k (hk ▸ hsock)
      rw [hq] at hcur
      rw [hp', hs, hwires]
      exact hcur.take hp hf
  | start o hp hp' ho hk hq hs hwires =>
      have hcur := h.current k (hk ▸ hsock)
      rw [hp] at hcur
      have hpre : Precedes (c.wires k) o := by
        obtain ⟨hw, -, hconnect | hoff⟩ | hwhole := hcur.of_holding
        · exact .inl ⟨hw, hconnect⟩
        · rw [ho] at hoff
          cases hoff
        · exact .inr hwhole
      rw [hp', hwires]
      exact .within o 0 (c.wires k) rfl hpre (by simp)
  | drop o hp hp' ho hk hq hs hwires =>
      have hcur := h.current k (hk ▸ hsock)
      rw [hp] at hcur
      rw [hp', hs, hwires]
      obtain ⟨hw, hg, -⟩ | hwhole := hcur.of_holding
      · exact .dropped hg ho rfl hw
      · exact .between rfl hwhole
  | write o offset count j hp hp' hj hc' =>
      have hkj : k = j := by
        rw [hc'] at hsock
        exact Option.some.inj (hsock.symm.trans hj)
      subst hkj
      have hcur := h.current k hj
      rw [hp] at hcur
      obtain ⟨pre, hpre, hw⟩ := hcur.of_writing
      refine .within o (offset + count) pre hp' hpre ?_
      rw [hc']
      simp [writeTo, hw, List.take_add]
  | finish o offset count j hp hend hj hc' =>
      have hkj : k = j := by
        rw [hc'] at hsock
        exact Option.some.inj (hsock.symm.trans hj)
      subst hkj
      have hcur := h.current k hj
      rw [hp] at hcur
      obtain ⟨pre, hpre, hw⟩ := hcur.of_writing
      have hall : c'.wires k = pre ++ o.encode := by
        have htake : o.encode.take (offset + count) = o.encode := by rw [hend, List.take_length]
        rw [hc']
        simp only [writeTo, ↓reduceIte, hw, List.append_assoc, ← List.take_add, htake]
      rw [hall]
      refine .between ?_ (whole_of_precedes hpre)
      rw [hc']
      rfl
  | fail o offset hp hc' =>
      rw [hc'] at hsock ⊢
      have hcur := h.current k hsock
      rw [hp] at hcur
      obtain ⟨pre, hpre, hw⟩ := hcur.of_writing
      exact .failed rfl (hw ▸ greeted_of_precedes hpre offset)

/-- A write goes to the current socket, which the write thread can only give up. -/
theorem socket_writeStep {pointer : Bool} {i : WriteInput} (hw : c.writeStep pointer i = .ok c') :
    (c'.socket = c.socket ∨ c'.socket = none) ∧
      (c'.state = c.state ∨ c'.state.online = false) ∧
      ∀ k, c'.socket = some k ∨ c'.wires k = c.wires k := by
  cases wireMove_of_writeStep hw with
  | idle _ _ _ hk _ hs hwires => exact ⟨hk, hs, fun k => .inr (by rw [hwires])⟩
  | take _ _ _ _ hk _ hs hwires => exact ⟨.inl hk, .inl hs, fun k => .inr (by rw [hwires])⟩
  | start _ _ _ _ hk _ hs hwires => exact ⟨.inl hk, .inl hs, fun k => .inr (by rw [hwires])⟩
  | drop _ _ _ _ hk _ hs hwires => exact ⟨.inl hk, .inl hs, fun k => .inr (by rw [hwires])⟩
  | write o offset count j hp hp' hj hc' =>
      rw [hc']
      refine ⟨.inl rfl, .inl rfl, fun k => ?_⟩
      by_cases hkj : k = j
      · exact .inl (hkj ▸ hj)
      · exact .inr (by simp [writeTo, hkj])
  | finish o offset count j hp hend hj hc' =>
      rw [hc']
      refine ⟨.inl rfl, .inl rfl, fun k => ?_⟩
      by_cases hkj : k = j
      · exact .inl (hkj ▸ hj)
      · exact .inr (by simp [writeTo, hkj])
  | fail o offset hp hc' =>
      rw [hc']
      exact ⟨.inl rfl, .inl rfl, fun k => .inr rfl⟩

theorem wiresOk_writeStep {pointer : Bool} {i : WriteInput} (h : c.WiresOk)
    (hw : c.writeStep pointer i = .ok c') : c'.WiresOk := by
  have hframe := writeFrame_of_writeStep hw
  obtain ⟨hsocket, hstate, hwires⟩ := socket_writeStep hw
  have hsock : ∀ k, c'.socket = some k → c.socket = some k := by
    intro k hk
    obtain hsame | hnone := hsocket
    · rw [← hsame, hk]
    · rw [hnone] at hk
      cases hk
  refine ⟨fun k => ?_, fun k hk => ?_, fun k hk => ?_, fun k hk => ?_, fun hl => ?_⟩
  · obtain hcur | hsame := hwires k
    · exact (wireState_writeStep h hw hcur).greeted
    · rw [hsame]
      exact h.greeted k
  · rw [hframe.sockets] at hk
    obtain hcur | hsame := hwires k
    · have hlt := h.bound k (hsock k hcur)
      omega
    · rw [hsame]
      exact h.unused k hk
  · rw [hframe.sockets]
    exact h.bound k (hsock k hk)
  · exact wireState_writeStep h hw hk
  · rw [hframe.readPc] at hl
    obtain hsame | hoff := hstate
    · rw [hsame]
      exact h.offline hl
    · exact hoff

/-! ## the client -/

theorem wiresOk_notify (h : c.WiresOk) : c.notify.WiresOk := by
  have hpc : c.notify.writePc = c.writePc ∨ (c.writePc = .blocked ∧ c.notify.writePc = .wait) := by
    unfold notify
    split
    · next hb => exact .inr ⟨hb, rfl⟩
    · exact .inl rfl
  refine ⟨?_, ?_, ?_, fun k hk => ?_, ?_⟩
  · simpa using h.greeted
  · simpa using h.unused
  · simpa using h.bound
  · rw [socket_notify] at hk
    simpa using (h.current k hk).woken hpc
  · simpa using h.offline

/-- A packet queued outside of the greeting goes behind a CONNECT that waits. -/
theorem wiresOk_push (h : c.WiresOk) (hg : c.readPc.greeting = false) (o : Outgoing) :
    (c.push o).WiresOk := by
  refine wiresOk_notify ⟨h.greeted, h.unused, h.bound, fun k hk => ?_, h.offline⟩
  have hcur := h.current k hk
  simp only [hg] at hcur ⊢
  refine hcur.requeue fun info q hq => ⟨q ++ [o], ?_⟩
  rw [hq, List.cons_append]

/-- The store of STOP. -/
theorem wiresOk_stop (h : c.WiresOk) : { c with state := .stop }.WiresOk :=
  ⟨h.greeted, h.unused, h.bound, fun k hk => (h.current k hk).offline, fun _ => rfl⟩

/-- The read thread goes on after a lock, at `pc`. -/
theorem wiresOk_resume (h : c.WiresOk) (hg : c.readPc.greeting = false) {pc : ReadPc}
    (hg' : pc.greeting = false) (hl : pc.losing = true → c.readPc.losing = true)
    (processed : Bool) : { c with readPc := pc, processed := processed }.WiresOk := by
  refine ⟨h.greeted, h.unused, h.bound, fun k hk => ?_, fun hpc => h.offline (hl hpc)⟩
  have hcur := h.current k hk
  rw [hg] at hcur
  simp only [hg']
  exact hcur

end Connection

end TrueMqtt
