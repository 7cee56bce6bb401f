import TrueMqtt.Connection.Moves

/-!
# TrueMqtt.Send

`Connection::send` on the buffers themselves, and the four operations that go
through it (`Packet.cpp`).

A packet reserves four bytes for its remaining length, and a string two for its
own.  `send` looks at neither: it refuses a packet only because the queue is full,
and a packet with priority never.  So what the format cannot represent is refused
exactly when the queue is (`send_refuses_iff`); otherwise it is queued with a
length that is cut off (`toNat_length_of_long`), or written over the first byte of
its body (`getElem?_body_of_long`).
-/

namespace TrueMqtt

/-- `send`: what it returns, and the send queue after it. -/
def send (bound : Nat) (hasPriority : Bool) (p : Packet) (queue : List Packet) :
    Bool × List Packet :=
  if hasPriority = false ∧ queue.length > bound then (false, queue)
  else (true, if hasPriority then p.writeHeader :: queue else queue ++ [p.writeHeader])

/-- `sendConnect`. -/
def sendConnect (bound : Nat) (info : ConnectInfo) (queue : List Packet) : Bool × List Packet :=
  send bound true (Draft.connect info).packet queue

namespace Impl

variable {C : Type}

def sendPublish (topic message : Str) (retain : Bool) (i : Impl C) (queue : List Packet) :
    Bool × List Packet :=
  send i.sendQueueSize false (Draft.publish topic message retain).packet queue

/-- `sendSubscribe`; the packet id is used up in either case. -/
def sendSubscribe (topic : Str) (i : Impl C) (queue : List Packet) :
    (Bool × List Packet) × Impl C :=
  let (packetId, i') := i.takePacketId
  (send i.sendQueueSize false (Draft.subscribe packetId topic).packet queue, i')

def sendUnsubscribe (topic : Str) (i : Impl C) (queue : List Packet) :
    (Bool × List Packet) × Impl C :=
  let (packetId, i') := i.takePacketId
  (send i.sendQueueSize false (Draft.unsubscribe packetId topic).packet queue, i')

end Impl

/-! ## what the format can represent -/

namespace Draft

/-- Every string has a 16-bit length, and the body a length of four groups of
seven bits. -/
def Representable (d : Draft) : Prop :=
  (∀ f ∈ d.fields, f.Fits) ∧ d.body.length ≤ 268435455

/-- The strings written by `write_string`. -/
def strings (d : Draft) : List Str :=
  d.fields.filterMap fun f => match f with
    | .string s => some s
    | _ => none

/-- The queued packet carries the lengths of its strings, and the body as it was
written. -/
def Intact (d : Draft) : Prop :=
  (∀ s ∈ d.strings, (UInt16.ofNat s.length).toNat = s.length) ∧
    d.packet.writeHeader.buffer.drop 5 = d.body

/-- The operation refuses what the format cannot represent, and damages nothing. -/
def Refuses (d : Draft) (queue : List Packet) (result : Bool × List Packet) : Prop :=
  (¬ d.Representable → result = (false, queue)) ∧ (result.1 = true → d.Intact)

theorem toNat_length_of_fits {s : Str} (h : s.length ≤ 65535) :
    (UInt16.ofNat s.length).toNat = s.length := by
  rw [UInt16.toNat_ofNat']
  omega

/-- A longer string is written behind a shorter length. -/
theorem toNat_length_of_long {s : Str} (h : 65535 < s.length) :
    (UInt16.ofNat s.length).toNat < s.length := by
  rw [UInt16.toNat_ofNat']
  omega

theorem length_buffer (d : Draft) : d.packet.buffer.length = d.body.length + 5 := by
  rw [packet, Packet.build_eq]
  show ([0, 0, 0, 0, 0] ++ fieldBytes d.fields : Str).length = _
  rw [List.length_append, body]
  simp [Nat.add_comm]

/-- The header of a representable packet ends where its body starts. -/
theorem drop_writeHeader {d : Draft} (hflags : d.flags.toNat < 16) (h : d.Representable) :
    d.packet.writeHeader.buffer.drop 5 = d.body := by
  have hunsent := unsent_writeHeader ⟨hflags, h⟩
  have hoff := Packet.headerOffset_add_length h.2
  have hstart : d.packet.writeHeader.writeOffset = Packet.headerOffset d.body.length := by
    show Packet.headerOffset (d.packet.buffer.length - 5) = _
    rw [length_buffer, Nat.add_sub_cancel]
  have hfive : 5 = Packet.headerOffset d.body.length +
      (Base128.encode 3 d.body.length).length + 1 := by omega
  rw [Packet.unsent, hstart] at hunsent
  rw [hfive, Nat.add_assoc, ← List.drop_drop, hunsent, encode, List.drop_succ_cons,
    List.drop_left]

theorem intact_of_representable {d : Draft} (hflags : d.flags.toNat < 16)
    (h : d.Representable) : d.Intact := by
  refine ⟨fun s hs => ?_, drop_writeHeader hflags h⟩
  obtain ⟨f, hf, hfs⟩ := List.mem_filterMap.mp hs
  cases f with
  | string t =>
      have hts : t = s := Option.some.inj hfs
      exact toNat_length_of_fits (hts ▸ h.1 _ hf)
  | uint8 | uint16 | raw => cases hfs

end Draft

/-! ## what `send` refuses -/

/-- `send` refuses what the format cannot represent exactly when it is
representable, or the queue is full for it. -/
theorem send_refuses_iff {d : Draft} (hflags : d.flags.toNat < 16) (bound : Nat)
    (hasPriority : Bool) (queue : List Packet) :
    d.Refuses queue (send bound hasPriority d.packet queue) ↔
      d.Representable ∨ (hasPriority = false ∧ queue.length > bound) := by
  by_cases hfull : hasPriority = false ∧ queue.length > bound
  · have hsend : send bound hasPriority d.packet queue = (false, queue) := if_pos hfull
    rw [hsend]
    exact iff_of_true ⟨fun _ => rfl, fun h => by cases h⟩ (.inr hfull)
  · have hsend : (send bound hasPriority d.packet queue).1 = true := by
      rw [send, if_neg hfull]
    constructor
    · intro hrefuses
      by_contra hnot
      have hfalse := hrefuses.1 fun hrep => hnot (.inl hrep)
      rw [hfalse] at hsend
      cases hsend
    · rintro (hrep | hfull')
      · exact ⟨fun hnot => absurd hrep hnot, fun _ => Draft.intact_of_representable hflags hrep⟩
      · exact absurd hfull' hfull

/-! ## the send queue of a connection -/

/-- The packet a connection has queued. -/
def Outgoing.queued (o : Outgoing) : Packet := o.draft.packet.writeHeader

/-- The sends of a connection are `send` on the packets of its queue. -/
theorem send_queued (c : Connection) (o : Outgoing) (bound : Nat) :
    send bound false o.draft.packet (c.sendQueue.map Outgoing.queued) =
        (if c.sendQueue.length > bound then (false, c.sendQueue.map Outgoing.queued)
          else (true, (c.push o).sendQueue.map Outgoing.queued)) ∧
      send bound true o.draft.packet (c.sendQueue.map Outgoing.queued) =
        (true, (c.pushFront o).sendQueue.map Outgoing.queued) := by
  constructor
  · by_cases hfull : c.sendQueue.length > bound
    · rw [if_pos hfull]
      exact if_pos ⟨rfl, by rwa [List.length_map]⟩
    · rw [if_neg hfull, send, if_neg (by simp; omega)]
      simp [Connection.push, Outgoing.queued]
  · rw [send, if_neg (by simp)]
    simp [Connection.pushFront, Outgoing.queued]

/-! ## the four operations -/

namespace Draft

theorem representable_publish (topic message : Str) (retain : Bool) :
    (publish topic message retain).Representable ↔
      topic.length ≤ 65535 ∧ topic.length + message.length + 2 ≤ 268435455 := by
  have hbody : (publish topic message retain).body.length =
      topic.length + message.length + 2 := by
    simp [publish, body, fieldBytes, Field.bytes, Packet.uint16Bytes]
  simp only [Representable, hbody]
  simp [publish, Field.Fits]

theorem representable_subscribe (packetId : UInt16) (topic : Str) :
    (subscribe packetId topic).Representable ↔ topic.length ≤ 65535 := by
  have hbody : (subscribe packetId topic).body.length = topic.length + 5 := by
    simp [subscribe, body, fieldBytes, Field.bytes, Packet.uint16Bytes]
  simp only [Representable, hbody]
  simp [subscribe, Field.Fits]
  omega

theorem representable_unsubscribe (packetId : UInt16) (topic : Str) :
    (unsubscribe packetId topic).Representable ↔ topic.length ≤ 65535 := by
  have hbody : (unsubscribe packetId topic).body.length = topic.length + 4 := by
    simp [unsubscribe, body, fieldBytes, Field.bytes, Packet.uint16Bytes]
  simp only [Representable, hbody]
  simp [unsubscribe, Field.Fits]
  omega

theorem representable_connect (info : ConnectInfo) :
    (connect info).Representable ↔ info.clientId.length ≤ 65535 ∧
      (info.lastWillTopic = [] ∨
        info.lastWillTopic.length ≤ 65535 ∧ info.lastWillMessage.length ≤ 65535) := by
  by_cases hwill : info.lastWillTopic = []
  · have hbody : (connect info).body.length = info.clientId.length + 12 := by
      simp [connect, hwill, body, fieldBytes, Field.bytes, Packet.uint16Bytes]
    simp only [Representable, hbody]
    simp [connect, hwill, Field.Fits]
    omega
  · have hbody : (connect info).body.length = info.clientId.length +
        info.lastWillTopic.length + info.lastWillMessage.length + 16 := by
      simp [connect, hwill, body, fieldBytes, Field.bytes, Packet.uint16Bytes]
      omega
    simp only [Representable, hbody]
    simp [connect, hwill, Field.Fits]
    omega

end Draft

/-- **What is refused**: each of the operations refuses the packets the format
cannot represent, and damages none it accepts, exactly when its strings and its
body are short enough, or the send queue is full and the packet has no priority. -/
theorem sends_refuse_iff {C : Type} (i : Impl C) (queue : List Packet) :
    (∀ topic message retain,
      (Draft.publish topic message retain).Refuses queue
          (i.sendPublish topic message retain queue) ↔
        (topic.length ≤ 65535 ∧ topic.length + message.length + 2 ≤ 268435455) ∨
          i.sendQueueSize < queue.length) ∧
    (∀ topic, (Draft.subscribe i.takePacketId.1 topic).Refuses queue
        (i.sendSubscribe topic queue).1 ↔
      topic.length ≤ 65535 ∨ i.sendQueueSize < queue.length) ∧
    (∀ topic, (Draft.unsubscribe i.takePacketId.1 topic).Refuses queue
        (i.sendUnsubscribe topic queue).1 ↔
      topic.length ≤ 65535 ∨ i.sendQueueSize < queue.length) ∧
    ∀ info, (Draft.connect info).Refuses queue (sendConnect i.sendQueueSize info queue) ↔
      info.clientId.length ≤ 65535 ∧ (info.lastWillTopic = [] ∨
        info.lastWillTopic.length ≤ 65535 ∧ info.lastWillMessage.length ≤ 65535) := by
  refine ⟨fun topic message retain => ?_, fun topic => ?_, fun topic => ?_, fun info => ?_⟩
  · have hflags : (Draft.publish topic message retain).flags.toNat < 16 := by
      show (if retain then (1 : UInt8) else 0).toNat < 16
      cases retain <;> decide
    rw [Impl.sendPublish, send_refuses_iff hflags, Draft.representable_publish]
    simp
  · show (Draft.subscribe i.takePacketId.1 topic).Refuses queue
      (send i.sendQueueSize false (Draft.subscribe i.takePacketId.1 topic).packet queue) ↔ _
    rw [send_refuses_iff (show (2 : UInt8).toNat < 16 by decide), Draft.representable_subscribe]
    simp
  · show (Draft.unsubscribe i.takePacketId.1 topic).Refuses queue
      (send i.sendQueueSize false (Draft.unsubscribe i.takePacketId.1 topic).packet queue) ↔ _
    rw [send_refuses_iff (show (2 : UInt8).toNat < 16 by decide), Draft.representable_unsubscribe]
    simp
  · rw [sendConnect, send_refuses_iff (show (0 : UInt8).toNat < 16 by decide),
      Draft.representable_connect]
    simp

/-- A PUBLISH on a topic of 65536 bytes, to an empty queue. -/
theorem long_topic_accepted :
    ¬ (Draft.publish (List.replicate 65536 97) [] false).Refuses []
      (({} : Impl Unit).sendPublish (List.replicate 65536 97) [] false []) := by
  have hlong : ∀ topic : Str, topic.length = 65536 →
      ¬ (Draft.publish topic [] false).Refuses []
        (({} : Impl Unit).sendPublish topic [] false []) := by
    intro topic htopic
    rw [Impl.sendPublish, send_refuses_iff (show (0 : UInt8).toNat < 16 by decide),
      Draft.representable_publish, htopic]
    simp
  exact hlong _ List.length_replicate

/-! ## a body that is too long -/

/-- A round of the length loop. -/
def lengthByte (n : Nat) : UInt8 :=
  if n >>> 7 > 0 then UInt8.ofNat (n &&& 0x7F) ||| 0x80 else UInt8.ofNat (n &&& 0x7F)

theorem writeLength_of_more {rounds n offset : Nat} (h : n >>> 7 > 0) (buffer : Str) :
    Packet.writeLength (rounds + 1) n offset buffer =
      Packet.writeLength rounds (n >>> 7) (offset + 1) (buffer.set offset (lengthByte n)) := by
  rw [Packet.writeLength, if_pos h, lengthByte, if_pos h]

theorem getElem?_writeLength_self {rounds n offset : Nat} {buffer : Str}
    (h : offset < buffer.length) :
    (Packet.writeLength (rounds + 1) n offset buffer)[offset]? = some (lengthByte n) := by
  by_cases hmore : n >>> 7 > 0
  · rw [writeLength_of_more hmore, Packet.getElem?_writeLength (by omega),
      List.getElem?_set_self h]
  · rw [Packet.writeLength, if_neg hmore, lengthByte, if_neg hmore, List.getElem?_set_self h]

/-- The fifth byte of a remaining length takes the place of the first byte of the
body. -/
theorem getElem?_body_of_long {d : Draft} (h : 268435455 < d.body.length) :
    d.packet.writeHeader.buffer[5]? = some (lengthByte (d.body.length >>> 28)) := by
  have hlen := d.length_buffer
  have hoff : Packet.headerOffset d.body.length = 0 := by
    unfold Packet.headerOffset
    rw [if_neg (by omega), if_neg (by omega), if_neg (by omega)]
  have hmore : ∀ k, k ≤ 21 → (d.body.length >>> k) >>> 7 > 0 := by
    intro k hk
    rw [Nat.shiftRight_eq_div_pow]
    apply Nat.div_pos _ (Nat.two_pow_pos 7)
    rw [Nat.shiftRight_eq_div_pow, Nat.le_div_iff_mul_le (Nat.two_pow_pos k), ← Nat.pow_add]
    calc 2 ^ (7 + k) ≤ 2 ^ 28 := Nat.pow_le_pow_right (by decide) (by omega)
      _ ≤ d.body.length := by omega
  have hfirst : d.body.length >>> 7 > 0 := hmore 0 (by decide)
  show (Packet.writeLength 10 (d.packet.buffer.length - 5) _ _)[5]? = _
  rw [hlen, Nat.add_sub_cancel, hoff, writeLength_of_more hfirst,
    writeLength_of_more (hmore 7 (by decide)), ← Nat.shiftRight_add,
    writeLength_of_more (hmore 14 (by decide)), ← Nat.shiftRight_add,
    writeLength_of_more (hmore 21 (by decide)), ← Nat.shiftRight_add]
  exact getElem?_writeLength_self (by simp only [List.length_set]; omega)

end TrueMqtt
