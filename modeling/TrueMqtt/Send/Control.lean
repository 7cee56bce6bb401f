import TrueMqtt.Send.Connect

/-!
# TrueMqtt.Send.Control

The packets a client sends, as a broker reads them.

`ControlPacket.packet` is the grammar of MQTT 3.1.1 for CONNECT, PUBLISH,
SUBSCRIBE, UNSUBSCRIBE and PINGREQ: a type with the flags it prescribes, a
remaining length, and a body that ends where the length says.  (What may stand in
a topic is a matter of its own.)  Everything the client queues is read back, if the
format can represent it (`decodes_control`), and no part of it is read as something
else (`eq_none_of_part`).
-/

namespace TrueMqtt

open Decoder

/-- A control packet a client may send. -/
inductive ControlPacket where
  | connect (packet : ConnectPacket)
  | publish (topic message : Str) (qos : Nat) (retain dup : Bool) (packetId : Option Nat)
  | subscribe (packetId : Nat) (filters : List (Str × Nat))
  | unsubscribe (packetId : Nat) (filters : List Str)
  | pingRequest
deriving DecidableEq, Repr

namespace ControlPacket

/-! ## the grammar -/

/-- A packet identifier is not zero. -/
def packetId : Decoder UInt8 Nat := do
  let id ← ConnectPacket.uint16
  check (id ≠ 0)
  return id

/-- What is left. -/
def remaining : Decoder UInt8 Str := fun bs => some (bs, [])

/-- The flags of a PUBLISH are DUP, QoS and RETAIN; QoS 3 does not exist, and nothing
of QoS 0 is sent again. -/
def publishBody (flags : Nat) : Decoder UInt8 ControlPacket := do
  let dup := flags.testBit 3
  let qos := flags / 2 % 4
  let retain := flags.testBit 0
  check (qos ≠ 3 ∧ (dup = true → qos ≠ 0))
  let topic ← ConnectPacket.string
  let id ← optionally (qos != 0) packetId
  let message ← remaining
  return .publish topic message qos retain dup id

/-- A topic filter with the QoS asked for. -/
def subscription : Decoder UInt8 (Str × Nat) := do
  let filter ← ConnectPacket.string
  let qos ← symbol
  check (qos.toNat ≤ 2)
  return (filter, qos.toNat)

/-- At least one filter. -/
def subscribeBody : Decoder UInt8 ControlPacket := do
  let id ← packetId
  let filters ← toEnd subscription
  check (filters ≠ [])
  return .subscribe id filters

def unsubscribeBody : Decoder UInt8 ControlPacket := do
  let id ← packetId
  let filters ← toEnd ConnectPacket.string
  check (filters ≠ [])
  return .unsubscribe id filters

/-- The body of a packet, by its type and flags. -/
def ofBody (type flags : Nat) (data : Str) : Option ControlPacket :=
  match type, flags with
  | 1, 0 => (ConnectPacket.body.all data).map .connect
  | 3, flags => (publishBody flags).all data
  | 8, 2 => subscribeBody.all data
  | 10, 2 => unsubscribeBody.all data
  | 12, 0 => if data = [] then some .pingRequest else none
  | _, _ => none

/-- A header, and a body of the length it says. -/
def packet : Decoder UInt8 ControlPacket := do
  let header ← symbol
  let remainingLength ← Base128.decode 3
  let data ← take remainingLength
  ofOption (ofBody (header.toNat / 16) (header.toNat % 16) data)

theorem extends_packet : Extends packet :=
  extends_symbol.bind fun _ => (Base128.extends_decode 3).bind fun _ =>
    (extends_take _).bind fun _ => extends_ofOption _

end ControlPacket

/-! ## what the client says -/

namespace Outgoing

/-- What a packet of the send queue says. -/
def control : Outgoing → ControlPacket
  | connect info => .connect (.ofInfo info)
  | pingRequest => .pingRequest
  | publish m => .publish m.topic m.message 0 m.retain false none
  | subscribe packetId topic => .subscribe packetId.toNat [(topic, 0)]
  | unsubscribe packetId topic => .unsubscribe packetId.toNat [topic]

/-- The packet identifier, if there is one. -/
def packetId? : Outgoing → Option UInt16
  | subscribe packetId _ | unsubscribe packetId _ => some packetId
  | _ => none

/-- The packets a broker can read. -/
structure Valid (o : Outgoing) : Prop where
  representable : o.draft.Representable
  packetId : o.packetId? ≠ some 0

/-! ## one packet -/

theorem flags_lt (o : Outgoing) : o.draft.flags.toNat < 16 := by
  cases o with
  | connect | pingRequest => exact Nat.zero_lt_succ 15
  | subscribe | unsubscribe => exact (by decide : (2 : UInt8).toNat < 16)
  | publish m =>
      show (if m.retain then (1 : UInt8) else 0).toNat < 16
      cases m.retain <;> decide

end Outgoing

namespace ControlPacket

/-- A header and the body it announces. -/
theorem decodes_encode {d : Draft} (h : d.Representable) {p : ControlPacket} (type flags : Nat)
    (htype : (Packet.headerByte d.packetType d.flags).toNat / 16 = type)
    (hflags : (Packet.headerByte d.packetType d.flags).toNat % 16 = flags)
    (hbody : ofBody type flags d.body = some p) : Decodes packet d.encode p := by
  have hlt : d.body.length < 128 ^ (3 + 1) := by
    have hlength := h.2
    omega
  have hencode : d.encode = [Packet.headerByte d.packetType d.flags] ++
      (Base128.encode 3 d.body.length ++ (d.body ++ [])) := by
    rw [List.append_nil]
    rfl
  subst htype hflags
  rw [hencode]
  unfold packet
  refine (decodes_symbol _).bind ?_
  exact (Base128.decodes_encode hlt).bind ((decodes_take rfl).bind (decodes_ofOption hbody))

theorem decodes_packetId {id : UInt16} (h : id ≠ 0) :
    Decodes packetId (Field.uint16 id).bytes id.toNat := by
  have hid : id.toNat ≠ 0 := fun hz => h (UInt16.toNat_inj.mp hz)
  have hread : Decodes packetId ((Field.uint16 id).bytes ++ ([] ++ [])) id.toNat :=
    (ConnectPacket.decodes_uint16 id).bind ((decodes_check hid).bind (decodes_pure id.toNat))
  rwa [List.append_nil, List.append_nil] at hread

/-- The filter of a SUBSCRIBE. -/
theorem decodes_subscription {topic : Str} (h : topic.length ≤ 65535) :
    Decodes subscription ((Field.string topic).bytes ++ (Field.uint8 0).bytes) (topic, 0) := by
  have hread : Decodes subscription ((Field.string topic).bytes ++ ([0] ++ ([] ++ [])))
      (topic, 0) :=
    (ConnectPacket.decodes_string h).bind ((decodes_symbol 0).bind
      ((decodes_check (by decide)).bind (decodes_pure (topic, 0))))
  rwa [List.append_nil, List.append_nil] at hread

theorem all_publishBody (m : Message) (h : m.topic.length ≤ 65535) :
    (publishBody m.retain.toNat).all (Draft.publish m.topic m.message m.retain).body =
      some (.publish m.topic m.message 0 m.retain false none) := by
  have hbody : (Draft.publish m.topic m.message m.retain).body =
      [] ++ ((Field.string m.topic).bytes ++ ([] ++ m.message)) := by
    simp [Draft.body, Draft.publish, fieldBytes, Field.bytes]
  have htopic := ConnectPacket.decodes_string h ([] ++ m.message)
  rw [hbody, all]
  cases m.retain with
  | false =>
      rw [publishBody, bind_of_eq (decodes_check (by decide) _), bind_of_eq htopic]
      rfl
  | true =>
      rw [publishBody, bind_of_eq (decodes_check (by decide) _), bind_of_eq htopic]
      rfl

theorem all_subscribeBody {id : UInt16} (hid : id ≠ 0) {topic : Str} (h : topic.length ≤ 65535) :
    subscribeBody.all (Draft.subscribe id topic).body =
      some (.subscribe id.toNat [(topic, 0)]) := by
  have hbody : (Draft.subscribe id topic).body =
      (Field.uint16 id).bytes ++ ((Field.string topic).bytes ++ (Field.uint8 0).bytes) := by
    simp [Draft.body, Draft.subscribe, fieldBytes]
  have hlist := toEnd_single (decodes_subscription h) (by simp [Field.bytes]) rfl
  rw [hbody, all, subscribeBody, bind_of_eq (decodes_packetId hid _), bind_of_eq hlist]
  rfl

theorem all_unsubscribeBody {id : UInt16} (hid : id ≠ 0) {topic : Str}
    (h : topic.length ≤ 65535) :
    unsubscribeBody.all (Draft.unsubscribe id topic).body =
      some (.unsubscribe id.toNat [topic]) := by
  have hbody : (Draft.unsubscribe id topic).body =
      (Field.uint16 id).bytes ++ (Field.string topic).bytes := by
    simp [Draft.body, Draft.unsubscribe, fieldBytes]
  have hlist := toEnd_single (ConnectPacket.decodes_string h)
    (by simp [Field.bytes, Packet.uint16Bytes]) rfl
  rw [hbody, all, unsubscribeBody, bind_of_eq (decodes_packetId hid _), bind_of_eq hlist]
  rfl

/-- A CONNECT without a last will may have any message for it. -/
theorem all_connectBody {info : ConnectInfo} (h : (Draft.connect info).Representable) :
    ConnectPacket.body.all (Draft.connect info).body = some (.ofInfo info) := by
  obtain ⟨hid, htopic | ⟨htopic, hmessage⟩⟩ := (Draft.representable_connect info).mp h
  · let info' : ConnectInfo := { info with lastWillMessage := [] }
    have hlimits : info'.WithinLimits := ⟨hid, by simp [info', htopic], by simp [info']⟩
    have hwill : info.will = info'.will := by
      simp [ConnectInfo.will, info', htopic]
    have hdraft : Draft.connect info = Draft.connect info' := connect_congr rfl hwill
    rw [hdraft, (ConnectPacket.decodes_body hlimits).all_eq, ConnectPacket.ofInfo,
      ConnectPacket.ofInfo, hwill]
  · exact (ConnectPacket.decodes_body ⟨hid, htopic, hmessage⟩).all_eq

end ControlPacket

namespace Outgoing

open ControlPacket

/-- A valid packet is on the wire as its draft says. -/
theorem encode_eq {o : Outgoing} (h : o.Valid) : o.encode = o.draft.encode :=
  Draft.unsent_writeHeader ⟨o.flags_lt, h.representable⟩

/-- **A packet is read back**, whatever follows it. -/
theorem decodes_control {o : Outgoing} (h : o.Valid) : Decodes packet o.encode o.control := by
  rw [encode_eq h]
  have hrep := h.representable
  cases o with
  | connect info =>
      refine decodes_encode hrep 1 0 ?_ ?_ ?_
      · exact (by decide : (Packet.headerByte .connect 0).toNat / 16 = 1)
      · exact (by decide : (Packet.headerByte .connect 0).toNat % 16 = 0)
      · exact congrArg (Option.map ControlPacket.connect) (all_connectBody hrep)
  | pingRequest => exact decodes_encode hrep 12 0 (by decide) (by decide) rfl
  | publish m =>
      have htopic := ((Draft.representable_publish m.topic m.message m.retain).mp hrep).1
      refine decodes_encode hrep 3 m.retain.toNat ?_ ?_ (all_publishBody m htopic)
      · show (Packet.headerByte .publish (if m.retain then 1 else 0)).toNat / 16 = 3
        cases m.retain <;> decide
      · show (Packet.headerByte .publish (if m.retain then 1 else 0)).toNat % 16 = m.retain.toNat
        cases m.retain <;> decide
  | subscribe id topic =>
      have htopic := (Draft.representable_subscribe id topic).mp hrep
      have hid : id ≠ 0 := fun hz => h.packetId (congrArg some hz)
      refine decodes_encode hrep 8 2 ?_ ?_ (all_subscribeBody hid htopic)
      · exact (by decide : (Packet.headerByte .subscribe 2).toNat / 16 = 8)
      · exact (by decide : (Packet.headerByte .subscribe 2).toNat % 16 = 2)
  | unsubscribe id topic =>
      have htopic := (Draft.representable_unsubscribe id topic).mp hrep
      have hid : id ≠ 0 := fun hz => h.packetId (congrArg some hz)
      refine decodes_encode hrep 10 2 ?_ ?_ (all_unsubscribeBody hid htopic)
      · exact (by decide : (Packet.headerByte .unsubscribe 2).toNat / 16 = 10)
      · exact (by decide : (Packet.headerByte .unsubscribe 2).toNat % 16 = 2)

/-- Nothing is read from a part of a packet. -/
theorem eq_none_of_part {o : Outgoing} (h : o.Valid) {n : Nat} (hn : n < o.encode.length) :
    packet (o.encode.take n) = none := by
  have hall := decodes_control h
  rw [← List.take_append_drop n o.encode] at hall
  exact extends_packet.eq_none hall (List.ne_nil_of_length_pos (by rw [List.length_drop]; omega))

end Outgoing

end TrueMqtt
