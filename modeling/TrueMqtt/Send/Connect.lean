import TrueMqtt.RecvLoop
import TrueMqtt.Send

/-!
# TrueMqtt.Send.Connect

The CONNECT packet, as a broker reads it.

`ConnectPacket.packet` is the grammar of MQTT 3.1.1: the connect flags announce the
fields of the payload, each behind its length, and nothing follows the last one.
`sendConnect` writes the flags and the fields under two tests of their own; a broker
reads back the client id and the last will, if its topic is not empty, and nothing
else (`connect_packet`).

Without a topic there is no last will: its message and retain flag are not sent, so
configurations that differ in nothing else give the same packet
(`connect_without_will`).
-/

namespace TrueMqtt

open Decoder

/-- A last will. -/
structure Will where
  topic : Str
  message : Str
  qos : Nat
  retain : Bool
deriving DecidableEq, Repr

/-! ## the grammar -/

/-- The connect flags. -/
structure ConnectFlags where
  userName : Bool
  password : Bool
  willRetain : Bool
  willQos : Nat
  will : Bool
  cleanSession : Bool
deriving DecidableEq, Repr

namespace ConnectFlags

/-- The reserved bit is zero, QoS 3 does not exist, without a will its QoS and retain
flag are zero, and a password takes a user name. -/
def Valid (reserved : Bool) (flags : ConnectFlags) : Prop :=
  reserved = false ∧ flags.willQos ≠ 3 ∧
    (flags.will = false → flags.willQos = 0 ∧ flags.willRetain = false) ∧
    (flags.password = true → flags.userName = true)

instance (reserved : Bool) (flags : ConnectFlags) : Decidable (flags.Valid reserved) := by
  unfold Valid
  infer_instance

/-- The flags in a byte, from its highest bit on. -/
def ofByte (byte : UInt8) : Option ConnectFlags :=
  let bit := byte.toNat.testBit
  let flags : ConnectFlags :=
    { userName := bit 7
      password := bit 6
      willRetain := bit 5
      willQos := byte.toNat / 8 % 4
      will := bit 2
      cleanSession := bit 1 }
  if flags.Valid (bit 0) then some flags else none

end ConnectFlags

/-- What a CONNECT says. -/
structure ConnectPacket where
  cleanSession : Bool
  keepAlive : Nat
  clientId : Str
  will : Option Will
  userName : Option Str
  password : Option Str
deriving DecidableEq, Repr

namespace ConnectPacket

def uint16 : Decoder UInt8 Nat := do
  let hi ← symbol
  let lo ← symbol
  return bigEndian hi lo

/-- Bytes behind their number. -/
def string : Decoder UInt8 Str := do
  let length ← uint16
  take length

/-- Topic and message of a last will, with the QoS and retain flag of the flags. -/
def lastWill (flags : ConnectFlags) : Decoder UInt8 Will := do
  let topic ← string
  let message ← string
  return { topic, message, qos := flags.willQos, retain := flags.willRetain }

/-- Protocol name and level, connect flags and keep-alive, then the payload. -/
def body : Decoder UInt8 ConnectPacket := do
  let protocolName ← string
  let protocolLevel ← symbol
  check (protocolName = [77, 81, 84, 84] ∧ protocolLevel = 4)
  let connectFlags ← symbol
  let flags ← ofOption (ConnectFlags.ofByte connectFlags)
  let keepAlive ← uint16
  let clientId ← string
  let will ← optionally flags.will (lastWill flags)
  let userName ← optionally flags.userName string
  let password ← optionally flags.password string
  return { cleanSession := flags.cleanSession, keepAlive, clientId, will, userName, password }

/-- The header of a CONNECT, and a body of the length it says. -/
def packet : Decoder UInt8 ConnectPacket := do
  let header ← symbol
  check (header = 0x10)
  let remainingLength ← Base128.decode 3
  let data ← take remainingLength
  ofOption (body.all data)

/-- A CONNECT and no byte after it. -/
def ofBytes (bytes : Str) : Option ConnectPacket := packet.all bytes

end ConnectPacket

/-! ## what `sendConnect` says -/

namespace ConnectInfo

/-- The configurations whose strings have 16-bit lengths. -/
structure WithinLimits (info : ConnectInfo) : Prop where
  clientId : info.clientId.length ≤ 65535
  lastWillTopic : info.lastWillTopic.length ≤ 65535
  lastWillMessage : info.lastWillMessage.length ≤ 65535

/-- The last will there is if its topic is not empty. -/
def will (info : ConnectInfo) : Option Will :=
  if info.lastWillTopic = [] then none
  else some
    { topic := info.lastWillTopic
      message := info.lastWillMessage
      qos := 0
      retain := info.lastWillRetain }

/-- What the flag byte says. -/
def connectFlags (info : ConnectInfo) : ConnectFlags :=
  { userName := false
    password := false
    willRetain := decide (info.lastWillTopic ≠ []) && info.lastWillRetain
    willQos := 0
    will := decide (info.lastWillTopic ≠ [])
    cleanSession := true }

theorem ofByte_flags (info : ConnectInfo) :
    ConnectFlags.ofByte info.flags = some info.connectFlags := by
  unfold connectFlags
  unfold flags
  by_cases htopic : info.lastWillTopic = []
  · simp only [htopic, ne_eq, not_true_eq_false, ↓reduceIte, decide_false, Bool.false_and]
    decide
  · cases hretain : info.lastWillRetain with
    | false =>
        simp only [htopic, ne_eq, not_false_eq_true, ↓reduceIte, Bool.false_eq_true]
        decide
    | true =>
        simp only [htopic, ne_eq, not_false_eq_true, ↓reduceIte]
        decide

end ConnectInfo

/-! ## the round trip -/

theorem bigEndian_uint16Bytes (v : UInt16) :
    bigEndian (v >>> 8).toUInt8 (v &&& 0xFF).toUInt8 = v.toNat := by
  have hvalue := (uint16_eq_bigEndian _ _).symm.trans (Packet.uint16_of_bytes v)
  have hhi := (v >>> 8).toUInt8.toNat_lt
  have hlo := (v &&& 0xFF).toUInt8.toNat_lt
  have hlt : bigEndian (v >>> 8).toUInt8 (v &&& 0xFF).toUInt8 < 65536 := by
    unfold bigEndian
    omega
  have hnat := congrArg UInt16.toNat hvalue
  rwa [UInt16.toNat_ofNat', Nat.mod_eq_of_lt hlt] at hnat

namespace ConnectPacket

theorem decodes_uint16 (v : UInt16) : Decodes uint16 (Field.uint16 v).bytes v.toNat := by
  rw [← bigEndian_uint16Bytes]
  exact (decodes_symbol _).bind ((decodes_symbol _).bind_pure _)

/-- A string that fits its length field is read back. -/
theorem decodes_string {s : Str} (h : s.length ≤ 65535) :
    Decodes string (Field.string s).bytes s := by
  have hlength := decodes_uint16 (UInt16.ofNat s.length)
  rw [Draft.toNat_length_of_fits h] at hlength
  exact hlength.bind (decodes_take rfl)

/-- What the CONNECT of a client says. -/
def ofInfo (info : ConnectInfo) : ConnectPacket :=
  { cleanSession := true
    keepAlive := 30
    clientId := info.clientId
    will := info.will
    userName := none
    password := none }

/-- The fields of a last will are read back. -/
theorem decodes_lastWill {topic message : Str} (htopic : topic.length ≤ 65535)
    (hmessage : message.length ≤ 65535) (flags : ConnectFlags) :
    Decodes (lastWill flags) ((Field.string topic).bytes ++ (Field.string message).bytes)
      { topic, message, qos := flags.willQos, retain := flags.willRetain } :=
  (decodes_string htopic).bind ((decodes_string hmessage).bind_pure _)

/-- The flags announce the last will exactly when its fields follow. -/
theorem decodes_will {info : ConnectInfo} (h : info.WithinLimits) :
    Decodes (optionally info.connectFlags.will (lastWill info.connectFlags))
      (fieldBytes (if info.lastWillTopic ≠ [] then
        [.string info.lastWillTopic, .string info.lastWillMessage] else []))
      info.will := by
  have hfields := decodes_lastWill h.lastWillTopic h.lastWillMessage info.connectFlags
  by_cases htopic : info.lastWillTopic = []
  · have habsent : info.connectFlags.will = false := by simp [ConnectInfo.connectFlags, htopic]
    rw [habsent, if_neg (by simp [htopic]), ConnectInfo.will, if_pos htopic]
    exact decodes_absent _
  · have hpresent : info.connectFlags.will = true := by simp [ConnectInfo.connectFlags, htopic]
    have hretain : info.connectFlags.willRetain = info.lastWillRetain := by
      simp [ConnectInfo.connectFlags, htopic]
    have hqos : info.connectFlags.willQos = 0 := rfl
    rw [hqos, hretain] at hfields
    rw [hpresent, if_pos htopic, ConnectInfo.will, if_neg htopic]
    simpa [fieldBytes] using hfields.present

/-- The body is read back, field by field. -/
theorem decodes_body {info : ConnectInfo} (h : info.WithinLimits) :
    Decodes body (Draft.connect info).body (ofInfo info) := by
  have hname : Decodes string (Field.string [77, 81, 84, 84]).bytes [77, 81, 84, 84] :=
    decodes_string (by decide)
  have hbody : (Draft.connect info).body =
      (Field.string [77, 81, 84, 84]).bytes ++ ([4] ++ ([info.flags] ++
        ((Field.uint16 30).bytes ++ ((Field.string info.clientId).bytes ++
          (fieldBytes (if info.lastWillTopic ≠ [] then
            [.string info.lastWillTopic, .string info.lastWillMessage] else []) ++ []))))) := by
    rw [List.append_nil]
    rfl
  rw [hbody]
  unfold body
  refine hname.bind ((decodes_symbol 4).bind ((decodes_check ⟨rfl, rfl⟩).bind ?_))
  refine (decodes_symbol info.flags).bind ((decodes_ofOption info.ofByte_flags).bind ?_)
  refine (decodes_uint16 30).bind ((decodes_string h.clientId).bind ((decodes_will h).bind ?_))
  -- no flag announces a user name or a password
  exact (decodes_absent string).bind ((decodes_absent string).bind_pure _)

/-- So is the packet on the wire. -/
theorem decodes_packet {info : ConnectInfo} (h : info.WithinLimits)
    (hlength : (Draft.connect info).body.length ≤ 268435455) :
    Decodes packet (Draft.connect info).encode (ofInfo info) := by
  have hencode : (Draft.connect info).encode = [0x10] ++
      (Base128.encode 3 (Draft.connect info).body.length ++ ((Draft.connect info).body ++ [])) := by
    have hheader : Packet.headerByte .connect 0 = 0x10 := by decide
    rw [List.append_nil, ← hheader]
    rfl
  have hlt : (Draft.connect info).body.length < 128 ^ (3 + 1) := by omega
  rw [hencode]
  unfold packet
  refine (decodes_symbol 0x10).bind ((decodes_check rfl).bind ?_)
  refine (Base128.decodes_encode hlt).bind ((decodes_take rfl).bind ?_)
  exact decodes_ofOption (decodes_body h).all_eq

end ConnectPacket

/-- Only the client id and the last will there is are written. -/
theorem connect_congr {info info' : ConnectInfo} (hid : info.clientId = info'.clientId)
    (hwill : info.will = info'.will) : Draft.connect info = Draft.connect info' := by
  unfold ConnectInfo.will at hwill
  by_cases htopic : info.lastWillTopic = []
  · by_cases htopic' : info'.lastWillTopic = []
    · simp [Draft.connect, ConnectInfo.flags, htopic, htopic', hid]
    · simp [htopic, htopic'] at hwill
  · by_cases htopic' : info'.lastWillTopic = []
    · simp [htopic, htopic'] at hwill
    · rw [if_neg htopic, if_neg htopic', Option.some.injEq, Will.mk.injEq] at hwill
      obtain ⟨ht, hm, -, hr⟩ := hwill
      simp [Draft.connect, ConnectInfo.flags, hid, ht, hm, hr]

/-- **CONNECT**: the packet `sendConnect` queues is a CONNECT by the grammar, with a
clean session, without user name and password, with the client id and with the last
will there is, and nothing else.  Two clients send the same packet exactly when they
agree in client id and last will. -/
theorem connect_packet {info info' : ConnectInfo} (h : info.WithinLimits)
    (h' : info'.WithinLimits) (bound : Nat) (queue : List Packet) :
    ∃ p p', sendConnect bound info queue = (true, p :: queue) ∧
      sendConnect bound info' queue = (true, p' :: queue) ∧
      ConnectPacket.ofBytes p.unsent = some
        { cleanSession := true
          keepAlive := 30
          clientId := info.clientId
          will := info.will
          userName := none
          password := none } ∧
      (p.unsent = p'.unsent ↔ info.clientId = info'.clientId ∧ info.will = info'.will) := by
  have hread : ∀ {info : ConnectInfo}, info.WithinLimits →
      ConnectPacket.ofBytes (Draft.connect info).packet.writeHeader.unsent =
        some (ConnectPacket.ofInfo info) := by
    intro info h
    have hrepresentable : (Draft.connect info).Representable :=
      (Draft.representable_connect info).mpr
        ⟨h.clientId, .inr ⟨h.lastWillTopic, h.lastWillMessage⟩⟩
    have hflags : (Draft.connect info).flags.toNat < 16 := Nat.zero_lt_succ 15
    rw [Draft.unsent_writeHeader ⟨hflags, hrepresentable⟩]
    exact (ConnectPacket.decodes_packet h hrepresentable.2).all_eq
  refine ⟨_, _, rfl, rfl, hread h, ?_⟩
  constructor
  · intro hsame
    have hinfo := hread h
    rw [hsame, hread h', Option.some.injEq, ConnectPacket.ofInfo, ConnectPacket.ofInfo,
      ConnectPacket.mk.injEq] at hinfo
    exact ⟨hinfo.2.2.1.symm, hinfo.2.2.2.1.symm⟩
  · rintro ⟨hid, hwill⟩
    rw [connect_congr hid hwill]

/-- A client with a last will, and the same without. -/
theorem connect_packet_lastWill :
    ∃ p p', sendConnect 1000 { clientId := [97] } [] = (true, [p]) ∧
      sendConnect 1000 { clientId := [97], lastWillTopic := [98], lastWillRetain := true } [] =
        (true, [p']) ∧ p.unsent ≠ p'.unsent := by
  have hwithout : ({ clientId := [97] } : ConnectInfo).WithinLimits :=
    ⟨by decide, by decide, by decide⟩
  have hwith : ({ clientId := [97], lastWillTopic := [98], lastWillRetain := true } :
      ConnectInfo).WithinLimits :=
    ⟨by decide, by decide, by decide⟩
  obtain ⟨p, p', hp, hp', -, hsame⟩ := connect_packet hwithout hwith 1000 []
  exact ⟨p, p', hp, hp', fun heq => absurd (hsame.mp heq).2 (by decide)⟩

/-- Without a topic the message and the retain flag of a last will are not sent. -/
theorem connect_without_will :
    ({ clientId := [97] } : ConnectInfo).WithinLimits ∧
      ({ clientId := [97], lastWillMessage := [120] } : ConnectInfo).WithinLimits ∧
      ({ clientId := [97] } : ConnectInfo) ≠ { clientId := [97], lastWillMessage := [120] } ∧
      sendConnect 1000 { clientId := [97] } [] =
        sendConnect 1000 { clientId := [97], lastWillMessage := [120] } [] :=
  ⟨⟨by decide, by decide, by decide⟩, ⟨by decide, by decide, by decide⟩, by decide, rfl⟩

end TrueMqtt
