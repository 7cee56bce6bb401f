import Mathlib.Data.List.Basic
import TrueMqtt.Topic

/-!
# TrueMqtt.Packet

The packet buffer (`Packet.h`): five reserved header bytes followed by what the
`write_*` calls append, and a read offset that the `read_*` calls move over a
received body.

A packet is built by a list of `Field`s, one for each `write_*` call; reading a
body back makes the corresponding `read_*` calls in the same order
(`readAll_body`).  A raw `write` has no length of its own, so the call that
reads it, `read_remaining`, also takes everything written after it: `readBack`
is what the calls return, and it is the list of fields itself whenever a raw
`write` comes last (`readBack_eq_self`).
-/

namespace TrueMqtt

/-- `Packet::PacketType`. -/
inductive PacketType where
  | connect | connack | publish | puback | pubrec | pubrel | pubcomp
  | subscribe | suback | unsubscribe | unsuback | pingreq | pingresp | disconnect
deriving DecidableEq, Repr

namespace PacketType

/-- The value of the enumerator. -/
def code : PacketType → UInt8
  | connect => 1 | connack => 2 | publish => 3 | puback => 4 | pubrec => 5 | pubrel => 6
  | pubcomp => 7 | subscribe => 8 | suback => 9 | unsubscribe => 10 | unsuback => 11
  | pingreq => 12 | pingresp => 13 | disconnect => 14

/-- The `static_cast` of a raw type after the range check of `recvLoop`; `none`
outside of 1 to 14. -/
def ofCode (raw : UInt8) : Option PacketType :=
  [connect, connack, publish, puback, pubrec, pubrel, pubcomp, subscribe, suback, unsubscribe,
    unsuback, pingreq, pingresp, disconnect].find? fun t => t.code == raw

end PacketType

/-- `Packet`. -/
structure Packet where
  buffer : Str
  readOffset : Nat := 0
  writeOffset : Nat := 0
  packetType : PacketType
  flags : UInt8
deriving DecidableEq, Repr

namespace Packet

/-- `Packet(packet_type, flags)`: the header's five bytes are reserved. -/
def new (packetType : PacketType) (flags : UInt8) : Packet :=
  { buffer := [0, 0, 0, 0, 0], packetType := packetType, flags := flags }

/-- `Packet(packet_type, flags, data)`: a received body. -/
def ofBody (packetType : PacketType) (flags : UInt8) (data : Str) : Packet :=
  { buffer := data, packetType := packetType, flags := flags }

/-! ## writing -/

/-- The two bytes of a 16-bit value, the high one first. -/
def uint16Bytes (value : UInt16) : Str := [(value >>> 8).toUInt8, (value &&& 0xFF).toUInt8]

def writeUint8 (value : UInt8) (p : Packet) : Packet :=
  { p with buffer := p.buffer ++ [value] }

def writeUint16 (value : UInt16) (p : Packet) : Packet :=
  { p with buffer := p.buffer ++ uint16Bytes value }

def write (data : Str) (p : Packet) : Packet :=
  { p with buffer := p.buffer ++ data }

/-- `write_string`; the size is cast to 16 bits. -/
def writeString (s : Str) (p : Packet) : Packet :=
  (p.writeUint16 (UInt16.ofNat s.length)).write s

/-! ## reading -/

def readUint8 (p : Packet) : Option (UInt8 × Packet) :=
  if p.buffer.length < p.readOffset + 1 then none
  else some (p.buffer.getD p.readOffset 0, { p with readOffset := p.readOffset + 1 })

def readUint16 (p : Packet) : Option (UInt16 × Packet) :=
  if p.buffer.length < p.readOffset + 2 then none
  else
    let value := (p.buffer.getD p.readOffset 0).toUInt16 <<< 8
    let value := value ||| (p.buffer.getD (p.readOffset + 1) 0).toUInt16
    some (value, { p with readOffset := p.readOffset + 2 })

def readString (p : Packet) : Option (Str × Packet) := do
  let (length, p) ← p.readUint16
  if p.buffer.length < p.readOffset + length.toNat then none
  else some ((p.buffer.drop p.readOffset).take length.toNat,
    { p with readOffset := p.readOffset + length.toNat })

def readRemaining (p : Packet) : Str × Packet :=
  (p.buffer.drop p.readOffset, { p with readOffset := p.buffer.length })

/-- The part of the buffer the read offset has not passed. -/
def rest (p : Packet) : Str := p.buffer.drop p.readOffset

theorem length_rest (p : Packet) : p.rest.length = p.buffer.length - p.readOffset := by
  simp [rest]

theorem getD_readOffset (p : Packet) (k : Nat) :
    p.buffer.getD (p.readOffset + k) 0 = p.rest.getD k 0 := by
  simp [rest, List.getD_eq_getElem?_getD]

/-- Reading a byte takes the head of what is left. -/
theorem readUint8_of_rest {p : Packet} {b : UInt8} {bs : Str} (h : p.rest = b :: bs) :
    ∃ p', p.readUint8 = some (b, p') ∧ p'.rest = bs := by
  have hlen := p.length_rest
  rw [h, List.length_cons] at hlen
  have hb : p.buffer.getD p.readOffset 0 = b := by
    have hget := p.getD_readOffset 0
    rwa [h, Nat.add_zero] at hget
  refine ⟨{ p with readOffset := p.readOffset + 1 }, ?_, ?_⟩
  · rw [readUint8, if_neg (by omega), hb]
  · change p.buffer.drop (p.readOffset + 1) = bs
    rw [← List.drop_drop]
    change p.rest.drop 1 = bs
    rw [h, List.drop_one, List.tail_cons]

/-- Reading a 16-bit value takes its two bytes, the high one first. -/
theorem readUint16_of_rest {p : Packet} {hi lo : UInt8} {bs : Str} (h : p.rest = hi :: lo :: bs) :
    ∃ p', p.readUint16 = some (hi.toUInt16 <<< 8 ||| lo.toUInt16, p') ∧ p'.rest = bs ∧
      p'.readOffset ≤ p'.buffer.length := by
  have hlen := p.length_rest
  rw [h, List.length_cons, List.length_cons] at hlen
  have hhi : p.buffer.getD p.readOffset 0 = hi := by
    have hget := p.getD_readOffset 0
    rwa [h, Nat.add_zero] at hget
  have hlo : p.buffer.getD (p.readOffset + 1) 0 = lo := by
    have hget := p.getD_readOffset 1
    rwa [h] at hget
  refine ⟨{ p with readOffset := p.readOffset + 2 }, ?_, ?_, ?_⟩
  · rw [readUint16, if_neg (by omega), hhi, hlo]
  · change p.buffer.drop (p.readOffset + 2) = bs
    rw [← List.drop_drop]
    change p.rest.drop 2 = bs
    rw [h]
    rfl
  · change p.readOffset + 2 ≤ p.buffer.length
    omega

/-- The two bytes `write_uint16` appends are the value `read_uint16` computes. -/
theorem uint16_of_bytes (v : UInt16) :
    (v >>> 8).toUInt8.toUInt16 <<< 8 ||| (v &&& 0xFF).toUInt8.toUInt16 = v := by
  apply UInt16.toNat_inj.mp
  have hv := v.toNat_lt
  have hhi : (v >>> 8).toUInt8.toNat = v.toNat / 256 := by
    simp [Nat.shiftRight_eq_div_pow]
    omega
  have hlo : (v &&& 0xFF).toUInt8.toNat = v.toNat % 256 := by
    have hmask : v.toNat &&& 255 = v.toNat % 256 := Nat.and_two_pow_sub_one_eq_mod v.toNat 8
    rw [UInt16.toNat_toUInt8, UInt16.toNat_and]
    change (v.toNat &&& 255) % 2 ^ 8 = v.toNat % 256
    rw [hmask]
    omega
  have hshift : ((v >>> 8).toUInt8.toUInt16 <<< 8).toNat = 2 ^ 8 * (v.toNat / 256) := by
    rw [UInt16.toNat_shiftLeft, UInt8.toNat_toUInt16, hhi, Nat.shiftLeft_eq]
    change v.toNat / 256 * 2 ^ 8 % 2 ^ 16 = 2 ^ 8 * (v.toNat / 256)
    omega
  rw [UInt16.toNat_or, hshift, UInt8.toNat_toUInt16, hlo,
    ← Nat.two_pow_add_eq_or_of_lt (by omega)]
  omega

end Packet

/-! ## packets as lists of fields -/

/-- One `write_*` call, with its argument. -/
inductive Field where
  | uint8 (value : UInt8)
  | uint16 (value : UInt16)
  | string (s : Str)
  | raw (data : Str)
deriving DecidableEq, Repr

namespace Field

/-- The bytes a call appends. -/
def bytes : Field → Str
  | uint8 v => [v]
  | uint16 v => Packet.uint16Bytes v
  | string s => Packet.uint16Bytes (UInt16.ofNat s.length) ++ s
  | raw d => d

/-- The strings `write_string` can represent. -/
def Fits : Field → Prop
  | string s => s.length ≤ 65535
  | _ => True

def isRaw : Field → Bool
  | raw _ => true
  | _ => false

end Field

/-- The bytes a list of calls appends. -/
def fieldBytes (fields : List Field) : Str := fields.flatMap Field.bytes

namespace Packet

/-- Make one `write_*` call. -/
def writeField (p : Packet) : Field → Packet
  | .uint8 v => p.writeUint8 v
  | .uint16 v => p.writeUint16 v
  | .string s => p.writeString s
  | .raw d => p.write d

/-- `Packet(packet_type, flags)` followed by a list of `write_*` calls. -/
def build (packetType : PacketType) (flags : UInt8) (fields : List Field) : Packet :=
  fields.foldl writeField (new packetType flags)

theorem writeField_eq (p : Packet) (f : Field) :
    p.writeField f = { p with buffer := p.buffer ++ f.bytes } := by
  cases f <;> simp [writeField, writeUint8, writeUint16, writeString, write, Field.bytes]

theorem foldl_writeField (p : Packet) (fields : List Field) :
    fields.foldl writeField p = { p with buffer := p.buffer ++ fieldBytes fields } := by
  induction fields generalizing p with
  | nil => simp [fieldBytes]
  | cons f fields ih =>
      rw [List.foldl_cons, ih, writeField_eq]
      simp [fieldBytes]

/-- A built packet: the reserved header and the bytes written. -/
theorem build_eq (packetType : PacketType) (flags : UInt8) (fields : List Field) :
    build packetType flags fields =
      { buffer := [0, 0, 0, 0, 0] ++ fieldBytes fields
        packetType := packetType
        flags := flags } :=
  foldl_writeField _ _

/-- Make the `read_*` call that corresponds to a `write_*` call. -/
def readField (p : Packet) : Field → Option (Field × Packet)
  | .uint8 _ => p.readUint8.map fun r => (.uint8 r.1, r.2)
  | .uint16 _ => p.readUint16.map fun r => (.uint16 r.1, r.2)
  | .string _ => p.readString.map fun r => (.string r.1, r.2)
  | .raw _ => some (.raw p.readRemaining.1, p.readRemaining.2)

/-- Make the `read_*` calls for a list of `write_*` calls.  `read_remaining`
exhausts the body, so it is the last call made. -/
def readAll : List Field → Packet → Option (List Field)
  | [], _ => some []
  | f :: fields, p => do
      let (v, p) ← p.readField f
      if f.isRaw then some [v] else (readAll fields p).map (v :: ·)

end Packet

/-- What the read calls return: the written values, where a raw `write` is read
together with everything written after it. -/
def readBack : List Field → List Field
  | [] => []
  | f :: fields => if f.isRaw then [.raw (fieldBytes (f :: fields))] else f :: readBack fields

/-- A raw `write` that comes last is read back alone. -/
theorem readBack_eq_self {fields : List Field} (h : ∀ f ∈ fields.dropLast, f.isRaw = false) :
    readBack fields = fields := by
  induction fields with
  | nil => rfl
  | cons f fields ih =>
      cases fields with
      | nil => cases f <;> simp [readBack, Field.isRaw, fieldBytes, Field.bytes]
      | cons g fields =>
          have hf : f.isRaw = false := h f (by simp)
          have ih' := ih fun f' hf' => h f' (by simp [hf'])
          rw [readBack, hf, if_neg (by simp), ih']

/-- One read call on a body that starts with the written bytes. -/
theorem readField_of_rest {p : Packet} {f : Field} {bs : Str} (hraw : f.isRaw = false)
    (hfits : f.Fits) (h : p.rest = f.bytes ++ bs) :
    ∃ p', p.readField f = some (f, p') ∧ p'.rest = bs := by
  cases f with
  | uint8 v =>
      obtain ⟨p', hp', hrest⟩ := Packet.readUint8_of_rest h
      exact ⟨p', by simp [Packet.readField, hp'], hrest⟩
  | uint16 v =>
      obtain ⟨p', hp', hrest, -⟩ := Packet.readUint16_of_rest h
      exact ⟨p', by simp only [Packet.readField, hp', Packet.uint16_of_bytes, Option.map_some],
        hrest⟩
  | string s =>
      have hlen : (UInt16.ofNat s.length).toNat = s.length := by
        rw [UInt16.toNat_ofNat']
        exact Nat.mod_eq_of_lt (Nat.lt_succ_of_le hfits)
      obtain ⟨p₁, hp₁, hrest₁, hoff⟩ := Packet.readUint16_of_rest h
      rw [Packet.uint16_of_bytes] at hp₁
      have hrest₁' : p₁.rest = s ++ bs := hrest₁
      have hbound : ¬ p₁.buffer.length < p₁.readOffset + s.length := by
        have hlen₁ := p₁.length_rest
        rw [hrest₁', List.length_append] at hlen₁
        omega
      refine ⟨{ p₁ with readOffset := p₁.readOffset + s.length }, ?_, ?_⟩
      · have htake : (p₁.buffer.drop p₁.readOffset).take s.length = s := by
          change p₁.rest.take s.length = s
          rw [hrest₁', List.take_left']
          rfl
        simp [Packet.readField, Packet.readString, hp₁, hlen, hbound, htake]
      · change p₁.buffer.drop (p₁.readOffset + s.length) = bs
        rw [← List.drop_drop]
        change p₁.rest.drop s.length = bs
        rw [hrest₁', List.drop_left']
        rfl
  | raw d => simp [Field.isRaw] at hraw

/-- **Reading back**: the read calls return the written values. -/
theorem readAll_of_rest {p : Packet} {fields : List Field} (hfits : ∀ f ∈ fields, f.Fits)
    (h : p.rest = fieldBytes fields) : p.readAll fields = some (readBack fields) := by
  induction fields generalizing p with
  | nil => rfl
  | cons f fields ih =>
      cases hraw : f.isRaw with
      | true =>
          cases f with
          | raw d =>
              have hrem : p.readRemaining.1 = fieldBytes (.raw d :: fields) := h
              simp [Packet.readAll, Packet.readField, readBack, Field.isRaw, hrem]
          | uint8 _ | uint16 _ | string _ => simp [Field.isRaw] at hraw
      | false =>
          have hrest : p.rest = f.bytes ++ fieldBytes fields := h
          obtain ⟨p', hp', hrest'⟩ := readField_of_rest hraw (hfits f List.mem_cons_self) hrest
          have ih' := ih (fun g hg => hfits g (List.mem_cons_of_mem f hg)) hrest'
          simp [Packet.readAll, readBack, hp', hraw, ih']

theorem readAll_body {fields : List Field} (hfits : ∀ f ∈ fields, f.Fits)
    (packetType : PacketType) (flags : UInt8) :
    (Packet.ofBody packetType flags (fieldBytes fields)).readAll fields = some (readBack fields) :=
  readAll_of_rest hfits rfl

end TrueMqtt
