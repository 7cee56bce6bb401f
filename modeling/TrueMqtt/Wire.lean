import TrueMqtt.Lib.Base128
import TrueMqtt.Packet

/-!
# TrueMqtt.Wire

Packets on a socket (`Packet.cpp`): the header `send` writes into the five
reserved bytes, the loop of `sendPacket`, and the framing of `recvLoop`.

How much one `::send` or `::recv` call moves is up to the operating system.  A
`Split` answers that for every call: each call starts at a stream position no
other call starts at, so a function of the position and of the count asked for
covers every way to cut the stream.

`recvPackets_sendPackets` is the round trip over whole streams.
-/

namespace TrueMqtt

/-! ## the header -/

namespace Packet

/-- The do-while loop of `send` that writes the remaining length in place.  A
`size_t` has ten groups of seven bits, so ten rounds are enough. -/
def writeLength : Nat → Nat → Nat → Str → Str
  | 0, _, _, buffer => buffer
  | rounds + 1, length, offset, buffer =>
      let byte := UInt8.ofNat (length &&& 0x7F)
      let length := length >>> 7
      if length > 0 then
        writeLength rounds length (offset + 1) (buffer.set offset (byte ||| 0x80))
      else buffer.set offset byte

/-- The offset at which the header starts, for a body of this length. -/
def headerOffset (length : Nat) : Nat :=
  if length ≤ 127 then 3 else if length ≤ 16383 then 2 else if length ≤ 2097151 then 1 else 0

/-- The first byte of the header. -/
def headerByte (packetType : PacketType) (flags : UInt8) : UInt8 :=
  (packetType.code <<< 4) ||| flags

/-- What `send` does to a packet before it queues it. -/
def writeHeader (p : Packet) : Packet :=
  let length := p.buffer.length - 5
  let offset := headerOffset length
  let buffer := p.buffer.set offset (headerByte p.packetType p.flags)
  { p with writeOffset := offset, buffer := writeLength 10 length (offset + 1) buffer }

/-- What `sendPacket` has left to write. -/
def unsent (p : Packet) : Str := p.buffer.drop p.writeOffset

/-- Writing over the gap between a prefix and a suffix. -/
theorem writeLength_eq {rounds k n : Nat} (hrounds : k < rounds) (hn : n < 128 ^ (k + 1))
    (pre gap post : Str) (hgap : gap.length = (Base128.encode k n).length) :
    writeLength rounds n pre.length (pre ++ gap ++ post) = pre ++ Base128.encode k n ++ post := by
  induction rounds generalizing k n pre gap with
  | zero => omega
  | succ rounds ih =>
      obtain ⟨g, gap, rfl⟩ : ∃ g gap', gap = g :: gap' := by
        cases gap with
        | nil =>
            have hpos := Base128.length_encode_pos k n
            rw [← hgap] at hpos
            simp at hpos
        | cons g gap => exact ⟨g, gap, rfl⟩
      have hset : ∀ b : UInt8, (pre ++ (g :: gap) ++ post).set pre.length b =
          pre ++ [b] ++ gap ++ post := by
        intro b
        simp
      simp only [writeLength, Base128.and_seven, Base128.shift_seven, hset]
      by_cases hlt : n < 128
      · have hone : gap = [] := by
          rw [Base128.encode_of_lt hlt] at hgap
          simpa using hgap
        rw [if_neg (by omega), Nat.mod_eq_of_lt hlt, Base128.encode_of_lt hlt, hone]
        simp
      · cases k with
        | zero => omega
        | succ k =>
            have hge : 128 ≤ n := by omega
            rw [Base128.encode_of_ge hge, List.length_cons, List.length_cons] at hgap
            have hdiv : n / 128 < 128 ^ (k + 1) := by
              rw [Nat.div_lt_iff_lt_mul (by decide), ← Nat.pow_succ]
              exact hn
            have hrec := ih (by omega) hdiv (pre ++ [UInt8.ofNat (n % 128 + 128)]) gap (by omega)
            rw [if_pos (by omega), Base128.ofNat_or_high (Nat.mod_lt n (by decide)),
              Base128.encode_of_ge hge]
            simpa using hrec

/-- The length loop leaves the bytes before its offset alone. -/
theorem getElem?_writeLength {rounds n offset i : Nat} (hi : i < offset) (buffer : Str) :
    (writeLength rounds n offset buffer)[i]? = buffer[i]? := by
  induction rounds generalizing n offset buffer with
  | zero => rfl
  | succ rounds ih =>
      rw [writeLength]
      split
      · rw [ih (by omega), List.getElem?_set_ne (by omega)]
      · rw [List.getElem?_set_ne (by omega)]

/-- Whatever its length, a packet starts with its header byte. -/
theorem unsent_writeHeader_eq_cons (p : Packet) (h : 5 ≤ p.buffer.length) :
    ∃ tail, p.writeHeader.unsent = headerByte p.packetType p.flags :: tail := by
  have hoff : headerOffset (p.buffer.length - 5) < p.buffer.length := by
    unfold headerOffset
    split
    · omega
    · split
      · omega
      · split <;> omega
  have hget : p.writeHeader.buffer[headerOffset (p.buffer.length - 5)]? =
      some (headerByte p.packetType p.flags) := by
    simp only [writeHeader]
    rw [getElem?_writeLength (by omega), List.getElem?_set_self hoff]
  refine ⟨p.writeHeader.buffer.drop (headerOffset (p.buffer.length - 5) + 1), ?_⟩
  obtain ⟨hlt, hval⟩ := List.getElem?_eq_some_iff.mp hget
  rw [← hval]
  exact List.drop_eq_getElem_cons hlt

/-- The header leaves no gap: it starts where its last byte is the fifth. -/
theorem headerOffset_add_length {n : Nat} (h : n ≤ 268435455) :
    headerOffset n + 1 + (Base128.encode 3 n).length = 5 := by
  have hlen := fun j hj hlo hhi => Base128.length_encode (k := 3) (n := n) (j := j) hj hlo hhi
  unfold headerOffset
  split
  · rw [hlen 0 (by decide) (.inl rfl) (by omega)]
  · split
    · rw [hlen 1 (by decide) (.inr (by omega)) (by omega)]
    · split
      · rw [hlen 2 (by decide) (.inr (by omega)) (by omega)]
      · rw [hlen 3 (by decide) (.inr (by omega)) (by omega)]

end Packet

/-! ## drafts -/

/-- The calls that make a packet: its constructor and the `write_*` calls. -/
structure Draft where
  packetType : PacketType
  flags : UInt8
  fields : List Field
deriving DecidableEq, Repr

namespace Draft

/-- The packet handed to `send`. -/
def packet (d : Draft) : Packet := Packet.build d.packetType d.flags d.fields

def body (d : Draft) : Str := fieldBytes d.fields

/-- The packet the receiver of the draft works on. -/
def received (d : Draft) : Packet := Packet.ofBody d.packetType d.flags d.body

/-- The drafts the wire format can represent. -/
def Fits (d : Draft) : Prop :=
  d.flags.toNat < 16 ∧ (∀ f ∈ d.fields, f.Fits) ∧ d.body.length ≤ 268435455

/-- The bytes of the packet on the wire. -/
def encode (d : Draft) : Str :=
  Packet.headerByte d.packetType d.flags :: (Base128.encode 3 d.body.length ++ d.body)

/-- The reserved bytes end up as the packet's header, directly before the body. -/
theorem unsent_writeHeader {d : Draft} (h : d.Fits) : d.packet.writeHeader.unsent = d.encode := by
  have hbody := h.2.2
  have hoff := Packet.headerOffset_add_length hbody
  rw [packet, Packet.build_eq]
  simp only [Packet.writeHeader, Packet.unsent, encode, List.length_append, List.length_cons,
    List.length_nil, Nat.zero_add, Nat.add_sub_cancel_left]
  change d.body.length ≤ 268435455 at hbody
  rw [show fieldBytes d.fields = d.body from rfl]
  generalize hn : d.body.length = n at hbody hoff ⊢
  -- the reserved bytes: unused, header byte, length bytes
  have hsplit : ([0, 0, 0, 0, 0] : Str) = List.replicate (Packet.headerOffset n) 0 ++
      [0] ++ List.replicate (Base128.encode 3 n).length 0 := by
    rw [← List.replicate_one, ← List.replicate_add, ← List.replicate_add, hoff]
    rfl
  have hset : (([0, 0, 0, 0, 0] : Str) ++ d.body).set (Packet.headerOffset n)
      (Packet.headerByte d.packetType d.flags) =
      (List.replicate (Packet.headerOffset n) 0 ++ [Packet.headerByte d.packetType d.flags]) ++
        List.replicate (Base128.encode 3 n).length 0 ++ d.body := by
    rw [hsplit]
    simp
  have hlen : Packet.headerOffset n + 1 = (List.replicate (Packet.headerOffset n) (0 : UInt8) ++
      [Packet.headerByte d.packetType d.flags]).length := by
    simp
  rw [hset, hlen, Packet.writeLength_eq (k := 3) (by decide) (by omega) _ _ _ (by simp)]
  simp

end Draft

/-! ## moving bytes -/

/-- How many bytes a `::send` or `::recv` call moves, by the position in the
stream where it starts and the count it asks for. -/
def Split : Type := Nat → Nat → Nat

/-- A call that is asked for some bytes moves at least one and no more than
asked. -/
def Split.Legal (split : Split) : Prop :=
  ∀ pos asked, 0 < asked → 1 ≤ split pos asked ∧ split pos asked ≤ asked

/-- The loop of `sendPacket`: the bytes the socket takes, and the packet after
it.  Every call moves a byte, so as many rounds as there are bytes are enough. -/
def sendPacket (split : Split) : Nat → Nat → Packet → Str × Packet
  | 0, _, p => ([], p)
  | rounds + 1, pos, p =>
      if p.writeOffset < p.buffer.length then
        let res := split pos (p.buffer.length - p.writeOffset)
        let (sent, p') :=
          sendPacket split rounds (pos + res) { p with writeOffset := p.writeOffset + res }
        ((p.buffer.drop p.writeOffset).take res ++ sent, p')
      else ([], p)

/-- However the calls split it, everything left of the packet is written. -/
theorem sendPacket_fst {split : Split} (h : split.Legal) {rounds : Nat} (pos : Nat) (p : Packet)
    (hrounds : p.buffer.length ≤ rounds + p.writeOffset) :
    (sendPacket split rounds pos p).1 = p.unsent := by
  induction rounds generalizing pos p with
  | zero =>
      have hle : p.buffer.length ≤ p.writeOffset := by omega
      simp [sendPacket, Packet.unsent, List.drop_eq_nil_of_le hle]
  | succ rounds ih =>
      rw [sendPacket]
      split
      · case isTrue hlt =>
          obtain ⟨hpos, hle⟩ := h pos (p.buffer.length - p.writeOffset) (by omega)
          simp only
          rw [ih _ _ (by simp only; omega)]
          simp only [Packet.unsent]
          rw [← List.drop_drop, List.take_append_drop]
      · case isFalse hge =>
          rw [Packet.unsent, List.drop_eq_nil_of_le (by omega)]

/-- `send` and `sendPacket` for one packet after the other, from a position of
the stream on. -/
def sendPackets (split : Split) : Nat → List Packet → Str
  | _, [] => []
  | pos, p :: ps =>
      let q := p.writeHeader
      let sent := (sendPacket split q.buffer.length pos q).1
      sent ++ sendPackets split (pos + sent.length) ps

theorem sendPackets_eq {split : Split} (h : split.Legal) (pos : Nat) (ps : List Packet) :
    sendPackets split pos ps = ps.flatMap fun p => p.writeHeader.unsent := by
  induction ps generalizing pos with
  | nil => rfl
  | cons p ps ih =>
      rw [sendPackets, sendPacket_fst h _ _ (by omega), ih, List.flatMap_cons]

/-! ## framing -/

/-- The bytes a socket still delivers, and how many it has delivered. -/
structure Stream where
  pos : Nat := 0
  bytes : Str
deriving DecidableEq, Repr

/-- Why `recvLoop` gives up on a connection while it cuts a packet. -/
inductive RecvError where
  /-- `recv` returned no byte -/
  | closed
  /-- a packet type outside of 1 to 14 -/
  | invalidType
  /-- a fourth length byte with its high bit set -/
  | malformedLength
deriving DecidableEq, Repr

namespace Stream

/-- `recv(buffer, asked)` on a connection that stays up. -/
def recv (split : Split) (asked : Nat) (s : Stream) : Except RecvError (Str × Stream) :=
  if s.bytes = [] then .error .closed
  else
    let res := min (split s.pos asked) s.bytes.length
    .ok (s.bytes.take res, { pos := s.pos + res, bytes := s.bytes.drop res })

/-- `recv(&buffer, 1)`. -/
def recvByte (split : Split) (s : Stream) : Except RecvError (UInt8 × Stream) := do
  let (data, s) ← s.recv split 1
  return (data.headD 0, s)

/-- The length loop of `recvLoop`, from round `i` on. -/
def recvLength (split : Split) : Nat → Nat → UInt32 → Stream → Except RecvError (UInt32 × Stream)
  | 0, _, _, _ => .error .malformedLength
  | rounds + 1, i, remainingLength, s => do
      let (buffer, s) ← s.recvByte split
      let remainingLength :=
        remainingLength ||| (buffer &&& 0x7F).toUInt32 <<< UInt32.ofNat (7 * i)
      if buffer &&& 0x80 = 0 then return (remainingLength, s)
      else recvLength split rounds (i + 1) remainingLength s

/-- The body loop of `recvLoop`, with `missing` bytes to go. -/
def recvBody (split : Split) : Nat → Nat → Stream → Except RecvError (Str × Stream)
  | 0, _, s => .ok ([], s)
  | rounds + 1, missing, s =>
      if missing = 0 then .ok ([], s)
      else do
        let (data, s) ← s.recv split missing
        let (more, s) ← recvBody split rounds (missing - data.length) s
        return (data ++ more, s)

/-- The framing of `recvLoop`: header byte, remaining length, body. -/
def recvPacket (split : Split) (s : Stream) : Except RecvError (Packet × Stream) := do
  let (buffer, s) ← s.recvByte split
  let flags := buffer &&& 0x0F
  match PacketType.ofCode (buffer >>> 4) with
  | none => .error .invalidType
  | some packetType =>
      let (remainingLength, s) ← s.recvLength split 4 0 0
      let (data, s) ← s.recvBody split remainingLength.toNat remainingLength.toNat
      return (Packet.ofBody packetType flags data, s)

/-- `recvLoop` after `recvLoop`, until the stream is used up.  A packet takes at
least a byte, so as many rounds as there are bytes are enough. -/
def recvPackets (split : Split) : Nat → Stream → Except RecvError (List Packet)
  | 0, _ => .ok []
  | rounds + 1, s =>
      if s.bytes = [] then .ok []
      else do
        let (p, s) ← s.recvPacket split
        let ps ← recvPackets split rounds s
        return p :: ps

/-! ## what the framing reads -/

/-- Asked for one byte, a call returns the next one. -/
theorem recvByte_of_bytes {split : Split} (h : split.Legal) {s : Stream} {b : UInt8} {bs : Str}
    (hs : s.bytes = b :: bs) :
    s.recvByte split = .ok (b, { pos := s.pos + 1, bytes := bs }) := by
  have hone : split s.pos 1 = 1 := by
    have hlegal := h s.pos 1 (by decide)
    omega
  simp [recvByte, recv, hs, hone, bind, Except.bind, pure, Except.pure]

/-- One round of the length loop adds the byte's seven bits above the ones
collected so far. -/
theorem toNat_or_shift {acc : UInt32} {b : UInt8} {i : Nat} (hi : i ≤ 3)
    (hacc : acc.toNat < 2 ^ (7 * i)) :
    (acc ||| (b &&& 0x7F).toUInt32 <<< UInt32.ofNat (7 * i)).toNat =
      acc.toNat + b.toNat % 128 * 2 ^ (7 * i) := by
  have hpow : 2 ^ (7 * i) ≤ 2 ^ 21 := Nat.pow_le_pow_right (by decide) (by omega)
  have hamount : (UInt32.ofNat (7 * i)).toNat % 32 = 7 * i := by
    rw [UInt32.toNat_ofNat']
    omega
  have hbits : b.toNat % 128 * 2 ^ (7 * i) < 2 ^ 32 := by
    calc b.toNat % 128 * 2 ^ (7 * i) ≤ 127 * 2 ^ 21 :=
          Nat.mul_le_mul (by omega) hpow
      _ < 2 ^ 32 := by decide
  have hshift : ((b &&& 0x7F).toUInt32 <<< UInt32.ofNat (7 * i)).toNat =
      b.toNat % 128 * 2 ^ (7 * i) := by
    rw [UInt32.toNat_shiftLeft, hamount, UInt8.toNat_toUInt32, Base128.toNat_and_seven,
      Nat.shiftLeft_eq, Nat.mod_eq_of_lt hbits]
  rw [UInt32.toNat_or, hshift, Nat.or_comm, Nat.mul_comm, ← Nat.two_pow_add_eq_or_of_lt hacc]
  omega

/-- A byte without the high bit ends the length loop. -/
theorem recvLength_of_last {split : Split} (h : split.Legal) {rounds n i : Nat} {acc : UInt32}
    {s : Stream} {rest : Str} (hi : i ≤ 3) (hn : n < 128) (hacc : acc.toNat < 2 ^ (7 * i))
    (hs : s.bytes = UInt8.ofNat n :: rest) :
    ∃ length s', s.recvLength split (rounds + 1) i acc = .ok (length, s') ∧ s'.bytes = rest ∧
      length.toNat = acc.toNat + n * 2 ^ (7 * i) := by
  have hbyte := Base128.toNat_ofNat_of_lt (show n < 256 by omega)
  have hlast : UInt8.ofNat n &&& 0x80 = 0 := by
    rw [Base128.and_high_eq_zero_iff, hbyte]
    exact hn
  refine ⟨acc ||| (UInt8.ofNat n &&& 0x7F).toUInt32 <<< UInt32.ofNat (7 * i),
    { pos := s.pos + 1, bytes := rest }, ?_, rfl, ?_⟩
  · simp [recvLength, recvByte_of_bytes h hs, hlast, bind, Except.bind, pure, Except.pure]
  · rw [toNat_or_shift hi hacc, hbyte, Nat.mod_eq_of_lt hn]

/-- The length loop reads an encoded length, above what it has collected. -/
theorem recvLength_of_bytes {split : Split} (h : split.Legal) {k n i : Nat} {acc : UInt32}
    {s : Stream} {rest : Str} (hi : i + k ≤ 3) (hn : n < 128 ^ (k + 1))
    (hacc : acc.toNat < 2 ^ (7 * i)) (hs : s.bytes = Base128.encode k n ++ rest) :
    ∃ length s', s.recvLength split (k + 1) i acc = .ok (length, s') ∧ s'.bytes = rest ∧
      length.toNat = acc.toNat + n * 2 ^ (7 * i) := by
  induction k generalizing n i acc s with
  | zero =>
      have hlt : n < 128 := by simpa using hn
      rw [Base128.encode_of_lt hlt] at hs
      exact recvLength_of_last h hi hlt hacc hs
  | succ k ih =>
      by_cases hlt : n < 128
      · rw [Base128.encode_of_lt hlt] at hs
        exact recvLength_of_last h (by omega) hlt hacc hs
      · have hge : 128 ≤ n := by omega
        rw [Base128.encode_of_ge hge, List.cons_append] at hs
        have hbyte := Base128.toNat_ofNat_of_lt (show n % 128 + 128 < 256 by omega)
        have hmore : ¬ UInt8.ofNat (n % 128 + 128) &&& 0x80 = 0 := by
          rw [Base128.and_high_eq_zero_iff, hbyte]
          omega
        have hdiv : n / 128 < 128 ^ (k + 1) := by
          rw [Nat.div_lt_iff_lt_mul (by decide), ← Nat.pow_succ]
          exact hn
        have hval := toNat_or_shift (b := UInt8.ofNat (n % 128 + 128)) (i := i) (by omega) hacc
        rw [hbyte, show (n % 128 + 128) % 128 = n % 128 by omega] at hval
        have hpow : 2 ^ (7 * (i + 1)) = 128 * 2 ^ (7 * i) := by
          rw [show 7 * (i + 1) = 7 + 7 * i by omega, Nat.pow_add]
        have hacc' : (acc ||| (UInt8.ofNat (n % 128 + 128) &&& 0x7F).toUInt32 <<<
            UInt32.ofNat (7 * i)).toNat < 2 ^ (7 * (i + 1)) := by
          have hdigit : n % 128 * 2 ^ (7 * i) ≤ 127 * 2 ^ (7 * i) :=
            Nat.mul_le_mul_right _ (by omega)
          omega
        obtain ⟨length, s', hrec, hrest, hlen⟩ :=
          ih (s := { pos := s.pos + 1, bytes := Base128.encode k (n / 128) ++ rest })
            (by omega) hdiv hacc' rfl
        refine ⟨length, s', ?_, hrest, ?_⟩
        · rw [recvLength]
          simp only [recvByte_of_bytes h hs, bind, Except.bind, hmore, ↓reduceIte]
          exact hrec
        · have hsplit : n * 2 ^ (7 * i) =
              n % 128 * 2 ^ (7 * i) + n / 128 * (128 * 2 ^ (7 * i)) := by
            rw [← Nat.mul_assoc, ← Nat.add_mul]
            congr 1
            omega
          rw [hlen, hval, hpow, hsplit]
          omega

/-- However the calls split it, the body loop collects the bytes asked for. -/
theorem recvBody_of_bytes {split : Split} (h : split.Legal) {rounds : Nat} {s : Stream}
    {data rest : Str} (hrounds : data.length ≤ rounds) (hs : s.bytes = data ++ rest) :
    ∃ s', s.recvBody split rounds data.length = .ok (data, s') ∧ s'.bytes = rest := by
  induction rounds generalizing data s with
  | zero =>
      have hnil : data = [] := List.eq_nil_of_length_eq_zero (by omega)
      subst hnil
      exact ⟨s, rfl, hs⟩
  | succ rounds ih =>
      by_cases hnil : data.length = 0
      · have hnil' : data = [] := List.eq_nil_of_length_eq_zero hnil
        subst hnil'
        exact ⟨s, rfl, hs⟩
      · obtain ⟨hpos, hle⟩ := h s.pos data.length (by omega)
        have hlen : s.bytes.length = data.length + rest.length := by rw [hs, List.length_append]
        have hne : s.bytes ≠ [] := by
          intro hempty
          rw [hempty] at hlen
          simp only [List.length_nil] at hlen
          omega
        have hmin : min (split s.pos data.length) s.bytes.length = split s.pos data.length := by
          omega
        generalize hres : split s.pos data.length = res at *
        have htake : s.bytes.take res = data.take res := by
          rw [hs, List.take_append_of_le_length hle]
        have hdrop : s.bytes.drop res = data.drop res ++ rest := by
          rw [hs, List.drop_append_of_le_length hle]
        have hmissing : data.length - (data.take res).length = (data.drop res).length := by
          simp only [List.length_take, List.length_drop]
          omega
        have hrounds' : (data.drop res).length ≤ rounds := by
          rw [List.length_drop]
          omega
        obtain ⟨s', hrec, hrest⟩ := ih (s := { pos := s.pos + res, bytes := s.bytes.drop res })
          hrounds' hdrop
        refine ⟨s', ?_, hrest⟩
        rw [recvBody, if_neg hnil]
        simp only [recv, if_neg hne, hres, hmin, htake, bind, Except.bind, hmissing, hrec, pure,
          Except.pure, List.take_append_drop]

/-- The header byte is cut into the type and the flags it was made of. -/
theorem headerByte_cut (packetType : PacketType) {flags : UInt8} (hflags : flags.toNat < 16) :
    PacketType.ofCode (Packet.headerByte packetType flags >>> 4) = some packetType ∧
      Packet.headerByte packetType flags &&& 0x0F = flags := by
  have hall : ∀ f : Fin 16,
      PacketType.ofCode (Packet.headerByte packetType (UInt8.ofNat f.val) >>> 4) =
          some packetType ∧
        Packet.headerByte packetType (UInt8.ofNat f.val) &&& 0x0F = UInt8.ofNat f.val := by
    cases packetType <;> decide +kernel
  have hf : UInt8.ofNat flags.toNat = flags := UInt8.ofNat_toNat
  have hcut := hall ⟨flags.toNat, hflags⟩
  rwa [hf] at hcut

/-- `recvLoop` cuts an encoded packet off the front of a stream. -/
theorem recvPacket_of_bytes {split : Split} (h : split.Legal) {d : Draft} {rest : Str}
    {s : Stream} (hd : d.Fits) (hs : s.bytes = d.encode ++ rest) :
    ∃ s', s.recvPacket split = .ok (d.received, s') ∧ s'.bytes = rest := by
  rw [Draft.encode, List.cons_append, List.append_assoc] at hs
  obtain ⟨hflags, -, hbody⟩ := hd
  obtain ⟨htype, hlow⟩ := headerByte_cut d.packetType hflags
  obtain ⟨length, s₁, hlen, hs₁, hval⟩ := recvLength_of_bytes h
    (s := { pos := s.pos + 1, bytes := Base128.encode 3 d.body.length ++ (d.body ++ rest) })
    (k := 3) (i := 0) (by decide) (by omega) (show (0 : UInt32).toNat < 2 ^ (7 * 0) by decide) rfl
  have hval' : length.toNat = d.body.length := by simpa using hval
  obtain ⟨s₂, hdata, hs₂⟩ := recvBody_of_bytes h (Nat.le_refl d.body.length) hs₁
  refine ⟨s₂, ?_, hs₂⟩
  simp only [recvPacket, recvByte_of_bytes h hs, htype, hlow, hlen, hval', hdata, bind,
    Except.bind, pure, Except.pure, Draft.received]

/-- A stream of encoded packets is cut back into them, with nothing left over. -/
theorem recvPackets_of_bytes {split : Split} (h : split.Legal) {rounds : Nat} {s : Stream}
    {drafts : List Draft} (hdrafts : ∀ d ∈ drafts, d.Fits) (hrounds : s.bytes.length ≤ rounds)
    (hs : s.bytes = drafts.flatMap Draft.encode) :
    s.recvPackets split rounds = .ok (drafts.map Draft.received) := by
  induction drafts generalizing rounds s with
  | nil =>
      have hnil : s.bytes = [] := hs
      cases rounds <;> simp [recvPackets, hnil]
  | cons d drafts ih =>
      rw [List.flatMap_cons] at hs
      obtain ⟨s', hrecv, hrest⟩ := recvPacket_of_bytes h (hdrafts d List.mem_cons_self) hs
      have hlen : s.bytes.length = d.encode.length + s'.bytes.length := by
        rw [hs, hrest, List.length_append]
      have hpos : 0 < d.encode.length := by simp [Draft.encode]
      have hne : s.bytes ≠ [] := List.ne_nil_of_length_pos (by omega)
      obtain ⟨rounds, rfl⟩ : ∃ r, rounds = r + 1 := ⟨rounds - 1, by omega⟩
      have hrounds' : s'.bytes.length ≤ rounds := by omega
      have ih' := ih (fun d hd => hdrafts d (List.mem_cons_of_mem _ hd)) hrounds' hrest
      rw [recvPackets, if_neg hne]
      simp only [hrecv, ih', bind, Except.bind, pure, Except.pure, List.map_cons]

end Stream

/-! ## the packets of the client -/

/-- What `sendConnect` reads of the client. -/
structure ConnectInfo where
  clientId : Str
  lastWillTopic : Str := []
  lastWillMessage : Str := []
  lastWillRetain : Bool := false
deriving DecidableEq, Repr

/-- The connect flags: clean session, and the last will when there is one. -/
def ConnectInfo.flags (info : ConnectInfo) : UInt8 :=
  let flags := (1 : UInt8) <<< 1
  if info.lastWillTopic ≠ [] then
    let flags := flags ||| (1 : UInt8) <<< 2
    if info.lastWillRetain then flags ||| (1 : UInt8) <<< 5 else flags
  else flags

namespace Draft

/-- The packet of `sendConnect`; its keep-alive is 30 seconds, whatever the
client's `m_keep_alive_interval`. -/
def connect (info : ConnectInfo) : Draft :=
  let will : List Field := if info.lastWillTopic ≠ [] then
    [.string info.lastWillTopic, .string info.lastWillMessage] else []
  { packetType := .connect
    flags := 0
    fields := [.string [77, 81, 84, 84], .uint8 4, .uint8 info.flags, .uint16 30,
      .string info.clientId] ++ will }

/-- The packet of `sendPingRequest`. -/
def pingRequest : Draft := { packetType := .pingreq, flags := 0, fields := [] }

/-- The packet of `sendPublish`. -/
def publish (topic message : Str) (retain : Bool) : Draft :=
  { packetType := .publish
    flags := if retain then 1 else 0
    fields := [.string topic, .raw message] }

/-- The packet of `sendSubscribe`; the last byte is the QoS. -/
def subscribe (packetId : UInt16) (topic : Str) : Draft :=
  { packetType := .subscribe
    flags := 2
    fields := [.uint16 packetId, .string topic, .uint8 0] }

/-- The packet of `sendUnsubscribe`. -/
def unsubscribe (packetId : UInt16) (topic : Str) : Draft :=
  { packetType := .unsubscribe
    flags := 2
    fields := [.uint16 packetId, .string topic] }

end Draft

/-! ## what a received packet means -/

/-- The packets `recvLoop` accepts, with what it reads of them. -/
inductive Incoming where
  | connack
  | publish (topic message : Str)
  | suback (packetId : UInt16) (returnCode : UInt8)
  | unsuback (packetId : UInt16)
  | pingresp
deriving DecidableEq, Repr

/-- The PUBLISH branch of `recvLoop`: the topic and message it hands on. -/
def readPublish (p : Packet) : Option (Str × Str) := do
  let (topic, p) ← p.readString
  return (topic, p.readRemaining.1)

/-- The switch of `recvLoop`; `none` where it returns false. -/
def Packet.incoming (p : Packet) : Option Incoming :=
  match p.packetType with
  | .connack => do
      let (_, p) ← p.readUint8
      let (returnCode, _) ← p.readUint8
      if returnCode ≠ 0 then none else some .connack
  | .publish => do
      let (topic, message) ← readPublish p
      return .publish topic message
  | .suback => do
      let (packetId, p) ← p.readUint16
      let (returnCode, _) ← p.readUint8
      return .suback packetId returnCode
  | .unsuback => do
      let (packetId, _) ← p.readUint16
      return .unsuback packetId
  | .pingresp => some .pingresp
  | _ => none

/-- The PUBLISH branch reads what `sendPublish` wrote. -/
theorem readPublish_received {topic : Str} (htopic : topic.length ≤ 65535) (message : Str)
    (retain : Bool) :
    readPublish (Draft.publish topic message retain).received = some (topic, message) := by
  have hrest : (Draft.publish topic message retain).received.rest =
      (Field.string topic).bytes ++ message := by
    simp [Packet.rest, Draft.received, Packet.ofBody, Draft.publish, Draft.body, fieldBytes,
      Field.bytes]
  obtain ⟨p', hread, hrest'⟩ := readField_of_rest (f := .string topic) rfl htopic hrest
  obtain ⟨⟨s, q⟩, hstring, heq⟩ := Option.map_eq_some_iff.mp hread
  have hs : s = topic := by simpa using congrArg Prod.fst heq
  have hq : q = p' := congrArg Prod.snd heq
  subst hs hq
  have hremaining : q.readRemaining.1 = message := hrest'
  simp [readPublish, hstring, hremaining]

/-! ## the round trip -/

/-- The stream a list of packets becomes on the wire. -/
def wireStream (split : Split) (drafts : List Draft) : Stream :=
  { bytes := sendPackets split 0 (drafts.map Draft.packet) }

theorem bytes_wireStream {split : Split} (h : split.Legal) {drafts : List Draft}
    (hfits : ∀ d ∈ drafts, d.Fits) :
    (wireStream split drafts).bytes = drafts.flatMap Draft.encode := by
  rw [wireStream, sendPackets_eq h, List.flatMap_map]
  exact List.flatMap_congr fun d hd => Draft.unsent_writeHeader (hfits d hd)

/-- **Stream round trip**: whatever the calls to `::send` and `::recv` split,
the packets written are the packets received, and reading their bodies returns
the values written; the body of a PUBLISH is its topic and message. -/
theorem stream_roundtrip {send recv : Split} (hsend : send.Legal) (hrecv : recv.Legal)
    {drafts : List Draft} (hfits : ∀ d ∈ drafts, d.Fits) :
    (wireStream send drafts).recvPackets recv (wireStream send drafts).bytes.length =
        .ok (drafts.map Draft.received) ∧
      (∀ d ∈ drafts, d.received.readAll d.fields = some (readBack d.fields) ∧
        ((∀ f ∈ d.fields.dropLast, f.isRaw = false) →
          d.received.readAll d.fields = some d.fields)) ∧
      ∀ topic message retain, topic.length ≤ 65535 →
        readPublish (Draft.publish topic message retain).received = some (topic, message) := by
  refine ⟨?_, ?_, ?_⟩
  · exact Stream.recvPackets_of_bytes hrecv hfits (Nat.le_refl _) (bytes_wireStream hsend hfits)
  · intro d hd
    have hread : d.received.readAll d.fields = some (readBack d.fields) :=
      readAll_body (hfits d hd).2.1 d.packetType d.flags
    refine ⟨hread, fun hraw => ?_⟩
    rw [hread, readBack_eq_self hraw]
  · intro topic message retain htopic
    exact readPublish_received htopic message retain

/-- A PUBLISH and a SUBSCRIBE, written a byte at a time and read as they come. -/
theorem stream_roundtrip_publish_subscribe :
    (wireStream (fun _ _ => 1) [.publish [97] [120, 121] true, .subscribe 7 [98]]).recvPackets
        (fun _ asked => asked) 15 =
      .ok [Packet.ofBody .publish 1 [0, 1, 97, 120, 121],
        Packet.ofBody .subscribe 2 [0, 7, 0, 1, 98, 0]] := by
  have hone : Split.Legal fun _ _ => 1 := fun _ asked h => ⟨Nat.le_refl 1, h⟩
  have hall : Split.Legal fun _ asked => asked := fun _ asked h => ⟨h, Nat.le_refl asked⟩
  have hfits : ∀ d ∈ [Draft.publish [97] [120, 121] true, .subscribe 7 [98]], d.Fits := by
    intro d hd
    simp only [List.mem_cons, List.not_mem_nil, or_false] at hd
    rcases hd with rfl | rfl <;>
      simp [Draft.Fits, Draft.publish, Draft.subscribe, Draft.body, fieldBytes, Field.Fits,
        Field.bytes, Packet.uint16Bytes]
  exact (stream_roundtrip hone hall hfits).1

end TrueMqtt
