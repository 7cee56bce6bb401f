import TrueMqtt.Connection
import TrueMqtt.RecvLoop

/-!
# TrueMqtt.RecvLoop.Reader

`recvLoop` one `recv` at a time.

Between two calls of `recv`, `recvLoop` stands at one of three places, with the local
variables that are set by then (`Reader`).  What a call returns takes it to the next
place, or to the end of the packet (`feed`).  `Stream.recvPacket` does the same for a
stream that is all there: to feed the bytes of a stream and then go on with the rest
of it comes to the same (`resume_feed`), so the events of a stream do not depend on
what happens between the calls (`Reads.feed`).
-/

namespace TrueMqtt

/-- Where `recvLoop` stands at its next call of `recv`. -/
inductive Reader where
  | header
  /-- the length loop, in round `i` -/
  | length (packetType : PacketType) (flags : UInt8) (i : Fin 4) (remainingLength : UInt32)
  /-- the body loop, with the bytes read and the number of those to go -/
  | body (packetType : PacketType) (flags : UInt8) (data : Str) (missing : Nat)
      (h : 0 < missing)
deriving DecidableEq, Repr

/-- The event of what `recvLoop` has received. -/
def Received.event? : Received → Option Incoming
  | packet p => p.incoming
  | failed | more => none

namespace Reader

/-- The number of bytes asked for. -/
def asked : Reader → Nat
  | header | length .. => 1
  | body _ _ _ missing _ => missing

/-- The test of the body loop. -/
def toBody (packetType : PacketType) (flags : UInt8) (data : Str) (missing : Nat) :
    Received × Reader :=
  if h : 0 < missing then (.more, .body packetType flags data missing h)
  else (.packet (.ofBody packetType flags data), .header)

/-- `recvLoop` from a call of `recv` that returned these bytes to the next one, or to
its end. -/
def feed (bytes : Str) : Reader → Received × Reader
  | header =>
      let buffer := bytes.headD 0
      match PacketType.ofCode (buffer >>> 4) with
      | none => (.failed, .header)
      | some packetType => (.more, .length packetType (buffer &&& 0x0F) 0 0)
  | length packetType flags i remainingLength =>
      let buffer := bytes.headD 0
      let remainingLength :=
        remainingLength ||| (buffer &&& 0x7F).toUInt32 <<< UInt32.ofNat (7 * i)
      if buffer &&& 0x80 = 0 then toBody packetType flags [] remainingLength.toNat
      else if h : i.val + 1 < 4 then (.more, .length packetType flags ⟨i + 1, h⟩ remainingLength)
      else (.failed, .header)
  | body packetType flags data missing _ =>
      toBody packetType flags (data ++ bytes) (missing - bytes.length)

/-! ## the rest of a packet -/

/-- The body loop from here on, and the packet. -/
def resumeBody (split : Split) (packetType : PacketType) (flags : UInt8) (data : Str)
    (missing : Nat) (s : Stream) : Except RecvError (Packet × Stream) := do
  let (more, s) ← s.recvBody split missing missing
  return (.ofBody packetType flags (data ++ more), s)

/-- The framing of `recvLoop` from here on. -/
def resume (split : Split) (s : Stream) : Reader → Except RecvError (Packet × Stream)
  | header => s.recvPacket split
  | length packetType flags i remainingLength => do
      let (remainingLength, s) ← s.recvLength split (4 - i) i remainingLength
      resumeBody split packetType flags [] remainingLength.toNat s
  | body packetType flags data missing _ => resumeBody split packetType flags data missing s

/-- What is left to do after a call of `recv`. -/
def outcome (split : Split) (s : Stream) : Received × Reader → Option (Packet × Stream)
  | (.failed, _) => none
  | (.more, reader) => (reader.resume split s).toOption
  | (.packet p, _) => some (p, s)

variable {split : Split} {s : Stream} {packetType : PacketType} {flags : UInt8} {data : Str}
  {missing : Nat} {reader reader' : Reader} {bytes chunk rest : Str} {r : Received}

theorem resumeBody_eq (h : split.Legal) :
    resumeBody split packetType flags data missing s =
      if missing ≤ s.bytes.length then
        .ok (.ofBody packetType flags (data ++ s.bytes.take missing),
          { pos := s.pos + missing, bytes := s.bytes.drop missing })
      else .error .closed := by
  unfold resumeBody
  rw [Stream.recvBody_eq h (Nat.le_refl _)]
  split <;> rfl

theorem outcome_toBody (h : split.Legal) :
    outcome split s (toBody packetType flags data missing) =
      (resumeBody split packetType flags data missing s).toOption := by
  unfold toBody
  split
  · rfl
  · next hzero =>
    obtain rfl : missing = 0 := by omega
    rw [resumeBody_eq h, if_pos (Nat.zero_le _)]
    simp [outcome, Except.toOption]

/-- Feeding what `recv` returns, and going on with the rest of the stream. -/
theorem resume_feed (h : split.Legal) (hne : chunk ≠ []) (hle : chunk.length ≤ reader.asked)
    (pos : Nat) (rest : Str) :
    (reader.resume split { pos := pos, bytes := chunk ++ rest }).toOption =
      outcome split { pos := pos + chunk.length, bytes := rest } (reader.feed chunk) := by
  have hbyte : reader.asked = 1 → ∃ b, chunk = [b] := by
    intro hone
    have hpos := List.length_pos_iff.mpr hne
    exact List.length_eq_one_iff.mp (by omega)
  cases reader with
  | header =>
      obtain ⟨b, rfl⟩ := hbyte rfl
      simp only [resume, Stream.recvPacket, Stream.recvByte_eq h, List.singleton_append, bind,
        Except.bind, feed, List.headD_cons, List.length_singleton]
      cases htype : PacketType.ofCode (b >>> 4) with
      | none => rfl
      | some packetType =>
          simp only [outcome, resume, resumeBody, bind, Except.bind, List.nil_append]
          rfl
  | length packetType flags i remainingLength =>
      obtain ⟨b, rfl⟩ := hbyte rfl
      obtain ⟨rounds, hrounds⟩ : ∃ rounds, 4 - i.val = rounds + 1 := ⟨3 - i.val, by omega⟩
      simp only [resume, hrounds, List.singleton_append, feed, List.headD_cons,
        List.length_singleton, Base128.and_high_eq_zero_iff]
      rw [Stream.recvLength_cons h rfl]
      by_cases hlast : b.toNat < 128
      · simp only [if_pos hlast, bind, Except.bind]
        exact (outcome_toBody h).symm
      · simp only [if_neg hlast]
        by_cases hmore : i.val + 1 < 4
        · have hnext : rounds = 4 - (i.val + 1) := by omega
          rw [dif_pos hmore, hnext]
          rfl
        · obtain rfl : rounds = 0 := by omega
          rw [dif_neg hmore]
          rfl
  | body packetType flags data missing hpos =>
      simp only [resume, feed]
      rw [outcome_toBody h, resumeBody_eq h, resumeBody_eq h]
      have hchunk : chunk.length ≤ missing := hle
      have hbytes : missing ≤ (chunk ++ rest).length ↔ missing - chunk.length ≤ rest.length := by
        rw [List.length_append]
        omega
      simp only [hbytes]
      split
      · rw [List.take_append, List.drop_append, List.take_of_length_le hchunk,
          List.drop_of_length_le hchunk, List.append_assoc, List.nil_append]
        rw [show pos + chunk.length + (missing - chunk.length) = pos + missing by omega]
      · rfl

/-- At the end of the stream. -/
theorem resume_nil (h : split.Legal) (reader : Reader) (pos : Nat) :
    (reader.resume split { pos := pos, bytes := [] }).toOption = none := by
  cases reader with
  | header => simp [resume, Stream.recvPacket, Stream.recvByte_eq h, bind, Except.bind]; rfl
  | length packetType flags i remainingLength =>
      obtain ⟨rounds, hrounds⟩ : ∃ rounds, 4 - i.val = rounds + 1 := ⟨3 - i.val, by omega⟩
      simp [resume, hrounds, Stream.recvLength, Stream.recvByte_eq h, bind, Except.bind]; rfl
  | body packetType flags data missing hpos =>
      have hshort : ¬ missing ≤ ([] : Str).length := Nat.not_le.mpr hpos
      rw [resume, resumeBody_eq h, if_neg hshort]
      rfl

/-! ## the events -/

/-- The events of a stream, from within a packet on. -/
def events (split : Split) : Nat → Stream → Reader → List Incoming
  | 0, _, _ => []
  | rounds + 1, s, reader =>
      match (reader.resume split s).toOption with
      | none => []
      | some (p, s') =>
          match p.incoming with
          | none => []
          | some e => e :: s'.events split rounds

theorem events_header (split : Split) (rounds : Nat) (s : Stream) :
    events split rounds s .header = s.events split rounds := by
  cases rounds with
  | zero => rfl
  | succ rounds =>
      rw [events, Stream.events, Stream.recvLoop, resume]
      cases s.recvPacket split with
      | error e => rfl
      | ok r =>
          simp only [Except.toOption]
          cases r.1.incoming <;> rfl

theorem events_nil (h : split.Legal) (reader : Reader) (rounds pos : Nat) :
    events split rounds { pos := pos, bytes := [] } reader = [] := by
  cases rounds with
  | zero => rfl
  | succ rounds => rw [events, resume_nil h]

/-- The events left after a call of `recv`. -/
def eventsAfter (split : Split) (rounds : Nat) (s : Stream) : Received × Reader → List Incoming
  | (.failed, _) => []
  | (.more, reader) => events split (rounds + 1) s reader
  | (.packet p, _) =>
      match p.incoming with
      | none => []
      | some e => e :: s.events split rounds

theorem events_feed (h : split.Legal) (hne : chunk ≠ []) (hle : chunk.length ≤ reader.asked)
    (rounds pos : Nat) (rest : Str) :
    events split (rounds + 1) { pos := pos, bytes := chunk ++ rest } reader =
      eventsAfter split rounds { pos := pos + chunk.length, bytes := rest }
        (reader.feed chunk) := by
  rw [events, resume_feed h hne hle]
  obtain ⟨r, reader'⟩ := reader.feed chunk
  cases r <;> rfl

theorem eventsAfter_of_event? {e : Incoming} (he : r.event? = some e) (rounds : Nat)
    (s : Stream) : eventsAfter split rounds s (r, reader) = e :: s.events split rounds := by
  cases r with
  | failed | more => cases he
  | packet p =>
      have hp : p.incoming = some e := he
      simp only [eventsAfter, hp]

theorem eventsAfter_of_none (he : r.event? = none) (hmore : r ≠ .more) (rounds : Nat)
    (s : Stream) : eventsAfter split rounds s (r, reader) = [] := by
  cases r with
  | failed => rfl
  | more => exact absurd rfl hmore
  | packet p =>
      have hp : p.incoming = none := he
      simp only [eventsAfter, hp]

/-- The events of the bytes of a socket. -/
def eventsOf (split : Split) (bytes : Str) : List Incoming :=
  Stream.events split bytes.length { bytes := bytes }

/-- `recvLoop` has raised these events for these bytes, and stands here. -/
structure Reads (split : Split) (bytes : Str) (es : List Incoming) (reader : Reader) : Prop where
  length : es.length ≤ bytes.length
  events : ∀ rounds rest,
    Stream.events split (es.length + rounds) { bytes := bytes ++ rest } =
      es ++ events split rounds { pos := bytes.length, bytes := rest } reader

theorem reads_nil : Reads split [] [] .header where
  length := Nat.le_refl _
  events := fun rounds rest => by
    rw [events_header]
    simp

variable {es : List Incoming}

theorem Reads.eventsOf_eq (hr : Reads split bytes es reader) (h : split.Legal) :
    eventsOf split bytes = es := by
  have hall := hr.events (bytes.length - es.length) []
  rw [events_nil h, List.append_nil, List.append_nil, Nat.add_sub_cancel' hr.length] at hall
  exact hall

/-- **A call of `recv`**: the events are those of the bytes, with these among them. -/
theorem Reads.feed (hr : Reads split bytes es reader) (h : split.Legal) (hne : chunk ≠ [])
    (hle : chunk.length ≤ reader.asked) (hfeed : reader.feed chunk = (r, reader')) :
    eventsOf split (bytes ++ chunk) = es ++ r.event?.toList ∧
      (r = .more → Reads split (bytes ++ chunk) es reader') ∧
      ∀ e, r.event? = some e → Reads split (bytes ++ chunk) (es ++ [e]) .header := by
  have hpos := List.length_pos_iff.mpr hne
  have hlength := hr.length
  have hgrown : (bytes ++ chunk).length = bytes.length + chunk.length := List.length_append
  have hafter : ∀ rounds rest,
      Stream.events split (es.length + (rounds + 1)) { bytes := bytes ++ chunk ++ rest } =
        es ++ eventsAfter split rounds
          { pos := (bytes ++ chunk).length, bytes := rest } (r, reader') := by
    intro rounds rest
    rw [List.append_assoc, hr.events, events_feed h hne hle, hfeed, hgrown]
  have hmore : r = .more → Reads split (bytes ++ chunk) es reader' := by
    rintro rfl
    refine ⟨by omega, fun rounds rest => ?_⟩
    cases rounds with
    | zero =>
        rw [List.append_assoc, hr.events]
        rfl
    | succ rounds => exact hafter rounds rest
  have hevent : ∀ e, r.event? = some e → Reads split (bytes ++ chunk) (es ++ [e]) .header := by
    intro e he
    have hlength' : (es ++ [e]).length = es.length + 1 := by simp
    refine ⟨by omega, fun rounds rest => ?_⟩
    have hround : (es ++ [e]).length + rounds = es.length + (rounds + 1) := by omega
    rw [hround, hafter, eventsAfter_of_event? he, events_header, List.append_assoc,
      List.singleton_append]
  refine ⟨?_, hmore, hevent⟩
  cases he : r.event? with
  | some e => exact (hevent e he).eventsOf_eq h
  | none =>
      rw [Option.toList_none, List.append_nil]
      by_cases hr' : r = .more
      · exact (hmore hr').eventsOf_eq h
      · have hrounds : (bytes ++ chunk).length =
            es.length + ((bytes ++ chunk).length - es.length - 1 + 1) := by omega
        have hall := hafter ((bytes ++ chunk).length - es.length - 1) []
        rw [eventsAfter_of_none he hr', ← hrounds, List.append_nil, List.append_nil] at hall
        exact hall

end Reader

end TrueMqtt
