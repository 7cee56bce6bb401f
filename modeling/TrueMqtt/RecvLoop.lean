import TrueMqtt.Wire

/-!
# TrueMqtt.RecvLoop

What `recvLoop` makes of arbitrary bytes.

A stream starts with a frame (`Frame`) when it starts with a header byte of a type
the client knows, a length field of at most four bytes (`LengthField`) and as many
body bytes, which the type accepts (`Accepts`).  `recvLoop` returns true exactly
then, takes exactly the frame, and raises the event the type and the body
determine (`bodyEvent`), however the `::recv` calls cut the stream
(`recvLoop_accepts`).

`Traced` repeats the switch of `recvLoop` with a record of the bytes of the body it
looks at.
-/

namespace TrueMqtt

namespace Stream

/-- `recvLoop` on a connection that stays up: the event it raises, and the stream
after it; `none` where it returns false. -/
def recvLoop (split : Split) (s : Stream) : Option (Incoming × Stream) :=
  match s.recvPacket split with
  | .error _ => none
  | .ok (p, s') => p.incoming.map (·, s')

/-- The events of `recvLoop` after `recvLoop`, `rounds` times or until it returns
false. -/
def events (split : Split) : Nat → Stream → List Incoming
  | 0, _ => []
  | rounds + 1, s =>
      match s.recvLoop split with
      | none => []
      | some (e, s') => e :: events split rounds s'

end Stream

/-! ## the grammar -/

/-- A remaining length: groups of seven bits, the lowest first, and the high bit
set in all bytes but the last. -/
inductive LengthField : Str → Nat → Prop
  | last {b : UInt8} (h : b.toNat < 128) : LengthField [b] b.toNat
  | more {b : UInt8} {bs : Str} {n : Nat} (h : 128 ≤ b.toNat) (hbs : LengthField bs n) :
      LengthField (b :: bs) (b.toNat % 128 + 128 * n)

/-- Two bytes, the high one first. -/
def bigEndian (hi lo : UInt8) : Nat := hi.toNat * 256 + lo.toNat

/-- The bodies a type of packet accepts. -/
inductive Accepts : Nat → Str → Prop
  | connack {body : Str} (hlen : 2 ≤ body.length) (hcode : body[1]? = some 0) : Accepts 2 body
  | publish {hi lo : UInt8} {rest : Str} (hlen : bigEndian hi lo ≤ rest.length) :
      Accepts 3 (hi :: lo :: rest)
  | suback {body : Str} (hlen : 3 ≤ body.length) : Accepts 9 body
  | unsuback {body : Str} (hlen : 2 ≤ body.length) : Accepts 11 body
  | pingresp {body : Str} : Accepts 13 body

/-- The event of a packet, by its type and its body. -/
def bodyEvent : Nat → Str → Option Incoming
  | 2, _ :: returnCode :: _ => if returnCode = 0 then some .connack else none
  | 3, hi :: lo :: rest =>
      if bigEndian hi lo ≤ rest.length then
        some (.publish (rest.take (bigEndian hi lo)) (rest.drop (bigEndian hi lo)))
      else none
  | 9, hi :: lo :: returnCode :: _ =>
      some (.suback (UInt16.ofNat (bigEndian hi lo)) returnCode)
  | 11, hi :: lo :: _ => some (.unsuback (UInt16.ofNat (bigEndian hi lo)))
  | 13, _ => some .pingresp
  | _, _ => none

/-- The stream starts with a frame that raises `e`, and `s'` is what follows it. -/
def Frame (s : Stream) (e : Incoming) (s' : Stream) : Prop :=
  ∃ (header : UInt8) (lengthBytes body : Str),
    s.bytes = header :: (lengthBytes ++ (body ++ s'.bytes)) ∧
      s'.pos = s.pos + 1 + lengthBytes.length + body.length ∧
      lengthBytes.length ≤ 4 ∧ LengthField lengthBytes body.length ∧
      Accepts (header.toNat / 16) body ∧ bodyEvent (header.toNat / 16) body = some e

theorem isSome_bodyEvent_iff (type : Nat) (body : Str) :
    (bodyEvent type body).isSome = true ↔ Accepts type body := by
  constructor
  · intro h
    unfold bodyEvent at h
    split at h
    · next returnCode _ =>
      split at h
      · next hzero => exact .connack (by simp) (by simp [hzero])
      · cases h
    · next hi lo rest =>
      split at h
      · next hlen => exact .publish hlen
      · cases h
    · exact .suback (by simp)
    · exact .unsuback (by simp)
    · exact .pingresp
    · cases h
  · intro h
    cases h with
    | connack hlen hcode =>
        match body, hlen with
        | a :: b :: rest, _ =>
            have hb : b = 0 := by simpa using hcode
            simp [bodyEvent, hb]
    | publish hlen => simp [bodyEvent, hlen]
    | suback hlen =>
        match body, hlen with
        | a :: b :: c :: rest, _ => rfl
    | unsuback hlen =>
        match body, hlen with
        | a :: b :: rest, _ => rfl
    | pingresp => simp [bodyEvent]

/-! ## the framing -/

namespace Stream

variable {split : Split} {s s' : Stream}

/-- One byte, if there is one. -/
theorem recvByte_eq (h : split.Legal) (s : Stream) :
    s.recvByte split = match s.bytes with
      | [] => .error .closed
      | b :: bs => .ok (b, { pos := s.pos + 1, bytes := bs }) := by
  cases hs : s.bytes with
  | nil => simp [recvByte, recv, hs, bind, Except.bind]
  | cons b bs => exact recvByte_of_bytes h hs

/-- However the calls split it, the body loop collects the bytes asked for, if the
stream has them. -/
theorem recvBody_eq (h : split.Legal) {rounds missing : Nat} (hrounds : missing ≤ rounds)
    (s : Stream) :
    s.recvBody split rounds missing =
      if missing ≤ s.bytes.length then
        .ok (s.bytes.take missing, { pos := s.pos + missing, bytes := s.bytes.drop missing })
      else .error .closed := by
  induction rounds generalizing missing s with
  | zero =>
      have hzero : missing = 0 := by omega
      subst hzero
      simp [recvBody]
  | succ rounds ih =>
      by_cases hzero : missing = 0
      · subst hzero
        simp [recvBody]
      · rw [recvBody, if_neg hzero]
        by_cases hempty : s.bytes = []
        · have hlt : ¬ missing ≤ s.bytes.length := by
            rw [hempty, List.length_nil]
            omega
          rw [if_neg hlt]
          simp [recv, hempty, bind, Except.bind]
        · obtain ⟨hpos, hle⟩ := h s.pos missing (by omega)
          have hlen : 0 < s.bytes.length := List.length_pos_iff.mpr hempty
          generalize hres : min (split s.pos missing) s.bytes.length = res
          have hstep : s.recv split missing =
              .ok (s.bytes.take res, { pos := s.pos + res, bytes := s.bytes.drop res }) := by
            simp [recv, hempty, hres]
          have htake : (s.bytes.take res).length = res := by
            rw [List.length_take]
            omega
          simp only [hstep, bind, Except.bind, htake]
          rw [ih (by omega)]
          simp only [List.length_drop]
          by_cases hfits : missing ≤ s.bytes.length
          · rw [if_pos (by omega), if_pos hfits]
            have hsum : res + (missing - res) = missing := by omega
            simp only [pure, Except.pure, List.drop_drop, ← List.take_add, Nat.add_assoc, hsum]
          · rw [if_neg (by omega), if_neg hfits]

/-- One round of the length loop ends with a byte below 128, and goes on with
another. -/
theorem recvLength_cons (h : split.Legal) {rounds i : Nat} {acc : UInt32} {b : UInt8} {bs : Str}
    (hs : s.bytes = b :: bs) :
    s.recvLength split (rounds + 1) i acc =
      if b.toNat < 128 then
        .ok (acc ||| (b &&& 0x7F).toUInt32 <<< UInt32.ofNat (7 * i),
          { pos := s.pos + 1, bytes := bs })
      else recvLength split rounds (i + 1)
        (acc ||| (b &&& 0x7F).toUInt32 <<< UInt32.ofNat (7 * i))
        { pos := s.pos + 1, bytes := bs } := by
  rw [recvLength]
  simp only [recvByte_eq h, hs, bind, Except.bind, Base128.and_high_eq_zero_iff]
  rfl

/-- The length loop reads a length field of at most as many bytes as it has rounds. -/
theorem recvLength_iff (h : split.Legal) {rounds i : Nat} {acc length : UInt32}
    (hi : i + rounds ≤ 4) (hacc : acc.toNat < 2 ^ (7 * i)) :
    s.recvLength split rounds i acc = .ok (length, s') ↔
      ∃ bs n, s.bytes = bs ++ s'.bytes ∧ s'.pos = s.pos + bs.length ∧ bs.length ≤ rounds ∧
        LengthField bs n ∧ length.toNat = acc.toNat + n * 2 ^ (7 * i) := by
  induction rounds generalizing i acc s with
  | zero =>
      refine iff_of_false (fun herr => by cases herr) ?_
      rintro ⟨bs, n, -, -, hlen, hfield, -⟩
      cases hfield <;> simp at hlen
  | succ rounds ih =>
      cases hs : s.bytes with
      | nil =>
          refine iff_of_false (fun herr => ?_) ?_
          · simp [recvLength, recvByte_eq h, hs, bind, Except.bind] at herr
          · rintro ⟨bs, n, hbytes, -, -, hfield, -⟩
            cases hfield <;> simp at hbytes
      | cons b rest =>
          have hval := toNat_or_shift (b := b) (i := i) (by omega) hacc
          rw [recvLength_cons h hs]
          generalize hacc' : acc ||| (b &&& 0x7F).toUInt32 <<< UInt32.ofNat (7 * i) = acc' at *
          by_cases hlast : b.toNat < 128
          · rw [if_pos hlast]
            constructor
            · intro hok
              cases hok
              refine ⟨[b], b.toNat, rfl, rfl, by simp, .last hlast, ?_⟩
              rw [hval, Nat.mod_eq_of_lt hlast]
            · rintro ⟨bs, n, hbytes, hpos, -, hfield, hlen⟩
              cases hfield with
              | more hge hbs =>
                  rw [List.cons_append, List.cons.injEq] at hbytes
                  rw [← hbytes.1] at hge
                  omega
              | last hb =>
                  rw [List.cons_append, List.cons.injEq] at hbytes
                  obtain ⟨rfl, hrest⟩ := hbytes
                  rw [Nat.mod_eq_of_lt hlast, ← hlen] at hval
                  have hs' : s' = { pos := s.pos + 1, bytes := rest } := by
                    cases s'
                    simp_all
                  rw [hs', UInt32.toNat_inj.mp hval]
          · rw [if_neg hlast]
            have hpow : 2 ^ (7 * (i + 1)) = 128 * 2 ^ (7 * i) := by
              rw [show 7 * (i + 1) = 7 + 7 * i by omega, Nat.pow_add]
            have hlt : acc'.toNat < 2 ^ (7 * (i + 1)) := by
              have hdigit : b.toNat % 128 * 2 ^ (7 * i) ≤ 127 * 2 ^ (7 * i) :=
                Nat.mul_le_mul_right _ (by omega)
              omega
            rw [ih (s := { pos := s.pos + 1, bytes := rest }) (by omega) hlt]
            have hsum : ∀ n, acc'.toNat + n * 2 ^ (7 * (i + 1)) =
                acc.toNat + (b.toNat % 128 + 128 * n) * 2 ^ (7 * i) := by
              intro n
              rw [hval, hpow, Nat.add_mul, ← Nat.mul_assoc n, Nat.mul_comm n 128, Nat.add_assoc]
            constructor
            · rintro ⟨bs, n, hbytes, hpos, hlen, hfield, hvalue⟩
              have hrest : rest = bs ++ s'.bytes := hbytes
              refine ⟨b :: bs, _, by rw [hrest, List.cons_append], ?_, ?_,
                .more (by omega) hfield, by rw [hvalue, hsum]⟩
              · rw [hpos, List.length_cons]
                show s.pos + 1 + bs.length = s.pos + (bs.length + 1)
                omega
              · rw [List.length_cons]
                omega
            · rintro ⟨bs, n, hbytes, hpos, hlen, hfield, hvalue⟩
              cases hfield with
              | last hb =>
                  rw [List.cons_append, List.cons.injEq] at hbytes
                  rw [← hbytes.1] at hb
                  exact absurd hb hlast
              | @more b' bs' m hge hbs =>
                  rw [List.cons_append, List.cons.injEq] at hbytes
                  obtain ⟨rfl, hrest⟩ := hbytes
                  rw [List.length_cons] at hpos hlen
                  refine ⟨bs', m, hrest, ?_, by omega, hbs, by rw [hvalue, hsum]⟩
                  show s'.pos = s.pos + 1 + bs'.length
                  omega

end Stream

/-! ## the body -/

theorem uint16_eq_bigEndian (hi lo : UInt8) :
    hi.toUInt16 <<< 8 ||| lo.toUInt16 = UInt16.ofNat (bigEndian hi lo) := by
  apply UInt16.toNat_inj.mp
  have hhi := hi.toNat_lt
  have hlo := lo.toNat_lt
  have hshift : (hi.toUInt16 <<< 8).toNat = 2 ^ 8 * hi.toNat := by
    rw [UInt16.toNat_shiftLeft, UInt8.toNat_toUInt16, Nat.shiftLeft_eq]
    show hi.toNat * 2 ^ 8 % 2 ^ 16 = 2 ^ 8 * hi.toNat
    omega
  rw [UInt16.toNat_or, hshift, UInt8.toNat_toUInt16, ← Nat.two_pow_add_eq_or_of_lt (by omega),
    UInt16.toNat_ofNat', bigEndian]
  omega

/-- The type the range check lets through is the upper half of the header byte. -/
theorem code_of_ofCode {raw : UInt8} {packetType : PacketType}
    (h : PacketType.ofCode raw = some packetType) : packetType.code = raw := by
  have hfound := List.find?_some h
  simpa using hfound

theorem bodyEvent_of_ofCode_none {raw : UInt8} (h : PacketType.ofCode raw = none) (body : Str) :
    bodyEvent raw.toNat body = none := by
  have hne : ∀ t : PacketType, t.code ≠ raw := by
    intro t ht
    have hno := List.find?_eq_none.mp h t (by cases t <;> simp)
    simp [ht] at hno
  have hcodes : ∀ t : PacketType, raw.toNat ≠ t.code.toNat :=
    fun t ht => hne t (UInt8.toNat_inj.mp ht.symm)
  have hconnack := hcodes .connack
  have hpublish := hcodes .publish
  have hsuback := hcodes .suback
  have hunsuback := hcodes .unsuback
  have hpingresp := hcodes .pingresp
  unfold bodyEvent
  split
  all_goals simp_all [PacketType.code]

/-- The switch of `recvLoop` raises the event of the body. -/
theorem incoming_ofBody (packetType : PacketType) (flags : UInt8) (body : Str) :
    (Packet.ofBody packetType flags body).incoming = bodyEvent packetType.code.toNat body := by
  cases packetType with
  | connack =>
      match body with
      | [] | [_] => rfl
      | a :: b :: rest =>
          obtain ⟨p, hp, hrest⟩ := Packet.readUint8_of_rest
            (p := Packet.ofBody .connack flags (a :: b :: rest)) rfl
          obtain ⟨q, hq, -⟩ := Packet.readUint8_of_rest hrest
          change ((Packet.ofBody .connack flags (a :: b :: rest)).readUint8.bind fun x =>
            x.2.readUint8.bind fun y => if y.1 ≠ 0 then none else some Incoming.connack) = _
          rw [hp, Option.bind_some, hq, Option.bind_some, ite_not]
          rfl
  | publish =>
      match body with
      | [] | [_] => rfl
      | hi :: lo :: rest =>
          have hlt : bigEndian hi lo < 65536 := by
            have hhi := hi.toNat_lt
            have hlo := lo.toNat_lt
            unfold bigEndian
            omega
          have hlen : (UInt16.ofNat (bigEndian hi lo)).toNat = bigEndian hi lo := by
            rw [UInt16.toNat_ofNat', Nat.mod_eq_of_lt hlt]
          have htwo : ¬ rest.length + 1 + 1 < 2 := by omega
          by_cases hfits : bigEndian hi lo ≤ rest.length
          · have hroom : ¬ rest.length + 1 + 1 < 2 + bigEndian hi lo := by omega
            have hdrop : (hi :: lo :: rest).drop (2 + bigEndian hi lo) =
                rest.drop (bigEndian hi lo) := by
              rw [← List.drop_drop]
              rfl
            simp [Packet.incoming, readPublish, Packet.ofBody, Packet.readString,
              Packet.readUint16, Packet.readRemaining, PacketType.code, bodyEvent,
              uint16_eq_bigEndian, hlen, hfits, htwo, hroom, hdrop]
          · have hroom : rest.length + 1 + 1 < 2 + bigEndian hi lo := by omega
            simp [Packet.incoming, readPublish, Packet.ofBody, Packet.readString,
              Packet.readUint16, PacketType.code, bodyEvent, uint16_eq_bigEndian, hlen, hfits,
              htwo, hroom]
  | suback =>
      obtain _ | ⟨hi, _ | ⟨lo, _ | ⟨returnCode, rest⟩⟩⟩ := body
      · rfl
      · rfl
      · rfl
      · obtain ⟨p, hp, hrest, -⟩ := Packet.readUint16_of_rest
          (p := Packet.ofBody .suback flags (hi :: lo :: returnCode :: rest)) rfl
        obtain ⟨q, hq, -⟩ := Packet.readUint8_of_rest hrest
        change ((Packet.ofBody .suback flags (hi :: lo :: returnCode :: rest)).readUint16.bind
          fun x => x.2.readUint8.bind fun y => some (Incoming.suback x.1 y.1)) = _
        rw [hp, Option.bind_some, hq, Option.bind_some, uint16_eq_bigEndian]
        rfl
  | unsuback =>
      match body with
      | [] | [_] => rfl
      | hi :: lo :: rest =>
          have htwo : ¬ rest.length + 1 + 1 < 2 := by omega
          simp [Packet.incoming, Packet.ofBody, Packet.readUint16, PacketType.code, bodyEvent,
            uint16_eq_bigEndian, htwo]
  | _ => rfl

/-! ## `recvLoop` -/

theorem lt_of_lengthField {bs : Str} {n : Nat} (h : LengthField bs n) : n < 128 ^ bs.length := by
  induction h with
  | last hb => simpa using hb
  | @more b bs n hge hbs ih =>
      have hlow : b.toNat % 128 < 128 := Nat.mod_lt _ (by decide)
      rw [List.length_cons, Nat.pow_succ]
      omega

namespace Stream

variable {split : Split} {s s' : Stream}

/-- The length loop of a whole packet. -/
theorem recvLength_packet_iff (h : split.Legal) {length : UInt32} :
    s.recvLength split 4 0 0 = .ok (length, s') ↔
      ∃ bs, s.bytes = bs ++ s'.bytes ∧ s'.pos = s.pos + bs.length ∧ bs.length ≤ 4 ∧
        LengthField bs length.toNat := by
  rw [recvLength_iff h (by decide) (by decide)]
  constructor
  · rintro ⟨bs, n, hbytes, hpos, hlen, hfield, hvalue⟩
    have hn : length.toNat = n := by simpa using hvalue
    exact ⟨bs, hbytes, hpos, hlen, hn ▸ hfield⟩
  · rintro ⟨bs, hbytes, hpos, hlen, hfield⟩
    exact ⟨bs, _, hbytes, hpos, hlen, hfield, by simp⟩

/-- The framing cuts off a header byte of a valid type, a length field and its
bytes. -/
theorem recvPacket_iff (h : split.Legal) {p : Packet} :
    s.recvPacket split = .ok (p, s') ↔
      ∃ (header : UInt8) (bs body : Str) (packetType : PacketType),
        s.bytes = header :: (bs ++ (body ++ s'.bytes)) ∧
          s'.pos = s.pos + 1 + bs.length + body.length ∧ bs.length ≤ 4 ∧
          LengthField bs body.length ∧ PacketType.ofCode (header >>> 4) = some packetType ∧
          p = Packet.ofBody packetType (header &&& 0x0F) body := by
  constructor
  · intro hok
    rw [recvPacket, recvByte_eq h] at hok
    cases hs : s.bytes with
    | nil => simp [hs, bind, Except.bind] at hok
    | cons header rest =>
        simp only [hs, bind, Except.bind] at hok
        cases htype : PacketType.ofCode (header >>> 4) with
        | none => simp [htype] at hok
        | some packetType =>
            simp only [htype] at hok
            cases hlength : recvLength split 4 0 0 { pos := s.pos + 1, bytes := rest } with
            | error e => simp [hlength] at hok
            | ok r =>
                obtain ⟨length, s₁⟩ := r
                obtain ⟨bs, hrest, hpos₁, hlen, hfield⟩ := (recvLength_packet_iff h).mp hlength
                simp only [hlength, recvBody_eq h (Nat.le_refl _)] at hok
                by_cases hfits : length.toNat ≤ s₁.bytes.length
                · simp only [if_pos hfits, pure, Except.pure] at hok
                  cases hok
                  have htake : (s₁.bytes.take length.toNat).length = length.toNat := by
                    rw [List.length_take]
                    omega
                  refine ⟨header, bs, s₁.bytes.take length.toNat, packetType, ?_, ?_, hlen, ?_,
                    htype, rfl⟩
                  · rw [List.take_append_drop]
                    exact congrArg (header :: ·) hrest
                  · rw [htake, hpos₁]
                  · rwa [htake]
                · simp [if_neg hfits] at hok
  · rintro ⟨header, bs, body, packetType, hs, hpos, hlen, hfield, htype, rfl⟩
    have hlt : body.length < 2 ^ 32 := by
      have hfield' := lt_of_lengthField hfield
      have hpow : 128 ^ bs.length ≤ 128 ^ 4 := Nat.pow_le_pow_right (by decide) hlen
      omega
    have hval : (UInt32.ofNat body.length).toNat = body.length := by
      rw [UInt32.toNat_ofNat', Nat.mod_eq_of_lt hlt]
    have hlength : recvLength split 4 0 0
        { pos := s.pos + 1, bytes := bs ++ (body ++ s'.bytes) } =
          .ok (UInt32.ofNat body.length,
            { pos := s.pos + 1 + bs.length, bytes := body ++ s'.bytes }) :=
      (recvLength_packet_iff h).mpr ⟨bs, rfl, rfl, hlen, by rwa [hval]⟩
    have hs' : s' = { pos := s.pos + 1 + bs.length + body.length, bytes := s'.bytes } := by
      rw [← hpos]
    rw [recvPacket, recvByte_eq h]
    simp only [hs, bind, Except.bind, htype, hlength, recvBody_eq h (Nat.le_refl _), hval,
      List.length_append, Nat.le_add_right, if_true, pure, Except.pure]
    rw [List.take_left, List.drop_left, ← hs']

/-- `recvLoop` returns true exactly on a frame, and takes it off the stream. -/
theorem recvLoop_iff (h : split.Legal) {e : Incoming} :
    s.recvLoop split = some (e, s') ↔ Frame s e s' := by
  have hcode : ∀ header : UInt8, (header >>> 4).toNat = header.toNat / 16 := by
    intro header
    rw [UInt8.toNat_shiftRight]
    exact Nat.shiftRight_eq_div_pow _ 4
  constructor
  · intro hloop
    unfold recvLoop at hloop
    cases hpacket : s.recvPacket split with
    | error err => simp [hpacket] at hloop
    | ok r =>
        obtain ⟨p, s₁⟩ := r
        simp only [hpacket, Option.map_eq_some_iff, Prod.mk.injEq] at hloop
        obtain ⟨e', hincoming, rfl, rfl⟩ := hloop
        obtain ⟨header, bs, body, packetType, hs, hpos, hlen, hfield, htype, rfl⟩ :=
          (recvPacket_iff h).mp hpacket
        rw [incoming_ofBody, code_of_ofCode htype, hcode] at hincoming
        have haccepts : Accepts (header.toNat / 16) body := by
          rw [← isSome_bodyEvent_iff, hincoming]
          rfl
        exact ⟨header, bs, body, hs, hpos, hlen, hfield, haccepts, hincoming⟩
  · rintro ⟨header, bs, body, hs, hpos, hlen, hfield, -, hevent⟩
    rw [← hcode] at hevent
    cases htype : PacketType.ofCode (header >>> 4) with
    | none =>
        rw [bodyEvent_of_ofCode_none htype] at hevent
        cases hevent
    | some packetType =>
        have hpacket : s.recvPacket split =
            .ok (Packet.ofBody packetType (header &&& 0x0F) body, s') :=
          (recvPacket_iff h).mpr
            ⟨header, bs, body, packetType, hs, hpos, hlen, hfield, htype, rfl⟩
        have hincoming := incoming_ofBody packetType (header &&& 0x0F) body
        rw [code_of_ofCode htype, hevent] at hincoming
        simp [recvLoop, hpacket, hincoming]

/-- The events of a stream do not depend on how it is cut. -/
theorem events_eq {split' : Split} (h : split.Legal) (h' : split'.Legal) (rounds : Nat)
    (s : Stream) : s.events split rounds = s.events split' rounds := by
  induction rounds generalizing s with
  | zero => rfl
  | succ rounds ih =>
      have hloop : s.recvLoop split = s.recvLoop split' := by
        apply Option.ext
        rintro ⟨e, s'⟩
        rw [recvLoop_iff h, recvLoop_iff h']
      rw [events, events, hloop]
      cases s.recvLoop split' with
      | none => rfl
      | some r =>
          obtain ⟨e, s'⟩ := r
          show e :: s'.events split rounds = e :: s'.events split' rounds
          rw [ih]

end Stream

/-! ## the accesses to the body -/

/-- A sequence of `read_*` calls: what it returns, and the indices of `m_buffer` it
accesses. -/
def Traced (α : Type) : Type := Packet → Option (α × Packet) × List Nat

namespace Traced

variable {α β : Type}

/-- The call after the one that has returned `r`. -/
def next (f : α → Traced β) (r : Option (α × Packet) × List Nat) :
    Option (β × Packet) × List Nat :=
  match r.1 with
  | none => (none, r.2)
  | some (a, p) => ((f a p).1, r.2 ++ (f a p).2)

instance : Monad Traced where
  pure a := fun p => (some (a, p), [])
  bind x f := fun p => next f (x p)

def readUint8 : Traced UInt8 := fun p =>
  if p.buffer.length < p.readOffset + 1 then (none, [])
  else (p.readUint8, [p.readOffset])

def readUint16 : Traced UInt16 := fun p =>
  if p.buffer.length < p.readOffset + 2 then (none, [])
  else (p.readUint16, [p.readOffset, p.readOffset + 1])

/-- The rest of `read_string`; whoever uses the view accesses all of it. -/
def readView (length : Nat) : Traced Str := fun p =>
  if p.buffer.length < p.readOffset + length then (none, [])
  else (some ((p.buffer.drop p.readOffset).take length,
      { p with readOffset := p.readOffset + length }),
    List.range' p.readOffset length)

def readString : Traced Str := do
  let length ← readUint16
  readView length.toNat

def readRemaining : Traced Str := fun p =>
  (some p.readRemaining, List.range' p.readOffset (p.buffer.length - p.readOffset))

/-- The switch of `recvLoop`. -/
def incoming : PacketType → Traced (Option Incoming)
  | .connack => do
      let _ ← readUint8
      let returnCode ← readUint8
      return if returnCode ≠ 0 then none else some .connack
  | .publish => do
      let topic ← readString
      let message ← readRemaining
      return some (.publish topic message)
  | .suback => do
      let packetId ← readUint16
      let returnCode ← readUint8
      return some (.suback packetId returnCode)
  | .unsuback => do
      let packetId ← readUint16
      return some (.unsuback packetId)
  | .pingresp => return some .pingresp
  | _ => return none

/-- It stays inside of the buffer, and leaves it as it is. -/
def InBounds (x : Traced α) : Prop :=
  ∀ p : Packet, (∀ k ∈ (x p).2, k < p.buffer.length) ∧
    ∀ a q, (x p).1 = some (a, q) → q.buffer = p.buffer

theorem inBounds_pure (a : α) : InBounds (pure a : Traced α) := by
  intro p
  refine ⟨fun k hk => (nomatch hk), fun b q hq => ?_⟩
  cases hq
  rfl

theorem inBounds_bind {x : Traced α} {f : α → Traced β} (hx : InBounds x)
    (hf : ∀ a, InBounds (f a)) : InBounds (x >>= f) := by
  intro p
  obtain ⟨hreads, hbuffer⟩ := hx p
  show (∀ k ∈ (next f (x p)).2, k < p.buffer.length) ∧
    ∀ b q, (next f (x p)).1 = some (b, q) → q.buffer = p.buffer
  cases hr : (x p).1 with
  | none => simpa [next, hr] using hreads
  | some r =>
      obtain ⟨a, q⟩ := r
      have hq := hbuffer a q hr
      obtain ⟨hreads', hbuffer'⟩ := hf a q
      simp only [next, hr, List.mem_append]
      refine ⟨fun k hk => ?_, fun b q' hq' => (hbuffer' b q' hq').trans hq⟩
      obtain hk | hk := hk
      · exact hreads k hk
      · rw [← hq]
        exact hreads' k hk

theorem inBounds_readUint8 : InBounds readUint8 := by
  intro p
  unfold readUint8 Packet.readUint8
  split
  · simp
  · simp
    omega

theorem inBounds_readUint16 : InBounds readUint16 := by
  intro p
  unfold readUint16 Packet.readUint16
  split
  · simp
  · simp
    omega

theorem inBounds_readView (length : Nat) : InBounds (readView length) := by
  intro p
  unfold readView
  split
  · simp
  · refine ⟨fun k hk => ?_, fun b q hq => ?_⟩
    · rw [List.mem_range'_1] at hk
      omega
    · cases hq
      rfl

theorem inBounds_readString : InBounds readString :=
  inBounds_bind inBounds_readUint16 fun _ => inBounds_readView _

theorem inBounds_readRemaining : InBounds readRemaining := by
  intro p
  refine ⟨fun k hk => ?_, fun b q hq => ?_⟩
  · rw [readRemaining, List.mem_range'_1] at hk
    omega
  · cases hq
    rfl

theorem inBounds_incoming (packetType : PacketType) : InBounds (incoming packetType) := by
  cases packetType with
  | connack =>
      exact inBounds_bind inBounds_readUint8 fun _ =>
        inBounds_bind inBounds_readUint8 fun _ => inBounds_pure _
  | publish =>
      exact inBounds_bind inBounds_readString fun _ =>
        inBounds_bind inBounds_readRemaining fun _ => inBounds_pure _
  | suback =>
      exact inBounds_bind inBounds_readUint16 fun _ =>
        inBounds_bind inBounds_readUint8 fun _ => inBounds_pure _
  | unsuback => exact inBounds_bind inBounds_readUint16 fun _ => inBounds_pure _
  | _ => exact inBounds_pure _

theorem fst_bind (x : Traced α) (f : α → Traced β) (p : Packet) :
    ((x >>= f) p).1 = (x p).1.bind fun r => (f r.1 r.2).1 := by
  show (next f (x p)).1 = _
  unfold next
  cases (x p).1 <;> rfl

theorem fst_pure (a : α) (p : Packet) : ((pure a : Traced α) p).1 = some (a, p) := rfl

theorem fst_readUint8 (p : Packet) : (readUint8 p).1 = p.readUint8 := by
  unfold readUint8 Packet.readUint8
  split <;> rfl

theorem fst_readUint16 (p : Packet) : (readUint16 p).1 = p.readUint16 := by
  unfold readUint16 Packet.readUint16
  split <;> rfl

theorem fst_readString (p : Packet) : (readString p).1 = p.readString := by
  rw [readString, fst_bind, fst_readUint16, Packet.readString]
  cases p.readUint16 with
  | none => rfl
  | some r =>
      show (readView r.1.toNat r.2).1 = _
      unfold readView
      simp only [Option.bind_eq_bind, Option.bind_some]
      split <;> rfl

/-- The record does not change what the switch does. -/
theorem fst_incoming (p : Packet) :
    ((incoming p.packetType p).1.bind (·.1)) = p.incoming := by
  unfold Packet.incoming
  cases p.packetType with
  | connack =>
      simp only [incoming, fst_bind, fst_readUint8, fst_pure, Option.bind_assoc, Option.bind_some]
      rfl
  | publish =>
      simp only [incoming, fst_bind, fst_readString, fst_pure, Option.bind_assoc,
        Option.bind_some, readPublish, Option.bind_eq_bind]
      rfl
  | suback =>
      simp only [incoming, fst_bind, fst_readUint8, fst_readUint16, fst_pure, Option.bind_assoc,
        Option.bind_some]
      rfl
  | unsuback =>
      simp only [incoming, fst_bind, fst_readUint16, fst_pure, Option.bind_assoc,
        Option.bind_some]
      rfl
  | _ => rfl

end Traced

/-! ## the result -/

/-- The stream starts with a header byte, a length field of at most four bytes, and
as many bytes of a body its type accepts. -/
def StartsWithFrame (s : Stream) : Prop :=
  ∃ (header : UInt8) (lengthBytes body rest : Str),
    s.bytes = header :: (lengthBytes ++ (body ++ rest)) ∧ lengthBytes.length ≤ 4 ∧
      LengthField lengthBytes body.length ∧ Accepts (header.toNat / 16) body

theorem isSome_recvLoop_iff {split : Split} (h : split.Legal) (s : Stream) :
    (s.recvLoop split).isSome = true ↔ StartsWithFrame s := by
  constructor
  · intro hsome
    obtain ⟨⟨e, s'⟩, hloop⟩ := Option.isSome_iff_exists.mp hsome
    obtain ⟨header, bs, body, hs, -, hlen, hfield, haccepts, -⟩ := (Stream.recvLoop_iff h).mp hloop
    exact ⟨header, bs, body, s'.bytes, hs, hlen, hfield, haccepts⟩
  · rintro ⟨header, bs, body, rest, hs, hlen, hfield, haccepts⟩
    obtain ⟨e, hevent⟩ :=
      Option.isSome_iff_exists.mp ((isSome_bodyEvent_iff _ _).mpr haccepts)
    have hframe : Frame s e { pos := s.pos + 1 + bs.length + body.length, bytes := rest } :=
      ⟨header, bs, body, hs, rfl, hlen, hfield, haccepts, hevent⟩
    rw [(Stream.recvLoop_iff h).mpr hframe]
    rfl

/-- **`recvLoop` accepts its grammar**: for every way to cut the stream, it returns
true exactly when the stream starts with a frame; it then raises the event of that
frame and leaves what follows it.  The events of a whole stream are the same for
every way to cut it, and the switch stays inside of the body. -/
theorem recvLoop_accepts {split : Split} (h : split.Legal) :
    (∀ s : Stream, (s.recvLoop split).isSome = true ↔ StartsWithFrame s) ∧
      (∀ (s s' : Stream) (e : Incoming), s.recvLoop split = some (e, s') ↔ Frame s e s') ∧
      (∀ split' : Split, split'.Legal → ∀ (rounds : Nat) (s : Stream),
        s.events split rounds = s.events split' rounds) ∧
      ∀ p : Packet, (Traced.incoming p.packetType p).1.bind (·.1) = p.incoming ∧
        ∀ k ∈ (Traced.incoming p.packetType p).2, k < p.buffer.length :=
  ⟨isSome_recvLoop_iff h, fun _ _ _ => Stream.recvLoop_iff h,
    fun _ h' rounds s => Stream.events_eq h h' rounds s,
    fun p => ⟨Traced.fst_incoming p, (Traced.inBounds_incoming p.packetType p).1⟩⟩

/-- A PUBLISH whose length takes a byte more than it needs, a PINGRESP and a CONNACK
that refuses, read a byte at a time. -/
theorem recvLoop_accepts_publish_pingresp :
    ({ bytes := [0x30, 0x85, 0x00, 0, 1, 97, 120, 121, 0xD0, 0, 0x20, 2, 0, 5] } : Stream).events
        (fun _ _ => 1) 3 =
      [.publish [97] [120, 121], .pingresp] := by
  have hone : Split.Legal fun _ _ => 1 := fun _ asked h => ⟨Nat.le_refl 1, h⟩
  have hall : Split.Legal fun _ asked => asked := fun _ asked h => ⟨h, Nat.le_refl asked⟩
  rw [(recvLoop_accepts hone).2.2.1 _ hall]
  decide +kernel

end TrueMqtt
