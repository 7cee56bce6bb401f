import Mathlib.Data.Nat.Bitwise
import Mathlib.Data.List.Basic
import TrueMqtt.Lib.Decoder

/-!
# Base-128 numbers

A number as bytes of seven bits each, the low ones first, with the high bit set
on every byte but the last.  `encode k n` uses at most `k + 1` bytes, `decode k`
reads as many; both recurse on the number of bytes, so they evaluate.

The byte lemmas at the end read the masks and shifts of an implementation as
division and remainder.
-/

namespace Base128

/-- The bytes of `n`; after `k` continuation bytes the rest of `n` is cut. -/
def encode : Nat → Nat → List UInt8
  | 0, n => [UInt8.ofNat (n % 128)]
  | k + 1, n =>
      if n < 128 then [UInt8.ofNat n]
      else UInt8.ofNat (n % 128 + 128) :: encode k (n / 128)

theorem length_encode_pos (k n : Nat) : 0 < (encode k n).length := by
  cases k with
  | zero => simp [encode]
  | succ k =>
      rw [encode]
      split <;> simp

/-- A number of at most seven bits is one byte. -/
theorem encode_of_lt {k n : Nat} (h : n < 128) : encode k n = [UInt8.ofNat n] := by
  cases k with
  | zero => rw [encode, Nat.mod_eq_of_lt h]
  | succ k => rw [encode, if_pos h]

theorem encode_of_ge {k n : Nat} (h : 128 ≤ n) :
    encode (k + 1) n = UInt8.ofNat (n % 128 + 128) :: encode k (n / 128) := by
  rw [encode, if_neg (by omega)]

/-- The length of an encoding that is not cut. -/
theorem length_encode {k n j : Nat} (hj : j ≤ k) (hlo : j = 0 ∨ 128 ^ j ≤ n)
    (hhi : n < 128 ^ (j + 1)) : (encode k n).length = j + 1 := by
  induction j generalizing k n with
  | zero =>
      rw [encode_of_lt (by simpa using hhi)]
      rfl
  | succ j ih =>
      obtain ⟨k, rfl⟩ : ∃ k', k = k' + 1 := ⟨k - 1, by omega⟩
      have hlo' : 128 ^ (j + 1) ≤ n := by simpa using hlo
      have hpow : 128 ^ (j + 1) = 128 ^ j * 128 := Nat.pow_succ 128 j
      have hpos : 0 < 128 ^ j := Nat.pow_pos (by decide)
      have hge : 128 ≤ n := by omega
      have hdlo : 128 ^ j ≤ n / 128 := by
        rw [Nat.le_div_iff_mul_le (by decide)]
        omega
      have hdhi : n / 128 < 128 ^ (j + 1) := by
        rw [Nat.div_lt_iff_lt_mul (by decide)]
        omega
      rw [encode_of_ge hge, List.length_cons, ih (by omega) (.inr hdlo) hdhi]

/-! ## decoding -/

/-- Read a number of at most `k + 1` bytes. -/
def decode : Nat → Decoder UInt8 Nat
  | 0 => do
      let b ← Decoder.symbol
      Decoder.check (b.toNat < 128)
      return b.toNat
  | k + 1 => do
      let b ← Decoder.symbol
      if b.toNat < 128 then return b.toNat
      else
        let n ← decode k
        return b.toNat % 128 + 128 * n

/-! ## bytes -/

theorem toNat_ofNat_of_lt {n : Nat} (h : n < 256) : (UInt8.ofNat n).toNat = n := by
  rw [UInt8.toNat_ofNat']
  exact Nat.mod_eq_of_lt h

theorem and_seven (n : Nat) : n &&& 0x7F = n % 128 := Nat.and_two_pow_sub_one_eq_mod n 7

theorem shift_seven (n : Nat) : n >>> 7 = n / 128 := Nat.shiftRight_eq_div_pow n 7

/-- The low seven bits of a byte. -/
theorem toNat_and_seven (b : UInt8) : (b &&& 0x7F).toNat = b.toNat % 128 := by
  rw [UInt8.toNat_and]
  exact and_seven b.toNat

/-- The high bit of a byte. -/
theorem and_high_eq_zero_iff (b : UInt8) : b &&& 0x80 = 0 ↔ b.toNat < 128 := by
  have hall : ∀ i : Fin 256, (i.val &&& 128 = 0) ↔ i.val < 128 := by decide +kernel
  rw [← UInt8.toNat_inj, UInt8.toNat_and]
  exact hall ⟨b.toNat, b.toNat_lt⟩

/-- Setting the high bit of a seven-bit value. -/
theorem ofNat_or_high {n : Nat} (h : n < 128) :
    UInt8.ofNat n ||| 0x80 = UInt8.ofNat (n + 128) := by
  apply UInt8.toNat_inj.mp
  rw [UInt8.toNat_or, toNat_ofNat_of_lt (by omega), toNat_ofNat_of_lt (by omega)]
  change n ||| 128 = n + 128
  rw [Nat.or_comm, ← Nat.two_pow_add_eq_or_of_lt (i := 7) h 1]
  omega

/-- A byte below 128 is the last one. -/
theorem decodes_last {b : UInt8} (h : b.toNat < 128) (k : Nat) :
    Decoder.Decodes (decode k) [b] b.toNat := by
  cases k with
  | zero => exact (Decoder.decodes_symbol b).bind ((Decoder.decodes_check h).bind
      (Decoder.decodes_pure b.toNat))
  | succ k =>
      have hstop : Decoder.Decodes (if b.toNat < 128 then pure b.toNat else do
          return b.toNat % 128 + 128 * (← decode k)) [] b.toNat := by
        rw [if_pos h]
        exact Decoder.decodes_pure b.toNat
      exact (Decoder.decodes_symbol b).bind hstop

/-- A number that is not cut is read back. -/
theorem decodes_encode {k n : Nat} (h : n < 128 ^ (k + 1)) :
    Decoder.Decodes (decode k) (encode k n) n := by
  induction k generalizing n with
  | zero =>
      have hlt : n < 128 := by simpa using h
      have hbyte := toNat_ofNat_of_lt (show n < 256 by omega)
      have hlast := decodes_last (b := UInt8.ofNat n) (by omega) 0
      rwa [hbyte, ← encode_of_lt hlt] at hlast
  | succ k ih =>
      by_cases hlt : n < 128
      · have hbyte := toNat_ofNat_of_lt (show n < 256 by omega)
        have hlast := decodes_last (b := UInt8.ofNat n) (by omega) (k + 1)
        rwa [hbyte, ← encode_of_lt hlt] at hlast
      · have hge : 128 ≤ n := by omega
        have hbyte := toNat_ofNat_of_lt (show n % 128 + 128 < 256 by omega)
        have hdiv : n / 128 < 128 ^ (k + 1) := by
          rw [Nat.div_lt_iff_lt_mul (by decide), ← Nat.pow_succ]
          exact h
        have hvalue : (UInt8.ofNat (n % 128 + 128)).toNat % 128 + 128 * (n / 128) = n := by
          rw [hbyte]
          omega
        rw [encode_of_ge hge]
        refine (Decoder.decodes_symbol _).bind ?_
        rw [if_neg (by omega)]
        have hmore := (ih hdiv).bind_pure fun m =>
          (UInt8.ofNat (n % 128 + 128)).toNat % 128 + 128 * m
        rwa [hvalue] at hmore

/-- The length of what follows does not matter. -/
theorem extends_decode (k : Nat) : Decoder.Extends (decode k) := by
  induction k with
  | zero =>
      exact Decoder.extends_symbol.bind fun b =>
        (Decoder.extends_check _).bind fun _ => Decoder.extends_pure _
  | succ k ih =>
      refine Decoder.extends_symbol.bind fun b => ?_
      by_cases hb : b.toNat < 128
      · rw [if_pos hb]
        exact Decoder.extends_pure _
      · rw [if_neg hb]
        exact ih.bind fun n => Decoder.extends_pure _

end Base128
