import Mathlib.Algebra.Order.Ring.Nat

/-!
# Capped doubling

A value that starts at `b` and is doubled again and again, up to a cap `m`:
`capped b m n` is what it is after `n` doublings.  The cap may be applied after
each doubling (`min_capped_mul_two`), and `capped_inj_iff` says when two numbers of
doublings give the same value.

`doubled b m n` is the value when nothing caps it before the first doubling;
`doubled_eq_capped_iff` compares the two.
-/

namespace CappedDoubling

/-- `b` doubled `n` times, capped at `m`. -/
def capped (b m n : Nat) : Nat := min (b * 2 ^ n) m

theorem capped_le (b m n : Nat) : capped b m n ≤ m := Nat.min_le_right _ _

@[simp] theorem capped_zero (b m : Nat) : capped b m 0 = min b m := by
  rw [capped, Nat.pow_zero, Nat.mul_one]

/-- One more doubling, capped again. -/
theorem min_capped_mul_two (b m n : Nat) : min (capped b m n * 2) m = capped b m (n + 1) := by
  have hpow : b * 2 ^ (n + 1) = b * 2 ^ n * 2 := by rw [Nat.pow_succ, Nat.mul_assoc]
  unfold capped
  omega

/-- The powers of two tell the numbers of doublings apart. -/
theorem mul_two_pow_inj_iff {b k n : Nat} : b * 2 ^ k = b * 2 ^ n ↔ k = n ∨ b = 0 := by
  rw [mul_eq_mul_left_iff, Nat.pow_right_inj (by decide : 1 < 2)]

theorem min_mul_two_pow (b k n : Nat) : min (b * 2 ^ k) (b * 2 ^ n) = b * 2 ^ min k n := by
  rcases Nat.le_total k n with h | h
  · rw [Nat.min_eq_left h]
    exact Nat.min_eq_left (Nat.mul_le_mul_left b (Nat.pow_le_pow_right (by decide) h))
  · rw [Nat.min_eq_right h]
    exact Nat.min_eq_right (Nat.mul_le_mul_left b (Nat.pow_le_pow_right (by decide) h))

/-- Two numbers of doublings give the same value if they are the same, or if both
have reached the cap. -/
theorem capped_inj_iff {b m k n : Nat} :
    capped b m k = capped b m n ↔ k = n ∨ b = 0 ∨ m ≤ b * 2 ^ min k n := by
  have hmin : capped b m k = capped b m n ↔
      b * 2 ^ k = b * 2 ^ n ∨ m ≤ min (b * 2 ^ k) (b * 2 ^ n) := by
    unfold capped
    omega
  rw [hmin, mul_two_pow_inj_iff, min_mul_two_pow, or_assoc]

/-! ## a start above the cap -/

/-- `b` doubled `n` times, capped at `m` after each doubling. -/
def doubled (b m n : Nat) : Nat := if n = 0 then b else capped b m n

@[simp] theorem doubled_zero (b m : Nat) : doubled b m 0 = b := by
  rw [doubled, if_pos rfl]

theorem doubled_succ (b m n : Nat) : min (doubled b m n * 2) m = doubled b m (n + 1) := by
  rw [doubled, doubled, if_neg n.succ_ne_zero]
  by_cases hn : n = 0
  · rw [if_pos hn, hn, capped, Nat.pow_one]
  · rw [if_neg hn]
    exact min_capped_mul_two b m n

theorem doubled_eq_capped_iff {b m k n : Nat} :
    doubled b m k = capped b m n ↔
      (k = 0 → b ≤ m) ∧ (k = n ∨ b = 0 ∨ m ≤ b * 2 ^ min k n) := by
  rw [doubled, ← capped_inj_iff]
  by_cases hk : k = 0
  · have hle := capped_le b m n
    rw [if_pos hk, hk, capped_zero]
    grind
  · rw [if_neg hk]
    exact ⟨fun h => ⟨fun h0 => absurd h0 hk, h⟩, fun h => h.2⟩

end CappedDoubling
