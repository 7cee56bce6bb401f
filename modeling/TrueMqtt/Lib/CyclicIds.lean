import Mathlib.Data.List.Basic

/-!
# Cyclic identifiers

Identifiers that go round: `1, 2, .., m, 1, 2, ..`.  `nth m k` is the `k`-th of them,
and two that are less than `m` apart differ (`nth_ne_of_lt`).

The items of a list are numbered so when each carries the identifier of its place
(`Numbered`).  A list that grows by one item at a time stays numbered if the new item
carries the next identifier (`Numbered.concat`).
-/

namespace CyclicIds

variable {m i j k : Nat}

/-- The `k`-th identifier, from 1 to `m` and round again. -/
def nth (m k : Nat) : Nat := 1 + k % m

theorem nth_pos (m k : Nat) : 0 < nth m k := by
  unfold nth
  omega

/-- After the last identifier comes the first. -/
theorem nth_succ (hm : 0 < m) (k : Nat) :
    nth m (k + 1) = if nth m k = m then 1 else nth m k + 1 := by
  have hlt := Nat.mod_lt k hm
  have hnext : (k + 1) % m = (k % m + 1) % m := (Nat.mod_add_mod k m 1).symm
  unfold nth
  rw [hnext]
  by_cases hlast : k % m + 1 = m
  · rw [hlast, Nat.mod_self, if_pos (by omega)]
  · rw [Nat.mod_eq_of_lt (by omega), if_neg (by omega)]
    omega

/-- Two identifiers that are less than a round apart differ. -/
theorem nth_ne_of_lt (hij : i < j) (hj : j < i + m) : nth m i ≠ nth m j := by
  intro heq
  have hmod : j % m = i % m := by
    unfold nth at heq
    omega
  have hzero : (j - i) % m = 0 := Nat.sub_mod_eq_zero_of_mod_eq hmod
  rw [Nat.mod_eq_of_lt (by omega)] at hzero
  omega

/-! ## numbered lists -/

variable {α : Type*} {idOf : α → Nat} {items : List α} {x y : α}

/-- Every item carries the identifier of its place. -/
def Numbered (m : Nat) (idOf : α → Nat) (items : List α) : Prop :=
  ∀ k x, items[k]? = some x → idOf x = nth m k

theorem numbered_nil (m : Nat) (idOf : α → Nat) : Numbered m idOf [] := by
  intro k x h
  simp at h

/-- One more item, with the next identifier. -/
theorem Numbered.concat (h : Numbered m idOf items) (hx : idOf x = nth m items.length) :
    Numbered m idOf (items ++ [x]) := by
  intro k y hy
  by_cases hk : k < items.length
  · rw [List.getElem?_append_left hk] at hy
    exact h k y hy
  · obtain ⟨hlt, -⟩ := List.getElem?_eq_some_iff.mp hy
    rw [List.length_append, List.length_singleton] at hlt
    obtain rfl : k = items.length := by omega
    rw [List.getElem?_concat_length] at hy
    cases hy
    exact hx

theorem Numbered.pos (h : Numbered m idOf items) (hx : x ∈ items) : 0 < idOf x := by
  obtain ⟨k, hk⟩ := List.mem_iff_getElem?.mp hx
  rw [h k x hk]
  exact nth_pos m k

theorem Numbered.ne_of_lt (h : Numbered m idOf items) (hi : items[i]? = some x)
    (hj : items[j]? = some y) (hij : i < j) (hnear : j < i + m) : idOf x ≠ idOf y := by
  rw [h i x hi, h j y hj]
  exact nth_ne_of_lt hij hnear

end CyclicIds
