import Mathlib.Data.List.DropRight

/-!
# Bounded queues that evict

A queue of capacity `k` that makes room for a new entry by giving up one it
holds: the oldest (`pushEvictOldest`) or the newest (`pushEvictNewest`).  Both
keep to a capacity of at least one.  A queue that evicts the oldest keeps holding
the last `k` entries pushed (`pushEvictOldest_rtake`), one that evicts the newest
the first `k - 1` and the last one (`pushEvictNewest_firstAndLast`).
-/

namespace BoundedQueue

variable {α : Type*} {k : Nat}

/-- Append, giving up the oldest entry of a full queue. -/
def pushEvictOldest (k : Nat) (queue : List α) (x : α) : List α :=
  if k ≤ queue.length then queue.tail ++ [x] else queue ++ [x]

/-- Append, giving up the newest entry of a full queue. -/
def pushEvictNewest (k : Nat) (queue : List α) (x : α) : List α :=
  if k ≤ queue.length then queue.dropLast ++ [x] else queue ++ [x]

/-- The first `k - 1` entries and the last one, or all if there is room. -/
def firstAndLast (k : Nat) (xs : List α) : List α :=
  if xs.length ≤ k then xs else xs.take (k - 1) ++ xs.getLast?.toList

@[simp] theorem firstAndLast_nil (k : Nat) : firstAndLast k ([] : List α) = [] :=
  if_pos (Nat.zero_le k)

/-! ## capacity -/

theorem length_pushEvictOldest_le {queue : List α} (hk : 1 ≤ k) (h : queue.length ≤ k) (x : α) :
    (pushEvictOldest k queue x).length ≤ k := by
  unfold pushEvictOldest
  split
  · rw [List.length_append, List.length_tail, List.length_singleton]
    omega
  · rw [List.length_append, List.length_singleton]
    omega

theorem length_pushEvictNewest_le {queue : List α} (hk : 1 ≤ k) (h : queue.length ≤ k) (x : α) :
    (pushEvictNewest k queue x).length ≤ k := by
  unfold pushEvictNewest
  split
  · rw [List.length_append, List.length_dropLast, List.length_singleton]
    omega
  · rw [List.length_append, List.length_singleton]
    omega

/-! ## what a sequence of pushes leaves -/

/-- One more push onto the last `k` entries. -/
theorem pushEvictOldest_rtake (hk : 1 ≤ k) (xs : List α) (x : α) :
    pushEvictOldest k (xs.rtake k) x = (xs ++ [x]).rtake k := by
  obtain ⟨j, rfl⟩ := Nat.exists_eq_add_of_le' hk
  have hlen : (xs.rtake (j + 1)).length = min (j + 1) xs.length := by
    rw [List.rtake, List.length_drop]
    omega
  rw [List.rtake_concat_succ, pushEvictOldest, hlen]
  by_cases hfull : j + 1 ≤ xs.length
  · rw [if_pos (by omega), List.rtake, List.rtake, List.tail_drop]
    congr 2
    omega
  · rw [if_neg (by omega), List.rtake, List.rtake]
    congr 2
    omega

/-- One more push onto the first `k - 1` entries and the last. -/
theorem pushEvictNewest_firstAndLast (hk : 1 ≤ k) (xs : List α) (x : α) :
    pushEvictNewest k (firstAndLast k xs) x = firstAndLast k (xs ++ [x]) := by
  by_cases hroom : xs.length < k
  · have hfirst : firstAndLast k xs = xs := if_pos hroom.le
    rw [hfirst, pushEvictNewest, if_neg (by omega), firstAndLast, if_pos]
    rw [List.length_append, List.length_singleton]
    omega
  · have hover : ¬ (xs ++ [x]).length ≤ k := by
      rw [List.length_append, List.length_singleton]
      omega
    have hsnoc : firstAndLast k (xs ++ [x]) = xs.take (k - 1) ++ [x] := by
      rw [firstAndLast, if_neg hover, List.take_append_of_le_length (by omega),
        List.getLast?_concat, Option.toList_some]
    rw [hsnoc]
    by_cases hfull : xs.length = k
    · have hfirst : firstAndLast k xs = xs := if_pos hfull.le
      rw [hfirst, pushEvictNewest, if_pos hfull.ge, List.dropLast_eq_take, hfull]
    · have hfirst : firstAndLast k xs = xs.take (k - 1) ++ xs.getLast?.toList :=
        if_neg (by omega)
      have hne : xs ≠ [] := by
        rintro rfl
        exact hroom hk
      rw [hfirst, List.getLast?_eq_some_getLast hne, Option.toList_some, pushEvictNewest,
        List.dropLast_concat, if_pos]
      rw [List.length_append, List.length_take, List.length_singleton]
      omega

end BoundedQueue
