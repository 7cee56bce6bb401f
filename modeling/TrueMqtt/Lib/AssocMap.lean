import Mathlib.Data.List.Basic

/-!
# Finite maps as association lists

A keyed map is a list of pairs read with `List.lookup`.  `insert` replaces the
first pair of its key or appends a new one, `erase` drops every pair of its
key, so the three operations satisfy the usual map equations on *every* list
and no uniqueness invariant has to be carried around.  That is what lets a
map of this kind occur inside a nested inductive type.
-/

namespace AssocMap

variable {κ ν : Type*} [BEq κ] [LawfulBEq κ]

/-- Insert a pair, replacing the value the key had. -/
def insert (k : κ) (v : ν) : List (κ × ν) → List (κ × ν)
  | [] => [(k, v)]
  | (k', v') :: m => if k' == k then (k, v) :: m else (k', v') :: insert k v m

/-- Remove a key. -/
def erase (k : κ) (m : List (κ × ν)) : List (κ × ν) := m.filter fun p => !(p.1 == k)

/-! ## the map equations -/

theorem lookup_cons_ne {k k' : κ} (h : k' ≠ k) (v : ν) (m : List (κ × ν)) :
    List.lookup k' ((k, v) :: m) = m.lookup k' := by
  have hne : (k' == k) = false := by simp [h]
  rw [List.lookup_cons, hne]

@[simp] theorem lookup_insert_self (k : κ) (v : ν) (m : List (κ × ν)) :
    (insert k v m).lookup k = some v := by
  induction m with
  | nil => exact List.lookup_cons_self
  | cons p m ih =>
      obtain ⟨a, b⟩ := p
      by_cases ha : a = k
      · simp only [insert, ha, beq_self_eq_true, ↓reduceIte, List.lookup_cons_self]
      · have hne : (a == k) = false := by simp [ha]
        simp only [insert, hne, Bool.false_eq_true, ↓reduceIte]
        rw [lookup_cons_ne (Ne.symm ha), ih]

theorem lookup_insert_ne {k k' : κ} (h : k' ≠ k) (v : ν) (m : List (κ × ν)) :
    (insert k v m).lookup k' = m.lookup k' := by
  induction m with
  | nil => exact lookup_cons_ne h v []
  | cons p m ih =>
      obtain ⟨a, b⟩ := p
      by_cases ha : a = k
      · subst ha
        simp only [insert, beq_self_eq_true, ↓reduceIte]
        rw [lookup_cons_ne h, lookup_cons_ne h]
      · have hne : (a == k) = false := by simp [ha]
        simp only [insert, hne, Bool.false_eq_true, ↓reduceIte, List.lookup_cons, ih]

@[simp] theorem lookup_erase_self (k : κ) (m : List (κ × ν)) :
    (erase k m).lookup k = none := by
  rw [List.lookup_eq_none_iff]
  intro p hp
  obtain ⟨-, hk⟩ := List.mem_filter.mp hp
  rw [bne, Bool.beq_comm]
  exact hk

theorem lookup_erase_ne {k k' : κ} (h : k' ≠ k) (m : List (κ × ν)) :
    (erase k m).lookup k' = m.lookup k' := by
  induction m with
  | nil => rfl
  | cons p m ih =>
      obtain ⟨a, b⟩ := p
      unfold erase at ih ⊢
      by_cases ha : a = k
      · subst ha
        rw [List.filter_cons_of_neg (by simp), ih, lookup_cons_ne h]
      · rw [List.filter_cons_of_pos (by simp [ha]), List.lookup_cons, List.lookup_cons, ih]

end AssocMap
