import Mathlib.Data.List.Lex
import Mathlib.Data.List.Basic
import Mathlib.Data.List.Sort
import Mathlib.Order.Defs.LinearOrder

/-!
# Finite sets as strictly increasing lists

The elements of a `SortedSet` are stored in strictly increasing order, as an
ordered container iterates over them; the order is a field of the structure,
so a set with a repeated or misplaced element cannot be built.
-/

/-- A finite set of a linearly ordered type, listed in increasing order. -/
structure SortedSet (α : Type*) [LinearOrder α] where
  elems : List α
  sorted : elems.Pairwise (· < ·)

namespace SortedSet

variable {α : Type*} [LinearOrder α]

instance : Membership α (SortedSet α) := ⟨fun s a => a ∈ s.elems⟩

theorem mem_def {a : α} {s : SortedSet α} : a ∈ s ↔ a ∈ s.elems := Iff.rfl

instance (a : α) (s : SortedSet α) : Decidable (a ∈ s) :=
  inferInstanceAs (Decidable (a ∈ s.elems))

/-- The set without elements. -/
def empty : SortedSet α := ⟨[], List.Pairwise.nil⟩

instance : EmptyCollection (SortedSet α) := ⟨empty⟩

@[simp] theorem not_mem_empty (a : α) : a ∉ (∅ : SortedSet α) := List.not_mem_nil

/-! ## insertion -/

/-- Insert at the place the order gives; an element that is there stays. -/
def insertList (a : α) : List α → List α
  | [] => [a]
  | b :: l => if a < b then a :: b :: l else if a = b then b :: l else b :: insertList a l

theorem mem_insertList {a b : α} {l : List α} : b ∈ insertList a l ↔ b = a ∨ b ∈ l := by
  induction l with
  | nil => simp [insertList]
  | cons c l ih =>
      unfold insertList
      split
      · simp
      · split
        · next h => subst h; simp
        · rw [List.mem_cons, ih, List.mem_cons]
          tauto

theorem pairwise_insertList {a : α} {l : List α} (h : l.Pairwise (· < ·)) :
    (insertList a l).Pairwise (· < ·) := by
  induction l with
  | nil => simp [insertList]
  | cons b l ih =>
      obtain ⟨hb, hl⟩ := List.pairwise_cons.mp h
      unfold insertList
      split
      · next hab =>
          refine List.pairwise_cons.mpr ⟨?_, h⟩
          intro c hc
          rcases List.mem_cons.mp hc with rfl | hc
          · exact hab
          · exact lt_trans hab (hb c hc)
      · next hab =>
          split
          · exact h
          · next hne =>
              refine List.pairwise_cons.mpr ⟨?_, ih hl⟩
              intro c hc
              rcases mem_insertList.mp hc with rfl | hc
              · exact lt_of_le_of_ne (not_lt.mp hab) (Ne.symm hne)
              · exact hb c hc

/-- Add an element. -/
def insert (a : α) (s : SortedSet α) : SortedSet α :=
  ⟨insertList a s.elems, pairwise_insertList s.sorted⟩

@[simp] theorem mem_insert {a b : α} {s : SortedSet α} : b ∈ s.insert a ↔ b = a ∨ b ∈ s :=
  mem_insertList

/-! ## removal -/

/-- Remove an element. -/
def erase (a : α) (s : SortedSet α) : SortedSet α :=
  ⟨s.elems.filter (· ≠ a), s.sorted.filter _⟩

@[simp] theorem mem_erase {a b : α} {s : SortedSet α} : b ∈ s.erase a ↔ b ∈ s ∧ b ≠ a := by
  simp [mem_def, erase]

/-- No element is listed twice. -/
theorem nodup (s : SortedSet α) : s.elems.Nodup :=
  s.sorted.imp fun h => ne_of_lt h

/-- A set is determined by its elements. -/
theorem ext_mem {s t : SortedSet α} (h : ∀ a, a ∈ s ↔ a ∈ t) : s = t := by
  have hperm : s.elems.Perm t.elems := (List.perm_ext_iff_of_nodup s.nodup t.nodup).mpr h
  have heq : s.elems = t.elems := hperm.eq_of_pairwise' s.sorted t.sorted
  cases s
  cases t
  cases heq
  rfl

end SortedSet
