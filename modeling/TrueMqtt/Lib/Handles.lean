import Mathlib.Data.List.Nodup
import Mathlib.Data.List.Perm.Basic

/-!
# Tables of handles

What a process does with the handles an operating system gives it: which are
open, and every `open` and `close` so far.  A number may come back once it is
closed, so closing twice is not seen from the list of closes alone: a close of a
handle that is not open is kept apart (`stray`).

`Holds h ns` says that the parts of a program that hold `ns` between them account
for every open handle, each once.  A program keeps it by opening into it and
closing out of it; when nothing is held any more, every handle has been closed
exactly once (`Holds.settled`).
-/

/-- The open handles, and what happened so far, latest first. -/
structure Handles (α : Type*) where
  live : List α := []
  opened : List α := []
  /-- the closes of open handles -/
  closed : List α := []
  /-- the closes of handles that were not open -/
  stray : List α := []
deriving DecidableEq

namespace Handles

variable {α : Type*} {h : Handles α} {n : α} {ns ms : List α}

/-- The operating system opens a handle under this number. -/
def openAs (n : α) (h : Handles α) : Handles α :=
  { h with live := n :: h.live, opened := n :: h.opened }

def close [DecidableEq α] (n : α) (h : Handles α) : Handles α :=
  if n ∈ h.live then { h with live := h.live.erase n, closed := n :: h.closed }
  else { h with stray := n :: h.stray }

def closeAll [DecidableEq α] (h : Handles α) : List α → Handles α
  | [] => h
  | n :: ns => (h.close n).closeAll ns

/-- Every handle has been closed as often as it was opened, always while open. -/
def Settled (h : Handles α) : Prop := h.opened.Perm h.closed ∧ h.stray = []

/-- The handles `ns` are the open ones, and none was closed while it was not. -/
structure Holds (h : Handles α) (ns : List α) : Prop where
  live : h.live.Perm ns
  nodup : ns.Nodup
  opened : h.opened.Perm (ns ++ h.closed)
  stray : h.stray = []

namespace Holds

theorem empty : ({} : Handles α).Holds [] := ⟨.nil, List.nodup_nil, .nil, rfl⟩

theorem perm (hh : h.Holds ns) (hp : ns.Perm ms) : h.Holds ms where
  live := hh.live.trans hp
  nodup := hp.nodup_iff.mp hh.nodup
  opened := hh.opened.trans (hp.append_right _)
  stray := hh.stray

theorem mem_live_iff (hh : h.Holds ns) : n ∈ h.live ↔ n ∈ ns := hh.live.mem_iff

theorem openAs (hh : h.Holds ns) (hn : n ∉ h.live) : (h.openAs n).Holds (n :: ns) where
  live := hh.live.cons n
  nodup := List.nodup_cons.mpr ⟨fun hmem => hn (hh.mem_live_iff.mpr hmem), hh.nodup⟩
  opened := hh.opened.cons n
  stray := hh.stray

theorem close [DecidableEq α] (hh : h.Holds (n :: ns)) : (h.close n).Holds ns := by
  have hmem : n ∈ h.live := hh.mem_live_iff.mpr List.mem_cons_self
  rw [Handles.close, if_pos hmem]
  constructor
  · show (h.live.erase n).Perm ns
    have hp := hh.live.erase n
    rwa [List.erase_cons_head] at hp
  · exact (List.nodup_cons.mp hh.nodup).2
  · exact hh.opened.trans List.perm_middle.symm
  · exact hh.stray

theorem closeAll [DecidableEq α] (hh : h.Holds (ns ++ ms)) : (h.closeAll ns).Holds ms := by
  induction ns generalizing h with
  | nil => exact hh
  | cons n ns ih => exact ih hh.close

/-- **Every handle is closed exactly once** when none is held. -/
theorem settled (hh : h.Holds []) : h.Settled := ⟨hh.opened, hh.stray⟩

end Holds

/-- A handle that is open and never closed leaves the table unsettled. -/
theorem not_settled_of_mem (hn : n ∈ h.opened) (hc : n ∉ h.closed) : ¬ h.Settled :=
  fun hs => hc (hs.1.mem_iff.mp hn)

end Handles
