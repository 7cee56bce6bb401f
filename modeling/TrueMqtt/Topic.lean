import Mathlib.Data.List.Basic
import TrueMqtt.Lib.SortedSet

/-!
# TrueMqtt.Topic

Topic strings.  A topic is a byte string (`std::string`, `std::string_view`);
its levels are what the client's loops see between the slashes.  The client
never materializes the list of levels: every loop calls `find('/')` on what is
left of the topic, takes the part before the slash and removes it.  `nextPart`
is one such round, and `levels_eq_nextPart` says that the sequence of parts the
rounds go through is `levels`, which is the form all walks of the subscription
tree are written in.

The reference matcher `levelsMatch` at the end is the meaning of a topic filter;
it is stated on levels and knows nothing of the tree.
-/

namespace TrueMqtt

/-- The contents of a `std::string` or `std::string_view`. -/
abbrev Str := List UInt8

/-- Bytes compare as `std::less<>` compares them, by value. -/
instance instLinearOrderUInt8 : LinearOrder UInt8 where
  le_refl := UInt8.le_refl
  le_trans _ _ _ := UInt8.le_trans
  le_antisymm _ _ := UInt8.le_antisymm
  le_total := UInt8.le_total
  lt_iff_le_not_ge a b := by
    simp only [UInt8.lt_iff_toNat_lt, UInt8.le_iff_toNat_le]
    omega
  toDecidableLE := inferInstance

/-- The level separator `'/'`. -/
def slash : UInt8 := 0x2F

/-- The single-level wildcard `"+"`. -/
def plus : Str := [0x2B]

/-- The multi-level wildcard `"#"`. -/
def hash : Str := [0x23]

theorem plus_ne_hash : plus ≠ hash := by decide

/-! ## levels -/

/-- The levels of a topic, in order.  The empty topic has one, empty level. -/
def levels (topic : Str) : List Str := topic.splitOn slash

/-- The topic a list of levels spells. -/
def joinLevels (ls : List Str) : Str := [slash].intercalate ls

/-- One round of the splitting loops: the next part of `topic_search`, and what
`remove_prefix` leaves of it; `none` when `find('/')` is `npos`. -/
def nextPart (topicSearch : Str) : Str × Option Str :=
  let pos := topicSearch.idxOf slash
  if pos < topicSearch.length then
    (topicSearch.take pos, some (topicSearch.drop (pos + 1)))
  else (topicSearch, none)

theorem levels_ne_nil (topic : Str) : levels topic ≠ [] := List.splitOn_ne_nil _ _

@[simp] theorem joinLevels_levels (topic : Str) : joinLevels (levels topic) = topic :=
  List.intercalate_splitOn _

theorem levels_joinLevels {ls : List Str} (hne : ls ≠ []) (hls : ∀ l ∈ ls, slash ∉ l) :
    levels (joinLevels ls) = ls := List.splitOn_intercalate _ hls hne

/-- A topic is determined by its levels. -/
theorem levels_injective {s t : Str} (h : levels s = levels t) : s = t := by
  rw [← joinLevels_levels s, h, joinLevels_levels]

theorem levels_inj {s t : Str} : levels s = levels t ↔ s = t :=
  ⟨levels_injective, fun h => by rw [h]⟩

/-- The parts the splitting loop goes through are the levels. -/
theorem levels_eq_nextPart (topicSearch : Str) :
    levels topicSearch = match nextPart topicSearch with
      | (part, none) => [part]
      | (part, some rest) => part :: levels rest := by
  unfold nextPart
  by_cases h : slash ∈ topicSearch
  · have hlt : topicSearch.idxOf slash < topicSearch.length := List.idxOf_lt_length_iff.mpr h
    have hsplit : topicSearch = topicSearch.take (topicSearch.idxOf slash) ++
        slash :: topicSearch.drop (topicSearch.idxOf slash + 1) := by
      conv_lhs => rw [← List.take_append_drop (topicSearch.idxOf slash) topicSearch,
        List.drop_eq_getElem_cons hlt, List.getElem_idxOf]
    have hnot : slash ∉ topicSearch.take (topicSearch.idxOf slash) := by
      intro hmem
      have hidx : topicSearch.idxOf slash =
          (topicSearch.take (topicSearch.idxOf slash)).idxOf slash := by
        conv_lhs => rw [hsplit, List.idxOf_append, if_pos hmem]
      have hlt' := List.idxOf_lt_length_iff.mpr hmem
      rw [← hidx, List.length_take] at hlt'
      omega
    simp only [hlt, ↓reduceIte]
    conv_lhs => rw [hsplit]
    exact List.splitOn_append_cons_self_of_not_mem hnot _
  · have hge : ¬ topicSearch.idxOf slash < topicSearch.length := by
      rw [List.idxOf_lt_length_iff]
      exact h
    simp only [hge, ↓reduceIte]
    exact List.splitOn_eq_singleton h

/-- No level of a topic contains a slash. -/
theorem slash_not_mem_levels (topic : Str) : ∀ l ∈ levels topic, slash ∉ l := by
  unfold levels
  induction topic with
  | nil => simp
  | cons c cs ih =>
      intro l hl
      rw [List.splitOn_cons_eq_if_modifyHead] at hl
      by_cases hc : (c == slash) = true
      · rw [if_pos hc] at hl
        rcases List.mem_cons.mp hl with rfl | hl
        · exact List.not_mem_nil
        · exact ih l hl
      · rw [if_neg hc] at hl
        obtain ⟨x, xs, hx⟩ := List.exists_cons_of_ne_nil (List.splitOn_ne_nil slash cs)
        rw [hx, List.modifyHead_cons] at hl
        rw [hx] at ih
        rcases List.mem_cons.mp hl with rfl | hl
        · have hxn := ih x List.mem_cons_self
          have hcs : slash ≠ c := fun h => hc (by simp [h])
          simp [hcs, hxn]
        · exact ih l (List.mem_cons_of_mem x hl)

/-! ## the reference matcher -/

/-- A topic name is free of wildcards when none of its levels is `+` or `#`. -/
def WildcardFree (topic : List Str) : Prop := ∀ l ∈ topic, l ≠ plus ∧ l ≠ hash

instance (topic : List Str) : Decidable (WildcardFree topic) :=
  inferInstanceAs (Decidable (∀ l ∈ topic, l ≠ plus ∧ l ≠ hash))

/-- Level-wise matching of a filter against a topic: a level matches itself,
`+` matches any one level, a final `#` matches one or more remaining levels,
and apart from that the lengths agree. -/
def levelsMatch : List Str → List Str → Bool
  | [], [] => true
  | [], _ :: _ => false
  | _ :: _, [] => false
  | f :: fs, t :: ts => (f == hash && fs.isEmpty) || ((f == t || f == plus) && levelsMatch fs ts)

end TrueMqtt
