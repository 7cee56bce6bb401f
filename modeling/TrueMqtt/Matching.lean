import Mathlib.Algebra.BigOperators.Group.Finset.Basic
import Mathlib.Algebra.Order.BigOperators.Group.Finset
import Mathlib.Algebra.Order.Group.Multiset
import Mathlib.Data.Multiset.Basic
import TrueMqtt.Subscriptions

/-!
# TrueMqtt.Matching

What a search of the subscription tree invokes, in terms of filters.

The search goes through a list of paths that depends on the topic alone
(`visits`); the tree only decides which of them hold callbacks
(`findSubscriptionMatch_eq_flatMap`).  Read as filters, those paths are exactly
the ones that match *some leading part* of the topic (`mem_visited`), while a
filter should be served only by a topic it matches as a whole.  The gap between
the two is `Overreaches`, and `deliversExactly_iff` says that it is the only
way a search departs from the reference matcher.
-/

namespace TrueMqtt

open Subscriptions

variable {C : Type}

/-! ## the visited paths -/

/-- The paths a search for the given levels looks up, in order. -/
def visits : List Str → List (List Str)
  | [] => []
  | t :: ts =>
      ([t] :: (visits ts).map (t :: ·)) ++ ([plus] :: (visits ts).map (plus :: ·)) ++ [[hash]]

theorem nil_not_mem_visits (ts : List Str) : [] ∉ visits ts := by
  cases ts <;> simp [visits]

/-- The search below one key reads the callbacks of the paths through that key. -/
theorem flatMap_callbacksAt_key (key : Str) (rest : List Str) (m : Subscriptions C)
    (ih : ∀ m : Subscriptions C,
      findSubscriptionMatch rest m = (visits rest).flatMap (callbacksAt · m)) :
    (match m.lookup key with
      | none => []
      | some n => n.callbacks ++
          (if rest.isEmpty then [] else findSubscriptionMatch rest n.children)) =
      ([key] :: (visits rest).map (key :: ·)).flatMap (callbacksAt · m) := by
  have hpath : ∀ p ∈ visits rest,
      callbacksAt (key :: p) m = callbacksAt p (tryEmplace key m).children := by
    intro p hp
    cases p with
    | nil => exact absurd hp (nil_not_mem_visits rest)
    | cons q p => exact callbacksAt_cons_cons key q p m
  rw [List.flatMap_cons, List.flatMap_map, callbacksAt_singleton,
    List.flatMap_congr hpath, ← ih]
  cases h : m.lookup key with
  | none =>
      simp only [tryEmplace, h, Option.getD_none, SubscriptionPart.empty,
        SubscriptionPart.callbacks_mk, SubscriptionPart.children_mk, List.nil_append]
      rw [ih]
      simp
  | some n =>
      simp only [tryEmplace, h, Option.getD_some]
      cases rest with
      | nil => simp [findSubscriptionMatch]
      | cons t ts => simp

/-- **The search as a walk over paths**: `findSubscriptionMatch` invokes the
callbacks of the visited paths, one path after the other. -/
theorem findSubscriptionMatch_eq_flatMap (ts : List Str) (m : Subscriptions C) :
    findSubscriptionMatch ts m = (visits ts).flatMap (callbacksAt · m) := by
  induction ts generalizing m with
  | nil => rfl
  | cons t ts ih =>
      rw [visits, List.flatMap_append, List.flatMap_append, List.flatMap_singleton,
        ← flatMap_callbacksAt_key t ts m ih, ← flatMap_callbacksAt_key plus ts m ih]
      rfl

/-- The visited paths are those that match a non-empty leading part of the topic. -/
theorem mem_visits {p ts : List Str} :
    p ∈ visits ts ↔ ∃ k, 0 < k ∧ k ≤ ts.length ∧ levelsMatch p (ts.take k) = true := by
  induction ts generalizing p with
  | nil => simp [visits]
  | cons t ts ih =>
      constructor
      · intro h
        simp only [visits, List.mem_append, List.mem_cons, List.mem_map, List.not_mem_nil,
          or_false] at h
        rcases h with ((rfl | ⟨q, hq, rfl⟩) | (rfl | ⟨q, hq, rfl⟩)) | rfl
        · exact ⟨1, by simp, by simp, by simp [levelsMatch]⟩
        · obtain ⟨k, hk, hle, hmatch⟩ := ih.mp hq
          exact ⟨k + 1, by simp, by simpa using hle, by simp [levelsMatch, hmatch]⟩
        · exact ⟨1, by simp, by simp, by simp [levelsMatch]⟩
        · obtain ⟨k, hk, hle, hmatch⟩ := ih.mp hq
          exact ⟨k + 1, by simp, by simpa using hle, by simp [levelsMatch, hmatch]⟩
        · exact ⟨1, by simp, by simp, by simp [levelsMatch]⟩
      · rintro ⟨k, hk, hle, hmatch⟩
        obtain ⟨k, rfl⟩ := Nat.exists_eq_succ_of_ne_zero (Nat.pos_iff_ne_zero.mp hk)
        cases p with
        | nil => simp [levelsMatch] at hmatch
        | cons f fs =>
            simp only [List.take_succ_cons, levelsMatch, Bool.or_eq_true, Bool.and_eq_true,
              beq_iff_eq, List.isEmpty_iff] at hmatch
            -- below the first level the rest is a visited path, unless it ends here
            have hrest : levelsMatch fs (ts.take k) = true → fs = [] ∨ fs ∈ visits ts := by
              intro hfs
              cases fs with
              | nil => exact Or.inl rfl
              | cons g gs =>
                  refine Or.inr (ih.mpr ⟨k, ?_, by simpa using hle, hfs⟩)
                  cases k with
                  | zero => simp [levelsMatch] at hfs
                  | succ k => simp
            simp only [visits, List.mem_append, List.mem_cons, List.mem_map, List.not_mem_nil,
              or_false]
            rcases hmatch with ⟨rfl, rfl⟩ | ⟨rfl | rfl, hfs⟩
            · exact Or.inr rfl
            · rcases hrest hfs with rfl | hmem
              · exact Or.inl (Or.inl (Or.inl rfl))
              · exact Or.inl (Or.inl (Or.inr ⟨fs, hmem, rfl⟩))
            · rcases hrest hfs with rfl | hmem
              · exact Or.inl (Or.inr (Or.inl rfl))
              · exact Or.inl (Or.inr (Or.inr ⟨fs, hmem, rfl⟩))

/-- Without wildcards in the topic the branches of the search are disjoint, and
no path is looked up twice. -/
theorem nodup_visits {ts : List Str} (h : WildcardFree ts) : (visits ts).Nodup := by
  induction ts with
  | nil => exact List.nodup_nil
  | cons t ts ih =>
      obtain ⟨htp, hth⟩ := h t List.mem_cons_self
      have ihn := ih fun l hl => h l (List.mem_cons_of_mem t hl)
      have hbranch : ∀ key : Str, ([key] :: (visits ts).map (key :: ·)).Nodup := by
        intro key
        refine List.nodup_cons.mpr ⟨?_, ihn.map fun a b hab => (List.cons.inj hab).2⟩
        simpa using nil_not_mem_visits ts
      have hhead : ∀ key : Str, ∀ p ∈ [key] :: (visits ts).map (key :: ·), p.head? = some key := by
        intro key p hp
        rcases List.mem_cons.mp hp with rfl | hp
        · rfl
        · obtain ⟨q, -, rfl⟩ := List.mem_map.mp hp
          rfl
      refine List.Nodup.append (List.Nodup.append (hbranch t) (hbranch plus) ?_) (by simp) ?_
      · intro p hp hq
        have := (hhead t p hp).symm.trans (hhead plus p hq)
        exact htp (Option.some.inj this)
      · intro p hp hq
        rw [List.mem_singleton] at hq
        subst hq
        rcases List.mem_append.mp hp with hp | hp
        · exact hth (Option.some.inj (hhead t _ hp)).symm
        · exact plus_ne_hash (Option.some.inj (hhead plus _ hp)).symm

/-! ## the visited filters -/

/-- A filter matches a topic. -/
def FilterMatches (f topic : Str) : Prop := levelsMatch (levels f) (levels topic) = true

instance (f topic : Str) : Decidable (FilterMatches f topic) :=
  inferInstanceAs (Decidable (_ = true))

/-- A filter that does not match the topic, but does match a proper non-empty
leading part of its levels. -/
def Overreaches (f topic : Str) : Prop :=
  ¬ FilterMatches f topic ∧ ∃ k, 0 < k ∧ k < (levels topic).length ∧
    levelsMatch (levels f) ((levels topic).take k) = true

/-- The filters whose nodes a search for the topic visits. -/
def visited (topic : Str) : List Str := (visits (levels topic)).map joinLevels

/-- Visited paths are made of levels of the topic and of wildcards. -/
theorem slash_not_mem_visits {ts : List Str} (hts : ∀ l ∈ ts, slash ∉ l) :
    ∀ p ∈ visits ts, ∀ l ∈ p, slash ∉ l := by
  induction ts with
  | nil => simp [visits]
  | cons t ts ih =>
      have hsub : ∀ p ∈ visits ts, ∀ l ∈ p, slash ∉ l :=
        ih fun l hl => hts l (List.mem_cons_of_mem t hl)
      have ht : slash ∉ t := hts t List.mem_cons_self
      have hp : slash ∉ plus := by decide
      have hh : slash ∉ hash := by decide
      intro p hmem l hl
      simp only [visits, List.mem_append, List.mem_cons, List.mem_map, List.not_mem_nil,
        or_false] at hmem
      rcases hmem with ((rfl | ⟨q, hq, rfl⟩) | (rfl | ⟨q, hq, rfl⟩)) | rfl
      · rwa [List.mem_singleton.mp hl]
      · rcases List.mem_cons.mp hl with rfl | hl
        · exact ht
        · exact hsub q hq l hl
      · rwa [List.mem_singleton.mp hl]
      · rcases List.mem_cons.mp hl with rfl | hl
        · exact hp
        · exact hsub q hq l hl
      · rwa [List.mem_singleton.mp hl]

/-- A visited path is the levels of the filter it spells. -/
theorem levels_joinLevels_of_mem_visits {topic : Str} {p : List Str}
    (hp : p ∈ visits (levels topic)) : levels (joinLevels p) = p := by
  refine levels_joinLevels ?_ (slash_not_mem_visits (slash_not_mem_levels topic) p hp)
  rintro rfl
  exact nil_not_mem_visits _ hp

theorem findSubscriptionMatch_eq_visited (topic : Str) (m : Subscriptions C) :
    findSubscriptionMatch (levels topic) m =
      (visited topic).flatMap fun f => callbacksAt (levels f) m := by
  rw [findSubscriptionMatch_eq_flatMap, visited, List.flatMap_map]
  refine List.flatMap_congr fun p hp => ?_
  rw [levels_joinLevels_of_mem_visits hp]

theorem mem_visited {f topic : Str} :
    f ∈ visited topic ↔ FilterMatches f topic ∨ Overreaches f topic := by
  have hvisit : f ∈ visited topic ↔ levels f ∈ visits (levels topic) := by
    constructor
    · intro h
      obtain ⟨p, hp, rfl⟩ := List.mem_map.mp h
      rwa [levels_joinLevels_of_mem_visits hp]
    · intro h
      exact List.mem_map.mpr ⟨levels f, h, joinLevels_levels f⟩
  rw [hvisit, mem_visits]
  constructor
  · rintro ⟨k, hk, hle, hmatch⟩
    by_cases hf : FilterMatches f topic
    · exact Or.inl hf
    · refine Or.inr ⟨hf, k, hk, lt_of_le_of_ne hle ?_, hmatch⟩
      rintro rfl
      exact hf (by rwa [List.take_length] at hmatch)
  · rintro (h | ⟨-, k, hk, hlt, hmatch⟩)
    · refine ⟨(levels topic).length, ?_, le_rfl, by rwa [List.take_length]⟩
      exact List.length_pos_iff.mpr (levels_ne_nil topic)
    · exact ⟨k, hk, hlt.le, hmatch⟩

theorem nodup_visited {topic : Str} (h : WildcardFree (levels topic)) : (visited topic).Nodup := by
  refine (nodup_visits h).map_on fun p hp q hq hpq => ?_
  rw [← levels_joinLevels_of_mem_visits hp, hpq, levels_joinLevels_of_mem_visits hq]

/-! ## the reference delivery -/

/-- The callbacks a topic is due, as a multiset: those of every filter that
matches it.  `registered` gives the callbacks of a filter, `filters` contains
every filter that has any. -/
def expected (registered : Str → List C) (filters : Finset Str) (topic : Str) : Multiset C :=
  ∑ f ∈ filters.filter (FilterMatches · topic), (registered f : Multiset C)

/-- A list of invocations serves the topic exactly: as a multiset it is what the
topic is due, and it is made of whole filters, each with its callbacks in the
order they were registered. -/
def DeliversExactly (registered : Str → List C) (filters : Finset Str) (topic : Str)
    (invoked : List C) : Prop :=
  (invoked : Multiset C) = expected registered filters topic ∧
    ∃ fs : List Str, fs.Nodup ∧ (∀ f, f ∈ fs ↔ registered f ≠ [] ∧ FilterMatches f topic) ∧
      invoked = fs.flatMap registered

/-- A concatenation over distinct filters is a sum of multisets. -/
theorem coe_flatMap_eq_sum (registered : Str → List C) {fs : List Str} (h : fs.Nodup) :
    ((fs.flatMap registered : List C) : Multiset C) =
      ∑ f ∈ fs.toFinset, (registered f : Multiset C) := by
  induction fs with
  | nil => rfl
  | cons f fs ih =>
      obtain ⟨hnot, hfs⟩ := List.nodup_cons.mp h
      rw [List.flatMap_cons, ← Multiset.coe_add, ih hfs, List.toFinset_cons,
        Finset.sum_insert (by simpa using hnot)]

/-- What the topic is due, summed over the visited filters. -/
theorem expected_eq_sum_visited (registered : Str → List C) {filters : Finset Str}
    (hfilters : ∀ f, registered f ≠ [] → f ∈ filters) (topic : Str) :
    expected registered filters topic =
      ∑ f ∈ (visited topic).toFinset.filter (FilterMatches · topic),
        (registered f : Multiset C) := by
  have hvis : ∀ f, FilterMatches f topic → f ∈ (visited topic).toFinset := fun f hf =>
    List.mem_toFinset.mpr (mem_visited.mpr (Or.inl hf))
  have hzero : ∀ s : Finset Str, ∑ f ∈ s.filter (FilterMatches · topic), (registered f : Multiset C)
      = ∑ f ∈ (s.filter (FilterMatches · topic)).filter (registered · ≠ []),
          (registered f : Multiset C) := by
    intro s
    refine (Finset.sum_filter_of_ne fun f _ hne => ?_).symm
    simpa using hne
  rw [expected, hzero, hzero]
  refine Finset.sum_congr ?_ fun _ _ => rfl
  ext f
  simp only [Finset.mem_filter]
  constructor
  · rintro ⟨⟨-, hm⟩, hr⟩
    exact ⟨⟨hvis f hm, hm⟩, hr⟩
  · rintro ⟨⟨-, hm⟩, hr⟩
    exact ⟨⟨hfilters f hr, hm⟩, hr⟩

/-- Dropping the filters without callbacks does not change a concatenation. -/
theorem flatMap_filter_ne_nil (registered : Str → List C) (fs : List Str) :
    (fs.filter fun f => !(registered f).isEmpty).flatMap registered = fs.flatMap registered := by
  induction fs with
  | nil => rfl
  | cons f fs ih =>
      by_cases h : registered f = []
      · rw [List.filter_cons_of_neg (by simp [h]), List.flatMap_cons, ih, h, List.nil_append]
      · rw [List.filter_cons_of_pos (by simp [h]), List.flatMap_cons, List.flatMap_cons, ih]

/-- **Exactness of a search**: on a wildcard-free topic the visited filters
deliver exactly what the topic is due if and only if no filter with a callback
overreaches. -/
theorem deliversExactly_iff (registered : Str → List C) {filters : Finset Str}
    (hfilters : ∀ f, registered f ≠ [] → f ∈ filters) {topic : Str}
    (hw : WildcardFree (levels topic)) :
    DeliversExactly registered filters topic ((visited topic).flatMap registered) ↔
      ∀ f, registered f ≠ [] → ¬ Overreaches f topic := by
  constructor
  · rintro ⟨hms, -⟩ f hr hover
    have hmem : f ∈ visited topic := mem_visited.mpr (Or.inr hover)
    rw [coe_flatMap_eq_sum registered (nodup_visited hw),
      expected_eq_sum_visited registered hfilters,
      ← Finset.sum_filter_add_sum_filter_not _ (FilterMatches · topic)] at hms
    have hzero := add_eq_left.mp hms
    rw [Finset.sum_eq_zero_iff] at hzero
    exact hr (by simpa using hzero f (Finset.mem_filter.mpr
      ⟨List.mem_toFinset.mpr hmem, hover.1⟩))
  · intro hno
    have hmatch : ∀ f ∈ visited topic, registered f ≠ [] → FilterMatches f topic := by
      intro f hf hr
      rcases mem_visited.mp hf with h | h
      · exact h
      · exact absurd h (hno f hr)
    constructor
    · rw [coe_flatMap_eq_sum registered (nodup_visited hw),
        expected_eq_sum_visited registered hfilters, Finset.sum_filter_of_ne]
      intro f hf hne
      exact hmatch f (List.mem_toFinset.mp hf) (by simpa using hne)
    · refine ⟨(visited topic).filter fun f => !(registered f).isEmpty,
        (nodup_visited hw).filter _, fun f => ?_, (flatMap_filter_ne_nil registered _).symm⟩
      simp only [List.mem_filter, Bool.not_eq_eq_eq_not, Bool.not_true, List.isEmpty_eq_false_iff]
      constructor
      · rintro ⟨hf, hr⟩
        exact ⟨hr, hmatch f hf hr⟩
      · rintro ⟨hr, hm⟩
        exact ⟨mem_visited.mpr (Or.inl hm), hr⟩

end TrueMqtt
