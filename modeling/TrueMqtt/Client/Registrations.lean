import TrueMqtt.Client.Delivery

/-!
# TrueMqtt.Client.Registrations

How often a message invokes the callbacks of one filter: as often as the search
looks up its path (`invokes_iff`).

Against the matching of MQTT 3.1.1, section 4.7, this is never for a filter with
more levels than the topic, which is what a final `#` that stands for no level
has (`delivered_iff`).  It is more than once where two branches of the search
coincide, since a level of the topic is itself a wildcard (`called_once_iff`).
-/

namespace TrueMqtt

open Subscriptions

variable {C : Type}

/-! ## counting the lookups of a path -/

/-- Two branches of the search coincide on the way to a path. -/
def Coincides : List Str → List Str → Prop
  | [f], t :: _ => f = t ∧ (f = plus ∨ f = hash)
  | f :: g :: fs, t :: ts => (f = plus ∧ t = plus) ∨ Coincides (g :: fs) ts
  | _, _ => False

theorem count_map_cons (key f : Str) (fs : List Str) (l : List (List Str)) :
    (l.map (key :: ·)).count (f :: fs) = if f = key then l.count fs else 0 := by
  by_cases hf : f = key
  · rw [if_pos hf, hf]
    exact List.count_map_of_injective l (key :: ·) (List.cons_injective) fs
  · rw [if_neg hf]
    refine List.count_eq_zero_of_not_mem fun hmem => ?_
    obtain ⟨p, -, hp⟩ := List.mem_map.mp hmem
    exact hf (List.cons.inj hp).1.symm

theorem count_visits_singleton (f t : Str) (ts : List Str) :
    (visits (t :: ts)).count [f] =
      (if f = t then 1 else 0) + (if f = plus then 1 else 0) + (if f = hash then 1 else 0) := by
  have hnil : (visits ts).count [] = 0 := List.count_eq_zero_of_not_mem (nil_not_mem_visits ts)
  rw [visits, List.count_append, List.count_append, List.count_cons, List.count_cons,
    count_map_cons, count_map_cons, hnil, List.count_singleton]
  grind

theorem count_visits_cons_cons (f g t : Str) (fs ts : List Str) :
    (visits (t :: ts)).count (f :: g :: fs) =
      (if f = t then (visits ts).count (g :: fs) else 0) +
        (if f = plus then (visits ts).count (g :: fs) else 0) := by
  rw [visits, List.count_append, List.count_append, List.count_cons, List.count_cons,
    count_map_cons, count_map_cons]
  simp

/-- **The lookups of a path**: a path is looked up twice or more where branches of
the search coincide. -/
theorem one_lt_count_visits {p ts : List Str} :
    1 < (visits ts).count p ↔ p ∈ visits ts ∧ Coincides p ts := by
  rw [← List.count_pos_iff]
  induction ts generalizing p with
  | nil => simp [visits]
  | cons t ts ih =>
      cases p with
      | nil => simp [List.count_eq_zero_of_not_mem (nil_not_mem_visits (t :: ts))]
      | cons f fs =>
          cases fs with
          | nil =>
              have hne := plus_ne_hash
              rw [count_visits_singleton, Coincides]
              grind
          | cons g fs =>
              have hrest := @ih (g :: fs)
              rw [count_visits_cons_cons, Coincides]
              generalize (visits ts).count (g :: fs) = c at hrest ⊢
              by_cases ht : f = t <;> by_cases hp : f = plus
              · subst ht hp
                simp
                omega
              · grind
              · grind
              · grind

/-! ## topic matching -/

/-- The levels of a filter match those of a topic as in MQTT 3.1.1, section 4.7: as
`levelsMatch`, except that a final `#` matches no level as well. -/
def mqttLevelsMatch : List Str → List Str → Bool
  | [], [] => true
  | [], _ :: _ => false
  | f :: fs, [] => f == hash && fs.isEmpty
  | f :: fs, t :: ts =>
      (f == hash && fs.isEmpty) || ((f == t || f == plus) && mqttLevelsMatch fs ts)

/-- A filter matches a topic as in MQTT 3.1.1, section 4.7: one that begins with a
wildcard does not match a topic that begins with `$`. -/
def MqttMatches (f topic : Str) : Prop :=
  mqttLevelsMatch (levels f) (levels topic) = true ∧
    ¬ (topic.head? = some 0x24 ∧ (f.head? = some 0x2B ∨ f.head? = some 0x23))

instance (f topic : Str) : Decidable (MqttMatches f topic) := by
  unfold MqttMatches
  infer_instance

/-- A topic filter: `+` and `#` stand alone in their levels, `#` in the last one. -/
def ValidFilter (f : Str) : Prop :=
  f ≠ [] ∧ (∀ l ∈ levels f, 0x2B ∈ l → l = plus) ∧ (∀ l ∈ levels f, 0x23 ∈ l → l = hash) ∧
    hash ∉ (levels f).dropLast

instance (f : Str) : Decidable (ValidFilter f) := by
  unfold ValidFilter
  infer_instance

/-- A topic name: no wildcard characters, and not one of the server's own topics. -/
def TopicName (topic : Str) : Prop :=
  topic ≠ [] ∧ 0x2B ∉ topic ∧ 0x23 ∉ topic ∧ topic.head? ≠ some 0x24

instance (topic : Str) : Decidable (TopicName topic) := by
  unfold TopicName
  infer_instance

theorem length_le_of_levelsMatch {fs ts : List Str} (h : levelsMatch fs ts = true) :
    fs.length ≤ ts.length := by
  induction fs generalizing ts with
  | nil => exact Nat.zero_le _
  | cons f fs ih =>
      cases ts with
      | nil => simp [levelsMatch] at h
      | cons t ts =>
          simp only [levelsMatch, Bool.or_eq_true, Bool.and_eq_true, List.isEmpty_iff] at h
          obtain ⟨-, rfl⟩ | ⟨-, hrest⟩ := h
          · simp
          · simpa using ih hrest

/-- A match that the reference matcher lacks is one of a filter with more levels. -/
theorem levelsMatch_of_mqttLevelsMatch {fs ts : List Str} (h : mqttLevelsMatch fs ts = true) :
    levelsMatch fs ts = true ↔ fs.length ≤ ts.length := by
  refine ⟨length_le_of_levelsMatch, fun hle => ?_⟩
  induction fs generalizing ts with
  | nil =>
      cases ts with
      | nil => rfl
      | cons t ts => simp [mqttLevelsMatch] at h
  | cons f fs ih =>
      cases ts with
      | nil => simp at hle
      | cons t ts =>
          simp only [mqttLevelsMatch, levelsMatch, Bool.or_eq_true, Bool.and_eq_true] at h ⊢
          refine h.imp_right (And.imp_right fun hrest => ?_)
          exact ih hrest (by simpa using hle)

/-- The search visits no filter with more levels than the topic. -/
theorem length_le_of_mem_visited {f topic : Str} (h : f ∈ visited topic) :
    (levels f).length ≤ (levels topic).length := by
  obtain hmatch | ⟨-, k, -, hlt, hmatch⟩ := mem_visited.mp h
  · exact length_le_of_levelsMatch hmatch
  · have hle := length_le_of_levelsMatch hmatch
    rw [List.length_take] at hle
    omega

/-- Of the filters that match a topic, the search visits those that have no more
levels than it. -/
theorem mem_visited_iff_length_le {f topic : Str} (h : MqttMatches f topic) :
    f ∈ visited topic ↔ (levels f).length ≤ (levels topic).length :=
  ⟨length_le_of_mem_visited,
    fun hle => mem_visited.mpr (.inl ((levelsMatch_of_mqttLevelsMatch h.1).mpr hle))⟩

/-! ## the invocations of one filter -/

/-- What a list of filters invokes, with the callbacks of one filter told apart. -/
theorem coe_flatMap_eq_count_nsmul_add (registered : Str → List C) (f : Str) (fs : List Str) :
    ((fs.flatMap registered : List C) : Multiset C) =
      fs.count f • (registered f : Multiset C) +
        (fs.flatMap fun g => if g = f then [] else registered g : List C) := by
  induction fs with
  | nil => simp
  | cons g fs ih =>
      rw [List.flatMap_cons, List.flatMap_cons, ← Multiset.coe_add, ← Multiset.coe_add, ih]
      by_cases hg : g = f
      · subst hg
        rw [List.count_cons_self, if_pos rfl, succ_nsmul', Multiset.coe_nil, zero_add, add_assoc]
      · rw [List.count_cons_of_ne hg, if_neg hg]
        exact add_left_comm _ _ _

/-- A message invokes the callbacks of a filter `n` times: what it invokes is what
it would without the filter's subscription, and `n` times these. -/
def Impl.Invokes (i : Impl C) (n : Nat) (f topic message : Str) : Prop :=
  ∃ i', i.removeSubscription f = some i' ∧
    (i.messageReceived topic message : Multiset (C × Str × Str)) =
      n • (((i.callbacksOf f).map (·, topic, message) : List (C × Str × Str)) :
        Multiset (C × Str × Str)) + i'.messageReceived topic message

/-- The filters the search visits, counted as paths. -/
theorem count_map_joinLevels (f : Str) {l : List (List Str)}
    (hl : ∀ p ∈ l, levels (joinLevels p) = p) :
    (l.map joinLevels).count f = l.count (levels f) := by
  induction l with
  | nil => rfl
  | cons p l ih =>
      have hp : joinLevels p = f ↔ p = levels f := by
        rw [← levels_inj, hl p List.mem_cons_self]
      rw [List.map_cons, List.count_cons, List.count_cons,
        ih fun q hq => hl q (List.mem_cons_of_mem p hq)]
      simp [hp]

theorem count_visited (f topic : Str) :
    (visited topic).count f = (visits (levels topic)).count (levels f) :=
  count_map_joinLevels f fun _ hp => levels_joinLevels_of_mem_visits hp

namespace Client

variable {i : Impl C} {f : Str}

/-- **The invocations of a filter**: its callbacks run once for each lookup of its
path. -/
theorem invokes_iff (hf : i.callbacksOf f ≠ []) {n : Nat} (topic message : Str) :
    i.Invokes n f topic message ↔
      n = if i.state = .connected then (visited topic).count f else 0 := by
  have hsome : (i.removeSubscription f).isSome := by
    rw [Impl.removeSubscription, Option.isSome_map, isSome_unsubscribe]
    exact isSome_nodeAt hf
  obtain ⟨i', hi'⟩ := Option.isSome_iff_exists.mp hsome
  have hstate : i'.state = i.state := state_removeSubscription hi'
  -- without its subscription the filter has no callbacks left to run
  have hinvoked : (i.messageReceived topic message : Multiset (C × Str × Str)) =
      (if i.state = .connected then (visited topic).count f else 0) •
        (((i.callbacksOf f).map (·, topic, message) : List (C × Str × Str)) :
          Multiset (C × Str × Str)) + i'.messageReceived topic message := by
    by_cases hconn : i.state = .connected
    · rw [messageReceived_eq_flatMap hconn, messageReceived_eq_flatMap (hstate.trans hconn),
        if_pos hconn, coe_flatMap_eq_count_nsmul_add _ f]
      congr 2
      refine List.flatMap_congr fun g _ => ?_
      rw [Impl.callbacksOf_removeSubscription hi']
      split <;> rfl
    · rw [if_neg hconn, zero_nsmul, zero_add, Impl.messageReceived, Impl.messageReceived,
        if_pos hconn, if_pos (by rwa [hstate])]
  constructor
  · rintro ⟨j, hj, hn⟩
    cases hi'.symm.trans hj
    have hcard := congrArg Multiset.card (add_right_cancel (hn.symm.trans hinvoked))
    rw [Multiset.card_nsmul, Multiset.card_nsmul, Multiset.coe_card, List.length_map] at hcard
    exact Nat.eq_of_mul_eq_mul_right (List.length_pos_iff.mpr hf) hcard
  · rintro rfl
    exact ⟨i', hi', hinvoked⟩

/-! ## delivery -/

/-- **Delivery**: a message on a topic that a filter matches reaches the filter's
callbacks if and only if the filter has no more levels than the topic. -/
theorem delivered_iff (hconn : i.state = .connected) (hf : i.callbacksOf f ≠ []) {topic : Str}
    (hmatch : MqttMatches f topic) (message : Str) :
    (∃ n, 0 < n ∧ i.Invokes n f topic message) ↔
      (levels f).length ≤ (levels topic).length := by
  simp only [invokes_iff hf, if_pos hconn]
  rw [← mem_visited_iff_length_le hmatch, ← List.count_pos_iff]
  constructor
  · rintro ⟨n, hn, rfl⟩
    exact hn
  · intro hpos
    exact ⟨_, hpos, rfl⟩

/-- A message on `a/b` reaches the callback of `a/#`. -/
theorem delivered_below_parent :
    (∃ n, 0 < n ∧ ((fresh Nat).subscribe [97, 47, 35] 0 true).impl.Invokes n [97, 47, 35]
      [97, 47, 98] []) ↔ (levels [97, 47, 35]).length ≤ (levels [97, 47, 98]).length :=
  delivered_iff rfl (by decide) (by decide) []

/-- A message on `a` does not reach the callback of `a/#`. -/
theorem parent_not_delivered :
    ∃ c : Client Nat, c.Reachable ∧ c.impl.state = .connected ∧
      c.impl.callbacksOf [97, 47, 35] = [0] ∧ ValidFilter [97, 47, 35] ∧ TopicName [97] ∧
      MqttMatches [97, 47, 35] [97] ∧ c.impl.messageReceived [97] [] = [] ∧
      ¬ ∃ n, 0 < n ∧ c.impl.Invokes n [97, 47, 35] [97] [] := by
  refine ⟨_, ⟨[.connect, .connectionUp [], .subscribe [97, 47, 35] 0 true],
    Run.cons rfl (Run.cons rfl (Run.cons rfl .nil))⟩, rfl, rfl, by decide, by decide, by decide,
    rfl, ?_⟩
  rintro ⟨n, hn, hinvokes⟩
  have hcount : n = 0 := ((invokes_iff (by decide) [97] []).mp hinvokes).trans (by decide)
  omega

/-! ## at most once -/

/-- **At most once**: a message invokes every registered callback at most once for
each registration if and only if, while the client is connected, no branches of the
search coincide on the way to a filter that has callbacks and is visited. -/
theorem called_once_iff (i : Impl C) (topic message : Str) :
    (∀ f, i.callbacksOf f ≠ [] → ∃ n ≤ 1, i.Invokes n f topic message) ↔
      (i.state = .connected → ∀ f, i.callbacksOf f ≠ [] →
        FilterMatches f topic ∨ Overreaches f topic →
          ¬ Coincides (levels f) (levels topic)) := by
  have hvisit : ∀ f, FilterMatches f topic ∨ Overreaches f topic ↔
      levels f ∈ visits (levels topic) := by
    intro f
    rw [← mem_visited, ← List.count_pos_iff, count_visited, List.count_pos_iff]
  constructor
  · intro honce hconn f hf hvisited hcoincides
    obtain ⟨n, hn, hinvokes⟩ := honce f hf
    have hcount := (invokes_iff hf topic message).mp hinvokes
    rw [if_pos hconn, count_visited] at hcount
    have htwice := one_lt_count_visits.mpr ⟨(hvisit f).mp hvisited, hcoincides⟩
    omega
  · intro hno f hf
    refine ⟨_, ?_, (invokes_iff hf topic message).mpr rfl⟩
    by_cases hconn : i.state = .connected
    · rw [if_pos hconn, count_visited]
      by_contra htwice
      obtain ⟨hmem, hcoincides⟩ := one_lt_count_visits.mp (not_le.mp htwice)
      exact hno hconn f hf ((hvisit f).mpr hmem) hcoincides
    · rw [if_neg hconn]
      exact Nat.zero_le 1

/-- With `+` subscribed, a message on the topic `+` runs the callback twice. -/
theorem called_twice_on_plus :
    ∃ c : Client Nat, c.Reachable ∧ c.impl.callbacksOf plus = [0] ∧
      c.impl.messageReceived plus [] = [(0, plus, []), (0, plus, [])] ∧
      ¬ ∃ n ≤ 1, c.impl.Invokes n plus plus [] := by
  refine ⟨_, ⟨[.connect, .connectionUp [], .subscribe plus 0 true],
    Run.cons rfl (Run.cons rfl (Run.cons rfl .nil))⟩, rfl, rfl, ?_⟩
  rintro ⟨n, hn, hinvokes⟩
  have hcount : n = 2 := ((invokes_iff (by decide) plus []).mp hinvokes).trans (by decide)
  omega

end Client

end TrueMqtt
