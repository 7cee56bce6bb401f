import TrueMqtt.Client
import TrueMqtt.Matching

/-!
# TrueMqtt.Client.Agreement

The flat set of topics against the tree of callbacks, over whole runs of the
client.

The two structures agree when a topic is in the set exactly if its node in the
tree holds a callback.  `addSubscription` and `removeSubscription` keep them in
agreement; `Impl::disconnect` clears the tree and leaves the set alone, so it
keeps them in agreement only when the set is empty (`agrees_disconnect_iff`).
`Forgets` names the steps that run it on a set that stays non-empty, and
`step_agrees_iff` says that they are the only steps that break the agreement.
-/

namespace TrueMqtt

open Subscriptions

variable {C : Type}

/-! ## agreement of the two structures -/

namespace Impl

/-- The callbacks registered for a filter. -/
def callbacksOf (i : Impl C) (f : Str) : List C := callbacksAt (levels f) i.subscriptions

/-- A topic is in the flat set if and only if its path exists in the tree and the
node there holds at least one callback. -/
def Agrees (i : Impl C) : Prop :=
  ∀ t, t ∈ i.subscriptionTopics ↔
    ∃ n, nodeAt (levels t) i.subscriptions = some n ∧ n.callbacks ≠ []

theorem callbacksOf_ne_nil_iff (i : Impl C) (t : Str) :
    i.callbacksOf t ≠ [] ↔ ∃ n, nodeAt (levels t) i.subscriptions = some n ∧ n.callbacks ≠ [] := by
  unfold callbacksOf callbacksAt
  cases nodeAt (levels t) i.subscriptions <;> simp

theorem agrees_iff (i : Impl C) :
    i.Agrees ↔ ∀ t, t ∈ i.subscriptionTopics ↔ i.callbacksOf t ≠ [] := by
  unfold Agrees
  simp only [callbacksOf_ne_nil_iff]

theorem callbacksOf_addSubscription (i : Impl C) (topic : Str) (callback : C) (f : Str) :
    (i.addSubscription topic callback).callbacksOf f =
      i.callbacksOf f ++ if f = topic then [callback] else [] := by
  have h := callbacksAt_insert callback (levels_ne_nil topic) i.subscriptions (levels f)
  simp only [levels_inj] at h
  exact h

theorem callbacksOf_removeSubscription {i i' : Impl C} {topic : Str}
    (h : i.removeSubscription topic = some i') (f : Str) :
    i'.callbacksOf f = if f = topic then [] else i.callbacksOf f := by
  obtain ⟨subscriptions, hsub, rfl⟩ := Option.map_eq_some_iff.mp h
  have hcb := callbacksAt_unsubscribe hsub (levels f)
  simp only [levels_inj] at hcb
  exact hcb

theorem mem_topics_removeSubscription {i i' : Impl C} {topic : Str}
    (h : i.removeSubscription topic = some i') (t : Str) :
    t ∈ i'.subscriptionTopics ↔ t ∈ i.subscriptionTopics ∧ t ≠ topic := by
  obtain ⟨subscriptions, -, rfl⟩ := Option.map_eq_some_iff.mp h
  exact SortedSet.mem_erase

theorem agrees_addSubscription {i : Impl C} (h : i.Agrees) (topic : Str) (callback : C) :
    (i.addSubscription topic callback).Agrees := by
  rw [agrees_iff] at h ⊢
  intro t
  rw [callbacksOf_addSubscription]
  by_cases ht : t = topic
  · simp [addSubscription, ht]
  · simp [addSubscription, ht, h t]

theorem agrees_removeSubscription {i i' : Impl C} (h : i.Agrees) {topic : Str}
    (hrem : i.removeSubscription topic = some i') : i'.Agrees := by
  rw [agrees_iff] at h ⊢
  intro t
  rw [callbacksOf_removeSubscription hrem, mem_topics_removeSubscription hrem, h t]
  by_cases ht : t = topic
  · simp [ht]
  · simp [ht]

/-- Clearing the tree keeps the agreement exactly when there is no topic. -/
theorem agrees_disconnect_iff (i : Impl C) :
    i.disconnect.Agrees ↔ ∀ t, t ∉ i.subscriptionTopics := by
  rw [agrees_iff]
  simp [disconnect, callbacksOf]

/-- In agreement, the removal loops find every part of a subscribed topic. -/
theorem isSome_removeSubscription {i : Impl C} (h : i.Agrees) {topic : Str}
    (ht : topic ∈ i.subscriptionTopics) : (i.removeSubscription topic).isSome := by
  have hne : callbacksAt (levels topic) i.subscriptions ≠ [] := ((agrees_iff i).mp h topic).mp ht
  rw [removeSubscription, Option.isSome_map, isSome_unsubscribe]
  exact isSome_nodeAt hne

end Impl

namespace Client

/-! ## the client's steps and the two structures -/

/-- The subscription data of a state: what agreement is about. -/
def SameSubscriptions (i i' : Impl C) : Prop :=
  i'.subscriptions = i.subscriptions ∧ i'.subscriptionTopics = i.subscriptionTopics

theorem Agrees_congr {i i' : Impl C} (h : SameSubscriptions i i') : i'.Agrees ↔ i.Agrees := by
  unfold Impl.Agrees
  rw [h.1, h.2]

theorem state_removeSubscription {i i' : Impl C} {topic : Str}
    (h : i.removeSubscription topic = some i') : i'.state = i.state := by
  obtain ⟨subscriptions, rfl⟩ := Impl.removeSubscription_spec h
  rfl

/-- The events that are neither `disconnect`, `subscribe` nor `unsubscribe`. -/
def Quiet : Event C → Prop
  | .disconnect | .subscribe _ _ _ | .unsubscribe _ _ => False
  | _ => True

/-- A quiet step leaves both structures alone. -/
theorem sameSubscriptions_of_quiet {c c' : Client C} {e : Event C} (hq : Quiet e)
    (hstep : Steps c e c') : SameSubscriptions c.impl c'.impl := by
  cases move_of_step hstep with
  | disconnect hst => exact hq.elim
  | subscribe hst => exact hq.elim
  | unsubscribe hst hmem hi => exact hq.elim
  | toPublishQueue hst htq =>
      obtain ⟨-, rfl⟩ | ⟨-, q, -, rfl⟩ := Impl.toPublishQueue_spec htq <;> exact ⟨rfl, rfl⟩
  | connectionUp hc hi =>
      obtain ⟨id, rfl⟩ := Impl.resubscribe_spec hi
      exact ⟨rfl, rfl⟩
  | ignored h => exact ⟨rfl, rfl⟩
  | setPublishQueue hst => exact ⟨rfl, rfl⟩
  | setSendQueue hst => exact ⟨rfl, rfl⟩
  | connect hst => exact ⟨rfl, rfl⟩
  | connectionDown hc => exact ⟨rfl, rfl⟩

/-- A step that clears the tree while the flat set keeps a topic. -/
def Forgets (c : Client C) : Event C → Prop
  | .disconnect => c.impl.state ≠ .disconnected ∧ ∃ t, t ∈ c.impl.subscriptionTopics
  | .subscribe _ _ sent => c.impl.state = .connected ∧ sent = false
  | .unsubscribe topic sent => c.impl.state = .connected ∧ sent = false ∧
      topic ∈ c.impl.subscriptionTopics ∧ ∃ t, t ∈ c.impl.subscriptionTopics ∧ t ≠ topic
  | _ => False

/-- The send at the end of `subscribe` and `unsubscribe`, and its failure path. -/
theorem agrees_sendOrReconnect_iff {c : Client C} (h : c.impl.Agrees) (sent : Bool) :
    (c.sendOrReconnect sent).impl.Agrees ↔
      ¬ (c.impl.state = .connected ∧ sent = false ∧ ∃ t, t ∈ c.impl.subscriptionTopics) := by
  unfold sendOrReconnect
  by_cases hs : c.impl.state = .connected
  · rw [if_pos hs]
    cases sent with
    | true =>
        simp only [↓reduceIte, Bool.true_eq_false, false_and, and_false, not_false_eq_true,
          iff_true]
        exact h
    | false =>
        simp only [Bool.false_eq_true, ↓reduceIte, reconnect]
        rw [Impl.agrees_disconnect_iff]
        simp [Impl.takePacketId, hs]
  · rw [if_neg hs]
    simp [h, hs]

theorem not_forgets_of_ignores {c : Client C} {e : Event C} (h : c.Ignores e) :
    ¬ c.Forgets e := by
  cases e with
  | disconnect => exact fun hf => hf.1 h
  | subscribe topic callback sent =>
      have hst : c.impl.state = .disconnected := h
      simp [Forgets, hst]
  | unsubscribe topic sent =>
      rcases h with hst | hnot
      · simp [Forgets, hst]
      · simp [Forgets, hnot]
  | setPublishQueue _ _ | setSendQueue _ | connect | publish _ _ | connectionUp _
  | connectionDown => exact id

/-- **Step lemma**: from an agreeing state, a step keeps the agreement exactly
when it does not forget. -/
theorem step_agrees_iff {c c' : Client C} {e : Event C} (h : c.impl.Agrees)
    (hstep : Steps c e c') : c'.impl.Agrees ↔ ¬ c.Forgets e := by
  have hquiet : Quiet e → ¬ c.Forgets e → (c'.impl.Agrees ↔ ¬ c.Forgets e) := fun hq hf =>
    iff_of_true ((Agrees_congr (sameSubscriptions_of_quiet hq hstep)).mpr h) hf
  cases move_of_step hstep with
  | ignored hignored => exact iff_of_true h (not_forgets_of_ignores hignored)
  | disconnect hst =>
      rw [Impl.agrees_disconnect_iff]
      simp [Forgets, hst, setState]
  | @subscribe topic callback sent hst =>
      rw [agrees_sendOrReconnect_iff (Impl.agrees_addSubscription h topic callback)]
      have hmem : ∃ t, t ∈ (c.impl.addSubscription topic callback).subscriptionTopics :=
        ⟨topic, by simp [Impl.addSubscription]⟩
      simp only [hmem, and_true, Forgets]
      rfl
  | unsubscribe hst hmem hi =>
      have hstate := state_removeSubscription hi
      rw [agrees_sendOrReconnect_iff (Impl.agrees_removeSubscription h hi)]
      simp only [hstate, Impl.mem_topics_removeSubscription hi, Forgets, hmem, true_and]
  | setPublishQueue _ => exact hquiet trivial id
  | setSendQueue _ => exact hquiet trivial id
  | connect _ => exact hquiet trivial id
  | toPublishQueue _ _ => exact hquiet trivial id
  | connectionUp _ _ => exact hquiet trivial id
  | connectionDown _ => exact hquiet trivial id

theorem unsubscribe_ne_endDereferenced {c : Client C} (h : c.impl.Agrees) (topic : Str)
    (sent : Bool) : c.unsubscribe topic sent ≠ .error .endDereferenced := by
  unfold unsubscribe
  split
  · simp
  · split
    · simp
    · next hmem =>
        have hsome := Impl.isSome_removeSubscription h (not_not.mp hmem)
        obtain ⟨i, hi⟩ := Option.isSome_iff_exists.mp hsome
        simp [hi]

theorem agrees_init : (({} : Client C).impl).Agrees := by
  rw [Impl.agrees_iff]
  intro t
  exact ⟨fun h => absurd h (SortedSet.not_mem_empty t), fun h => absurd (callbacksAt_empty _) h⟩

/-- **Agreement over runs**: as long as no step of a run forgets, the flat set
and the tree agree and `unsubscribe` finds every part of a subscribed topic; and
the first step that forgets ends the agreement. -/
theorem subscriptions_agree {es : List (Event C)} {c : Client C}
    (h : Run (Guarded Steps fun c e => ¬ c.Forgets e) {} es c) :
    c.impl.Agrees ∧ (∀ topic sent, c.unsubscribe topic sent ≠ .error .endDereferenced) ∧
      ∀ e c', Steps c e c' → (c'.impl.Agrees ↔ ¬ c.Forgets e) := by
  have hagree : c.impl.Agrees := by
    refine Run.invariant (I := fun c : Client C => c.impl.Agrees) agrees_init ?_ h
    intro s e s' hs hstep
    exact (step_agrees_iff hs hstep.2).mpr hstep.1
  exact ⟨hagree, unsubscribe_ne_endDereferenced hagree, fun e c' => step_agrees_iff hagree⟩

/-- Subscribing and unsubscribing `a` on a fresh client forgets nothing. -/
theorem subscriptions_agree_subscribe_unsubscribe :
    ∃ c : Client Nat, Run (Guarded Steps fun c e => ¬ c.Forgets e) {}
        [.connect, .subscribe [97] 0 true, .unsubscribe [97] true, .disconnect] c ∧
      c.impl.Agrees ∧ (∀ topic sent, c.unsubscribe topic sent ≠ .error .endDereferenced) ∧
      ∀ e c', Steps c e c' → (c'.impl.Agrees ↔ ¬ c.Forgets e) := by
  have hrun : ∃ c : Client Nat, Run (Guarded Steps fun c e => ¬ c.Forgets e) {}
      [.connect, .subscribe [97] 0 true, .unsubscribe [97] true, .disconnect] c := by
    refine ⟨_, Run.cons ⟨id, rfl⟩ (Run.cons ⟨?_, rfl⟩ (Run.cons ⟨?_, rfl⟩
      (Run.cons ⟨?_, rfl⟩ .nil)))⟩
    · rintro ⟨h, -⟩
      exact absurd h (by decide)
    · rintro ⟨h, -⟩
      exact absurd h (by decide)
    · rintro ⟨-, t, ht⟩
      exact absurd ht List.not_mem_nil
  obtain ⟨c, hc⟩ := hrun
  exact ⟨c, hc, subscriptions_agree hc⟩

/-- A disconnect forgets `a`: the topic stays in the flat set, its node is gone,
and the next `unsubscribe` dereferences `end()`. -/
theorem disconnect_breaks_agreement :
    ∃ c : Client Nat, Run Steps {} [.connect, .subscribe [97] 0 true, .disconnect, .connect] c ∧
      ¬ c.impl.Agrees ∧ c.unsubscribe [97] true = .error .endDereferenced := by
  refine ⟨_, Run.cons rfl (Run.cons rfl (Run.cons rfl (Run.cons rfl .nil))), ?_, rfl⟩
  intro h
  obtain ⟨n, hn, -⟩ := (h [97]).mp (by decide)
  have hgone : (none : Option (SubscriptionPart Nat)) = some n := hn
  contradiction

end Client

end TrueMqtt
