import TrueMqtt.Client.Agreement

/-!
# TrueMqtt.Client.Delivery

Which callbacks a received message reaches, over whole histories of calls.

`registered es f` is the reference: the callbacks subscribed to `f` in the
history `es` since the last time `f` was unsubscribed.  In a session without a
disconnect and without a failed send the tree holds exactly these
(`callbacksOf_eq_registered`), so what `messageReceived` invokes is a matter of
the search alone (`delivery_exact_iff`).

The last section is about the other kind of history: a call whose send fails
takes the close-and-retry path, which goes through `Impl::disconnect` and so
through the clearing of the tree.
-/

namespace TrueMqtt

open Subscriptions

variable {C : Type}

/-! ## the reference history -/

/-- What one event does to the callbacks of a filter. -/
def register (f : Str) (callbacks : List C) : Event C → List C
  | .subscribe topic callback _ => if f = topic then callbacks ++ [callback] else callbacks
  | .unsubscribe topic _ => if f = topic then [] else callbacks
  | _ => callbacks

/-- The callbacks subscribed to a filter since its last unsubscribe. -/
def registered (es : List (Event C)) (f : Str) : List C := es.foldl (register f) []

/-- The topic of a `subscribe` call. -/
def Event.subscribed : Event C → Option Str
  | .subscribe topic _ _ => some topic
  | _ => none

/-- The filters a history subscribes to. -/
def filters (es : List (Event C)) : Finset Str := (es.filterMap Event.subscribed).toFinset

theorem registered_append (es : List (Event C)) (e : Event C) (f : Str) :
    registered (es ++ [e]) f = register f (registered es f) e := by
  simp [registered]

/-- Only a subscribed filter has callbacks. -/
theorem mem_filters_of_registered {es : List (Event C)} {f : Str} (h : registered es f ≠ []) :
    f ∈ filters es := by
  induction es using List.reverseRecOn with
  | nil => exact absurd rfl h
  | append_singleton es e ih =>
      have hold : registered es f ≠ [] → f ∈ filters (es ++ [e]) := by
        intro hes
        have hmem := ih hes
        simp only [filters, List.mem_toFinset, List.filterMap_append, List.mem_append] at hmem ⊢
        exact Or.inl hmem
      rw [registered_append] at h
      cases e with
      | subscribe topic callback sent =>
          by_cases hf : f = topic
          · simp [filters, Event.subscribed, hf]
          · exact hold (by simpa [register, hf] using h)
      | unsubscribe topic sent =>
          by_cases hf : f = topic
          · simp [register, hf] at h
          · exact hold (by simpa [register, hf] using h)
      | setPublishQueue _ _ | setSendQueue _ | connect | disconnect | publish _ _
      | connectionUp _ | connectionDown => exact hold h

namespace Client

/-! ## sessions -/

/-- The events of one session: no disconnect, and no failed send at the end of
`subscribe` or `unsubscribe`. -/
def InSession (_ : Client C) : Event C → Prop
  | .disconnect => False
  | .subscribe _ _ sent => sent = true
  | .unsubscribe _ sent => sent = true
  | _ => True

@[simp] theorem state_sendOrReconnect (c : Client C) (sent : Bool) :
    (c.sendOrReconnect sent).impl.state = c.impl.state := by
  unfold sendOrReconnect
  split
  · cases sent <;> rfl
  · rfl

/-- Only `disconnect` leads to the disconnected state. -/
theorem state_ne_disconnected_of_step {c c' : Client C} {e : Event C}
    (h : c.impl.state ≠ .disconnected) (he : e ≠ .disconnect) (hstep : Steps c e c') :
    c'.impl.state ≠ .disconnected := by
  cases move_of_step hstep with
  | ignored _ => exact h
  | setPublishQueue hst => exact absurd hst h
  | setSendQueue hst => exact absurd hst h
  | connect hst => exact absurd hst h
  | disconnect hst => exact absurd rfl he
  | toPublishQueue hst hq =>
      obtain ⟨-, rfl⟩ | ⟨-, q, -, rfl⟩ := Impl.toPublishQueue_spec hq <;> exact h
  | subscribe hst =>
      rw [state_sendOrReconnect]
      exact h
  | unsubscribe hst hmem hi =>
      rw [state_sendOrReconnect, state_removeSubscription hi]
      exact h
  | connectionUp hc hi =>
      obtain ⟨id, rfl⟩ := Impl.resubscribe_spec hi
      simp [setState]
  | connectionDown hc => simp [setState]

@[simp] theorem callbacksOf_sendOrReconnect_sent (c : Client C) (f : Str) :
    (c.sendOrReconnect true).impl.callbacksOf f = c.impl.callbacksOf f := by
  unfold sendOrReconnect
  split <;> rfl

/-- A step of a session does to the callbacks of each filter what the reference
says. -/
theorem callbacksOf_step {c c' : Client C} {e : Event C} (hs : c.impl.state ≠ .disconnected)
    (hagree : c.impl.Agrees) (he : InSession c e) (hstep : Steps c e c') (f : Str) :
    c'.impl.callbacksOf f = register f (c.impl.callbacksOf f) e := by
  have hquiet : Quiet e → c'.impl.callbacksOf f = c.impl.callbacksOf f := by
    intro hq
    unfold Impl.callbacksOf
    rw [(sameSubscriptions_of_quiet hq hstep).1]
  cases e with
  | setPublishQueue _ _ | setSendQueue _ | connect | publish _ _ | connectionUp _
  | connectionDown => exact hquiet trivial
  | disconnect => exact he.elim
  | subscribe topic callback sent =>
      have hsent : sent = true := he
      subst hsent
      cases hstep
      simp only [subscribe, hs, ↓reduceIte, callbacksOf_sendOrReconnect_sent,
        Impl.callbacksOf_addSubscription, register]
      by_cases hf : f = topic <;> simp [hf]
  | unsubscribe topic sent =>
      have hsent : sent = true := he
      subst hsent
      simp only [Steps, step, unsubscribe, hs, ↓reduceIte] at hstep
      split at hstep
      · next hnot =>
          cases hstep
          -- a topic that is not in the set has no callbacks to lose
          have hnil : c.impl.callbacksOf topic = [] := by
            by_contra hne
            exact hnot (((Impl.agrees_iff _).mp hagree topic).mpr hne)
          by_cases hf : f = topic
          · subst hf
            simp [register, hnil]
          · simp [register, hf]
      · cases hrem : c.impl.removeSubscription topic with
        | none => simp [hrem] at hstep
        | some i =>
            simp only [hrem] at hstep
            cases hstep
            rw [callbacksOf_sendOrReconnect_sent, Impl.callbacksOf_removeSubscription hrem]
            rfl

theorem not_forgets_of_inSession {c : Client C} {e : Event C} (he : InSession c e) :
    ¬ c.Forgets e := by
  cases e with
  | disconnect => exact he.elim
  | subscribe topic callback sent =>
      rintro ⟨-, hsent⟩
      exact Bool.noConfusion (he.symm.trans hsent)
  | unsubscribe topic sent =>
      rintro ⟨-, hsent, -⟩
      exact Bool.noConfusion (he.symm.trans hsent)
  | setPublishQueue _ _ | setSendQueue _ | connect | publish _ _ | connectionUp _
  | connectionDown => exact id

/-- **The tree follows the history**: in a session that starts without
subscriptions the callbacks of every filter are the reference's. -/
theorem callbacksOf_eq_registered {c₀ c : Client C} {es : List (Event C)}
    (hs : c₀.impl.state ≠ .disconnected) (htree : c₀.impl.subscriptions = [])
    (htopics : ∀ t, t ∉ c₀.impl.subscriptionTopics) (h : Run (Guarded Steps InSession) c₀ es c) :
    c.impl.state ≠ .disconnected ∧ c.impl.Agrees ∧
      ∀ f, c.impl.callbacksOf f = registered es f := by
  induction h with
  | nil =>
      have hnil : ∀ f, c₀.impl.callbacksOf f = [] := by
        intro f
        rw [Impl.callbacksOf, htree, callbacksAt_empty]
      refine ⟨hs, (Impl.agrees_iff _).mpr fun t => ?_, hnil⟩
      exact ⟨fun ht => absurd ht (htopics t), fun ht => absurd (hnil t) ht⟩
  | snoc _ hr ih =>
      obtain ⟨hstate, hagree, hcb⟩ := ih
      obtain ⟨hsession, hstep⟩ := hr
      refine ⟨state_ne_disconnected_of_step hstate ?_ hstep,
        (step_agrees_iff hagree hstep).mpr (not_forgets_of_inSession hsession), fun f => ?_⟩
      · rintro rfl
        exact hsession.elim
      · rw [callbacksOf_step hstate hagree hsession hstep, hcb, registered_append]

/-! ## what a message invokes -/

theorem messageReceived_eq_flatMap {i : Impl C} (h : i.state = .connected) (topic message : Str) :
    i.messageReceived topic message =
      (visited topic).flatMap fun f => (i.callbacksOf f).map (·, topic, message) := by
  rw [Impl.messageReceived, if_neg (by simp [h]), findSubscriptionMatch_eq_visited,
    List.map_flatMap]
  rfl

/-- A call of `unsubscribe` in an agreeing state removes the callbacks of its own
filter and no others. -/
theorem exists_unsubscribe {c : Client C} (hs : c.impl.state ≠ .disconnected)
    (hagree : c.impl.Agrees) (f : Str) :
    ∃ c', c.unsubscribe f true = .ok c' ∧
      ∀ g, c'.impl.callbacksOf g = if g = f then [] else c.impl.callbacksOf g := by
  cases hc : c.unsubscribe f true with
  | error fault =>
      -- the only fault `unsubscribe` has is the one agreement excludes
      exfalso
      have hne := unsubscribe_ne_endDereferenced hagree f true
      simp only [unsubscribe] at hc hne
      split at hc
      · contradiction
      · split at hc
        · contradiction
        · split at hc <;> simp_all
  | ok c' =>
      refine ⟨c', rfl, fun g => ?_⟩
      have hstep : Steps c (.unsubscribe f true) c' := hc
      exact callbacksOf_step hs hagree (e := .unsubscribe f true) rfl hstep g

/-- **Delivery**: in a session, a message on a wildcard-free topic invokes
exactly the callbacks it is due, filter by filter and in subscription order, if
and only if no live filter matches a proper leading part of the topic without
matching the topic.  `unsubscribe` meanwhile always removes the callbacks of
its exact filter and no others. -/
theorem delivery_exact_iff {c₀ c : Client C} {es : List (Event C)}
    (hs : c₀.impl.state ≠ .disconnected) (htree : c₀.impl.subscriptions = [])
    (htopics : ∀ t, t ∉ c₀.impl.subscriptionTopics) (h : Run (Guarded Steps InSession) c₀ es c)
    (hconn : c.impl.state = .connected) {topic : Str} (message : Str)
    (hw : WildcardFree (levels topic)) :
    (DeliversExactly (fun f => (registered es f).map (·, topic, message)) (filters es) topic
        (c.impl.messageReceived topic message) ↔
      ∀ f, registered es f ≠ [] → ¬ Overreaches f topic) ∧
    ∀ f, ∃ c', c.unsubscribe f true = .ok c' ∧
      ∀ g, c'.impl.callbacksOf g = if g = f then [] else c.impl.callbacksOf g := by
  obtain ⟨hstate, hagree, hcb⟩ := callbacksOf_eq_registered hs htree htopics h
  constructor
  · have hinvoked : c.impl.messageReceived topic message =
        (visited topic).flatMap fun f => (registered es f).map (·, topic, message) := by
      rw [messageReceived_eq_flatMap hconn]
      simp only [hcb]
    rw [hinvoked, deliversExactly_iff _ _ hw]
    · simp only [ne_eq, List.map_eq_nil_iff]
    · intro f hf
      exact mem_filters_of_registered fun hnil => hf (by rw [hnil, List.map_nil])
  · exact exists_unsubscribe hstate hagree

/-- A connected client without subscriptions. -/
def fresh (C : Type) : Client C := { impl := { state := .connected }, connection := true }

/-- With `a/b` and `a/+` subscribed, a message on `a/b` runs both callbacks. -/
theorem delivery_exact_overlapping :
    ∃ c : Client Nat, Run (Guarded Steps InSession) (fresh Nat)
        [.subscribe [97, 47, 98] 0 true, .subscribe [97, 47, 43] 1 true] c ∧
      (DeliversExactly (fun f => (registered
            [.subscribe [97, 47, 98] 0 true, .subscribe [97, 47, 43] 1 true] f).map
            (·, [97, 47, 98], []))
          (filters [.subscribe [97, 47, 98] 0 true, .subscribe [97, 47, 43] 1 true]) [97, 47, 98]
          (c.impl.messageReceived [97, 47, 98] []) ↔
        ∀ f, registered [.subscribe [97, 47, 98] 0 true, .subscribe [97, 47, 43] 1 true] f ≠ [] →
          ¬ Overreaches f [97, 47, 98]) ∧
      ∀ f, ∃ c', c.unsubscribe f true = .ok c' ∧
        ∀ g, c'.impl.callbacksOf g = if g = f then [] else c.impl.callbacksOf g := by
  have hrun : Run (Guarded Steps InSession) (fresh Nat)
      [.subscribe [97, 47, 98] 0 true, .subscribe [97, 47, 43] 1 true]
      (((fresh Nat).subscribe [97, 47, 98] 0 true).subscribe [97, 47, 43] 1 true) :=
    Run.cons ⟨rfl, rfl⟩ (Run.cons ⟨rfl, rfl⟩ .nil)
  exact ⟨_, hrun, delivery_exact_iff (by decide) rfl (fun t => SortedSet.not_mem_empty t) hrun rfl
    [] (by decide)⟩

/-- With only `a` subscribed, a message on `a/b` runs the callback of `a`. -/
theorem delivery_overreaches :
    ∃ c : Client Nat, Run (Guarded Steps InSession) (fresh Nat) [.subscribe [97] 0 true] c ∧
      c.impl.state = .connected ∧ WildcardFree (levels [97, 47, 98]) ∧
      c.impl.messageReceived [97, 47, 98] [] = [(0, [97, 47, 98], [])] ∧
      ¬ DeliversExactly (fun f => (registered [.subscribe [97] 0 true] f).map
          (·, [97, 47, 98], [])) (filters [.subscribe [97] 0 true]) [97, 47, 98]
        (c.impl.messageReceived [97, 47, 98] []) := by
  refine ⟨(fresh Nat).subscribe [97] 0 true, Run.cons ⟨rfl, rfl⟩ .nil, rfl, by decide, rfl, ?_⟩
  rintro ⟨-, fs, -, hmem, hinvoked⟩
  have hin : (0, [97, 47, 98], []) ∈ ((fresh Nat).subscribe [97] 0 true).impl.messageReceived
      [97, 47, 98] [] := List.mem_singleton.mpr rfl
  rw [hinvoked] at hin
  obtain ⟨f, hf, -⟩ := List.mem_flatMap.mp hin
  obtain ⟨hreg, hmatch⟩ := (hmem f).mp hf
  have hfa : f = [97] := by
    by_contra hne
    exact hreg (by simp [registered, register, hne])
  subst hfa
  exact absurd hmatch (by decide)

/-! ## failed sends -/

theorem publishQueue_sendOrReconnect {c : Client C} (sent : Bool) (h : c.impl.publishQueue = []) :
    (c.sendOrReconnect sent).impl.publishQueue = [] := by
  unfold sendOrReconnect
  split
  · cases sent with
    | true => exact h
    | false => rfl
  · exact h

/-- While connected the publish queue is empty: it was flushed when the
connection came up, and `publish` bypasses it since. -/
theorem publishQueue_of_connected {c : Client C} (h : c.Reachable)
    (hconn : c.impl.state = .connected) : c.impl.publishQueue = [] := by
  obtain ⟨es, hrun⟩ := h
  refine Run.invariant (I := fun c : Client C => c.impl.state = .connected →
    c.impl.publishQueue = []) (fun h => State.noConfusion h) ?_ hrun hconn
  intro c e c' ih hstep hconn'
  cases move_of_step hstep with
  | ignored _ => exact ih hconn'
  | setPublishQueue hst => exact ih hconn'
  | setSendQueue hst => exact ih hconn'
  | connect hst => exact State.noConfusion hconn'
  | disconnect hst => rfl
  | toPublishQueue hst hq =>
      -- `toPublishQueue` leaves the state at `connecting`
      obtain ⟨-, rfl⟩ | ⟨-, q, -, rfl⟩ := Impl.toPublishQueue_spec hq <;>
        exact State.noConfusion (hst.symm.trans hconn')
  | @subscribe topic callback sent hst =>
      rw [state_sendOrReconnect] at hconn'
      exact publishQueue_sendOrReconnect sent (ih hconn')
  | @unsubscribe topic sent i hst hmem hi =>
      rw [state_sendOrReconnect] at hconn'
      obtain ⟨subscriptions, rfl⟩ := Impl.removeSubscription_spec hi
      exact publishQueue_sendOrReconnect sent (ih hconn')
  | connectionUp hc hi => rfl
  | connectionDown hc => exact State.noConfusion hconn'

/-- A call from `c` that ended in `c'` kept the user's data, measured against the
state `c₁` the same call would have left had its send succeeded: every filter
has the same callbacks, the publish queue is what it was, and once the
reconnect is up every message reaches the same callbacks. -/
def KeepsData (c c' c₁ : Client C) : Prop :=
  (∀ f, c'.impl.callbacksOf f = c₁.impl.callbacksOf f) ∧
    c'.impl.publishQueue = c.impl.publishQueue ∧
    ∀ sent c'', c'.connectionStateChange true sent = .ok c'' → ∀ topic message,
      c''.impl.messageReceived topic message = c₁.impl.messageReceived topic message

/-- The close-and-retry path leaves no callback at all. -/
theorem callbacksOf_sendOrReconnect_failed {c : Client C} (h : c.impl.state = .connected)
    (f : Str) : (c.sendOrReconnect false).impl.callbacksOf f = [] := by
  simp [sendOrReconnect, h, reconnect, Impl.disconnect, Impl.callbacksOf]

theorem publishQueue_sendOrReconnect_failed {c : Client C} (h : c.impl.state = .connected) :
    (c.sendOrReconnect false).impl.publishQueue = [] := by
  simp [sendOrReconnect, h, reconnect, Impl.disconnect]

/-- Coming up keeps the tree and ends in the connected state. -/
theorem callbacksOf_connectionUp {c c' : Client C} {sent : List Bool}
    (h : c.connectionStateChange true sent = .ok c') :
    c'.impl.state = .connected ∧ ∀ f, c'.impl.callbacksOf f = c.impl.callbacksOf f := by
  simp only [connectionStateChange, ↓reduceIte] at h
  split at h
  · contradiction
  · next i hres =>
      cases h
      obtain ⟨id, rfl⟩ := Impl.resubscribe_spec hres
      exact ⟨rfl, fun f => rfl⟩

/-- Losing the data comes down to losing the callbacks. -/
theorem keepsData_iff {c c' c₁ : Client C} (hconn : c₁.impl.state = .connected)
    (hq : c'.impl.publishQueue = c.impl.publishQueue) :
    KeepsData c c' c₁ ↔ ∀ f, c'.impl.callbacksOf f = c₁.impl.callbacksOf f := by
  refine ⟨fun h => h.1, fun h => ⟨h, hq, ?_⟩⟩
  intro sent c'' hup topic message
  obtain ⟨hstate, hcb⟩ := callbacksOf_connectionUp hup
  rw [messageReceived_eq_flatMap hstate, messageReceived_eq_flatMap hconn]
  simp only [hcb, h]

/-- **Failed sends**: in a reachable connected state, a `subscribe` whose send
fails always loses data, and an `unsubscribe` whose send fails keeps it exactly
when no filter but its own has callbacks. -/
theorem failed_send_keeps_data_iff {c : Client C} (h : c.Reachable)
    (hconn : c.impl.state = .connected) :
    (∀ topic callback, ¬ KeepsData c (c.subscribe topic callback false)
      (c.subscribe topic callback true)) ∧
    ∀ topic c' c₁, topic ∈ c.impl.subscriptionTopics → c.unsubscribe topic false = .ok c' →
      c.unsubscribe topic true = .ok c₁ →
      (KeepsData c c' c₁ ↔ ∀ f, f ≠ topic → c.impl.callbacksOf f = []) := by
  have hqueue := publishQueue_of_connected h hconn
  have hs : c.impl.state ≠ .disconnected := by simp [hconn]
  constructor
  · intro topic callback hkeep
    have hcb := hkeep.1 topic
    simp only [subscribe, hs, ↓reduceIte, callbacksOf_sendOrReconnect_sent,
      Impl.callbacksOf_addSubscription] at hcb
    rw [callbacksOf_sendOrReconnect_failed (by exact hconn)] at hcb
    simp at hcb
  · intro topic c' c₁ hmem hfail hsent
    cases hrem : c.impl.removeSubscription topic with
    | none => simp [unsubscribe, hs, hmem, hrem] at hfail
    | some i =>
        simp only [unsubscribe, hs, ↓reduceIte, hmem, not_true_eq_false, hrem] at hfail hsent
        cases hfail
        cases hsent
        have hi : i.state = .connected := by rw [state_removeSubscription hrem, hconn]
        rw [keepsData_iff (by simpa using hi)
          (by rw [publishQueue_sendOrReconnect_failed (by exact hi), hqueue])]
        constructor
        · intro hall f hf
          have hcb := hall f
          rw [callbacksOf_sendOrReconnect_failed (by exact hi), callbacksOf_sendOrReconnect_sent,
            Impl.callbacksOf_removeSubscription hrem, if_neg hf] at hcb
          exact hcb.symm
        · intro hall f
          rw [callbacksOf_sendOrReconnect_failed (by exact hi), callbacksOf_sendOrReconnect_sent,
            Impl.callbacksOf_removeSubscription hrem]
          by_cases hf : f = topic
          · rw [if_pos hf]
          · rw [if_neg hf, hall f hf]

/-- A client that connected and then subscribed to `a`. -/
def subscribedToA : Client Nat :=
  { impl := {
      state := .connected
      subscriptionTopics := SortedSet.insert [97] ∅
      subscriptions := [([97], .mk [] [0])]
      packetId := 2 }
    connection := true
    stateChanges := [.connecting, .connected] }

theorem reachable_subscribedToA : subscribedToA.Reachable :=
  ⟨[.connect, .connectionUp [], .subscribe [97] 0 true],
    Run.cons rfl (Run.cons rfl (Run.cons rfl .nil))⟩

/-- With only `a` subscribed, its own failed `unsubscribe` loses nothing. -/
theorem failed_send_keeps_data_subscribedToA :
    subscribedToA.Reachable ∧
      (∀ topic callback, ¬ KeepsData subscribedToA (subscribedToA.subscribe topic callback false)
        (subscribedToA.subscribe topic callback true)) ∧
      ∀ topic c' c₁, topic ∈ subscribedToA.impl.subscriptionTopics →
        subscribedToA.unsubscribe topic false = .ok c' →
        subscribedToA.unsubscribe topic true = .ok c₁ →
        (KeepsData subscribedToA c' c₁ ↔
          ∀ f, f ≠ topic → subscribedToA.impl.callbacksOf f = []) :=
  ⟨reachable_subscribedToA, failed_send_keeps_data_iff reachable_subscribedToA rfl⟩

/-- Subscribing to `b` with a full send queue drops the callback of `a` and that
of `b`, although both topics are resubscribed. -/
theorem failed_subscribe_loses_callbacks :
    subscribedToA.Reachable ∧ subscribedToA.impl.state = .connected ∧
      (subscribedToA.subscribe [98] 1 false).impl.subscriptionTopics.elems = [[97], [98]] ∧
      (subscribedToA.subscribe [98] 1 false).impl.subscriptions = [] ∧
      ¬ KeepsData subscribedToA (subscribedToA.subscribe [98] 1 false)
        (subscribedToA.subscribe [98] 1 true) := by
  refine ⟨reachable_subscribedToA, rfl, by decide, rfl, ?_⟩
  rintro ⟨hcb, -⟩
  have hb : ([] : List Nat) = [1] := hcb [98]
  contradiction

end Client

end TrueMqtt
