import TrueMqtt.Lib.BoundedQueue
import TrueMqtt.System.Order
import TrueMqtt.System.StateChanges

/-!
# TrueMqtt.System.PublishQueue

The messages published while the client is CONNECTING.  `toPublishQueue` appends
to a bounded queue that evicts its oldest (FIFO) or its newest (LIFO) message;
what the failed connection attempts do meanwhile leaves the queue alone
(`publish_queue_policy`).

The queue never outgrows its size (`publish_queue_bounded`).  A FIFO or LIFO queue
of size 0 is full while it is empty, and the message to evict is popped from an
empty deque.
-/

namespace TrueMqtt

open BoundedQueue

variable {C : Type}

/-- The messages of the `publish` calls, in call order. -/
def published (as : List (Action C)) : List Message :=
  as.filterMap fun a => match a with
    | .call (.publish m) => some m
    | _ => none

/-- What a policy keeps of the messages published into an empty queue. -/
def PublishQueueType.keep (size : Nat) : PublishQueueType → List Message → List Message
  | drop, _ => []
  | fifo, ms => ms.rtake size
  | lifo, ms => firstAndLast size ms

/-- The messages for which `publish` returns true. -/
def PublishQueueType.accepts : PublishQueueType → List Message → List Message
  | drop, _ => []
  | fifo, ms | lifo, ms => ms

/-- The documented example: six messages, and then a seventh, in a queue of three. -/
example : ([1, 2, 3, 4, 5, 6] : List Nat).rtake 3 = [4, 5, 6] ∧
    ([1, 2, 3, 4, 5, 6, 7] : List Nat).rtake 3 = [5, 6, 7] ∧
    firstAndLast 3 [1, 2, 3, 4, 5, 6] = [1, 2, 6] ∧
    firstAndLast 3 [1, 2, 3, 4, 5, 6, 7] = [1, 2, 7] := by decide

namespace Impl

variable {i : Impl C} {m : Message}

theorem toPublishQueue_drop (hst : i.state = .connecting) (ht : i.publishQueueType = .drop) :
    i.toPublishQueue m = some (i, false) := by
  simp [toPublishQueue, hst, ht]

/-- With room for a message, FIFO pushes and evicts the oldest one. -/
theorem toPublishQueue_fifo (hst : i.state = .connecting) (ht : i.publishQueueType = .fifo)
    (hk : 1 ≤ i.publishQueueSize) :
    i.toPublishQueue m =
      some ({ i with
        publishQueue := pushEvictOldest i.publishQueueSize i.publishQueue m }, true) := by
  unfold toPublishQueue pushEvictOldest
  simp only [hst, ht, ne_eq, not_true_eq_false, ↓reduceIte]
  by_cases hfull : i.publishQueueSize ≤ i.publishQueue.length
  · rw [if_pos hfull, if_pos hfull]
    cases hq : i.publishQueue with
    | nil =>
        rw [hq, List.length_nil] at hfull
        omega
    | cons x q => rfl
  · rw [if_neg hfull, if_neg hfull]

/-- LIFO evicts the newest one. -/
theorem toPublishQueue_lifo (hst : i.state = .connecting) (ht : i.publishQueueType = .lifo)
    (hk : 1 ≤ i.publishQueueSize) :
    i.toPublishQueue m =
      some ({ i with
        publishQueue := pushEvictNewest i.publishQueueSize i.publishQueue m }, true) := by
  unfold toPublishQueue pushEvictNewest
  simp only [hst, ht, ne_eq, not_true_eq_false, ↓reduceIte]
  by_cases hfull : i.publishQueueSize ≤ i.publishQueue.length
  · rw [if_pos hfull, if_pos hfull]
    cases hq : i.publishQueue with
    | nil =>
        rw [hq, List.length_nil] at hfull
        omega
    | cons x q => rfl
  · rw [if_neg hfull, if_neg hfull]

/-- An empty queue of size 0 is full, and has nothing to evict. -/
theorem toPublishQueue_eq_none_iff (hlen : i.publishQueue.length ≤ i.publishQueueSize) :
    i.toPublishQueue m = none ↔
      i.state = .connecting ∧ i.publishQueueType ≠ .drop ∧ i.publishQueueSize = 0 := by
  by_cases hst : i.state = .connecting
  · cases ht : i.publishQueueType with
    | drop => simp [toPublishQueue_drop hst ht]
    | fifo | lifo =>
        by_cases hk : 1 ≤ i.publishQueueSize
        · first
            | rw [toPublishQueue_fifo hst ht hk]
            | rw [toPublishQueue_lifo hst ht hk]
          simp only [reduceCtorEq, false_iff, not_and]
          omega
        · have hzero : i.publishQueueSize = 0 := by omega
          have hnil : i.publishQueue = [] := List.length_eq_zero_iff.mp (by omega)
          simp [toPublishQueue, hst, ht, hzero, hnil]
  · simp [toPublishQueue, hst]

/-- The queue keeps to its size. -/
theorem length_toPublishQueue {i' : Impl C} {accepted : Bool}
    (hlen : i.publishQueue.length ≤ i.publishQueueSize)
    (h : i.toPublishQueue m = some (i', accepted)) :
    i'.publishQueue.length ≤ i.publishQueueSize := by
  by_cases hst : i.state = .connecting
  · have hsome : ¬ (i.state = .connecting ∧ i.publishQueueType ≠ .drop ∧
        i.publishQueueSize = 0) := by
      rw [← toPublishQueue_eq_none_iff hlen (m := m), h]
      simp
    cases ht : i.publishQueueType with
    | drop =>
        rw [toPublishQueue_drop hst ht] at h
        cases h
        exact hlen
    | fifo =>
        have hk : 1 ≤ i.publishQueueSize := by
          simp only [hst, ht, ne_eq, reduceCtorEq, not_false_eq_true, true_and] at hsome
          omega
        rw [toPublishQueue_fifo hst ht hk] at h
        cases h
        exact length_pushEvictOldest_le hk hlen m
    | lifo =>
        have hk : 1 ≤ i.publishQueueSize := by
          simp only [hst, ht, ne_eq, reduceCtorEq, not_false_eq_true, true_and] at hsome
          omega
        rw [toPublishQueue_lifo hst ht hk] at h
        cases h
        exact length_pushEvictNewest_le hk hlen m
  · simp only [toPublishQueue, hst, ne_eq, not_false_eq_true, ↓reduceIte, Option.some.injEq,
      Prod.mk.injEq] at h
    rw [← h.1]
    exact hlen

end Impl

namespace System

variable {s s' : System C} {a : Action C} {c : Connection}

/-! ## what a step does to the publish queue -/

/-- A step leaves the queue alone, empties it when it leaves CONNECTING, sets its
bounds before the first connect, or is a `publish` call that comes to it. -/
inductive QueueStep (s : System C) : Action C → System C → Prop
  | kept {a : Action C} {s' : System C}
      (hq : s'.impl.publishQueue = s.impl.publishQueue)
      (ht : s'.impl.publishQueueType = s.impl.publishQueueType)
      (hk : s'.impl.publishQueueSize = s.impl.publishQueueSize)
      (hst : s'.impl.state = .disconnected → s.impl.state = .disconnected)
      (ha : s.impl.state = .connecting → s'.accepted = s.accepted)
      (hp : s.impl.state = .connecting → ∀ m, a ≠ .call (.publish m)) : QueueStep s a s'
  | cleared {a : Action C} {s' : System C} (hq : s'.impl.publishQueue = [])
      (hst : s'.impl.state ≠ .connecting) : QueueStep s a s'
  | configured {a : Action C} {s' : System C} (hst : s.impl.state = .disconnected)
      (hq : s'.impl.publishQueue = s.impl.publishQueue) : QueueStep s a s'
  | queued {m : Message} {i : Impl C} {accepted : Bool} (hst : s.impl.state = .connecting)
      (hq : s.impl.toPublishQueue m = some (i, accepted)) :
      QueueStep s (.call (.publish m))
        { s with
          impl := i
          accepted := if accepted then s.accepted ++ [m] else s.accepted }

/-- A `publish` call of a CONNECTING client. -/
theorem steps_publish_iff {m : Message} (hst : s.impl.state = .connecting) :
    s.Steps (.call (.publish m)) s' ↔ s.holder = .free ∧
      ∃ i accepted, s.impl.toPublishQueue m = some (i, accepted) ∧
        s' = { s with
          impl := i
          accepted := if accepted then s.accepted ++ [m] else s.accepted } := by
  unfold Steps
  simp only [step, call, hst]
  by_cases hfree : s.holder = .free
  · rw [if_pos hfree]
    cases hq : s.impl.toPublishQueue m with
    | none => simp
    | some r =>
        constructor
        · intro h
          cases h
          exact ⟨hfree, r.1, r.2, rfl, rfl⟩
        · rintro ⟨-, i, accepted, hr, rfl⟩
          cases hr
          rfl
  · rw [if_neg hfree]
    simp [hfree]

/-- The loops of `connectionStateChange` go through the queue, and empty it at their
end. -/
theorem queueStep_flush {t : System C} (ha : ∀ m, a ≠ .call (.publish m))
    (hst : t.impl.state = .connected) (hq : t.impl.publishQueue = s.impl.publishQueue)
    (ht : t.impl.publishQueueType = s.impl.publishQueueType)
    (hk : t.impl.publishQueueSize = s.impl.publishQueueSize) (hacc : t.accepted = s.accepted)
    (messages : List Message) : QueueStep s a (t.flush c messages) := by
  cases messages with
  | nil => exact .cleared rfl (by simp [flush, finish, hst])
  | cons m ms =>
      refine .kept hq ht hk ?_ (fun _ => hacc) fun _ => ha
      simp [flush, sendPublish, hst]

theorem queueStep_resubscribe {t : System C} (ha : ∀ m, a ≠ .call (.publish m))
    (hst : t.impl.state = .connected) (hq : t.impl.publishQueue = s.impl.publishQueue)
    (ht : t.impl.publishQueueType = s.impl.publishQueueType)
    (hk : t.impl.publishQueueSize = s.impl.publishQueueSize) (hacc : t.accepted = s.accepted)
    (topics : List Str) : QueueStep s a (t.resubscribe c topics) := by
  cases topics with
  | nil => exact queueStep_flush ha hst hq ht hk hacc _
  | cons u us =>
      refine .kept hq ht hk ?_ (fun _ => hacc) fun _ => ha
      simp [resubscribe, sendSubscribe, Impl.takePacketId, hst]

/-- A step inside of a send, in state CONNECTED. -/
theorem queueStep_after {sent : Bool} {k : After} (hst : s.impl.state = .connected)
    (h : s.after c sent k = .ok s') : QueueStep s .hold s' := by
  have hhold : ∀ m : Message, (.hold : Action C) ≠ .call (.publish m) := fun m hm => (nomatch hm)
  cases k with
  | publish m =>
      cases h
      exact .kept rfl rfl rfl id (fun hcon => by simp [hst] at hcon) fun _ => hhold
  | request =>
      cases h
      cases sent with
      | true => exact .kept rfl rfl rfl id (fun _ => rfl) fun _ => hhold
      | false => exact .cleared rfl (by simp [System.disconnect, Impl.disconnect, hst])
  | resubscribe topics =>
      cases sent with
      | false => cases h
      | true =>
          cases h
          exact queueStep_resubscribe hhold hst rfl rfl rfl rfl topics
  | flush messages =>
      cases h
      cases sent with
      | false => exact .cleared rfl (by simp [finish, hst])
      | true => exact queueStep_flush hhold hst rfl rfl rfl rfl messages

/-- What a step does to the publish queue. -/
theorem queueStep_of_steps (hwf : s.WellFormed) (h : s.Steps a s') : QueueStep s a s' := by
  by_cases hp : s.impl.state = .connecting ∧ ∃ m, a = .call (.publish m)
  · obtain ⟨hst, m, rfl⟩ := hp
    obtain ⟨-, i, accepted, hq, rfl⟩ := (steps_publish_iff hst).mp h
    exact .queued hst hq
  · have hne : s.impl.state = .connecting → ∀ m, a ≠ .call (.publish m) := by
      intro hst m ha
      exact hp ⟨hst, m, ha⟩
    cases move_of_step h with
    | setPublishQueue hst => exact .configured hst rfl
    | connect hfree hst => exact .configured hst rfl
    | disconnect hfree hst =>
        refine .cleared ?_ ?_
        all_goals simp [setState, Impl.disconnect]
    | toPublishQueue hfree hst hq => exact .queued hst hq
    | removeSubscription hfree hst hmem hi | unsubscribe hfree hst hmem hi =>
        obtain ⟨subscriptions, rfl⟩ := Impl.removeSubscription_spec hi
        exact .kept rfl rfl rfl id (fun _ => rfl) hne
    | refused hc hh hsize ha =>
        simp only [WellFormed, hh] at hwf
        exact queueStep_after hwf.1 ha
    | pushed hc hh hqf ha =>
        simp only [WellFormed, hh] at hwf
        exact queueStep_after hwf.1 ha
    | connected hc hfree hpc =>
        exact queueStep_resubscribe (s := s) (t := s.setState .connected)
          (by simp) rfl rfl rfl rfl rfl _
    | lost hc hfree hpc => exact .kept rfl rfl rfl (by simp [setState]) (fun _ => rfl) hne
    | _ => exact .kept rfl rfl rfl id (fun _ => rfl) hne

/-! ## the policy -/

theorem published_snoc (as : List (Action C)) (a : Action C) :
    published (as ++ [a]) = published as ++ published [a] := List.filterMap_append

theorem published_of_ne (ha : ∀ m, a ≠ .call (.publish m)) : published [a] = [] := by
  unfold published
  rw [List.filterMap_cons]
  split
  · rfl
  · next m hm =>
    split at hm
    · next m' => exact absurd rfl (ha m')
    · cases hm

/-- The queue of a policy, and one message more. -/
theorem toPublishQueue_keep {i : Impl C} {type : PublishQueueType} {k : Nat} {m : Message}
    {ms : List Message} (hst : i.state = .connecting) (ht : i.publishQueueType = type)
    (hsize : i.publishQueueSize = k) (hk : 1 ≤ k) (hq : i.publishQueue = type.keep k ms) :
    ∃ accepted, i.toPublishQueue m =
        some ({ i with publishQueue := type.keep k (ms ++ [m]) }, accepted) ∧
      (if accepted then [m] else []) = type.accepts [m] := by
  subst hsize
  cases type with
  | drop =>
      have hnil : i.publishQueue = [] := hq
      have hsame : { i with publishQueue := [] } = i := by rw [← hnil]
      refine ⟨false, ?_, rfl⟩
      rw [Impl.toPublishQueue_drop hst ht]
      exact congrArg (fun j => some (j, false)) hsame.symm
  | fifo =>
      refine ⟨true, ?_, rfl⟩
      rw [Impl.toPublishQueue_fifo hst ht hk, hq]
      exact congrArg (fun q => some ({ i with publishQueue := q }, true))
        (pushEvictOldest_rtake hk ms m)
  | lifo =>
      refine ⟨true, ?_, rfl⟩
      rw [Impl.toPublishQueue_lifo hst ht hk, hq]
      exact congrArg (fun q => some ({ i with publishQueue := q }, true))
        (pushEvictNewest_firstAndLast hk ms m)

/-- The steps of a CONNECTING client. -/
def WhileConnecting (s : System C) (_ : Action C) : Prop := s.impl.state = .connecting

instance (s : System C) (a : Action C) : Decidable (s.WhileConnecting a) :=
  inferInstanceAs (Decidable (_ = _))

/-- What the calls of a CONNECTING client have made of an empty queue. -/
structure Kept (s : System C) (ms : List Message) (s' : System C) : Prop where
  type : s'.impl.publishQueueType = s.impl.publishQueueType
  size : s'.impl.publishQueueSize = s.impl.publishQueueSize
  queue : s'.impl.publishQueue =
    s.impl.publishQueueType.keep s.impl.publishQueueSize ms
  accepted : s'.accepted = s.accepted ++ s.impl.publishQueueType.accepts ms

theorem kept_nil (hq : s.impl.publishQueue = []) : Kept s [] s where
  type := rfl
  size := rfl
  queue := by
    rw [hq]
    cases s.impl.publishQueueType with
    | drop => rfl
    | fifo => exact (List.rtake_nil _).symm
    | lifo => exact (firstAndLast_nil _).symm
  accepted := by
    cases s.impl.publishQueueType <;> exact (List.append_nil _).symm

/-- A step that stays in CONNECTING keeps to the policy. -/
theorem kept_step {t : System C} {ms : List Message} (hk : 1 ≤ s.impl.publishQueueSize)
    (hwf : t.WellFormed) (h : Kept s ms t) (hst : t.impl.state = .connecting)
    (hst' : s'.impl.state = .connecting) (hstep : t.Steps a s') :
    Kept s (ms ++ published [a]) s' := by
  cases queueStep_of_steps hwf hstep with
  | kept hq ht hsize _ hacc hp =>
      rw [published_of_ne (hp hst), List.append_nil]
      exact ⟨ht.trans h.type, hsize.trans h.size, hq.trans h.queue, (hacc hst).trans h.accepted⟩
  | cleared _ hne => exact absurd hst' hne
  | configured hdis _ => simp [hdis] at hst
  | @queued m i accepted _ hq =>
      obtain ⟨accepted', hkeep, hacc⟩ := toPublishQueue_keep (m := m) hst h.type h.size hk h.queue
      rw [hkeep] at hq
      cases hq
      refine ⟨h.type, h.size, rfl, ?_⟩
      have happend : ∀ type : PublishQueueType,
          type.accepts (ms ++ [m]) = type.accepts ms ++ type.accepts [m] := by
        intro type
        cases type <;> rfl
      show (if accepted then t.accepted ++ [m] else t.accepted) =
        s.accepted ++ s.impl.publishQueueType.accepts (ms ++ [m])
      rw [happend, ← hacc, ← List.append_assoc, ← h.accepted]
      cases accepted <;> simp

/-- **The policy of the publish queue**: in a run of a CONNECTING client, the
messages published into an empty queue of a size of at least one are kept as the
type of the queue says, however the connection attempts go meanwhile; every call
returns, and says whether it queued its message. -/
theorem publish_queue_policy {as : List (Action C)} (hr : s.Reachable)
    (hq : s.impl.publishQueue = []) (hk : 1 ≤ s.impl.publishQueueSize)
    (hrun : Run (Guarded Steps WhileConnecting) s as s') (hst' : s'.impl.state = .connecting) :
    s'.impl.publishQueue =
        s.impl.publishQueueType.keep s.impl.publishQueueSize (published as) ∧
      s'.accepted = s.accepted ++ s.impl.publishQueueType.accepts (published as) ∧
      ∀ m, s'.holder = .free → ∃ t, s'.Steps (.call (.publish m)) t := by
  have hkept : Kept s (published as) s' := by
    induction hrun with
    | nil => exact kept_nil hq
    | @snoc t s' as a hrun hstep ih =>
        rw [published_snoc]
        have hreach := reachable_of_run hr (hrun.mono fun _ _ _ hg => hg.2)
        exact kept_step hk (wellFormed_of_reachable hreach) (ih hstep.1) hstep.1 hst' hstep.2
  refine ⟨hkept.queue, hkept.accepted, fun m hfree => ?_⟩
  obtain ⟨accepted, hcall, -⟩ :=
    toPublishQueue_keep (m := m) hst' hkept.type hkept.size hk hkept.queue
  exact ⟨_, (steps_publish_iff hst').mpr ⟨hfree, _, _, hcall, rfl⟩⟩

/-- A client that connects with a LIFO queue of two. -/
def connectingLifo : System Unit :=
  { impl := { state := .connecting, publishQueueType := .lifo, publishQueueSize := 2 }
    connection := some (.new {})
    pointer := true
    stateChanges := [.connecting] }

theorem reachable_connectingLifo : connectingLifo.Reachable :=
  ⟨{}, [.setPublishQueue .lifo 2, .call .connect, .hold], initial_default,
    Run.cons rfl (Run.cons rfl (Run.cons rfl .nil))⟩

/-- It publishes four messages while the lookup fails. -/
def publishWhileLookupFails : List (Action Unit) :=
  [.call (.publish (messageOf 1)), .read .next, .read .next, .call (.publish (messageOf 2)),
    .read (.lookup false), .call (.publish (messageOf 3)), .read .next, .read .next,
    .call (.publish (messageOf 4))]

theorem publish_queue_policy_lookupFails :
    ∃ s : System Unit, s.impl.publishQueue = [messageOf 1, messageOf 4] ∧
      s.accepted = [messageOf 1, messageOf 2, messageOf 3, messageOf 4] ∧
      ∀ m, s.holder = .free → ∃ t, s.Steps (.call (.publish m)) t := by
  have heval : (exec (nextIf WhileConnecting) connectingLifo publishWhileLookupFails).any
      (fun s => s.impl.state = .connecting) = true := by
    decide +kernel
  obtain ⟨s, hrun, htest⟩ := Run.of_exec (fun {_ _ _} => guarded_of_nextIf) heval
  exact ⟨s, publish_queue_policy reachable_connectingLifo rfl (by decide) hrun
    (of_decide_eq_true htest)⟩

/-! ## the bound -/

/-- The invariant of the bound: a DISCONNECTED client, whose queue can be given
another size, has nothing in it. -/
def QueueBounded (s : System C) : Prop :=
  s.impl.publishQueue.length ≤ s.impl.publishQueueSize ∧
    (s.impl.state = .disconnected → s.impl.publishQueue = [])

theorem queueBounded_step (hwf : s.WellFormed) (h : s.QueueBounded) (hstep : s.Steps a s') :
    s'.QueueBounded := by
  cases queueStep_of_steps hwf hstep with
  | kept hq ht hk hst ha hp =>
      refine ⟨by rw [hq, hk]; exact h.1, fun hdis => ?_⟩
      rw [hq]
      exact h.2 (hst hdis)
  | cleared hq hst =>
      refine ⟨?_, fun _ => hq⟩
      rw [hq]
      exact Nat.zero_le _
  | configured hst hq =>
      rw [QueueBounded, hq, h.2 hst]
      exact ⟨Nat.zero_le _, fun _ => rfl⟩
  | @queued m i accepted hst hq =>
      have hlen := Impl.length_toPublishQueue h.1 hq
      obtain ⟨-, rfl⟩ | ⟨-, q, -, rfl⟩ := Impl.toPublishQueue_spec hq
      · exact ⟨h.1, h.2⟩
      · exact ⟨hlen, fun hdis => by simp [hst] at hdis⟩

end System

end TrueMqtt
