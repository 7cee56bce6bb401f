import TrueMqtt.Lib.CyclicIds
import TrueMqtt.System.Flush

/-!
# TrueMqtt.System.PacketIds

The packet identifiers.  `sendSubscribe` and `sendUnsubscribe` use `m_packet_id`, or
1 in place of 0, and leave the next number there; nothing else touches it, no
reconnect, no disconnect and no refused send.

So the packets they build in a run are numbered 1 to 65535 and round again, whichever
of the two builds them, and no identifier comes back within 65535 calls
(`packet_ids_go_round`).
-/

namespace TrueMqtt

open CyclicIds

/-! ## identifiers -/

namespace Outgoing

/-- The packets that carry an identifier. -/
def isRequest : Outgoing → Bool
  | subscribe _ _ | unsubscribe _ _ => true
  | _ => false

/-- The identifier in the packet, the 16-bit value its body starts with. -/
def identifier (o : Outgoing) : Nat := (o.draft.received.readUint16.map (·.1.toNat)).getD 0

theorem identifier_of_fields {o : Outgoing} {id : UInt16} {fields : List Field}
    (h : o.draft.fields = .uint16 id :: fields) : o.identifier = id.toNat := by
  have hrest : o.draft.received.rest =
      (id >>> 8).toUInt8 :: (id &&& 0xFF).toUInt8 :: fieldBytes fields := by
    show fieldBytes o.draft.fields = _
    rw [h]
    rfl
  obtain ⟨p, hread, -⟩ := Packet.readUint16_of_rest hrest
  rw [identifier, hread, Packet.uint16_of_bytes, Option.map_some, Option.getD_some]

@[simp] theorem identifier_subscribe (id : UInt16) (topic : Str) :
    (subscribe id topic).identifier = id.toNat :=
  identifier_of_fields rfl

@[simp] theorem identifier_unsubscribe (id : UInt16) (topic : Str) :
    (unsubscribe id topic).identifier = id.toNat :=
  identifier_of_fields rfl

end Outgoing

/-- The counter wraps, and 0 is skipped. -/
theorem toNat_nextPacketId {id : UInt16} {k : Nat} (h : id.toNat = nth 65535 k) :
    (nextPacketId id).toNat = nth 65535 (k + 1) := by
  have hlt := id.toNat_lt
  have hnext : (id + 1).toNat = (id.toNat + 1) % 65536 := UInt16.toNat_add id 1
  rw [nth_succ (by decide), ← h, nextPacketId]
  by_cases hlast : id.toNat = 65535
  · have hwrap : id + 1 = 0 := UInt16.toNat_inj.mp (by rw [hnext, hlast]; rfl)
    rw [if_pos hwrap, if_pos hlast]
    rfl
  · have hstay : id + 1 ≠ 0 := by
      intro hzero
      rw [hzero] at hnext
      have hsum : 0 = (id.toNat + 1) % 65536 := hnext
      omega
    rw [if_neg hstay, if_neg hlast, hnext]
    omega

theorem takePacketId_eq {C : Type} (i : Impl C) :
    i.takePacketId = (firstPacketId i.packetId,
      { i with packetId := firstPacketId i.packetId + 1 }) := by
  rw [← Impl.takePacketId_fst]
  rfl

/-- The holder is at the test of a send. -/
def Holder.testing : Holder → Bool
  | sendTest _ _ => true
  | _ => false

namespace System

variable {C : Type} {s s' t : System C} {a : Action C} {c : Connection}
  {built : List Outgoing}

/-- The packets with an identifier that are built: a packet is built on the way to the
test of its send. -/
def noteRequest (s : System C) (_ : Action C) (s' : System C) (built : List Outgoing) :
    List Outgoing :=
  match s'.holder with
  | .sendTest o _ => if ¬ s.holder.testing ∧ o.isRequest then built ++ [o] else built
  | _ => built

/-- What a step does to the counter: nothing, or it builds a packet with the number
the counter stands for. -/
inductive Builds (s s' : System C) (a : Action C) (built : List Outgoing) : Prop
  | none (hid : s'.impl.packetId = s.impl.packetId) (hb : s.noteRequest a s' built = built)
  | one (o : Outgoing) (ho : o.identifier = (firstPacketId s.impl.packetId).toNat)
      (hid : s'.impl.packetId = firstPacketId s.impl.packetId + 1)
      (hb : s.noteRequest a s' built = built ++ [o])

/-! ## steps -/

theorem testing_of_free (hfree : s.holder = .free) : s.holder.testing = false := by
  rw [hfree]
  rfl

theorem builds_of_not_testing (hid : s'.impl.packetId = s.impl.packetId)
    (h : s'.holder.testing = false) : Builds s s' a built := by
  refine .none hid ?_
  unfold noteRequest
  split
  · next hh => simp [hh, Holder.testing] at h
  · rfl

theorem builds_of_testing (hid : s'.impl.packetId = s.impl.packetId)
    (h : s.holder.testing = true) : Builds s s' a built := by
  refine .none hid ?_
  unfold noteRequest
  split
  · exact if_neg fun hn => hn.1 h
  · rfl

/-- A step that leaves the holder where it is. -/
theorem builds_of_same (hid : s'.impl.packetId = s.impl.packetId)
    (hh : s'.holder = s.holder) : Builds s s' a built := by
  cases htesting : s.holder.testing with
  | true => exact builds_of_testing hid htesting
  | false => exact builds_of_not_testing hid (hh ▸ htesting)

theorem builds_publish {m : Message} {k : After} (hid : s'.impl.packetId = s.impl.packetId)
    (hh : s'.holder = .sendTest (.publish m) k) : Builds s s' a built := by
  refine .none hid ?_
  simp [noteRequest, hh, Outgoing.isRequest]

/-- A step to the send of a request. -/
theorem builds_request {o : Outgoing} {k : After} {topic : Str} (hs : s.holder.testing = false)
    (hid : t.impl.packetId = s.impl.packetId) (hh : s'.holder = .sendTest o k)
    (ho : o = .subscribe t.impl.takePacketId.1 topic ∨
      o = .unsubscribe t.impl.takePacketId.1 topic)
    (hid' : s'.impl.packetId = t.impl.takePacketId.2.packetId) : Builds s s' a built := by
  rw [takePacketId_eq, hid] at ho hid'
  refine .one o ?_ hid' ?_
  · obtain rfl | rfl := ho
    all_goals simp
  · obtain rfl | rfl := ho
    all_goals simp [noteRequest, hh, hs, Outgoing.isRequest]

theorem builds_flush (hid : t.impl.packetId = s.impl.packetId) (messages : List Message) :
    Builds s (t.flush c messages) a built := by
  cases messages with
  | nil => exact builds_of_not_testing hid rfl
  | cons m ms => exact builds_publish hid rfl

theorem builds_resubscribe (hs : s.holder.testing = false)
    (hid : t.impl.packetId = s.impl.packetId) (topics : List Str) :
    Builds s (t.resubscribe c topics) a built := by
  cases topics with
  | nil => exact builds_flush hid _
  | cons topic topics => exact builds_request hs hid rfl (.inl rfl) rfl

/-- A send that is over; one that is refused goes on to no other. -/
theorem builds_after {sent : Bool} {k : After} (hs : sent = true → s.holder.testing = false)
    (h : s.after c sent k = .ok s') : Builds s s' a built := by
  cases k with
  | publish m =>
      cases h
      exact builds_of_not_testing rfl rfl
  | request =>
      cases h
      cases sent with
      | true => exact builds_of_not_testing rfl rfl
      | false => exact builds_of_not_testing rfl rfl
  | resubscribe topics =>
      cases sent with
      | true =>
          cases h
          exact builds_resubscribe (hs rfl) rfl topics
      | false => cases h
  | flush messages =>
      cases h
      cases sent with
      | true => exact builds_flush rfl messages
      | false => exact builds_of_not_testing rfl rfl

theorem builds_move (hm : Move s a s') : Builds s s' a built := by
  cases hm with
  | idle => exact builds_of_same rfl rfl
  | setPublishQueue hst => exact builds_of_same rfl rfl
  | setSendQueue hst => exact builds_of_same rfl rfl
  | setLastWill => exact builds_of_same rfl rfl
  | connect hfree hst => exact builds_of_not_testing rfl rfl
  | disconnect hfree hst =>
      refine builds_of_not_testing ?_ ?_
      · rw [impl_disconnect]
        rfl
      · obtain hh | hh := holder_disconnect (s.setState .disconnected)
        all_goals
          rw [hh]
          rfl
  | toPublishQueue hfree hst hq =>
      obtain ⟨-, rfl⟩ | ⟨-, q, -, rfl⟩ := Impl.toPublishQueue_spec hq
      all_goals exact builds_of_same rfl rfl
  | publish hfree hst => exact builds_publish rfl rfl
  | addSubscription hfree hst => exact builds_of_same rfl rfl
  | @subscribe topic callback hfree hst =>
      exact builds_request (t := { s with impl := s.impl.addSubscription topic callback })
        (testing_of_free hfree) rfl rfl (.inl rfl) rfl
  | removeSubscription hfree hst hmem hi =>
      obtain ⟨subscriptions, rfl⟩ := Impl.removeSubscription_spec hi
      exact builds_of_same rfl rfl
  | @unsubscribe topic i hfree hst hmem hi =>
      obtain ⟨subscriptions, rfl⟩ := Impl.removeSubscription_spec hi
      exact builds_request (t := { s with impl := { s.impl with
          subscriptions := subscriptions
          subscriptionTopics := s.impl.subscriptionTopics.erase topic } })
        (testing_of_free hfree) rfl rfl (.inr rfl) rfl
  | room hc hh hsize => exact builds_of_not_testing rfl rfl
  | refused hc hh hsize ha => exact builds_after (fun h => by cases h) ha
  | pushed hc hh hqf ha => exact builds_after (fun _ => by rw [hh]; rfl) ha
  | stop hc hh => exact builds_of_not_testing rfl rfl
  | notify hc hh => exact builds_of_not_testing rfl rfl
  | joinRead hc hh hpc => exact builds_of_not_testing rfl rfl
  | destroyed hc hh hpc => exact builds_of_not_testing rfl rfl
  | replaced hc hh hpc => exact builds_of_not_testing rfl rfl
  | assign hh hc => exact builds_of_not_testing rfl rfl
  | connected hc hfree hpc =>
      exact builds_resubscribe (s := s) (t := s.setState .connected) (testing_of_free hfree) rfl _
  | lost hc hfree hpc => exact builds_of_same rfl rfl
  | message hc hfree hpc => exact builds_of_same rfl rfl
  | read hc hr => exact builds_of_same rfl rfl
  | write hc hw => exact builds_of_same rfl rfl

/-! ## runs -/

/-- The packets built are numbered, and the counter stands for the next number. -/
structure InOrder (p : System C × List Outgoing) : Prop where
  numbered : Numbered 65535 Outgoing.identifier p.2
  next : (firstPacketId p.1.impl.packetId).toNat = nth 65535 p.2.length

theorem inOrder_initial (h₀ : Initial s) : InOrder (s, []) := by
  obtain ⟨config, rfl⟩ := h₀
  exact ⟨numbered_nil _ _, rfl⟩

/-- **Step lemma**: the next packet built has the next number. -/
theorem inOrder_step {p p' : System C × List Outgoing} (h : InOrder p)
    (hstep : Observed Steps noteRequest p a p') : InOrder p' := by
  obtain ⟨s, built⟩ := p
  obtain ⟨s', built'⟩ := p'
  obtain ⟨hstep, hnote : built' = s.noteRequest a s' built⟩ := hstep
  subst hnote
  have hbuilds : Builds s s' a built := builds_move (move_of_step hstep)
  cases hbuilds with
  | none hid hb =>
      refine ⟨?_, ?_⟩
      · rw [hb]
        exact h.numbered
      · rw [hb, hid]
        exact h.next
  | one o ho hid hb =>
      refine ⟨?_, ?_⟩
      · rw [hb]
        exact h.numbered.concat (ho.trans h.next)
      · rw [hb, hid, List.length_append, List.length_singleton]
        exact toNat_nextPacketId h.next

/-- **Packet identifiers**: the `k`-th packet built by `sendSubscribe` and
`sendUnsubscribe` in a run carries `1 + k % 65535`, which is not 0, and two of them
fewer than 65535 calls apart carry different identifiers. -/
theorem packet_ids_go_round {s₀ : System C} {as : List (Action C)} (h₀ : Initial s₀)
    (hrun : Run (Observed Steps noteRequest) (s₀, []) as (s, built)) :
    (∀ k o, built[k]? = some o → o.identifier = 1 + k % 65535) ∧
      (∀ o ∈ built, o.identifier ≠ 0) ∧
      ∀ i j o o', built[i]? = some o → built[j]? = some o' → i < j → j < i + 65535 →
        o.identifier ≠ o'.identifier := by
  have hnumbered := (hrun.invariant (inOrder_initial h₀) fun _ _ _ => inOrder_step).numbered
  refine ⟨hnumbered, fun o ho => ?_, fun i j o o' hi hj => ?_⟩
  · exact (hnumbered.pos ho).ne'
  · exact hnumbered.ne_of_lt hi hj

/-- A connected client subscribes and unsubscribes. -/
def subscribeAndUnsubscribe : List (Action Unit) :=
  [.call .connect, .hold] ++ toConnack ++
    [.grant, .call (.subscribe [97] ()), .hold, .hold, .call (.unsubscribe [97]), .hold, .hold]

theorem packet_ids_go_round_subscribeAndUnsubscribe :
    ∃ built : List Outgoing, built = [.subscribe 1 [97], .unsubscribe 2 [97]] ∧
      ∀ k o, built[k]? = some o → o.identifier = 1 + k % 65535 := by
  have heval : (exec (observe next noteRequest) (({} : System Unit), [])
      subscribeAndUnsubscribe).any
        (fun p => p.2 = [.subscribe 1 [97], .unsubscribe 2 [97]]) = true := by
    decide +kernel
  obtain ⟨⟨s, built⟩, hrun, htest⟩ := Run.of_exec (R := Observed Steps noteRequest)
    (observed_of_observe fun {_ _ _} => steps_of_next) heval
  exact ⟨built, of_decide_eq_true htest, (packet_ids_go_round initial_default hrun).1⟩

end System

end TrueMqtt
