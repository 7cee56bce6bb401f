import TrueMqtt.Send.Control
import TrueMqtt.System.Handshake

/-!
# TrueMqtt.System.Valid

The packets on their way are valid, if what the user hands in is.

`send` looks at no length, so what a packet says is decided where it comes from: the
configuration, the arguments of the API calls, and what the client keeps of these in
its topics and its publish queue.  In a run whose calls name nothing the format cannot
represent, every packet of the holder, of the send queue and in the write thread's
hands is one a broker can read (`fits_step`).
-/

namespace TrueMqtt

/-- The messages a PUBLISH can carry. -/
def Message.Fits (m : Message) : Prop :=
  m.topic.length ≤ 65535 ∧ m.topic.length + m.message.length + 2 ≤ 268435455

instance Message.decidableFits (m : Message) : Decidable m.Fits := by
  unfold Fits
  infer_instance

namespace Outgoing

theorem valid_pingRequest : pingRequest.Valid :=
  ⟨⟨fun _ hf => (List.not_mem_nil hf).elim, by decide⟩, fun h => by cases h⟩

theorem valid_publish {m : Message} (h : m.Fits) : (publish m).Valid :=
  ⟨(Draft.representable_publish m.topic m.message m.retain).mpr h, fun h => by cases h⟩

end Outgoing

namespace Config

/-- The client id and the last will a CONNECT can carry. -/
def Fits (cfg : Config) : Prop := (Draft.connect cfg.connectInfo).Representable

theorem valid_connect {cfg : Config} (h : cfg.Fits) : (Outgoing.connect cfg.connectInfo).Valid :=
  ⟨h, fun h => by cases h⟩

end Config

namespace Impl

variable {C : Type}

/-- 0 is not used. -/
theorem takePacketId_ne_zero (i : Impl C) : i.takePacketId.1 ≠ 0 := by
  unfold takePacketId
  by_cases h : i.packetId = 0
  · rw [if_pos h, h]
    exact (by decide : (0 : UInt16) + 1 ≠ 0)
  · rwa [if_neg h]

theorem valid_subscribe (i : Impl C) {topic : Str} (h : topic.length ≤ 65535) :
    (Outgoing.subscribe i.takePacketId.1 topic).Valid :=
  ⟨(Draft.representable_subscribe _ _).mpr h, fun hz =>
    i.takePacketId_ne_zero (Option.some.inj hz)⟩

theorem valid_unsubscribe (i : Impl C) {topic : Str} (h : topic.length ≤ 65535) :
    (Outgoing.unsubscribe i.takePacketId.1 topic).Valid :=
  ⟨(Draft.representable_unsubscribe _ _).mpr h, fun hz =>
    i.takePacketId_ne_zero (Option.some.inj hz)⟩

end Impl

namespace Connection

variable {cfg : Config} {c c' : Connection}

/-- The packets on their way to a socket. -/
def outgoing (c : Connection) : List Outgoing := c.writePc.packet?.toList ++ c.sendQueue

theorem valid_writeStep {pointer : Bool} {i : WriteInput} (h : ∀ o ∈ c.outgoing, o.Valid)
    (hw : c.writeStep pointer i = .ok c') : ∀ o ∈ c'.outgoing, o.Valid := by
  unfold outgoing at h ⊢
  cases writeMove_of_writeStep hw with
  | same hq hp hc => rwa [hq, hp]
  | take o hq hp hp' hc =>
      rw [hp, hq] at h
      rw [hp']
      exact h
  | drop hq hp' hc =>
      rw [hq, hp']
      exact fun o ho => h o (List.mem_append_right _ ho)
  | complete o hq hp hp' hc =>
      rw [hq, hp']
      exact fun o ho => h o (List.mem_append_right _ ho)

theorem valid_notify (h : ∀ o ∈ c.outgoing, o.Valid) : ∀ o ∈ c.notify.outgoing, o.Valid := by
  rwa [outgoing, packet?_notify, sendQueue_notify]

theorem valid_push {p : Outgoing} (hvalid : p.Valid) (h : ∀ o ∈ c.outgoing, o.Valid) :
    ∀ o ∈ (c.push p).outgoing, o.Valid := by
  intro o ho
  rw [outgoing, push, packet?_notify, sendQueue_notify, ← List.append_assoc, List.mem_append,
    List.mem_singleton] at ho
  obtain ho | rfl := ho
  · exact h o ho
  · exact hvalid

theorem valid_pushFront {p : Outgoing} (hvalid : p.Valid) (h : ∀ o ∈ c.outgoing, o.Valid) :
    ∀ o ∈ (c.pushFront p).outgoing, o.Valid := by
  intro o ho
  rw [outgoing, pushFront, packet?_notify, sendQueue_notify, List.mem_append, List.mem_cons] at ho
  obtain ho | rfl | ho := ho
  · exact h o (List.mem_append_left _ ho)
  · exact hvalid
  · exact h o (List.mem_append_right _ ho)

/-- The read thread sends a CONNECT and PINGREQs. -/
theorem valid_readStep {i : ReadInput} (hcfg : cfg.Fits) (h : ∀ o ∈ c.outgoing, o.Valid)
    (hr : c.readStep cfg i = .ok c') : ∀ o ∈ c'.outgoing, o.Valid := by
  cases readBranch_of_readStep hr with
  | sendConnect hpc hqf =>
      have hpushed := valid_pushFront (Config.valid_connect hcfg) h
      exact hpushed
  | sendPingRequest hpc hqf =>
      have hpushed := valid_pushFront Outgoing.valid_pingRequest h
      exact hpushed
  | clearQueue hpc hqf =>
      intro o ho
      rw [outgoing, List.append_nil] at ho
      exact h o (List.mem_append_left _ ho)
  | _ => exact h

end Connection

namespace After

/-- What is still to be sent fits. -/
def Fits : After → Prop
  | resubscribe topics => ∀ t ∈ topics, t.length ≤ 65535
  | flush messages => ∀ m ∈ messages, m.Fits
  | _ => True

end After

/-- The packet the holder sends is valid, and so are those that follow. -/
def Holder.Fits : Holder → Prop
  | sendTest o k | sendPush o k => o.Valid ∧ k.Fits
  | _ => True

namespace System

variable {C : Type} {s s' : System C} {a : Action C} {c c' : Connection}

/-- The calls that name nothing the format cannot represent. -/
def NamesFitting (s : System C) : Action C → Prop
  | .setLastWill topic message _ =>
      s.config.connectInfo.clientId.length ≤ 65535 ∧
        (topic = [] ∨ topic.length ≤ 65535 ∧ message.length ≤ 65535)
  | .call (.publish m) => m.Fits
  | .call (.subscribe topic _) => topic.length ≤ 65535
  | _ => True

instance (s : System C) (a : Action C) : Decidable (s.NamesFitting a) := by
  unfold NamesFitting
  induction a using Action.casesOn with
  | call k => induction k using Call.casesOn <;> infer_instance
  | _ => infer_instance

/-- Everything the client keeps fits, and every packet on its way is valid. -/
structure Fits (s : System C) : Prop where
  config : s.config.Fits
  topics : ∀ t ∈ s.impl.subscriptionTopics, t.length ≤ 65535
  publishQueue : ∀ m ∈ s.impl.publishQueue, m.Fits
  holder : s.holder.Fits
  connection : ∀ c, s.connection = some c → ∀ o ∈ c.outgoing, o.Valid

theorem fits_initial (h : Initial s) (hcfg : s.config.Fits) : s.Fits := by
  obtain ⟨config, rfl⟩ := h
  refine ⟨hcfg, fun t ht => ?_, fun m hm => (List.not_mem_nil hm).elim, trivial, fun c hc => ?_⟩
  · exact (SortedSet.not_mem_empty t ht).elim
  · cases hc

/-- What `Fits` is about, with the connection aside. -/
theorem fits_finish (h : s.Fits) (hc : ∀ o ∈ c.outgoing, o.Valid) : (s.finish c).Fits where
  config := h.config
  topics := h.topics
  publishQueue := fun m hm => (List.not_mem_nil hm).elim
  holder := trivial
  connection := fun d hd => by
    cases hd
    exact hc

theorem fits_flush (h : s.Fits) (hc : ∀ o ∈ c.outgoing, o.Valid) {messages : List Message}
    (hm : ∀ m ∈ messages, m.Fits) : (s.flush c messages).Fits := by
  cases messages with
  | nil => exact fits_finish h hc
  | cons m ms =>
      have hsend : (Outgoing.publish m).Valid := Outgoing.valid_publish (hm m List.mem_cons_self)
      refine ⟨h.config, h.topics, h.publishQueue, ⟨hsend, ?_⟩, fun d hd => ?_⟩
      · exact fun m' hm' => hm m' (List.mem_cons_of_mem m hm')
      · cases hd
        exact hc

theorem fits_resubscribe (h : s.Fits) (hc : ∀ o ∈ c.outgoing, o.Valid) {topics : List Str}
    (ht : ∀ t ∈ topics, t.length ≤ 65535) : (s.resubscribe c topics).Fits := by
  cases topics with
  | nil => exact fits_flush h hc h.publishQueue
  | cons t ts =>
      have hsend := s.impl.valid_subscribe (ht t List.mem_cons_self)
      refine ⟨h.config, h.topics, h.publishQueue, ⟨hsend, ?_⟩, fun d hd => ?_⟩
      · exact fun t' ht' => ht t' (List.mem_cons_of_mem t ht')
      · cases hd
        exact hc

theorem fits_disconnect (again : Bool) (h : s.Fits) : (s.disconnect again).Fits := by
  refine ⟨by rw [config_disconnect]; exact h.config, ?_, ?_, ?_, ?_⟩
  · rw [impl_disconnect]
    exact h.topics
  · rw [impl_disconnect]
    exact fun m hm => (List.not_mem_nil hm).elim
  · cases hc : s.connection <;> cases again <;> simp [disconnect, connect, hc, Holder.Fits]
  · intro c hc
    cases hd : s.connection with
    | some d =>
        have hsame : s.connection = some c := by simpa [disconnect, hd] using hc
        exact h.connection c hsame
    | none =>
        cases again with
        | false => simp [disconnect, hd] at hc
        | true =>
            have hnew : Connection.new s.config = c := by simpa [disconnect, connect, hd] using hc
            exact hnew ▸ fun o ho => (List.not_mem_nil ho).elim

theorem fits_after {sent : Bool} {k : After} (h : s.Fits) (hk : k.Fits)
    (hc : ∀ o ∈ c.outgoing, o.Valid) (ha : s.after c sent k = .ok s') : s'.Fits := by
  cases k with
  | publish m =>
      cases ha
      refine ⟨h.config, h.topics, h.publishQueue, trivial, fun d hd => ?_⟩
      cases hd
      exact hc
  | request =>
      cases ha
      have hset : { s with connection := some c }.Fits := by
        refine ⟨h.config, h.topics, h.publishQueue, h.holder, fun d hd => ?_⟩
        cases hd
        exact hc
      cases sent with
      | true => exact ⟨hset.config, hset.topics, hset.publishQueue, trivial, hset.connection⟩
      | false => exact fits_disconnect true hset
  | resubscribe topics =>
      cases sent with
      | true =>
          cases ha
          exact fits_resubscribe h hc hk
      | false => cases ha
  | flush messages =>
      cases ha
      cases sent with
      | true => exact fits_flush h hc hk
      | false => exact fits_finish h hc

/-- A connection in place of another. -/
theorem fits_of_connection (h : s.Fits) (hc : ∀ o ∈ c.outgoing, o.Valid) :
    { s with connection := some c }.Fits := by
  refine ⟨h.config, h.topics, h.publishQueue, h.holder, fun d hd => ?_⟩
  cases hd
  exact hc

theorem fits_move (h : s.Fits) (hg : s.NamesFitting a) (ha : ∀ t m r, a ≠ .setLastWill t m r)
    (hm : Move s a s') : s'.Fits := by
  cases hm with
  | idle => exact h
  | setPublishQueue hst | setSendQueue hst =>
      exact ⟨h.config, h.topics, h.publishQueue, h.holder, h.connection⟩
  | setLastWill => exact absurd rfl (ha _ _ _)
  | connect hfree hst =>
      refine ⟨h.config, h.topics, h.publishQueue, trivial, fun d hd => ?_⟩
      cases hd
      exact fun o ho => (List.not_mem_nil ho).elim
  | disconnect hfree hst =>
      exact fits_disconnect false ⟨h.config, h.topics, h.publishQueue, h.holder, h.connection⟩
  | toPublishQueue hfree hst hq =>
      obtain ⟨-, rfl⟩ | ⟨-, q, hsub, rfl⟩ := Impl.toPublishQueue_spec hq
      · exact ⟨h.config, h.topics, h.publishQueue, h.holder, h.connection⟩
      · refine ⟨h.config, h.topics, fun m hm => ?_, h.holder, h.connection⟩
        obtain hm | hm := List.mem_append.mp hm
        · exact h.publishQueue m (hsub.subset hm)
        · exact List.mem_singleton.mp hm ▸ hg
  | publish hfree hst =>
      exact ⟨h.config, h.topics, h.publishQueue, ⟨Outgoing.valid_publish hg, trivial⟩, h.connection⟩
  | addSubscription hfree hst =>
      refine ⟨h.config, fun t ht => ?_, h.publishQueue, h.holder, h.connection⟩
      obtain rfl | ht := SortedSet.mem_insert.mp ht
      · exact hg
      · exact h.topics t ht
  | subscribe hfree hst =>
      refine ⟨h.config, fun t ht => ?_, h.publishQueue, ?_, h.connection⟩
      · obtain rfl | ht := SortedSet.mem_insert.mp ht
        · exact hg
        · exact h.topics t ht
      · exact ⟨Impl.valid_subscribe _ hg, trivial⟩
  | removeSubscription hfree hst hmem hi =>
      obtain ⟨subscriptions, rfl⟩ := Impl.removeSubscription_spec hi
      refine ⟨h.config, fun t ht => ?_, h.publishQueue, h.holder, h.connection⟩
      exact h.topics t (SortedSet.mem_erase.mp ht).1
  | unsubscribe hfree hst hmem hi =>
      obtain ⟨subscriptions, rfl⟩ := Impl.removeSubscription_spec hi
      refine ⟨h.config, fun t ht => ?_, h.publishQueue, ?_, h.connection⟩
      · exact h.topics t (SortedSet.mem_erase.mp ht).1
      · exact ⟨Impl.valid_unsubscribe _ (h.topics _ hmem), trivial⟩
  | room hc hh hsize =>
      have hsend := h.holder
      rw [hh] at hsend
      exact ⟨h.config, h.topics, h.publishQueue, hsend, h.connection⟩
  | refused hc hh hsize hafter =>
      have hsend := h.holder
      rw [hh] at hsend
      exact fits_after h hsend.2 (h.connection _ hc) hafter
  | pushed hc hh hqf hafter =>
      have hsend := h.holder
      rw [hh] at hsend
      exact fits_after h hsend.2 (Connection.valid_push hsend.1 (h.connection _ hc)) hafter
  | stop hc hh =>
      have hkeep := h.connection _ hc
      refine ⟨h.config, h.topics, h.publishQueue, trivial, fun d hd => ?_⟩
      cases hd
      exact hkeep
  | notify hc hh =>
      have hkeep := Connection.valid_notify (h.connection _ hc)
      refine ⟨h.config, h.topics, h.publishQueue, trivial, fun d hd => ?_⟩
      cases hd
      exact hkeep
  | joinRead hc hh hpc =>
      exact ⟨h.config, h.topics, h.publishQueue, trivial, h.connection⟩
  | destroyed hc hh hpc =>
      exact ⟨h.config, h.topics, h.publishQueue, trivial, fun d hd => by cases hd⟩
  | replaced hc hh hpc =>
      refine ⟨h.config, h.topics, h.publishQueue, trivial, fun d hd => ?_⟩
      cases hd
      exact fun o ho => (List.not_mem_nil ho).elim
  | assign hh hc => exact ⟨h.config, h.topics, h.publishQueue, trivial, h.connection⟩
  | @connected c hc hfree hpc =>
      have hset : (s.setState .connected).Fits :=
        ⟨h.config, h.topics, h.publishQueue, h.holder, h.connection⟩
      have hkeep := h.connection _ hc
      exact fits_resubscribe (c := { c with readPc := .stateChange }) hset hkeep h.topics
  | lost hc hfree hpc =>
      have hset : (s.setState .connecting).Fits :=
        ⟨h.config, h.topics, h.publishQueue, h.holder, h.connection⟩
      have hkeep := h.connection _ hc
      exact fits_of_connection hset hkeep
  | message hc hfree hpc =>
      have hkeep := h.connection _ hc
      refine ⟨h.config, h.topics, h.publishQueue, h.holder, fun d hd => ?_⟩
      cases hd
      exact hkeep
  | read hc hr =>
      exact fits_of_connection h (Connection.valid_readStep h.config (h.connection _ hc) hr)
  | write hc hw =>
      exact fits_of_connection h (Connection.valid_writeStep (h.connection _ hc) hw)

/-- **Valid packets**: a call that names nothing the format cannot represent puts no
such thing in a packet. -/
theorem fits_step (h : s.Fits) (hg : s.NamesFitting a) (hstep : s.Steps a s') : s'.Fits := by
  by_cases hwill : ∃ t m r, a = .setLastWill t m r
  · obtain ⟨topic, message, retain, rfl⟩ := hwill
    rw [Steps, step, setting] at hstep
    split at hstep
    · cases hstep
      exact h
    · cases hstep
      refine ⟨?_, h.topics, h.publishQueue, h.holder, h.connection⟩
      exact (Draft.representable_connect _).mpr hg
  · exact fits_move h hg (fun t m r ha => hwill ⟨t, m, r, ha⟩) (move_of_step hstep)

end System

end TrueMqtt
