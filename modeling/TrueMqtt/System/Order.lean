import TrueMqtt.System.Handshake

/-!
# TrueMqtt.System.Order

Where a published message can be: completely written, in the hands of the write
thread, in the send queue, or waiting in the publish queue or in the flush loop.
Read in this order, the messages are a subsequence of the accepted ones in every
run (`Ordered`), so what reaches the sockets is (`publishes_in_order`).
-/

namespace TrueMqtt

namespace Connection

variable {cfg : Config} {c c' : Connection}

/-- The messages a connection has written or is yet to write, in order. -/
def messages (c : Connection) : List Message :=
  (c.completed ++ (c.writePc.packet?.toList ++ c.sendQueue)).filterMap Outgoing.message?

theorem messages_readStep {i : ReadInput} (h : c.readStep cfg i = .ok c') :
    c'.messages.Sublist c.messages := by
  have hframe := readFrame_of_readStep h
  cases queueMove_of_readStep h with
  | same hpc hq he =>
      rw [messages, messages, hframe.completed, hframe.packet?, hq]
  | urgent o ho hpc hq he =>
      rw [messages, messages, hframe.completed, hframe.packet?, hq]
      simp [Outgoing.message?_of_isUrgent ho]
  | clear hpc hq he =>
      rw [messages, messages, hframe.completed, hframe.packet?, hq]
      apply List.Sublist.filterMap
      simp

theorem messages_writeStep {pointer : Bool} {i : WriteInput}
    (h : c.writeStep pointer i = .ok c') : c'.messages.Sublist c.messages := by
  cases writeMove_of_writeStep h with
  | same hq hp hc => rw [messages, messages, hq, hp, hc]
  | take o hq hp hp' hc =>
      rw [messages, messages, hq, hp, hp', hc]
      simp
  | drop hq hp' hc =>
      rw [messages, messages, hq, hp', hc]
      apply List.Sublist.filterMap
      simp
  | complete o hq hp hp' hc =>
      rw [messages, messages, hq, hp, hp', hc]
      simp

theorem messages_push (o : Outgoing) (c : Connection) :
    (c.push o).messages = c.messages ++ o.message?.toList := by
  cases o <;> simp [messages, push, Outgoing.message?]

theorem completed_sublist_messages (c : Connection) :
    (c.completed.filterMap Outgoing.message?).Sublist c.messages := by
  apply List.Sublist.filterMap
  exact List.sublist_append_left _ _

end Connection

namespace Holder

/-- The accepted messages no connection has been given yet; the flush loop goes
through a queue that is only cleared at its end. -/
def pending (queue : List Message) : Holder → List Message
  | sendTest o (.flush ms) | sendPush o (.flush ms) => o.message?.toList ++ ms
  | _ => queue

/-- The packet being sent is the one the call is about. -/
def Fitting : Holder → Prop
  | sendTest o k | sendPush o k =>
      match k with
      | .publish m => o = .publish m
      | .flush _ => True
      | _ => o.message? = none
  | _ => True

end Holder

namespace System

variable {C : Type} {s s' : System C} {a : Action C} {c c' : Connection}

/-- The messages completely written to sockets, over all connections. -/
def written (s : System C) : List Message :=
  (s.archive ++ s.connection.elim [] Connection.completed).filterMap Outgoing.message?

/-- The messages written or to be written, over all connections. -/
def handed (s : System C) : List Message :=
  s.archive.filterMap Outgoing.message? ++ s.connection.elim [] Connection.messages

/-- The invariant of the runs. -/
structure Ordered (s : System C) : Prop where
  sublist : (s.handed ++ s.holder.pending s.impl.publishQueue).Sublist s.accepted
  /-- a message is only sent directly when none waits -/
  drained : s.impl.state = .connected → s.holder.restoring = false → s.impl.publishQueue = []
  fitting : s.holder.Fitting

/-- A smaller trail of messages is still in order. -/
theorem Ordered.of_sublist (h : s.Ordered) (hh : s'.handed.Sublist s.handed)
    (hp : (s'.holder.pending s'.impl.publishQueue).Sublist
      (s.holder.pending s.impl.publishQueue))
    (ha : s'.accepted = s.accepted)
    (hd : s'.impl.state = .connected → s'.holder.restoring = false → s'.impl.publishQueue = [])
    (hf : s'.holder.Fitting) : s'.Ordered := by
  refine ⟨?_, hd, hf⟩
  rw [ha]
  exact (List.Sublist.append hh hp).trans h.sublist

/-! ## `connectionStateChange` -/

theorem ordered_finish
    (hs : (s.archive.filterMap Outgoing.message? ++ c.messages).Sublist s.accepted) :
    (s.finish c).Ordered := by
  refine ⟨?_, fun _ _ => rfl, trivial⟩
  change (s.archive.filterMap Outgoing.message? ++ c.messages ++ []).Sublist s.accepted
  rwa [List.append_nil]

theorem ordered_flush {messages : List Message}
    (hs : (s.archive.filterMap Outgoing.message? ++ c.messages ++ messages).Sublist s.accepted) :
    (s.flush c messages).Ordered := by
  cases messages with
  | nil => exact ordered_finish (by simpa using hs)
  | cons m ms =>
      refine ⟨?_, fun _ h => (nomatch h), trivial⟩
      simpa [flush, sendPublish, handed, Holder.pending, Outgoing.message?] using hs

theorem ordered_resubscribe
    (hs : (s.archive.filterMap Outgoing.message? ++ c.messages ++ s.impl.publishQueue).Sublist
      s.accepted) (topics : List Str) : (s.resubscribe c topics).Ordered := by
  cases topics with
  | nil => exact ordered_flush hs
  | cons t ts =>
      exact ⟨hs, fun _ h => (nomatch h), rfl⟩

/-! ## sends -/

/-- After the packet is queued. -/
theorem ordered_sent {o : Outgoing} {k : After} (h : s.Ordered)
    (hst : s.impl.state = .connected) (hc : s.connection = some c) (hh : s.holder = .sendPush o k)
    (ha : s.after (c.push o) true k = .ok s') : s'.Ordered := by
  have hs := h.sublist
  have hfit := h.fitting
  have hdrained := h.drained hst
  rw [handed, hc, hh] at hs
  rw [hh] at hfit hdrained
  simp only [Option.elim_some] at hs
  cases k with
  | publish m =>
      cases hfit
      cases ha
      have hnil : s.impl.publishQueue = [] := hdrained rfl
      refine ⟨?_, fun _ _ => hnil, trivial⟩
      simp only [Holder.pending, hnil, List.append_nil] at hs
      simpa [handed, Holder.pending, hnil, Connection.messages_push, Outgoing.message?,
        ← List.append_assoc] using hs
  | request =>
      have hnone : o.message? = none := hfit
      cases ha
      refine ⟨?_, fun _ _ => hdrained rfl, trivial⟩
      simpa [handed, Holder.pending, Connection.messages_push, hnone] using hs
  | resubscribe topics =>
      have hnone : o.message? = none := hfit
      cases ha
      refine ordered_resubscribe ?_ topics
      simpa [Holder.pending, Connection.messages_push, hnone] using hs
  | flush messages =>
      cases ha
      refine ordered_flush ?_
      simpa [Holder.pending, Connection.messages_push] using hs

/-- After the packet is refused: its message, if it has one, is given up. -/
theorem ordered_refused {o : Outgoing} {k : After} (h : s.Ordered)
    (hst : s.impl.state = .connected) (hc : s.connection = some c) (hh : s.holder = .sendTest o k)
    (ha : s.after c false k = .ok s') : s'.Ordered := by
  have hs := h.sublist
  have hdrained := h.drained hst
  rw [handed, hc, hh] at hs
  rw [hh] at hdrained
  simp only [Option.elim_some] at hs
  cases k with
  | publish m =>
      cases ha
      exact ⟨hs, fun _ _ => hdrained rfl, trivial⟩
  | request =>
      cases ha
      refine ⟨?_, fun _ _ => rfl, trivial⟩
      exact (List.Sublist.append_left (List.nil_sublist _) _).trans hs
  | resubscribe topics => cases ha
  | flush messages =>
      cases ha
      exact ordered_finish ((List.sublist_append_left _ _).trans hs)

/-! ## steps -/

/-- A step that only changes the connection, and leaves its messages in order. -/
theorem ordered_of_messages (h : s.Ordered) (hc : s.connection = some c)
    (hm : c'.messages.Sublist c.messages) : { s with connection := some c' }.Ordered := by
  refine h.of_sublist ?_ (List.Sublist.refl _) rfl h.drained h.fitting
  rw [handed, handed, hc]
  exact List.Sublist.append_left hm _

/-- A call that comes to a send finds the publish queue empty. -/
theorem ordered_call {i : Impl C} {o : Outgoing} {k : After} (h : s.Ordered)
    (hfree : s.holder = .free) (hst : s.impl.state = .connected)
    (hq : i.publishQueue = s.impl.publishQueue) (hk : k.restoring = false)
    (hf : (Holder.sendTest o k).Fitting) :
    { s with impl := i, holder := .sendTest o k }.Ordered := by
  have hnil : i.publishQueue = [] := hq.trans (h.drained hst (by rw [hfree]; rfl))
  refine h.of_sublist (List.Sublist.refl _) ?_ rfl (fun _ _ => hnil) hf
  have hpending : (Holder.sendTest o k).pending i.publishQueue = [] := by
    cases k with
    | publish m | request => exact hnil
    | resubscribe ts | flush ms => cases hk
  rw [hpending]
  exact List.nil_sublist _

theorem ordered_move (hwf : s.WellFormed) (h : s.Ordered) (hm : Move s a s') : s'.Ordered := by
  cases hm with
  | idle => exact h
  | setPublishQueue hst => exact ⟨h.sublist, h.drained, h.fitting⟩
  | setSendQueue hst => exact ⟨h.sublist, h.drained, h.fitting⟩
  | setLastWill => exact ⟨h.sublist, h.drained, h.fitting⟩
  | connect hfree hst =>
      refine h.of_sublist ?_ ?_ rfl ?_ trivial
      · exact List.Sublist.append_left (List.nil_sublist _) _
      · rw [hfree]
        exact List.Sublist.refl _
      · simp [System.connect, setState]
  | disconnect hfree hst =>
      cases hc : s.connection with
      | none | some c =>
          refine h.of_sublist ?_ ?_ ?_ ?_ ?_ <;>
            simp [System.disconnect, setState, hc, handed, Holder.pending, Impl.disconnect,
              Holder.Fitting]
  | toPublishQueue hfree hst hq =>
      obtain ⟨rfl, rfl⟩ | ⟨rfl, q, hsub, rfl⟩ := Impl.toPublishQueue_spec hq
      · exact ⟨h.sublist, h.drained, h.fitting⟩
      · have hs := h.sublist
        rw [hfree] at hs
        refine ⟨?_, fun hcon => by simp [hst] at hcon, ?_⟩
        · simp only [hfree, Holder.pending, ↓reduceIte] at hs ⊢
          rw [← List.append_assoc]
          have hq' := (List.Sublist.append_left hsub s.handed).trans hs
          exact List.Sublist.append hq' (List.Sublist.refl _)
        · rw [hfree]
          trivial
  | publish hfree hst => exact ordered_call h hfree hst rfl rfl rfl
  | addSubscription hfree hst => exact ⟨h.sublist, h.drained, h.fitting⟩
  | subscribe hfree hst => exact ordered_call (s := s) h hfree hst rfl rfl rfl
  | removeSubscription hfree hst hmem hi =>
      obtain ⟨subscriptions, rfl⟩ := Impl.removeSubscription_spec hi
      exact ⟨h.sublist, h.drained, h.fitting⟩
  | unsubscribe hfree hst hmem hi =>
      obtain ⟨subscriptions, rfl⟩ := Impl.removeSubscription_spec hi
      exact ordered_call (s := s) h hfree hst rfl rfl rfl
  | @room c o k hc hh hsize =>
      have hdrained := h.drained
      have hfit := h.fitting
      rw [hh] at hdrained hfit
      refine h.of_sublist (List.Sublist.refl _) ?_ rfl hdrained hfit
      rw [hh]
      cases k <;> exact List.Sublist.refl _
  | refused hc hh hsize ha =>
      simp only [WellFormed, hh] at hwf
      exact ordered_refused h hwf.1 hc hh ha
  | pushed hc hh hqf ha =>
      simp only [WellFormed, hh] at hwf
      exact ordered_sent h hwf.1 hc hh ha
  | stop hc hh =>
      refine h.of_sublist ?_ (by simp [hh, Holder.pending]) rfl ?_ trivial
      · rw [handed, handed, hc]
        exact List.Sublist.refl _
      · exact fun hst _ => h.drained hst (by rw [hh]; rfl)
  | notify hc hh =>
      refine h.of_sublist ?_ (by simp [hh, Holder.pending]) rfl ?_ trivial
      · simp [handed, hc, Connection.messages]
      · exact fun hst _ => h.drained hst (by rw [hh]; rfl)
  | joinRead hc hh hpc =>
      refine h.of_sublist (List.Sublist.refl _) (by simp [hh, Holder.pending]) rfl ?_ trivial
      exact fun hst _ => h.drained hst (by rw [hh]; rfl)
  | @destroyed c hc hh hpc =>
      refine h.of_sublist ?_ (by simp [hh, Holder.pending]) rfl ?_ trivial
      · simpa [handed, hc] using c.completed_sublist_messages
      · exact fun hst _ => h.drained hst (by rw [hh]; rfl)
  | @replaced c hc hh hpc =>
      refine h.of_sublist ?_ (by simp [hh, Holder.pending]) rfl ?_ trivial
      · simp [handed, hc, Connection.messages, Connection.new, WritePc.packet?]
      · exact fun hst _ => h.drained hst (by rw [hh]; rfl)
  | assign hh hc =>
      refine h.of_sublist (List.Sublist.refl _) (by simp [hh, Holder.pending]) rfl ?_ trivial
      exact fun hst _ => h.drained hst (by rw [hh]; rfl)
  | connected hc hfree hpc =>
      refine ordered_resubscribe (s := s.setState .connected) ?_ _
      have hs := h.sublist
      rw [handed, hc, hfree] at hs
      exact hs
  | lost hc hfree hpc =>
      refine h.of_sublist ?_ (List.Sublist.refl _) rfl ?_ h.fitting
      · rw [handed, handed, hc]
        exact List.Sublist.refl _
      · simp [setState]
  | message hc hfree hpc =>
      refine h.of_sublist ?_ (List.Sublist.refl _) rfl h.drained h.fitting
      rw [handed, handed, hc]
      exact List.Sublist.refl _
  | read hc hr => exact ordered_of_messages h hc (Connection.messages_readStep hr)
  | write hc hw => exact ordered_of_messages h hc (Connection.messages_writeStep hw)

/-! ## the result -/

theorem ordered_of_run {s₀ : System C} {as : List (Action C)} (h₀ : Initial s₀)
    (h : Run Steps s₀ as s) : s.Ordered := by
  have hinit : s₀.Ordered := by
    obtain ⟨config, rfl⟩ := h₀
    exact ⟨List.Sublist.refl _, fun _ _ => rfl, trivial⟩
  exact (invariant_of_run h₀ hinit (fun _ _ _ => ordered_move) h).2

/-- **Order and at-most-once**: the messages written to sockets, over all
connections of a run, are a subsequence of the accepted ones. -/
theorem publishes_in_order (h : s.Reachable) : s.written.Sublist s.accepted := by
  obtain ⟨s₀, as, h₀, hrun⟩ := h
  have hordered := ordered_of_run h₀ hrun
  have hhanded : s.handed.Sublist s.accepted :=
    (List.sublist_append_left _ _).trans hordered.sublist
  refine List.Sublist.trans ?_ hhanded
  cases hc : s.connection with
  | none => simp [written, handed, hc]
  | some c => simpa [written, handed, hc] using c.completed_sublist_messages

/-- The message with this byte, on one topic. -/
def messageOf (b : UInt8) : Message := ⟨[97], [b], false⟩

/-- Three messages go through a FIFO queue of size two, the fourth directly; the
write thread gets to write two of them. -/
def publishFour : List (Action Unit) :=
  [.setPublishQueue .fifo 2, .call .connect, .hold, .call (.publish (messageOf 1)),
    .call (.publish (messageOf 2)), .call (.publish (messageOf 3))] ++ toConnack ++
    [.grant, .hold, .hold, .hold, .hold, .call (.publish (messageOf 4)), .hold, .hold,
      .write .next, .write .next, .write .next, .write (.sent 2), .write (.sent 4),
      .write .next, .write .next, .write .next, .write (.sent 6)]

theorem publishes_in_order_publishFour :
    ∃ s : System Unit, s.written.Sublist s.accepted ∧ s.written = [messageOf 2, messageOf 3] ∧
      s.accepted = [messageOf 1, messageOf 2, messageOf 3, messageOf 4] := by
  obtain ⟨s, hrun, htest⟩ := run_of_exec publishFour
    (fun s => s.written = [messageOf 2, messageOf 3] ∧
      s.accepted = [messageOf 1, messageOf 2, messageOf 3, messageOf 4])
    (by decide +kernel)
  have hreach : s.Reachable := ⟨{}, publishFour, initial_default, hrun⟩
  exact ⟨s, publishes_in_order hreach, of_decide_eq_true htest⟩

end System

end TrueMqtt
