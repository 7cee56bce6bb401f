import TrueMqtt.System.Order

/-!
# TrueMqtt.System.Losses

What becomes of an accepted message that is not written.  `losses` lists, step by
step, the messages the code gives up: the eviction of `toPublishQueue`, the rest
of a flush that the send queue refuses, the packet `sendPacket` drops or fails to
send, the send queue that is cleared with a lost connection, and what
`disconnect` and `~Connection` leave.

There is no other way to lose a message (`accepted_accounted`): in every run the
accepted messages are the written ones, those still on their way, and those given
up.  A run that gives nothing up writes what it accepts, in order
(`written_of_lossless`).
-/

namespace TrueMqtt

/-- The message `toPublishQueue` takes out of a full queue. -/
def Impl.evicted {C : Type} (i : Impl C) : List Message :=
  if i.publishQueue.length ≥ i.publishQueueSize then
    match i.publishQueueType with
    | .drop => []
    | .fifo => i.publishQueue.head?.toList
    | .lifo => i.publishQueue.getLast?.toList
  else []

/-- The new message comes in, the evicted one goes out. -/
theorem Impl.count_toPublishQueue {C : Type} {m : Message} {i i' : Impl C} {accepted : Bool}
    (hst : i.state = .connecting) (h : i.toPublishQueue m = some (i', accepted)) (x : Message) :
    i'.publishQueue.count x + i.evicted.count x =
      i.publishQueue.count x + (if accepted then [m] else []).count x := by
  cases hty : i.publishQueueType with
  | drop =>
      simp only [toPublishQueue, hst, hty] at h
      grind [evicted]
  | fifo =>
      simp only [toPublishQueue, hst, hty] at h
      by_cases hfull : i.publishQueue.length ≥ i.publishQueueSize
      · cases hq : i.publishQueue with
        | nil => simp_all
        | cons y q =>
            have hev : i.evicted = [y] := by rw [evicted, if_pos hfull, hty, hq]; rfl
            grind
      · have hev : i.evicted = [] := by simp [evicted, hfull]
        grind
  | lifo =>
      simp only [toPublishQueue, hst, hty] at h
      by_cases hfull : i.publishQueue.length ≥ i.publishQueueSize
      · cases hq : i.publishQueue with
        | nil => simp_all
        | cons y q =>
            have hev : i.evicted = [(y :: q).getLast (by simp)] := by
              rw [evicted, if_pos hfull, hty, hq, List.getLast?_eq_some_getLast (by simp)]
              rfl
            have hsplit := List.dropLast_append_getLast (l := y :: q) (by simp)
            have hcount := congrArg (List.count x) hsplit
            rw [List.count_append] at hcount
            grind
      · have hev : i.evicted = [] := by simp [evicted, hfull]
        grind

theorem Outgoing.filterMap_message?_cons (o : Outgoing) (q : List Outgoing) :
    (o :: q).filterMap message? = o.message?.toList ++ q.filterMap message? := by
  cases h : o.message? <;> simp [h]

namespace Connection

variable {cfg : Config} {c c' : Connection}

/-- The messages a connection is yet to write. -/
def unwritten (c : Connection) : List Message :=
  (c.writePc.packet?.toList ++ c.sendQueue).filterMap Outgoing.message?

/-- What the read thread gives up: the send queue, after the connection is lost. -/
def readLosses (c : Connection) : List Message :=
  if c.readPc = .clearQueue then c.sendQueue.filterMap Outgoing.message? else []

/-- What the write thread gives up: the packet in its hands, when `sendPacket`
finds the connection gone or `::send` fails. -/
def writeLosses (c : Connection) : WriteInput → List Message
  | .next => match c.writePc with
      | .holding o => if c.state.online then [] else o.message?.toList
      | _ => []
  | .sent _ => []
  | .failed => c.writePc.packet?.toList.filterMap Outgoing.message?

theorem messages_eq (c : Connection) :
    c.messages = c.completed.filterMap Outgoing.message? ++ c.unwritten := by
  simp [messages, unwritten]

theorem count_messages_readStep {i : ReadInput} (h : c.readStep cfg i = .ok c') (m : Message) :
    c'.messages.count m + c.readLosses.count m = c.messages.count m := by
  have hframe := readFrame_of_readStep h
  cases queueMove_of_readStep h with
  | same hpc hq he => simp [messages, readLosses, hframe.completed, hframe.packet?, hq, hpc]
  | urgent o ho hpc hq he =>
      simp [messages, readLosses, hframe.completed, hframe.packet?, hq, hpc,
        Outgoing.message?_of_isUrgent ho]
  | clear hpc hq he =>
      simp [messages, readLosses, hframe.completed, hframe.packet?, hq, hpc]
      omega

theorem count_messages_writeStep {pointer : Bool} {i : WriteInput}
    (h : c.writeStep pointer i = .ok c') (m : Message) :
    c'.messages.count m + (c.writeLosses i).count m = c.messages.count m := by
  cases writeBranch_of_writeStep h with
  | pop hpc hq | wokenPop hpc hst hq =>
      simp [messages, writeLosses, hpc, hq, WritePc.packet?]
  | start hpc hst => simp [messages, writeLosses, hpc, hst, WritePc.packet?]
  | drop hpc hoff =>
      simp [messages, writeLosses, hpc, hoff, WritePc.packet?, Outgoing.filterMap_message?_cons]
      omega
  | fail hpc =>
      simp [messages, writeLosses, hpc, WritePc.packet?, begin, Outgoing.filterMap_message?_cons]
      omega
  | write hpc => simp [messages, writeLosses, hpc, WritePc.packet?, begin, writeTo]
  | finish hpc => simp [messages, writeLosses, hpc, WritePc.packet?, begin, writeTo]
  | spin hpc => simp [writeLosses, hpc]
  | _ hpc => simp [messages, writeLosses, hpc, WritePc.packet?]

end Connection

namespace System

variable {C : Type} {s s' : System C} {a : Action C} {c c' : Connection}

/-- The messages a step gives up. -/
def losses (s : System C) : Action C → List Message
  | .call .disconnect => if s.impl.state = .disconnected then [] else s.impl.publishQueue
  | .call (.publish _) => if s.impl.state = .connecting then s.impl.evicted else []
  | .hold => match s.holder, s.connection with
      | .sendTest o (.flush ms), some c =>
          if c.sendQueue.length > s.impl.sendQueueSize then o.message?.toList ++ ms else []
      | .joinWrite _, some c => c.unwritten
      | _, _ => []
  | .read _ => s.connection.elim [] Connection.readLosses
  | .write i => s.connection.elim [] fun c => c.writeLosses i
  | _ => []

/-- The accepted messages on their way: in the hands of the write thread, in the
send queue, and those that wait for a connection. -/
def underway (s : System C) : List Message :=
  s.connection.elim [] Connection.unwritten ++ s.holder.pending s.impl.publishQueue

theorem handed_eq (s : System C) :
    s.handed ++ s.holder.pending s.impl.publishQueue = s.written ++ s.underway := by
  cases hc : s.connection <;>
    simp [handed, written, underway, hc, Connection.messages_eq, List.append_assoc]

/-- How often a message was given to a connection or waits for one. -/
def held (s : System C) (m : Message) : Nat :=
  s.handed.count m + (s.holder.pending s.impl.publishQueue).count m

/-- A step changes the number of copies accepted by those given up and those
that come to a connection or to a queue. -/
def Balanced (s s' : System C) (lost : List Message) : Prop :=
  ∀ m, s'.held m + lost.count m + s.accepted.count m = s.held m + s'.accepted.count m

/-! ## `connectionStateChange` -/

theorem held_finish (m : Message) :
    (s.finish c).held m = (s.archive.filterMap Outgoing.message?).count m + c.messages.count m := by
  simp [held, handed, finish, Holder.pending, Connection.messages]

theorem held_flush (messages : List Message) (m : Message) :
    (s.flush c messages).held m =
      (s.archive.filterMap Outgoing.message?).count m + c.messages.count m +
        messages.count m := by
  cases messages with
  | nil => simp [flush, held_finish]
  | cons x xs => simp [flush, sendPublish, held, handed, Holder.pending, Outgoing.message?]

theorem held_resubscribe (topics : List Str) (m : Message) :
    (s.resubscribe c topics).held m =
      (s.archive.filterMap Outgoing.message?).count m + c.messages.count m +
        s.impl.publishQueue.count m := by
  cases topics with
  | nil => exact held_flush _ m
  | cons t ts => simp [resubscribe, sendSubscribe, held, handed, Holder.pending, Impl.takePacketId]

theorem accepted_flush (messages : List Message) : (s.flush c messages).accepted = s.accepted := by
  cases messages <;> rfl

theorem accepted_resubscribe (topics : List Str) :
    (s.resubscribe c topics).accepted = s.accepted := by
  cases topics with
  | nil => exact accepted_flush _
  | cons t ts => rfl

/-! ## steps -/

/-- A call that changes nothing gives nothing up. -/
theorem losses_of_idle {k : Call C} (hstep : s.Steps (.call k) s) : s.losses (.call k) = [] := by
  cases k with
  | disconnect =>
      by_cases hst : s.impl.state = .disconnected
      · rw [losses, if_pos hst]
      · -- the callback would have been called
        simp only [Steps, step, call, hst, ↓reduceIte] at hstep
        split at hstep
        · have hsc := congrArg stateChanges (Except.ok.inj hstep)
          simp [setState] at hsc
        · cases hstep
  | publish m =>
      by_cases hst : s.impl.state = .connecting
      · simp only [Steps, step, call, hst] at hstep
        split at hstep
        · split at hstep
          · cases hstep
          · next i accepted hq =>
            have hs := Except.ok.inj hstep
            have hi : i = s.impl := congrArg impl hs
            have ha := congrArg System.accepted hs
            subst hi
            cases accepted with
            | true => simp at ha
            | false =>
                rw [losses, if_pos hst]
                refine List.eq_nil_iff_forall_not_mem.mpr fun x => ?_
                have hcount := Impl.count_toPublishQueue hst hq x
                rw [← List.count_eq_zero]
                simp at hcount
                omega
        · cases hstep
      · rw [losses, if_neg hst]
  | _ => rfl

/-- A call leaves what is held to its send, except for the publish queue. -/
theorem balanced_call {k : Call C} (hwf : s.WellFormed) (hstep : s.Steps (.call k) s') :
    s.Balanced s' (s.losses (.call k)) := by
  intro m
  cases move_of_step hstep with
  | idle => simp [losses_of_idle hstep]
  | connect hfree hst =>
      simp only [WellFormed, hfree] at hwf
      have hnone : s.connection = none := by simpa [hwf.1.mp hst] using hwf.2
      simp [held, handed, losses, System.connect, setState, hnone, hfree, Holder.pending,
        Connection.messages, Connection.new, WritePc.packet?]
  | disconnect hfree hst =>
      cases hc : s.connection <;>
        simp [held, handed, losses, System.disconnect, setState, hc, hst, hfree, Holder.pending,
          Impl.disconnect]
  | @toPublishQueue x i accepted hfree hst hq =>
      have hcount := Impl.count_toPublishQueue hst hq m
      simp [held, handed, losses, hst, hfree, Holder.pending]
      cases accepted <;> simp_all <;> omega
  | publish hfree hst =>
      simp [held, handed, losses, hst, hfree, Holder.pending, sendPublish]
  | addSubscription hfree hst =>
      simp [held, handed, losses, hfree, Holder.pending, Impl.addSubscription]
  | subscribe hfree hst =>
      simp [held, handed, losses, hfree, Holder.pending, Impl.addSubscription, sendSubscribe,
        Impl.takePacketId]
  | removeSubscription hfree hst hmem hi =>
      obtain ⟨subscriptions, rfl⟩ := Impl.removeSubscription_spec hi
      simp [held, handed, losses, hfree, Holder.pending]
  | unsubscribe hfree hst hmem hi =>
      obtain ⟨subscriptions, rfl⟩ := Impl.removeSubscription_spec hi
      simp [held, handed, losses, hfree, Holder.pending, sendUnsubscribe, Impl.takePacketId]

/-- The send of the packet the holder has in hand. -/
theorem balanced_pushed {o : Outgoing} {k : After} (hf : s.holder.Fitting)
    (hd : k.restoring = false → s.impl.publishQueue = []) (hc : s.connection = some c)
    (hh : s.holder = .sendPush o k) (ha : s.after (c.push o) true k = .ok s') :
    s.Balanced s' [] := by
  intro m
  rw [hh] at hf
  cases k with
  | publish x =>
      cases hf
      cases ha
      simp [held, handed, hc, hh, Holder.pending, Connection.messages_push, Outgoing.message?]
      omega
  | request =>
      have hnone : o.message? = none := hf
      cases ha
      simp [held, handed, hc, hh, Holder.pending, Connection.messages_push, hnone]
  | resubscribe topics =>
      have hnone : o.message? = none := hf
      cases ha
      rw [held_resubscribe, accepted_resubscribe]
      simp [held, handed, hc, hh, Holder.pending, Connection.messages_push, hnone]
  | flush messages =>
      cases ha
      simp only [↓reduceIte, held_flush, accepted_flush]
      simp [held, handed, hc, hh, Holder.pending, Connection.messages_push]
      omega

/-- The send of a packet that finds no room. -/
theorem balanced_refused {o : Outgoing} {k : After}
    (hd : k.restoring = false → s.impl.publishQueue = []) (hc : s.connection = some c)
    (hh : s.holder = .sendTest o k) (hsize : c.sendQueue.length > s.impl.sendQueueSize)
    (ha : s.after c false k = .ok s') : s.Balanced s' (s.losses .hold) := by
  intro m
  cases k with
  | publish x =>
      cases ha
      simp [held, handed, losses, hc, hh, Holder.pending]
  | request =>
      cases ha
      simp [held, handed, losses, hc, hh, Holder.pending, System.disconnect, Impl.disconnect,
        hd rfl]
  | resubscribe topics => cases ha
  | flush messages =>
      cases ha
      simp only [Bool.false_eq_true, ↓reduceIte, held_finish]
      simp [held, handed, losses, hc, hh, Holder.pending, hsize, finish]

/-- A step of the holder of the mutex changes where it stands. -/
theorem holder_ne_of_hold (hstep : s.Steps .hold s') : s'.holder ≠ s.holder := by
  cases hc : s.connection with
  | none => simp [Steps, step, hc] at hstep
  | some c =>
      simp only [Steps, step, hc] at hstep
      cases hh : s.holder with
      | free => simp [hold, hh] at hstep
      | sendTest o k =>
          simp only [hold, hh] at hstep
          split at hstep
          · cases hstep
          · split at hstep
            · cases k <;> cases hstep <;> simp [disconnect, finish]
            · cases hstep
              simp
      | sendPush o k =>
          simp only [hold, hh] at hstep
          split at hstep
          · obtain hon | ⟨hf, -, -⟩ := goesOn_after hstep
            · obtain hfree | ⟨o', k', -, htest⟩ := hon.holder <;> simp [*]
            · cases hf
          · cases hstep
      | stop again | notify again | assign =>
          simp only [hold, hh] at hstep
          cases hstep
          simp
      | joinRead again =>
          simp only [hold, hh] at hstep
          split at hstep
          · cases hstep
            simp
          · cases hstep
      | joinWrite again =>
          simp only [hold, hh] at hstep
          split at hstep
          · cases again <;> cases hstep <;> simp [connect]
          · cases hstep

theorem balanced_hold (hwf : s.WellFormed) (h : s.Ordered) (hstep : s.Steps .hold s') :
    s.Balanced s' (s.losses .hold) := by
  cases move_of_step hstep with
  | idle => exact absurd rfl (holder_ne_of_hold hstep)
  | @room c o k hc hh hsize =>
      intro m
      have hfull : ¬ c.sendQueue.length > s.impl.sendQueueSize := by omega
      cases k <;> simp [held, handed, losses, hc, hh, Holder.pending, hfull]
  | refused hc hh hsize ha =>
      simp only [WellFormed, hh] at hwf
      exact balanced_refused (fun hr => h.drained hwf.1 (by rw [hh]; exact hr)) hc hh hsize ha
  | pushed hc hh hqf ha =>
      simp only [WellFormed, hh] at hwf
      have hnil : s.losses .hold = [] := by simp [losses, hh]
      rw [hnil]
      exact balanced_pushed h.fitting (fun hr => h.drained hwf.1 (by rw [hh]; exact hr)) hc hh ha
  | stop hc hh | notify hc hh | joinRead hc hh hpc =>
      intro m
      simp [held, handed, losses, hc, hh, Holder.pending, Connection.messages]
  | destroyed hc hh hpc =>
      intro m
      simp [held, handed, losses, hc, hh, hpc, Holder.pending, Connection.messages,
        Connection.unwritten, WritePc.packet?]
      omega
  | replaced hc hh hpc =>
      intro m
      simp [held, handed, losses, hc, hh, hpc, Holder.pending, Connection.messages,
        Connection.unwritten, Connection.new, WritePc.packet?]
      omega
  | assign hh hc =>
      intro m
      simp [held, handed, losses, hh, Holder.pending]

theorem balanced_grant (hstep : s.Steps .grant s') : s.Balanced s' (s.losses .grant) := by
  intro m
  cases move_of_step hstep with
  | idle => simp [losses]
  | connected hc hfree hpc =>
      rw [held_resubscribe, accepted_resubscribe]
      simp [held, handed, losses, hc, hfree, Holder.pending, setState, Connection.messages]
  | lost hc hfree hpc =>
      simp [held, handed, losses, hc, hfree, Holder.pending, setState, Connection.messages]
  | message hc hfree hpc =>
      simp [held, handed, losses, hc, hfree, Holder.pending, Connection.messages]

/-- **Step lemma**: what is held and what is given up account for what is accepted. -/
theorem balanced_step (hwf : s.WellFormed) (h : s.Ordered) (hstep : s.Steps a s') :
    s.Balanced s' (s.losses a) := by
  cases a with
  | call k => exact balanced_call hwf hstep
  | hold => exact balanced_hold hwf h hstep
  | grant => exact balanced_grant hstep
  | read i =>
      obtain ⟨c, c', hc, hr, rfl⟩ := readStep_of_steps hstep
      intro m
      have hcount := Connection.count_messages_readStep hr m
      simp [held, handed, losses, hc]
      omega
  | write i =>
      obtain ⟨c, c', hc, hw, rfl⟩ := writeStep_of_steps hstep
      intro m
      have hcount := Connection.count_messages_writeStep hw m
      simp [held, handed, losses, hc]
      omega
  | setPublishQueue type size | setSendQueue size | setLastWill topic message retain =>
      intro m
      cases move_of_step hstep <;> simp [held, handed, losses]

theorem ordered_initial (h : Initial s) : s.Ordered := by
  obtain ⟨config, rfl⟩ := h
  exact ⟨List.Sublist.refl _, fun _ _ => rfl, trivial⟩

/-- What is accepted against what is held and given up. -/
structure Accounted (s : System C) (lost : List Message) : Prop where
  wellFormed : s.WellFormed
  ordered : s.Ordered
  count : ∀ m, s.accepted.count m = s.held m + lost.count m

theorem accounted_initial (h : Initial s) : s.Accounted [] := by
  refine ⟨wellFormed_initial h, ordered_initial h, fun m => ?_⟩
  obtain ⟨config, rfl⟩ := h
  rfl

theorem accounted_step {lost : List Message} (h : s.Accounted lost) (hstep : s.Steps a s') :
    s'.Accounted (lost ++ s.losses a) := by
  have hm := move_of_step hstep
  refine ⟨wellFormed_move h.wellFormed hm, ordered_move h.wellFormed h.ordered hm, fun m => ?_⟩
  have hbalanced := balanced_step h.wellFormed h.ordered hstep m
  have hcount := h.count m
  rw [List.count_append]
  omega

theorem Accounted.perm {lost : List Message} (h : s.Accounted lost) :
    s.accepted.Perm (s.written ++ s.underway ++ lost) := by
  refine List.perm_iff_count.mpr fun m => ?_
  rw [h.count m, ← handed_eq, held]
  simp [Nat.add_assoc]

/-! ## the result -/

/-- An observer keeps the messages given up. -/
def noteLosses (s : System C) (a : Action C) (_ : System C) (lost : List Message) :
    List Message :=
  lost ++ s.losses a

/-- **Every accepted message is accounted for**: in every run, the accepted
messages are those written to sockets, those on their way, and those given up. -/
theorem accepted_accounted {s₀ s : System C} {as : List (Action C)} {lost : List Message}
    (h₀ : Initial s₀) (h : Run (Observed Steps noteLosses) (s₀, []) as (s, lost)) :
    s.accepted.Perm (s.written ++ s.underway ++ lost) := by
  have hinv : s.Accounted lost := by
    refine Run.invariant (I := fun p : System C × List Message => p.1.Accounted p.2)
      (accounted_initial h₀) ?_ h
    intro p a p' hp hstep
    rw [hstep.2]
    exact accounted_step hp hstep.1
  exact hinv.perm

/-- A FIFO queue of size two evicts the first of three messages, the second is
written, the third waits for the write thread. -/
theorem accepted_accounted_publishFour : ∃ (s : System Unit) (lost : List Message),
    s.accepted.Perm (s.written ++ s.underway ++ lost) ∧
      s.written = [messageOf 2, messageOf 3] ∧ s.underway = [messageOf 4] ∧
      lost = [messageOf 1] := by
  obtain ⟨⟨s, lost⟩, hrun, htest⟩ := Run.of_exec
    (fun {_ _ _} => observed_of_observe fun {_ _ _} => steps_of_next)
    (show (exec (observe next noteLosses) (({} : System Unit), []) publishFour).any
      (fun p => p.1.written = [messageOf 2, messageOf 3] ∧ p.1.underway = [messageOf 4] ∧
        p.2 = [messageOf 1]) = true by decide +kernel)
  exact ⟨s, lost, accepted_accounted initial_default hrun, of_decide_eq_true htest⟩

/-- **Nothing lost**: a run in which no step gives a message up has written, or is
about to write, exactly what it accepted, in the order of the calls. -/
theorem written_of_lossless {s₀ s : System C} {as : List (Action C)} (h₀ : Initial s₀)
    (h : Run (Guarded Steps fun s a => s.losses a = []) s₀ as s) :
    s.written ++ s.underway = s.accepted := by
  have hinv : s.Accounted [] := by
    refine Run.invariant (I := fun s => s.Accounted []) (accounted_initial h₀) ?_ h
    rintro s a s' hs ⟨hnil, hstep⟩
    have hnext := accounted_step hs hstep
    rwa [hnil] at hnext
  have hsub : (s.written ++ s.underway).Sublist s.accepted := by
    rw [← handed_eq]
    exact hinv.ordered.sublist
  -- a sublist with as many entries
  exact hsub.eq_of_length (by simpa using hinv.perm.length_eq.symm)

/-- A message waits in the publish queue and is flushed, a second one follows
directly; both are written. -/
def publishTwo : List (Action Unit) :=
  [.setPublishQueue .fifo 2, .call .connect, .hold, .call (.publish (messageOf 1))] ++ toConnack ++
    [.grant, .hold, .hold, .call (.publish (messageOf 2)), .hold, .hold,
      .write .next, .write .next, .write .next, .write (.sent 6),
      .write .next, .write .next, .write .next, .write (.sent 6)]

theorem written_of_lossless_publishTwo : ∃ s : System Unit,
    s.written ++ s.underway = s.accepted ∧ s.written = [messageOf 1, messageOf 2] := by
  obtain ⟨s, hrun, htest⟩ := guarded_run_of_exec (fun s a => s.losses a = []) publishTwo
    (fun s => s.written = [messageOf 1, messageOf 2]) (by decide +kernel)
  exact ⟨s, written_of_lossless initial_default hrun, of_decide_eq_true htest⟩

end System

end TrueMqtt
