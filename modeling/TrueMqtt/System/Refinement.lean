import TrueMqtt.Client.Delivery
import TrueMqtt.System.Handshake

/-!
# TrueMqtt.System.Refinement

The threads refine the client of `TrueMqtt.Client`, which takes a critical
section as one step: whatever the interleaving, between critical sections the
data of the system is that of a reachable `Client` (`client_reachable`).  So what
holds of every reachable client holds of the system.

The event of a section happens where the section is decided.  A call that fails
to send and replaces the connection has happened when it starts to destroy the
old one; a request or a `connectionStateChange` happens with its last send, and
until then the relation `Simulates` says which event it is going to be.
-/

namespace TrueMqtt

/-- Whether `m_connection` is set, or will be when the section is over. -/
def Holder.connection (pointer : Bool) : Holder → Bool
  | free => pointer
  | stop again | notify again | joinRead again | joinWrite again => again
  | sendTest _ _ | sendPush _ _ | assign => true

/-- Whether the section waits for the result of a send. -/
def Holder.sending : Holder → Bool
  | sendTest _ _ | sendPush _ _ => true
  | _ => false

namespace System

variable {C : Type} {s s' : System C} {a : Action C} {c c' : Connection} {d d' : Client C}

/-- What the client's machine sees of the system. -/
def client (s : System C) : Client C :=
  { impl := s.impl
    connection := s.holder.connection s.pointer
    stateChanges := s.stateChanges }

/-- The event a send leads to, from the client state `d` before the section. -/
def Pending (d : Client C) (s : System C) : After → Prop
  | .publish _ => d = s.client
  | .request => ∃ e : Bool → Event C, ∀ sent, d.Steps (e sent)
      { s.client with impl := if sent then s.impl else s.impl.disconnect }
  | .resubscribe topics => ∃ sent, ∀ more i, s.impl.resubscribe topics more = some i →
      d.Steps (.connectionUp (sent ++ more))
        { s.client with impl := { i with publishQueue := [] } }
  | .flush _ => ∃ sent, d.Steps (.connectionUp sent)
      { s.client with impl := { s.impl with publishQueue := [] } }

/-- The client's machine has followed the system. -/
def Simulates (d : Client C) (s : System C) : Prop :=
  match s.holder with
  | .sendTest _ k | .sendPush _ k => Pending d s k
  | _ => d = s.client

/-- The client's machine can go on to a state that has followed the system. -/
def Matched (d : Client C) (s' : System C) : Prop :=
  ∃ es d', Run Client.Steps d es d' ∧ Simulates d' s'

theorem matched_of_simulates (h : Simulates d s') : Matched d s' := ⟨[], d, .nil, h⟩

theorem matched_of_step {e : Event C} (hstep : d.Steps e d') (h : Simulates d' s') :
    Matched d s' := ⟨_, d', .snoc .nil hstep, h⟩

theorem matched_of_move {e : Event C} (hm : d.Move e d') (h : Simulates d' s') : Matched d s' :=
  matched_of_step (Client.step_of_move hm) h

/-! ## the parts of `connectionStateChange` and `send` -/

theorem matched_finish {sent : List Bool} (hp : s.pointer = true)
    (h : d.Steps (.connectionUp sent)
      ⟨{ s.impl with publishQueue := [] }, true, s.stateChanges⟩) : Matched d (s.finish c) := by
  refine matched_of_step h ?_
  simp [Simulates, finish, client, Holder.connection, hp]

theorem matched_flush {sent : List Bool} (hp : s.pointer = true)
    (h : d.Steps (.connectionUp sent)
      ⟨{ s.impl with publishQueue := [] }, true, s.stateChanges⟩) (messages : List Message) :
    Matched d (s.flush c messages) := by
  cases messages with
  | nil => exact matched_finish hp h
  | cons m ms => exact matched_of_simulates ⟨sent, h⟩

theorem matched_resubscribe (sent : List Bool) (hp : s.pointer = true) (topics : List Str)
    (h : ∀ more i, s.impl.resubscribe topics more = some i →
      d.Steps (.connectionUp (sent ++ more))
        ⟨{ i with publishQueue := [] }, true, s.stateChanges⟩) :
    Matched d (s.resubscribe c topics) := by
  cases topics with
  | nil => exact matched_flush hp (h [] s.impl rfl) _
  | cons t ts =>
      refine matched_of_simulates ⟨sent ++ [true], fun more i hi => ?_⟩
      rw [List.append_assoc]
      exact h (true :: more) i hi

/-- The result of the send decides the event. -/
theorem matched_after {o : Outgoing} {sent : Bool} {k : After} (hp : s.pointer = true)
    (hh : s.holder = .sendTest o k ∨ s.holder = .sendPush o k) (h : Simulates d s)
    (ha : s.after c sent k = .ok s') : Matched d s' := by
  have hpending : Pending d s k := by
    rcases hh with hh | hh <;> simpa [Simulates, hh] using h
  have hclient : s.client = ⟨s.impl, true, s.stateChanges⟩ := by
    rcases hh with hh | hh <;> simp [client, hh, Holder.connection]
  cases k with
  | publish m =>
      cases ha
      refine matched_of_simulates ?_
      rw [hpending.trans hclient]
      simp [Simulates, client, Holder.connection, hp]
  | request =>
      cases ha
      obtain ⟨e, he⟩ := hpending
      have hstep := he sent
      rw [hclient] at hstep
      cases sent with
      | true =>
          refine matched_of_step hstep ?_
          simp [Simulates, client, Holder.connection, hp]
      | false => exact matched_of_step hstep rfl
  | resubscribe topics =>
      cases sent with
      | false => cases ha
      | true =>
          cases ha
          obtain ⟨sent, hsent⟩ := hpending
          rw [hclient] at hsent
          exact matched_resubscribe sent hp topics hsent
  | flush messages =>
      cases ha
      obtain ⟨sent', hsent⟩ := hpending
      rw [hclient] at hsent
      cases sent with
      | true => exact matched_flush hp hsent messages
      | false => exact matched_finish hp hsent

/-- A request that has taken its packet identifier waits for its send. -/
theorem pending_request {e : Bool → Event C} {i : Impl C} (hd : d.connection = true)
    (hs : s.client = ⟨i.takePacketId.2, true, d.stateChanges⟩) (hst : i.state = .connected)
    (h : ∀ sent, d.Steps (e sent) (Client.sendOrReconnect sent { d with impl := i })) :
    Pending d s .request := by
  refine ⟨e, fun sent => ?_⟩
  have hstep := h sent
  have himpl : s.impl = i.takePacketId.2 := congrArg Client.impl hs
  cases sent with
  | true => simpa [Client.sendOrReconnect, hst, hs, himpl, hd] using hstep
  | false => simpa [Client.sendOrReconnect, Client.reconnect, hst, hs, himpl, hd] using hstep

/-! ## every move is matched -/

/-- A thread that changes nothing the client's machine sees. -/
theorem matched_of_client_eq (h : Simulates d s) (hh : s'.holder = s.holder)
    (himpl : s'.impl = s.impl) (hp : s'.pointer = s.pointer)
    (hsc : s'.stateChanges = s.stateChanges) : Matched d s' := by
  have hclient : s'.client = s.client := by
    simp only [client, hh, himpl, hp, hsc]
  refine matched_of_simulates ?_
  unfold Simulates at h ⊢
  rw [hh]
  split at h <;> simp_all [Pending]

theorem simulates_iff (h : s.holder.sending = false) : Simulates d s ↔ d = s.client := by
  cases hh : s.holder with
  | sendTest o k | sendPush o k => simp [hh, Holder.sending] at h
  | free | assign | stop again | notify again | joinRead again | joinWrite again =>
      simp [Simulates, hh]

/-- A section that does not wait for a send has had its event. -/
theorem matched_of_not_sending (h : Simulates d s) (hs : s.holder.sending = false)
    (hs' : s'.holder.sending = false) (hclient : s'.client = s.client) : Matched d s' := by
  refine matched_of_simulates ((simulates_iff hs').mpr ?_)
  rw [hclient]
  exact (simulates_iff hs).mp h

theorem not_sending_of_disconnected (hwf : s.WellFormed) (hst : s.impl.state = .disconnected) :
    s.holder.sending = false := by
  cases hh : s.holder with
  | sendTest o k | sendPush o k =>
      simp only [WellFormed, hh, hst] at hwf
      exact absurd hwf.1 (by decide)
  | free | assign | stop again | notify again | joinRead again | joinWrite again => rfl

theorem simulates_of_free (hfree : s.holder = .free) :
    Simulates ⟨s.impl, s.pointer, s.stateChanges⟩ s := by
  simp [Simulates, hfree, client, Holder.connection]

theorem eq_client_of_free (h : Simulates d s) (hfree : s.holder = .free) :
    d = ⟨s.impl, s.pointer, s.stateChanges⟩ := by
  simpa [Simulates, hfree, client, Holder.connection] using h

theorem pointer_of_free (hwf : s.WellFormed) (hfree : s.holder = .free)
    (hst : s.impl.state ≠ .disconnected) : s.pointer = true := by
  simp only [WellFormed, hfree] at hwf
  simpa using mt hwf.1.mpr hst

theorem matched_move (hwf : s.WellFormed) (h : Simulates d s) (hm : Move s a s') :
    Matched d s' := by
  cases hm with
  | idle => exact matched_of_simulates h
  | setPublishQueue hst =>
      have hs := not_sending_of_disconnected hwf hst
      obtain rfl := (simulates_iff hs).mp h
      refine matched_of_move (.setPublishQueue hst) ((simulates_iff ?_).mpr rfl)
      exact hs
  | setSendQueue hst =>
      have hs := not_sending_of_disconnected hwf hst
      obtain rfl := (simulates_iff hs).mp h
      refine matched_of_move (.setSendQueue hst) ((simulates_iff ?_).mpr rfl)
      exact hs
  | setLastWill => exact matched_of_client_eq h rfl rfl rfl rfl
  | connect hfree hst =>
      obtain rfl := eq_client_of_free h hfree
      exact matched_of_move (.connect hst) rfl
  | disconnect hfree hst =>
      obtain rfl := eq_client_of_free h hfree
      simp only [WellFormed, hfree, pointer_of_free hwf hfree hst] at hwf
      obtain ⟨c, hc⟩ := Option.isSome_iff_exists.mp hwf.2
      refine matched_of_move (.disconnect hst) ?_
      simp [Simulates, System.disconnect, setState, hc, client, Client.setState,
        Holder.connection]
  | @toPublishQueue m i accepted hfree hst hq =>
      obtain rfl := eq_client_of_free h hfree
      exact matched_of_move (e := .publish m true) (.toPublishQueue hst hq)
        (simulates_of_free hfree)
  | publish hfree hst =>
      obtain rfl := eq_client_of_free h hfree
      refine matched_of_simulates ?_
      rw [pointer_of_free hwf hfree (by simp [hst])]
      rfl
  | @addSubscription topic callback hfree hst =>
      obtain rfl := eq_client_of_free h hfree
      refine matched_of_move (e := .subscribe topic callback true) (.subscribe (by simp [hst])) ?_
      rw [Client.sendOrReconnect, if_neg (by simp [Impl.addSubscription, hst])]
      exact simulates_of_free hfree
  | @subscribe topic callback hfree hst =>
      obtain rfl := eq_client_of_free h hfree
      have hp := pointer_of_free hwf hfree (by simp [hst])
      exact matched_of_simulates (pending_request hp rfl (by exact hst) fun sent =>
        Client.step_of_move (.subscribe (by simp [hst])))
  | @removeSubscription topic i hfree hst hmem hi =>
      obtain rfl := eq_client_of_free h hfree
      refine matched_of_move (e := .unsubscribe topic true)
        (.unsubscribe (by simp [hst]) hmem hi) ?_
      rw [Client.sendOrReconnect, if_neg (by simp [Client.state_removeSubscription hi, hst])]
      exact simulates_of_free hfree
  | @unsubscribe topic i hfree hst hmem hi =>
      obtain rfl := eq_client_of_free h hfree
      have hp := pointer_of_free hwf hfree (by simp [hst])
      have hi' := (Client.state_removeSubscription hi).trans hst
      exact matched_of_simulates (pending_request hp rfl hi' fun sent =>
        Client.step_of_move (.unsubscribe (by simp [hst]) hmem hi))
  | room hc hh hsize =>
      refine matched_of_simulates ?_
      simpa [Simulates, hh, Pending, client, Holder.connection] using h
  | refused hc hh hsize ha =>
      simp only [WellFormed, hh] at hwf
      exact matched_after hwf.2.1 (.inl hh) h ha
  | pushed hc hh hqf ha =>
      simp only [WellFormed, hh] at hwf
      exact matched_after hwf.2.1 (.inr hh) h ha
  | stop hc hh =>
      exact matched_of_not_sending h (by rw [hh]; rfl) rfl (by simp [client, hh, Holder.connection])
  | notify hc hh =>
      exact matched_of_not_sending h (by rw [hh]; rfl) rfl (by simp [client, hh, Holder.connection])
  | joinRead hc hh hpc =>
      exact matched_of_not_sending h (by rw [hh]; rfl) rfl (by simp [client, hh, Holder.connection])
  | destroyed hc hh hpc =>
      simp only [WellFormed, hh] at hwf
      exact matched_of_not_sending h (by rw [hh]; rfl) rfl
        (by simp [client, hh, Holder.connection, hwf.2.1])
  | replaced hc hh hpc =>
      exact matched_of_not_sending h (by rw [hh]; rfl) rfl (by simp [client, hh, Holder.connection])
  | assign hh hc =>
      exact matched_of_not_sending h (by rw [hh]; rfl) rfl (by simp [client, hh, Holder.connection])
  | connected hc hfree hpc =>
      obtain rfl := eq_client_of_free h hfree
      simp only [WellFormed, hfree, hc, Option.isSome_some] at hwf
      refine matched_resubscribe (s := s.setState .connected) [] hwf.2.symm _
        fun more i hi => ?_
      rw [List.nil_append]
      have hstep := Client.step_of_move
        (.connectionUp (c := ⟨s.impl, s.pointer, s.stateChanges⟩) hwf.2.symm hi)
      simpa only [Client.setState, setState, ← hwf.2] using hstep
  | lost hc hfree hpc =>
      obtain rfl := eq_client_of_free h hfree
      simp only [WellFormed, hfree, hc, Option.isSome_some] at hwf
      exact matched_of_move (.connectionDown hwf.2.symm) (simulates_of_free hfree)
  | message hc hfree hpc => exact matched_of_client_eq h rfl rfl rfl rfl
  | read hc hr => exact matched_of_client_eq h rfl rfl rfl rfl
  | write hc hw => exact matched_of_client_eq h rfl rfl rfl rfl

/-- **Refinement**: between critical sections the system is a reachable client. -/
theorem client_reachable (h : s.Reachable) (hfree : s.holder = .free) :
    Client.Reachable ⟨s.impl, s.pointer, s.stateChanges⟩ := by
  obtain ⟨s₀, as, hinit, hrun⟩ := h
  have hsim : s.WellFormed ∧ Matched {} s := by
    refine invariant_of_run hinit ?_ ?_ hrun
    · obtain ⟨config, rfl⟩ := hinit
      exact ⟨[], {}, .nil, rfl⟩
    · rintro s a s' hwf ⟨es, d, hclient, hd⟩ hm
      obtain ⟨es', d', hrun', hd'⟩ := matched_move hwf hd hm
      exact ⟨_, d', hclient.trans hrun', hd'⟩
  obtain ⟨-, es, d, hclient, hd⟩ := hsim
  simp only [Simulates, hfree, client, Holder.connection] at hd
  exact ⟨es, hd ▸ hclient⟩

/-- While the client is connected nothing waits in its publish queue. -/
theorem publishQueue_eq_nil (h : s.Reachable) (hfree : s.holder = .free)
    (hst : s.impl.state = .connected) : s.impl.publishQueue = [] :=
  Client.publishQueue_of_connected (client_reachable h hfree) hst

end System

end TrueMqtt
