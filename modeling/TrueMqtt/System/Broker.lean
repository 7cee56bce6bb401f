import TrueMqtt.System.Valid
import TrueMqtt.System.WriteFailure

/-!
# TrueMqtt.System.Broker

What a broker reads from the sockets of a connection.

`sendPacket` writes a packet in as many pieces as `::send` takes, always to the
`m_socket` of the moment.  So a packet stays in one piece if no socket is established
between its first `::send` and its last (`KeepsPacket`).  Then the bytes of every
socket are whole packets and at most the beginning of one more, and the packets a broker
reads from the sockets, one socket after the other, are those the client takes for
written (`broker_reads`).
-/

namespace TrueMqtt

open Decoder

/-- The part of a packet on its socket, unless its `::send` has failed. -/
def WritePc.part : WritePc → Option Str
  | writing o offset => some (o.encode.take offset)
  | errorPtr | errorStore | errorTest | errorClose | errorInvalidate => none
  | _ => some []

/-- The beginning of a packet that is not all of it. -/
def Incomplete (bs : Str) : Prop :=
  ∃ o : Outgoing, ∃ n, o.Valid ∧ n < o.encode.length ∧ bs = o.encode.take n

theorem Outgoing.encode_ne_nil {o : Outgoing} (h : o.Valid) : o.encode ≠ [] := by
  rw [encode_eq h, Draft.encode]
  exact List.cons_ne_nil _ _

theorem incomplete_nil : Incomplete [] := by
  refine ⟨.pingRequest, 0, Outgoing.valid_pingRequest, ?_, rfl⟩
  exact List.length_pos_of_ne_nil (Outgoing.encode_ne_nil Outgoing.valid_pingRequest)

/-- No packet is read from the beginning of one. -/
theorem Incomplete.eq_none {bs : Str} (h : Incomplete bs) : ControlPacket.packet bs = none := by
  obtain ⟨o, n, ho, hn, rfl⟩ := h
  exact Outgoing.eq_none_of_part ho hn

namespace Connection

variable {cfg : Config} {c c' : Connection} {per : Nat → List Outgoing} {rest : Nat → Str}

/-- The packets a broker reads from a socket, and the bytes it has left. -/
def broker (c : Connection) (k : Nat) : List ControlPacket × Str :=
  stream ControlPacket.packet (c.wires k).length (c.wires k)

/-- Every socket has whole packets, then the beginning of one; `per` and `rest` are the
packets and the beginning by socket. -/
structure Spells (per : Nat → List Outgoing) (rest : Nat → Str) (c : Connection) : Prop where
  valid : ∀ k, ∀ o ∈ per k, o.Valid
  incomplete : ∀ k, Incomplete (rest k)
  wires : ∀ k, c.wires k = (per k).flatMap Outgoing.encode ++ rest k
  completed : c.completed = (List.range c.sockets).flatMap per
  unused : ∀ k, c.sockets ≤ k → per k = [] ∧ rest k = []
  /-- the write thread goes on where it is -/
  current : ∀ k, c.socket = some k →
    k + 1 = c.sockets ∧ ∀ part, c.writePc.part = some part → rest k = part

/-- A broker reads the packets. -/
theorem Spells.broker_eq (h : c.Spells per rest) (k : Nat) :
    c.broker k = ((per k).map Outgoing.control, rest k) := by
  have hne : ∀ o ∈ per k, o.encode ≠ [] := fun o ho => Outgoing.encode_ne_nil (h.valid k o ho)
  have hlength : (per k).length ≤ (c.wires k).length := by
    have hle := length_le_flatMap hne
    rw [h.wires, List.length_append]
    omega
  have hread := stream_eq (fun o ho => Outgoing.decodes_control (h.valid k o ho))
    (h.incomplete k).eq_none hlength
  rw [broker]
  rwa [← h.wires] at hread

theorem spells_new (cfg : Config) : (new cfg).Spells (fun _ => []) (fun _ => []) where
  valid := fun _ _ ho => (List.not_mem_nil ho).elim
  incomplete := fun _ => incomplete_nil
  wires := fun _ => rfl
  completed := rfl
  unused := fun _ _ => ⟨rfl, rfl⟩
  current := fun _ h => by cases h

/-- What a step of another thread leaves alone. -/
structure Aside (c d : Connection) : Prop where
  wires : d.wires = c.wires
  completed : d.completed = c.completed
  sockets : d.sockets = c.sockets
  socket : d.socket = c.socket
  part : d.writePc.part = c.writePc.part

/-- The socket stays or goes, and nothing is written. -/
theorem Spells.of_same (h : c.Spells per rest) (hw : c'.wires = c.wires)
    (hdone : c'.completed = c.completed) (hn : c'.sockets = c.sockets)
    (hk : ∀ k, c'.socket = some k → c.socket = some k ∧
      ∀ part, c'.writePc.part = some part → c.writePc.part = some part) :
    c'.Spells per rest where
  valid := h.valid
  incomplete := h.incomplete
  wires := fun k => by rw [hw]; exact h.wires k
  completed := by rw [hdone, hn]; exact h.completed
  unused := fun k => by rw [hn]; exact h.unused k
  current := fun k hsock => by
    obtain ⟨hsock', hpart⟩ := hk k hsock
    rw [hn]
    exact ⟨(h.current k hsock').1, fun part hp => (h.current k hsock').2 part (hpart part hp)⟩

theorem Spells.of_aside (h : c.Spells per rest) (hsame : c.Aside c') : c'.Spells per rest := by
  refine h.of_same hsame.wires hsame.completed hsame.sockets fun k hk => ?_
  rw [hsame.part]
  exact ⟨hsame.socket ▸ hk, fun _ hp => hp⟩

theorem part_notify (c : Connection) : c.notify.writePc.part = c.writePc.part := by
  unfold notify
  split
  · next hb => rw [hb]; rfl
  · rfl

theorem part_readStep {i : ReadInput} (h : c.readStep cfg i = .ok c') :
    c'.writePc.part = c.writePc.part := by
  obtain hsame | ⟨hb, hw⟩ := writePc_readStep h
  · rw [hsame]
  · rw [hb, hw]
    rfl

/-- A socket that is established is new, and no packet is half written. -/
theorem spells_readStep {i : ReadInput} (h : c.Spells per rest)
    (hg : c.readPc = .socketStore → c.writePc.part.getD [] = [])
    (hr : c.readStep cfg i = .ok c') : c'.Spells per rest := by
  have hframe := readFrame_of_readStep hr
  have hpart := part_readStep hr
  cases socketMove_of_readStep hr with
  | establish hpc hg' hk hn hq =>
      refine ⟨h.valid, h.incomplete, fun k => by rw [hframe.wires]; exact h.wires k, ?_, ?_, ?_⟩
      · rw [hframe.completed, hn, List.range_succ, List.flatMap_append, h.completed,
          List.flatMap_singleton, (h.unused _ (Nat.le_refl _)).1, List.append_nil]
      · exact fun k hle => h.unused k (by omega)
      · intro k hsock
        rw [hk] at hsock
        cases hsock
        refine ⟨hn.symm, fun part hp => ?_⟩
        rw [hpart] at hp
        have hnone := hg hpc
        rw [hp, Option.getD_some] at hnone
        rw [hnone, (h.unused _ (Nat.le_refl _)).2]
  | forget hk hn =>
      refine h.of_same hframe.wires hframe.completed hn fun k hsock => ?_
      rw [hk] at hsock
      cases hsock
  | quiet _ _ hk hn _ _ | greet _ _ hk hn _ | connect _ _ _ hk hn _ | ping _ _ hk hn _ _
  | connack _ _ hk hn _ | clear _ _ hk hn _ =>
      refine h.of_same hframe.wires hframe.completed hn fun k hsock => ?_
      rw [hpart]
      exact ⟨hk ▸ hsock, fun _ hp => hp⟩

/-- A piece goes behind the pieces before it. -/
theorem spells_write {o : Outgoing} {offset count k : Nat} (h : c.Spells per rest)
    (ho : o.Valid) (hpc : c.writePc = .writing o offset) (hk : c.socket = some k)
    (hlt : offset + count < o.encode.length) :
    { (c.begin offset).writeTo k ((o.encode.drop offset).take count) with
      writePc := .writing o (offset + count) }.Spells per
        (Function.update rest k (o.encode.take (offset + count))) := by
  obtain ⟨hsockets, hpart⟩ := h.current k hk
  have hrest : rest k = o.encode.take offset := hpart _ (by rw [hpc]; rfl)
  refine ⟨h.valid, fun j => ?_, fun j => ?_, h.completed, fun j hj => ?_, fun j hj => ?_⟩
  · by_cases hjk : j = k
    · rw [hjk, Function.update_self]
      exact ⟨o, _, ho, hlt, rfl⟩
    · rw [Function.update_of_ne hjk]
      exact h.incomplete j
  · by_cases hjk : j = k
    · subst hjk
      rw [Function.update_self, List.take_add, ← hrest, ← List.append_assoc, ← h.wires]
      exact if_pos rfl
    · rw [Function.update_of_ne hjk, ← h.wires]
      exact if_neg hjk
  · rw [Function.update_of_ne (by change c.sockets ≤ j at hj; omega)]
    exact h.unused j hj
  · cases hk.symm.trans hj
    rw [Function.update_self]
    exact ⟨hsockets, fun part hp => Option.some.inj hp⟩

/-- The last piece completes the packet. -/
theorem spells_finish {o : Outgoing} {offset count k : Nat} (h : c.Spells per rest)
    (ho : o.Valid) (hpc : c.writePc = .writing o offset) (hk : c.socket = some k)
    (hend : offset + count = o.encode.length) :
    { (c.begin offset).writeTo k ((o.encode.drop offset).take count) with
      completed := c.completed ++ [o], writePc := .loop }.Spells
        (Function.update per k (per k ++ [o])) (Function.update rest k []) := by
  obtain ⟨hsockets, hpart⟩ := h.current k hk
  have hrest : rest k = o.encode.take offset := hpart _ (by rw [hpc]; rfl)
  refine ⟨fun j p hp => ?_, fun j => ?_, fun j => ?_, ?_, fun j hj => ?_, fun j hj => ?_⟩
  · by_cases hjk : j = k
    · rw [hjk, Function.update_self, List.mem_append, List.mem_singleton] at hp
      obtain hp | rfl := hp
      · exact h.valid k p hp
      · exact ho
    · rw [Function.update_of_ne hjk] at hp
      exact h.valid j p hp
  · by_cases hjk : j = k
    · rw [hjk, Function.update_self]
      exact incomplete_nil
    · rw [Function.update_of_ne hjk]
      exact h.incomplete j
  · by_cases hjk : j = k
    · subst hjk
      have hwhole : o.encode.take offset ++ (o.encode.drop offset).take count = o.encode := by
        rw [← List.take_add, hend, List.take_length]
      have hwire : (per j).flatMap Outgoing.encode ++ o.encode =
          c.wires j ++ (o.encode.drop offset).take count := by
        rw [h.wires, hrest, List.append_assoc, hwhole]
      rw [Function.update_self, Function.update_self, List.flatMap_append, List.flatMap_singleton,
        List.append_nil, hwire]
      exact if_pos rfl
    · rw [Function.update_of_ne hjk, Function.update_of_ne hjk, ← h.wires]
      exact if_neg hjk
  · have hbefore : (List.range k).flatMap (Function.update per k (per k ++ [o])) =
        (List.range k).flatMap per := by
      refine List.flatMap_congr fun j hj => ?_
      exact Function.update_of_ne (Nat.ne_of_lt (List.mem_range.mp hj)) _ _
    show c.completed ++ [o] = (List.range c.sockets).flatMap _
    rw [h.completed, ← hsockets, List.range_succ, List.flatMap_append, List.flatMap_append,
      List.flatMap_singleton, List.flatMap_singleton, Function.update_self, hbefore,
      List.append_assoc]
  · change c.sockets ≤ j at hj
    rw [Function.update_of_ne (by omega), Function.update_of_ne (by omega)]
    exact h.unused j hj
  · cases hk.symm.trans hj
    rw [Function.update_self]
    exact ⟨hsockets, fun part hp => Option.some.inj hp⟩

/-- What a step completes is added to the packets of the current socket. -/
def Adds (c c' : Connection) (per per' : Nat → List Outgoing) : Prop :=
  ∀ k os, c.socket = some k → c'.completed = c.completed ++ os → per' k = per k ++ os

theorem adds_nothing (h : c'.completed = c.completed) : c.Adds c' per per := by
  intro k os hk hos
  rw [List.append_right_eq_self.mp (hos.symm.trans h), List.append_nil]

theorem spells_writeStep {pointer : Bool} {i : WriteInput} (h : c.Spells per rest)
    (hvalid : ∀ o ∈ c.outgoing, o.Valid) (hw : c.writeStep pointer i = .ok c') :
    ∃ per' rest', c'.Spells per' rest' ∧ c.Adds c' per per' := by
  have hand : ∀ {o offset}, c.writePc = .writing o offset → o.Valid := fun {o offset} hpc =>
    hvalid o (List.mem_append_left _ (by rw [hpc]; exact List.mem_singleton_self o))
  cases writeBranch_of_writeStep hw with
  | write hpc hk hfits hmore =>
      exact ⟨_, _, spells_write h (hand hpc) hpc hk (by omega), adds_nothing rfl⟩
  | finish hpc hk hfits hend =>
      refine ⟨_, _, spells_finish h (hand hpc) hpc hk hend, fun j os hj hos => ?_⟩
      cases hk.symm.trans hj
      rw [Function.update_self, ← List.append_cancel_left hos]
  | fail hpc | errorPtr hpc | errorStore hpc | errorTest hpc | errorClose hpc =>
      refine ⟨per, rest, h.of_same rfl rfl rfl fun k hk => ?_, adds_nothing rfl⟩
      exact ⟨hk, fun _ hp => by cases hp⟩
  | errorGone hpc hnone =>
      refine ⟨per, rest, h.of_same rfl rfl rfl fun k hk => ?_, adds_nothing rfl⟩
      cases hnone.symm.trans hk
  | errorInvalidate hpc =>
      refine ⟨per, rest, h.of_same rfl rfl rfl fun k hk => ?_, adds_nothing rfl⟩
      cases hk
  | spin hpc => exact ⟨per, rest, h, adds_nothing rfl⟩
  | _ hpc =>
      refine ⟨per, rest, h.of_same rfl rfl rfl fun k hk => ⟨hk, fun _ hp => ?_⟩, adds_nothing rfl⟩
      rw [hpc]
      exact hp

end Connection

namespace System

variable {C : Type} {s s' : System C} {a : Action C} {c c' : Connection}

/-- The steps that establish no socket while a packet is half written. -/
def KeepsPacket (s : System C) : Action C → Prop
  | .read _ => match s.connection with
      | some c => c.readPc = .socketStore → c.writePc.part.getD [] = []
      | none => True
  | _ => True

instance (s : System C) (a : Action C) : Decidable (s.KeepsPacket a) := by
  unfold KeepsPacket
  induction a using Action.casesOn with
  | read i => induction s.connection using Option.casesOn <;> infer_instance
  | _ => infer_instance

/-- The steps of the runs in which a broker reads what the client writes. -/
structure Legible (s : System C) (a : Action C) : Prop where
  fitting : s.NamesFitting a
  whole : s.KeepsPacket a

instance (s : System C) (a : Action C) : Decidable (s.Legible a) :=
  decidable_of_iff (s.NamesFitting a ∧ s.KeepsPacket a)
    ⟨fun h => ⟨h.1, h.2⟩, fun h => ⟨h.fitting, h.whole⟩⟩

/-- The sockets of the connection have packets. -/
def Spelled (s : System C) : Prop :=
  ∀ c, s.connection = some c → ∃ per rest, c.Spells per rest

/-- There is no connection, or a new one. -/
theorem spelled_of_new (h : ∀ c, s.connection = some c → c = .new s.config) : s.Spelled := by
  intro c hc
  rw [h c hc]
  exact ⟨_, _, Connection.spells_new _⟩

theorem spelled_of_aside {c d : Connection} (h : s.Spelled) (hc : s.connection = some c)
    (hd : s'.connection = some d) (hsame : c.Aside d) : s'.Spelled := by
  intro e he
  cases hd.symm.trans he
  obtain ⟨per, rest, hspells⟩ := h c hc
  exact ⟨per, rest, hspells.of_aside hsame⟩

theorem aside_notify (c : Connection) : c.Aside c.notify :=
  ⟨by simp, by simp, by simp, by simp, Connection.part_notify c⟩

theorem aside_push (o : Outgoing) (c : Connection) : c.Aside (c.push o) :=
  ⟨by simp [Connection.push], by simp [Connection.push], by simp [Connection.push],
    by simp [Connection.push], Connection.part_notify _⟩

/-- The holder of the mutex writes nothing. -/
theorem spelled_after {sent : Bool} {k : After} {c d : Connection} (h : s.Spelled)
    (hc : s.connection = some c) (hsame : c.Aside d) (ha : s.after d sent k = .ok s') :
    s'.Spelled := by
  obtain hd | ⟨-, hd⟩ := connection_after ha
  · exact spelled_of_aside h hc hd hsame
  · exact spelled_of_aside h hc hd
      ⟨hsame.wires, hsame.completed, hsame.sockets, hsame.socket, hsame.part⟩

theorem spelled_move (hfits : s.Fits) (h : s.Spelled) (hg : s.KeepsPacket a)
    (hm : Move s a s') : s'.Spelled := by
  cases hm with
  | connect hfree hst =>
      refine spelled_of_new fun c hc => ?_
      cases hc
      rfl
  | disconnect hfree hst =>
      intro c hc
      rw [connection_disconnect] at hc
      exact h c hc
  | refused hc hh hsize ha => exact spelled_after h hc ⟨rfl, rfl, rfl, rfl, rfl⟩ ha
  | pushed hc hh hqf ha => exact spelled_after h hc (aside_push _ _) ha
  | stop hc hh => exact spelled_of_aside h hc rfl ⟨rfl, rfl, rfl, rfl, rfl⟩
  | notify hc hh => exact spelled_of_aside h hc rfl (aside_notify _)
  | destroyed hc hh hpc => exact fun c hc => by cases hc
  | replaced hc hh hpc =>
      refine spelled_of_new fun c hc => ?_
      cases hc
      rfl
  | connected hc hfree hpc =>
      obtain hd | hd := connection_resubscribe _ _ _
      · exact spelled_of_aside h hc hd ⟨rfl, rfl, rfl, rfl, rfl⟩
      · exact spelled_of_aside h hc hd ⟨rfl, rfl, rfl, rfl, rfl⟩
  | lost hc hfree hpc => exact spelled_of_aside h hc rfl ⟨rfl, rfl, rfl, rfl, rfl⟩
  | message hc hfree hpc => exact spelled_of_aside h hc rfl ⟨rfl, rfl, rfl, rfl, rfl⟩
  | read hc hr =>
      obtain ⟨per, rest, hspells⟩ := h _ hc
      simp only [KeepsPacket, hc] at hg
      intro d hd
      cases hd
      exact ⟨per, rest, Connection.spells_readStep hspells hg hr⟩
  | write hc hw =>
      obtain ⟨per, rest, hspells⟩ := h _ hc
      intro d hd
      cases hd
      obtain ⟨per', rest', hspells', -⟩ :=
        Connection.spells_writeStep hspells (hfits.connection _ hc) hw
      exact ⟨per', rest', hspells'⟩
  | _ => exact h

/-- **What a broker reads**: in a run whose calls name nothing the format cannot
represent, and which establishes no socket while a packet is half written, the packets
read from the sockets of a connection, one socket after the other, are those it has
completely written.  What is left on a socket is the beginning of a packet, and no
packet is read from it. -/
theorem broker_reads {s₀ s : System C} {as : List (Action C)} {c : Connection} (h₀ : Initial s₀)
    (hconfig : s₀.config.Fits) (h : Run (Guarded Steps Legible) s₀ as s)
    (hc : s.connection = some c) :
    (List.range c.sockets).flatMap (fun k => (c.broker k).1) =
        c.completed.map Outgoing.control ∧
      (∀ k, Incomplete (c.broker k).2 ∧ ControlPacket.packet (c.broker k).2 = none) ∧
      ∀ k, c.socket = some k → ∀ part, c.writePc.part = some part → (c.broker k).2 = part := by
  have hall : s.Fits ∧ s.Spelled := by
    refine h.invariant (I := fun s => s.Fits ∧ s.Spelled) ⟨fits_initial h₀ hconfig, ?_⟩
      fun t b t' ht hstep => ?_
    · obtain ⟨config, rfl⟩ := h₀
      exact fun c hc => by cases hc
    · exact ⟨fits_step ht.1 hstep.1.fitting hstep.2,
        spelled_move ht.1 ht.2 hstep.1.whole (move_of_step hstep.2)⟩
  obtain ⟨per, rest, hspells⟩ := hall.2 c hc
  refine ⟨?_, fun k => ?_, fun k hk part hpart => ?_⟩
  · simp only [hspells.broker_eq]
    rw [hspells.completed, List.map_flatMap]
  · rw [hspells.broker_eq]
    exact ⟨hspells.incomplete k, (hspells.incomplete k).eq_none⟩
  · rw [hspells.broker_eq]
    exact (hspells.current k hk).2 part hpart

/-- A SUBSCRIBE is written in two pieces, and the beginning of a PUBLISH. -/
def subscribeAndBegin : List (Action Unit) :=
  [.call .connect, .hold] ++ toConnack ++
    [.grant, .call (.subscribe [97] ()), .hold, .hold, .call (.publish ⟨[97], [120], false⟩),
      .hold, .hold, .write .next, .write .next, .write .next, .write (.sent 5), .write (.sent 3),
      .write .next, .write .next, .write .next, .write (.sent 2)]

theorem broker_reads_subscribeAndBegin : ∃ c : Connection,
    (c.broker 0).1 = [.connect (.ofInfo { clientId := [] }), .subscribe 1 [([97], 0)]] ∧
      (c.broker 0).2 = [0x30, 4] ∧ ControlPacket.packet (c.broker 0).2 = none := by
  obtain ⟨s, hrun, htest⟩ := guarded_run_of_exec Legible subscribeAndBegin
    (fun s => s.connection.any fun c => c.sockets = 1 ∧ c.socket = some 0 ∧
      c.writePc.part = some [0x30, 4] ∧
        c.completed = [.connect { clientId := [] }, .subscribe 1 [97]]) (by decide +kernel)
  obtain ⟨c, hc, htest⟩ := (Option.any_eq_true _ _).mp htest
  obtain ⟨hsockets, hk, hpart, hdone⟩ := of_decide_eq_true htest
  have hconfig : ({} : System Unit).config.Fits :=
    (Draft.representable_connect _).mpr ⟨by decide, .inl rfl⟩
  obtain ⟨hread, hrest, hcurrent⟩ := broker_reads initial_default hconfig hrun hc
  rw [hsockets, hdone, List.range_one, List.flatMap_singleton] at hread
  exact ⟨c, hread, hcurrent 0 hk _ hpart, (hrest 0).2⟩

end System

end TrueMqtt
