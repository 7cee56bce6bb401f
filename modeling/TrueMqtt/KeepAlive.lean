import TrueMqtt.Connection

/-!
# TrueMqtt.KeepAlive

The two timers of a connection that is up: `m_last_sent_packet` decides when
`recv` sends a PINGREQ, `m_last_received_packet` when it gives the connection up
(`recv`, `recvLoop` and `sendPacket` of `Packet.cpp`, the reset in `connectToAny`).

The surroundings are as good as they can be: the clock does not go back, `recv`
comes round at least every 100 ms, the write thread writes a packet the moment it
is queued, and the broker answers a PINGREQ, SUBSCRIBE or UNSUBSCRIBE the moment
it is written.  A PUBLISH has no answer, but puts the next PINGREQ off.  One that
is written late after the last packet received leaves no time for an answer
before the timeout.  Runs without such a packet do not time out (`no_timeout`);
after such a packet nothing but a bad rhythm of the polls is missing
(`fits_iff_not_mayTimeOut`).

Times are in nanoseconds, the clock's unit, and stay in its range.
-/

namespace TrueMqtt

/-- `std::chrono::milliseconds`, in nanoseconds. -/
def ms (n : Nat) : Nat := n * 1000000

/-- `m_keep_alive_interval * 15 / 10`, which is computed in milliseconds. -/
def receiveTimeout (keepAlive : Nat) : Nat := ms (keepAlive * 15 / 10)

/-- The calls of `recv` that `recvLoop` makes for a packet that has arrived: one
for the header byte, one for each length byte, one for a body. -/
def Draft.recvCalls (d : Draft) : Nat :=
  1 + (Base128.encode 3 d.body.length).length + if d.body = [] then 0 else 1

/-- What the broker answers to a packet; a CONNACK counts as a packet of its own. -/
def Outgoing.answer : Outgoing → Option Draft
  | subscribe packetId _ =>
      some { packetType := .suback, flags := 0, fields := [.uint16 packetId, .uint8 0] }
  | unsubscribe packetId _ =>
      some { packetType := .unsuback, flags := 0, fields := [.uint16 packetId] }
  | pingRequest => some { packetType := .pingresp, flags := 0, fields := [] }
  | connect _ | publish _ => none

/-- `recvLoop` accepts every answer, and reads it in two or three calls. -/
theorem Outgoing.answer_spec {o : Outgoing} {d : Draft} (h : o.answer = some d) :
    d.received.incoming.isSome = true ∧ 2 ≤ d.recvCalls ∧ d.recvCalls ≤ 3 := by
  cases o with
  | connect info => cases h
  | publish m => cases h
  | pingRequest =>
      cases h
      decide
  | subscribe packetId topic =>
      cases h
      exact ⟨rfl, Nat.le_succ 2, Nat.le_refl 3⟩
  | unsubscribe packetId topic =>
      cases h
      exact ⟨rfl, Nat.le_succ 2, Nat.le_refl 3⟩

/-- The timers of a connection, and what waits on its socket. -/
structure Timers where
  now : Nat
  /-- when `recv` last came round -/
  lastPoll : Nat
  lastSentPacket : Nat
  lastReceivedPacket : Nat
  /-- for each packet that has arrived, the calls of `recv` left to read it -/
  arrived : List Nat := []
  /-- `recv` returned with "Connection timed out" -/
  timedOut : Bool := false
deriving DecidableEq, Repr

/-- What happens, and when. -/
inductive TimerEvent where
  /-- `recv` comes round -/
  | poll (t : Nat)
  /-- a packet is queued and written -/
  | send (t : Nat) (o : Outgoing)
  /-- a packet of the broker's own arrives, for `calls` calls of `recv` -/
  | arrive (t : Nat) (calls : Nat)
deriving DecidableEq, Repr

def TimerEvent.time : TimerEvent → Nat
  | poll t | send t _ | arrive t _ => t

namespace Timers

/-- The end of `connectToAny`: both timers are reset and the CONNECT is written. -/
def start (t : Nat) : Timers :=
  { now := t, lastPoll := t, lastSentPacket := t, lastReceivedPacket := t }

/-- The end of `sendPacket`, and the answer. -/
def sendPacket (t : Nat) (o : Outgoing) (s : Timers) : Timers :=
  { s with
    now := t
    lastSentPacket := t
    arrived := s.arrived ++ o.answer.toList.map Draft.recvCalls }

/-- A call of `::recv`; the last one of a packet ends `recvLoop`. -/
def recv (t : Nat) (s : Timers) : Timers :=
  match s.arrived with
  | [] => s
  | n :: rest =>
      if n ≤ 1 then { s with lastReceivedPacket := t, arrived := rest }
      else { s with arrived := (n - 1) :: rest }

/-- The keep-alive timer in `recv`. -/
def keepAliveTimer (keepAlive t : Nat) (s : Timers) : Timers :=
  if s.lastSentPacket + ms keepAlive < t then s.sendPacket t .pingRequest else s

/-- A round of the loop in `recv`. -/
def poll (keepAlive t : Nat) (s : Timers) : Timers :=
  -- `select` looks at the socket before a PINGREQ is sent
  let idle := s.arrived.isEmpty
  let s := { s with now := t, lastPoll := t }.keepAliveTimer keepAlive t
  if s.lastReceivedPacket + receiveTimeout keepAlive < t then { s with timedOut := true }
  else if idle then s
  else s.recv t

/-- An event, at a time when the clock and the rhythm of `recv` allow it. -/
def step (keepAlive : Nat) (s : Timers) (e : TimerEvent) : Option Timers :=
  if s.timedOut = false ∧ s.now ≤ e.time ∧ e.time ≤ s.lastPoll + ms 100 then
    match e with
    | .poll t => some (s.poll keepAlive t)
    | .send t o => some (s.sendPacket t o)
    | .arrive t calls =>
        if 1 ≤ calls then some { s with now := t, arrived := s.arrived ++ [calls] } else none
  else none

def Steps (keepAlive : Nat) (s : Timers) (e : TimerEvent) (s' : Timers) : Prop :=
  s.step keepAlive e = some s'

/-- An event that leaves time for what follows it.  After a packet without an
answer, with nothing left to read: the keep-alive interval, and 300 ms to send a
PINGREQ and read its answer.  For a packet of the broker's own: 100 ms for each
call of `recv`. -/
def Fits (keepAlive : Nat) (s : Timers) : TimerEvent → Prop
  | .poll _ => True
  | .send t o =>
      o.answer = none → s.arrived = [] →
        t + ms keepAlive + ms 300 ≤ s.lastReceivedPacket + receiveTimeout keepAlive
  | .arrive _ calls =>
      (s.arrived = [] →
        s.lastPoll + calls * ms 100 ≤ s.lastReceivedPacket + receiveTimeout keepAlive) ∧
      calls * ms 100 ≤ receiveTimeout keepAlive

instance (keepAlive : Nat) (s : Timers) (e : TimerEvent) : Decidable (s.Fits keepAlive e) := by
  unfold Fits
  split <;> infer_instance

/-! ## runs whose events fit -/

section

variable {keepAlive : Nat} {s s' : Timers} {e : TimerEvent} {t : Nat} {o : Outgoing}

/-- What a step can be. -/
theorem step_cases (h : Steps keepAlive s e s') :
    (s.timedOut = false ∧ s.now ≤ e.time ∧ e.time ≤ s.lastPoll + ms 100) ∧
      ((∃ t, e = .poll t ∧ s' = s.poll keepAlive t) ∨
        (∃ t o, e = .send t o ∧ s' = s.sendPacket t o) ∨
        ∃ t calls, e = .arrive t calls ∧ 1 ≤ calls ∧
          s' = { s with now := t, arrived := s.arrived ++ [calls] }) := by
  unfold Steps step at h
  split at h
  · next hnow =>
    refine ⟨hnow, ?_⟩
    cases e with
    | poll t => exact .inl ⟨t, rfl, (Option.some.inj h).symm⟩
    | send t o => exact .inr (.inl ⟨t, o, rfl, (Option.some.inj h).symm⟩)
    | arrive t calls =>
        simp only at h
        split at h
        · next hcalls => exact .inr (.inr ⟨t, calls, rfl, hcalls, (Option.some.inj h).symm⟩)
        · cases h
  · cases h

/-- The keep-alive timer sends a PINGREQ, whose answer takes two calls, or does
nothing. -/
theorem keepAliveTimer_cases (keepAlive t : Nat) (s : Timers) :
    (s.lastSentPacket + ms keepAlive < t ∧ s.keepAliveTimer keepAlive t =
        { s with now := t, lastSentPacket := t, arrived := s.arrived ++ [2] }) ∨
      (t ≤ s.lastSentPacket + ms keepAlive ∧ s.keepAliveTimer keepAlive t = s) := by
  unfold keepAliveTimer
  split
  · next hdue => exact .inl ⟨hdue, rfl⟩
  · next hdue => exact .inr ⟨Nat.not_lt.mp hdue, rfl⟩

@[simp] theorem keepAliveTimer_lastReceivedPacket (keepAlive t : Nat) (s : Timers) :
    (s.keepAliveTimer keepAlive t).lastReceivedPacket = s.lastReceivedPacket := by
  unfold keepAliveTimer
  split <;> rfl

theorem timedOut_poll_of_late (h : s.lastReceivedPacket + receiveTimeout keepAlive < t) :
    (s.poll keepAlive t).timedOut = true := by
  simp only [poll, keepAliveTimer_lastReceivedPacket, if_pos h]

/-- A poll before the timeout, with nothing to read. -/
theorem poll_of_idle (h : t ≤ s.lastReceivedPacket + receiveTimeout keepAlive)
    (harr : s.arrived = []) :
    s.poll keepAlive t = { s with now := t, lastPoll := t }.keepAliveTimer keepAlive t := by
  have hidle : s.arrived.isEmpty = true := by rw [harr, List.isEmpty_nil]
  simp only [poll, keepAliveTimer_lastReceivedPacket, if_neg (Nat.not_lt.mpr h), if_pos hidle]

/-- A poll before the timeout, with something to read: a call of `::recv`. -/
theorem poll_of_ready (h : t ≤ s.lastReceivedPacket + receiveTimeout keepAlive)
    (harr : s.arrived ≠ []) :
    s.poll keepAlive t =
      recv t ({ s with now := t, lastPoll := t }.keepAliveTimer keepAlive t) := by
  have hready : ¬ s.arrived.isEmpty = true := by rwa [List.isEmpty_iff]
  simp only [poll, keepAliveTimer_lastReceivedPacket, if_neg (Nat.not_lt.mpr h), if_neg hready]

/-- The clock and the timers of a connection whose polls come in time; no PINGREQ
is overdue. -/
structure Paced (keepAlive : Nat) (s : Timers) : Prop where
  lastPoll_le : s.lastPoll ≤ s.now
  now_le : s.now ≤ s.lastPoll + ms 100
  sent_le : s.lastSentPacket ≤ s.now
  received_le : s.lastReceivedPacket ≤ s.lastPoll
  ping : s.lastPoll ≤ s.lastSentPacket + ms keepAlive
  timedOut : s.timedOut = false

/-- A connection that is not going to time out: what has arrived can be read in
time, 100 ms for each call; with nothing left to read, there is time for a PINGREQ
and its answer. -/
structure Alive (keepAlive : Nat) (s : Timers) : Prop extends Paced keepAlive s where
  idle : s.arrived = [] → s.lastSentPacket + ms keepAlive + ms 300 ≤
    s.lastReceivedPacket + receiveTimeout keepAlive
  head : ∀ n ∈ s.arrived.head?,
    s.lastPoll + n * ms 100 ≤ s.lastReceivedPacket + receiveTimeout keepAlive
  queue : ∀ n ∈ s.arrived, 1 ≤ n ∧ n * ms 100 ≤ receiveTimeout keepAlive

/-- The receive timeout leaves 300 ms after a keep-alive interval. -/
theorem ms_le_receiveTimeout (h : 1000 ≤ keepAlive) :
    ms keepAlive + ms 300 ≤ receiveTimeout keepAlive := by
  unfold receiveTimeout ms
  omega

theorem start_alive (h : 1000 ≤ keepAlive) (t : Nat) : Alive keepAlive (start t) where
  lastPoll_le := Nat.le_refl t
  now_le := Nat.le_add_right t _
  sent_le := Nat.le_refl t
  received_le := Nat.le_refl t
  ping := Nat.le_add_right t _
  timedOut := rfl
  idle := by
    intro _
    have hms := ms_le_receiveTimeout h
    show t + ms keepAlive + ms 300 ≤ t + receiveTimeout keepAlive
    omega
  head := fun _ hn => by cases hn
  queue := fun _ hn => by cases hn

/-- The next poll of a live connection comes before the timeout. -/
theorem Alive.poll_le (h : Alive keepAlive s) (ht : t ≤ s.lastPoll + ms 100) :
    t ≤ s.lastReceivedPacket + receiveTimeout keepAlive := by
  cases harr : s.arrived with
  | nil =>
      have hidle := h.idle harr
      have hping := h.ping
      unfold ms at *
      omega
  | cons n rest =>
      have hhead := h.head n (by simp [harr])
      have hn := (h.queue n (by simp [harr])).1
      unfold ms at *
      omega

/-- A poll keeps the pace: it sends the PINGREQ that is due. -/
theorem Alive.paced_keepAliveTimer (h : Alive keepAlive s) (hnow : s.now ≤ t) :
    Paced keepAlive ({ s with now := t, lastPoll := t }.keepAliveTimer keepAlive t) := by
  have hsent : s.lastSentPacket ≤ t := h.sent_le.trans hnow
  have hreceived : s.lastReceivedPacket ≤ t := h.received_le.trans (h.lastPoll_le.trans hnow)
  rcases keepAliveTimer_cases keepAlive t { s with now := t, lastPoll := t } with
    ⟨-, heq⟩ | ⟨hdue, heq⟩
  · rw [heq]
    exact ⟨Nat.le_refl t, Nat.le_add_right t _, Nat.le_refl t, hreceived, Nat.le_add_right t _,
      h.timedOut⟩
  · rw [heq]
    exact ⟨Nat.le_refl t, Nat.le_add_right t _, hsent, hreceived, hdue, h.timedOut⟩

/-- With nothing to read, a PINGREQ goes out in time for its answer. -/
theorem Alive.poll_idle (hK : 1000 ≤ keepAlive) (h : Alive keepAlive s) (hnow : s.now ≤ t)
    (ht : t ≤ s.lastPoll + ms 100) (harr : s.arrived = []) :
    Alive keepAlive (s.poll keepAlive t) := by
  have hms := ms_le_receiveTimeout hK
  have hpaced := h.paced_keepAliveTimer hnow
  have hidle := h.idle harr
  have hping := h.ping
  rw [poll_of_idle (h.poll_le ht) harr]
  rcases keepAliveTimer_cases keepAlive t { s with now := t, lastPoll := t } with
    ⟨-, heq⟩ | ⟨-, heq⟩
  · -- the answer to the PINGREQ is the only packet, and takes two calls
    rw [heq, harr, List.nil_append] at hpaced ⊢
    refine ⟨hpaced, fun hnil => (nomatch hnil), fun n hn => ?_, fun n hn => ?_⟩
    · cases hn
      show t + 2 * ms 100 ≤ s.lastReceivedPacket + receiveTimeout keepAlive
      unfold ms at *
      omega
    · cases List.mem_singleton.mp hn
      unfold ms at *
      omega
  · rw [heq] at hpaced ⊢
    exact ⟨hpaced, fun _ => hidle, fun n hn => by simp [harr] at hn, h.queue⟩

/-- A call of `::recv` completes the first packet, or leaves one call less to
make in 100 ms less. -/
theorem Paced.recv (hK : 1000 ≤ keepAlive) (h : Paced keepAlive s) {n : Nat} (rest : List Nat)
    (hnow : s.now = t) (hpoll : s.lastPoll = t) (harr : s.arrived = n :: rest)
    (hhead : t + n * ms 100 ≤ s.lastReceivedPacket + receiveTimeout keepAlive + ms 100)
    (hqueue : ∀ n ∈ s.arrived, 1 ≤ n ∧ n * ms 100 ≤ receiveTimeout keepAlive) :
    Alive keepAlive (s.recv t) := by
  have hms := ms_le_receiveTimeout hK
  have hsent := h.sent_le
  have hrest : ∀ m ∈ rest, 1 ≤ m ∧ m * ms 100 ≤ receiveTimeout keepAlive := fun m hm =>
    hqueue m (harr ▸ List.mem_cons_of_mem n hm)
  have hn := hqueue n (harr ▸ List.mem_cons_self)
  simp only [Timers.recv, harr]
  split
  · -- the packet is complete: the receive timer starts anew
    refine ⟨⟨h.lastPoll_le, h.now_le, h.sent_le, hpoll.ge, h.ping, h.timedOut⟩, ?_, ?_, hrest⟩
    · intro _
      show s.lastSentPacket + ms keepAlive + ms 300 ≤ t + receiveTimeout keepAlive
      omega
    · intro m hm
      have hm' := hrest m (List.mem_of_mem_head? hm)
      show s.lastPoll + m * ms 100 ≤ t + receiveTimeout keepAlive
      omega
  · next hmore =>
    have hsub : (n - 1) * ms 100 = n * ms 100 - ms 100 := Nat.sub_one_mul n _
    refine ⟨⟨h.lastPoll_le, h.now_le, h.sent_le, h.received_le, h.ping, h.timedOut⟩,
      fun hnil => (nomatch hnil), ?_, ?_⟩
    · intro m hm
      have hm' : n - 1 = m := by simpa using hm
      show s.lastPoll + m * ms 100 ≤ s.lastReceivedPacket + receiveTimeout keepAlive
      rw [← hm', hsub]
      unfold ms at *
      omega
    · intro m hm
      rcases List.mem_cons.mp hm with rfl | hm'
      · exact ⟨by omega, by omega⟩
      · exact hrest m hm'

/-- With something to read, a PINGREQ that is due queues its answer behind it. -/
theorem Alive.poll_ready (hK : 1000 ≤ keepAlive) (h : Alive keepAlive s) (hnow : s.now ≤ t)
    (ht : t ≤ s.lastPoll + ms 100) {n : Nat} {rest : List Nat} (harr : s.arrived = n :: rest) :
    Alive keepAlive (s.poll keepAlive t) := by
  have hms := ms_le_receiveTimeout hK
  have hpaced := h.paced_keepAliveTimer hnow
  have hhead : t + n * ms 100 ≤ s.lastReceivedPacket + receiveTimeout keepAlive + ms 100 := by
    have hle := h.head n (by rw [harr, List.head?_cons, Option.mem_some])
    omega
  rw [poll_of_ready (h.poll_le ht) (by rw [harr]; exact List.cons_ne_nil n rest)]
  rcases keepAliveTimer_cases keepAlive t { s with now := t, lastPoll := t } with
    ⟨-, heq⟩ | ⟨-, heq⟩
  · rw [heq] at hpaced ⊢
    refine hpaced.recv hK (rest ++ [2]) rfl rfl ?_ hhead ?_
    · simp only [harr, List.cons_append]
    · intro m hm
      rcases List.mem_append.mp hm with hm | hm
      · exact h.queue m hm
      · rw [List.mem_singleton.mp hm]
        unfold ms at *
        omega
  · rw [heq] at hpaced ⊢
    exact hpaced.recv hK rest rfl rfl harr hhead h.queue

/-- A packet is sent: its answer arrives, or it leaves time for a PINGREQ. -/
theorem Alive.sendPacket (hK : 1000 ≤ keepAlive) (h : Alive keepAlive s) (hnow : s.now ≤ t)
    (ht : t ≤ s.lastPoll + ms 100) (hfits : s.Fits keepAlive (.send t o)) :
    Alive keepAlive (s.sendPacket t o) := by
  have hms := ms_le_receiveTimeout hK
  have hanswer : ∀ n ∈ o.answer.toList.map Draft.recvCalls, 2 ≤ n ∧ n ≤ 3 := by
    intro n hn
    obtain ⟨d, hd, rfl⟩ := List.mem_map.mp hn
    exact (Outgoing.answer_spec (Option.mem_toList.mp hd)).2
  have htime : ∀ n, n ≤ 3 → n * ms 100 ≤ ms 300 := by
    intro n hn
    unfold ms
    omega
  have hpoll : s.lastPoll ≤ t := h.lastPoll_le.trans hnow
  refine ⟨⟨hpoll, ht, Nat.le_refl t, h.received_le, hpoll.trans (Nat.le_add_right t _), h.timedOut⟩,
    ?_, ?_, ?_⟩
  · intro harr
    obtain ⟨harr', hnone⟩ := List.append_eq_nil_iff.mp harr
    exact hfits (by simpa using hnone) harr'
  · intro n hn
    rw [Timers.sendPacket, List.head?_append] at hn
    cases harr : s.arrived with
    | cons m rest =>
        rw [harr] at hn
        exact h.head n (harr ▸ hn)
    | nil =>
        rw [harr, List.head?_nil, Option.none_or] at hn
        have hidle := h.idle harr
        have hping := h.ping
        have hcalls := htime n (hanswer n (List.mem_of_mem_head? hn)).2
        show s.lastPoll + n * ms 100 ≤ s.lastReceivedPacket + receiveTimeout keepAlive
        omega
  · intro n hn
    rcases List.mem_append.mp hn with hn | hn
    · exact h.queue n hn
    · have hcalls := htime n (hanswer n hn).2
      exact ⟨by have := (hanswer n hn).1; omega, by omega⟩

/-- A packet of the broker's own arrives, and leaves time to read it. -/
theorem Alive.arrive {calls : Nat} (h : Alive keepAlive s) (hnow : s.now ≤ t)
    (ht : t ≤ s.lastPoll + ms 100) (hcalls : 1 ≤ calls)
    (hfits : s.Fits keepAlive (.arrive t calls)) :
    Alive keepAlive { s with now := t, arrived := s.arrived ++ [calls] } := by
  refine ⟨⟨h.lastPoll_le.trans hnow, ht, h.sent_le.trans hnow, h.received_le, h.ping, h.timedOut⟩,
    ?_, ?_, ?_⟩
  · intro harr
    exact absurd harr (by simp)
  · intro n hn
    rw [List.head?_append] at hn
    cases harr : s.arrived with
    | cons m rest =>
        rw [harr] at hn
        exact h.head n (harr ▸ hn)
    | nil =>
        have hn' : calls = n := by simpa [harr] using hn
        exact hn' ▸ hfits.1 harr
  · intro n hn
    rcases List.mem_append.mp hn with hn | hn
    · exact h.queue n hn
    · rw [List.mem_singleton.mp hn]
      exact ⟨hcalls, hfits.2⟩

/-- Every event that fits leaves the connection alive. -/
theorem Alive.step (hK : 1000 ≤ keepAlive) (h : Alive keepAlive s) (hfits : s.Fits keepAlive e)
    (hstep : Steps keepAlive s e s') : Alive keepAlive s' := by
  obtain ⟨⟨-, hnow, ht⟩, hcases⟩ := step_cases hstep
  obtain ⟨t, rfl, rfl⟩ | ⟨t, o, rfl, rfl⟩ | ⟨t, calls, rfl, hcalls, rfl⟩ := hcases
  · cases harr : s.arrived with
    | nil => exact h.poll_idle hK hnow ht harr
    | cons n rest => exact h.poll_ready hK hnow ht harr
  · exact h.sendPacket hK hnow ht hfits
  · exact h.arrive hnow ht hcalls hfits

/-- **No timeout**: a connection all of whose events fit does not time out. -/
theorem no_timeout (hK : 1000 ≤ keepAlive) {t₀ : Nat} {es : List TimerEvent}
    (h : Run (Guarded (Steps keepAlive) (Fits keepAlive)) (start t₀) es s) :
    s.timedOut = false := by
  have halive : Alive keepAlive s :=
    h.invariant (start_alive hK t₀) fun _ _ _ hs hg => hs.step hK hg.1 hg.2
  exact halive.timedOut

/-! ### evaluation -/

/-- A run whose events fit, by evaluation of a test on its last state. -/
theorem guarded_run_of_exec (keepAlive t₀ : Nat) (es : List TimerEvent) (test : Timers → Bool)
    (h : (exec (fun s e => if s.Fits keepAlive e then s.step keepAlive e else none) (start t₀)
      es).any test = true) :
    ∃ s, Run (Guarded (Steps keepAlive) (Fits keepAlive)) (start t₀) es s ∧ test s = true := by
  refine Run.of_exec (fun {s e s'} hstep => ?_) h
  split at hstep
  · next hfits => exact ⟨hfits, hstep⟩
  · cases hstep

/-- Polls every 100 ms, after the first `k` of them up to the first `n`. -/
def polls (k n : Nat) : List TimerEvent :=
  (List.range' (k + 1) (n - k)).map fun i => .poll (ms (100 * i))

/-- The CONNACK, which arrives at once and is read in three calls. -/
def connackEvents : List TimerEvent :=
  [.arrive 0 3, .poll (ms 10), .poll (ms 20), .poll (ms 30)]

/-- A message at 150 ms with an interval of two seconds: the PINGREQ goes out at
2.2 seconds, and the broker's answer is received at 2.4. -/
theorem no_timeout_early_publish : ∃ es s,
    Run (Guarded (Steps 2000) (Fits 2000)) (start 0) es s ∧
      s.lastReceivedPacket = ms 2400 ∧ s.timedOut = false := by
  obtain ⟨s, hrun, htest⟩ := guarded_run_of_exec 2000 0
    (connackEvents ++ polls 0 1 ++ .send (ms 150) (.publish ⟨[97], [], false⟩) :: polls 1 30)
    (fun s => decide (s.lastReceivedPacket = ms 2400)) (by decide +kernel)
  exact ⟨_, s, hrun, of_decide_eq_true htest, no_timeout (by decide) hrun⟩

/-- With an interval of one second, a message at 650 ms puts the PINGREQ off to
1.65 seconds; the connection is given up at 1.6. -/
theorem late_publish_times_out : ¬ ∀ keepAlive t₀ es s, 1000 ≤ keepAlive →
    Run (Steps keepAlive) (start t₀) es s → s.timedOut = false := by
  intro hall
  have hlate : (exec (step 1000) (start 0) (connackEvents ++ polls 0 6 ++
      .send (ms 650) (.publish ⟨[97], [], false⟩) :: polls 6 16)).any timedOut = true := by
    decide +kernel
  obtain ⟨s, hrun, htest⟩ := Run.of_exec (R := Steps 1000) id hlate
  rw [hall 1000 0 _ s (Nat.le_refl 1000) hrun] at htest
  cases htest

/-! ## events that do not fit -/

/-- A state from which `recv` alone can come to a timeout. -/
def MayTimeOut (keepAlive : Nat) (s : Timers) : Prop :=
  ∃ es s', Run (Guarded (Steps keepAlive) fun _ e => ∃ t, e = .poll t) s es s' ∧
    s'.timedOut = true

/-- A poll is a timeout, or the state after it decides. -/
theorem mayTimeOut_of_poll (htimedOut : s.timedOut = false) (hnow : s.now ≤ t)
    (ht : t ≤ s.lastPoll + ms 100)
    (h : t ≤ s.lastReceivedPacket + receiveTimeout keepAlive →
      MayTimeOut keepAlive (s.poll keepAlive t)) : MayTimeOut keepAlive s := by
  have hstep : Guarded (Steps keepAlive) (fun _ e => ∃ t, e = TimerEvent.poll t) s (.poll t)
      (s.poll keepAlive t) := ⟨⟨t, rfl⟩, if_pos ⟨htimedOut, hnow, ht⟩⟩
  by_cases hlate : s.lastReceivedPacket + receiveTimeout keepAlive < t
  · exact ⟨_, _, .snoc .nil hstep, timedOut_poll_of_late hlate⟩
  · obtain ⟨es, s', hrun, hout⟩ := h (Nat.not_lt.mp hlate)
    exact ⟨_, s', Run.cons hstep hrun, hout⟩

/-- A poll with nothing to read and no PINGREQ due only moves the clock. -/
theorem poll_of_quiet (h : t ≤ s.lastReceivedPacket + receiveTimeout keepAlive)
    (harr : s.arrived = []) (hdue : t ≤ s.lastSentPacket + ms keepAlive) :
    s.poll keepAlive t = { s with now := t, lastPoll := t } := by
  rw [poll_of_idle h harr, keepAliveTimer, if_neg (Nat.not_lt.mpr hdue)]

/-- Such polls go on up to the time the next PINGREQ is due. -/
theorem mayTimeOut_of_wait {u : Nat} (rounds : Nat) (htimedOut : s.timedOut = false)
    (harr : s.arrived = []) (hnow : s.now ≤ u) (hpoll : s.now ≤ s.lastPoll + ms 100)
    (hu : u ≤ s.lastSentPacket + ms keepAlive) (hrounds : u ≤ s.lastPoll + rounds * ms 100)
    (h : MayTimeOut keepAlive { s with now := u, lastPoll := u }) : MayTimeOut keepAlive s := by
  induction rounds generalizing s with
  | zero =>
      refine mayTimeOut_of_poll (t := u) htimedOut hnow (by omega) fun hlate => ?_
      rwa [poll_of_quiet hlate harr hu]
  | succ rounds ih =>
      by_cases hlast : u ≤ s.lastPoll + ms 100
      · refine mayTimeOut_of_poll (t := u) htimedOut hnow hlast fun hlate => ?_
        rwa [poll_of_quiet hlate harr hu]
      · rw [Nat.add_mul, Nat.one_mul] at hrounds
        refine mayTimeOut_of_poll (t := s.lastPoll + ms 100) htimedOut hpoll (Nat.le_refl _)
          fun hlate => ?_
        rw [poll_of_quiet hlate harr (by omega)]
        exact ih htimedOut harr (by simp only; omega) (by simp only; omega) hu
          (by simp only; omega) h

/-- A call of `::recv` that is not the last one of its packet. -/
theorem poll_of_more (h : t ≤ s.lastReceivedPacket + receiveTimeout keepAlive) {n : Nat}
    {rest : List Nat} (hn : 1 < n) (harr : s.arrived = n :: rest) :
    ∃ sent pings, s.poll keepAlive t =
      { s with now := t, lastPoll := t, lastSentPacket := sent,
               arrived := (n - 1) :: (rest ++ pings) } := by
  rw [poll_of_ready h (by simp [harr])]
  rcases keepAliveTimer_cases keepAlive t { s with now := t, lastPoll := t } with
    ⟨-, heq⟩ | ⟨-, heq⟩
  · exact ⟨t, [2], by rw [heq]; simp [recv, harr, Nat.not_le.mpr hn]⟩
  · exact ⟨s.lastSentPacket, [], by rw [heq]; simp [recv, harr, Nat.not_le.mpr hn]⟩

/-- The last one. -/
theorem poll_of_last (h : t ≤ s.lastReceivedPacket + receiveTimeout keepAlive) {n : Nat}
    {rest : List Nat} (hn : n ≤ 1) (harr : s.arrived = n :: rest) :
    ∃ sent pings, s.poll keepAlive t =
      { s with now := t, lastPoll := t, lastSentPacket := sent, lastReceivedPacket := t,
               arrived := rest ++ pings } := by
  rw [poll_of_ready h (by simp [harr])]
  rcases keepAliveTimer_cases keepAlive t { s with now := t, lastPoll := t } with
    ⟨-, heq⟩ | ⟨-, heq⟩
  · exact ⟨t, [2], by rw [heq]; simp [recv, harr, hn]⟩
  · exact ⟨s.lastSentPacket, [], by rw [heq]; simp [recv, harr, hn]⟩

/-- A packet that takes longer to read than the receive timer allows. -/
theorem mayTimeOut_of_slow {n : Nat} (rest : List Nat) (htimedOut : s.timedOut = false)
    (harr : s.arrived = n :: rest) (hpoll : s.now ≤ s.lastPoll + ms 100)
    (hslow : s.lastReceivedPacket + receiveTimeout keepAlive < s.lastPoll + n * ms 100) :
    MayTimeOut keepAlive s := by
  induction n generalizing s rest with
  | zero =>
      refine mayTimeOut_of_poll (t := s.lastPoll + ms 100) htimedOut hpoll (Nat.le_refl _)
        fun hlate => ?_
      omega
  | succ n ih =>
      rw [Nat.add_mul, Nat.one_mul] at hslow
      refine mayTimeOut_of_poll (t := s.lastPoll + ms 100) htimedOut hpoll (Nat.le_refl _)
        fun hlate => ?_
      cases n with
      | zero => omega
      | succ n =>
          obtain ⟨sent, pings, heq⟩ := poll_of_more hlate (by omega) harr
          rw [heq]
          exact ih _ htimedOut rfl (Nat.le_add_right _ _) (by simp only; omega)

/-- The same for a packet behind others: reading them ends with the receive timer
reset and this packet first. -/
theorem mayTimeOut_of_slow_behind {calls : Nat} (ahead rest : List Nat)
    (htimedOut : s.timedOut = false) (harr : s.arrived = ahead ++ calls :: rest)
    (hpoll : s.now ≤ s.lastPoll + ms 100) (hreceived : s.lastReceivedPacket ≤ s.lastPoll)
    (hslow : receiveTimeout keepAlive < calls * ms 100) : MayTimeOut keepAlive s := by
  induction ahead generalizing s rest with
  | nil => exact mayTimeOut_of_slow rest htimedOut harr hpoll (by omega)
  | cons n ahead ihAhead =>
      -- the packet in front is read call by call
      induction n generalizing s rest with
      | zero =>
          refine mayTimeOut_of_poll (t := s.lastPoll + ms 100) htimedOut hpoll (Nat.le_refl _)
            fun hlate => ?_
          obtain ⟨sent, pings, heq⟩ := poll_of_last hlate (Nat.zero_le 1) harr
          rw [heq]
          exact ihAhead (rest ++ pings) htimedOut (by simp) (Nat.le_add_right _ _)
            (Nat.le_refl _)
      | succ n ihCalls =>
          refine mayTimeOut_of_poll (t := s.lastPoll + ms 100) htimedOut hpoll (Nat.le_refl _)
            fun hlate => ?_
          by_cases hlast : n + 1 ≤ 1
          · obtain ⟨sent, pings, heq⟩ := poll_of_last hlate hlast harr
            rw [heq]
            exact ihAhead (rest ++ pings) htimedOut (by simp) (Nat.le_add_right _ _)
              (Nat.le_refl _)
          · obtain ⟨sent, pings, heq⟩ := poll_of_more hlate (Nat.not_le.mp hlast) harr
            rw [heq]
            exact ihCalls (rest ++ pings) htimedOut (by simp) (Nat.le_add_right _ _)
              (by simp only; omega)

/-- A packet without an answer, sent too late: the polls that follow send the
PINGREQ 100 ms after it was due, and read no more than a part of the answer. -/
theorem mayTimeOut_of_late_send (htimedOut : s.timedOut = false) (harr : s.arrived = [])
    (hnone : o.answer = none) (hpoll : s.lastPoll ≤ t) (ht : t ≤ s.lastPoll + ms 100)
    (hlate : s.lastReceivedPacket + receiveTimeout keepAlive < t + ms keepAlive + ms 300) :
    MayTimeOut keepAlive (s.sendPacket t o) := by
  have hsent : s.sendPacket t o = { s with now := t, lastSentPacket := t } := by
    simp [sendPacket, hnone, harr]
  have hpos : 0 < ms 100 := by decide
  have h300 : ms 300 = ms 100 + 2 * ms 100 := by decide
  rw [hsent]
  refine mayTimeOut_of_wait (u := t + ms keepAlive) (keepAlive + 1) htimedOut harr
    (Nat.le_add_right _ _) ht (Nat.le_refl _) ?_ ?_
  · simp only
    unfold ms at *
    omega
  · refine mayTimeOut_of_poll (t := t + ms keepAlive + ms 100) htimedOut (Nat.le_add_right _ _)
      (Nat.le_refl _) fun hintime => ?_
    rw [poll_of_idle hintime harr]
    rcases keepAliveTimer_cases keepAlive (t + ms keepAlive + ms 100) _ with
      ⟨-, heq⟩ | ⟨hdue, -⟩
    · rw [heq]
      refine mayTimeOut_of_slow (n := 2) [] htimedOut (by simp [harr])
        (Nat.le_add_right _ _) ?_
      show s.lastReceivedPacket + receiveTimeout keepAlive < t + ms keepAlive + ms 100 + 2 * ms 100
      omega
    · have hdue' : t + ms keepAlive + ms 100 ≤ t + ms keepAlive := hdue
      omega

/-- **Exactly the events that fit are harmless**: the polls after an event of a
live connection can come to a timeout if and only if the event does not fit. -/
theorem fits_iff_not_mayTimeOut (hK : 1000 ≤ keepAlive) (h : Alive keepAlive s)
    (hstep : Steps keepAlive s e s') : s.Fits keepAlive e ↔ ¬ MayTimeOut keepAlive s' := by
  constructor
  · rintro hfits ⟨es, s'', hrun, hout⟩
    have halive : Alive keepAlive s'' := by
      refine hrun.invariant (h.step hK hfits hstep) fun s₁ e s₂ hs hg => ?_
      obtain ⟨⟨t, rfl⟩, hpoll⟩ := hg
      exact hs.step hK (show Fits keepAlive s₁ (.poll t) from trivial) hpoll
    rw [halive.timedOut] at hout
    cases hout
  · intro hmay
    obtain ⟨⟨-, hnow, ht⟩, hcases⟩ := step_cases hstep
    have hpoll := h.lastPoll_le
    have hreceived := h.received_le
    obtain ⟨t, rfl, rfl⟩ | ⟨t, o, rfl, rfl⟩ | ⟨t, calls, rfl, -, rfl⟩ := hcases
    · trivial
    · intro hnone harr
      by_contra hlate
      exact hmay (mayTimeOut_of_late_send h.timedOut harr hnone (hpoll.trans hnow) ht
        (Nat.not_le.mp hlate))
    · constructor
      · intro harr
        by_contra hslow
        exact hmay (mayTimeOut_of_slow (n := calls) [] h.timedOut (by simp [harr]) ht
          (Nat.not_le.mp hslow))
      · by_contra hslow
        exact hmay (mayTimeOut_of_slow_behind s.arrived [] h.timedOut rfl ht
          hreceived (Nat.not_le.mp hslow))

end

end Timers

end TrueMqtt
