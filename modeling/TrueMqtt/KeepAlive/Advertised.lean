import Mathlib.Data.List.Chain
import TrueMqtt.KeepAlive

/-!
# TrueMqtt.KeepAlive.Advertised

The keep-alive that the CONNECT announces, and how long the client is silent.

The CONNECT says 30 seconds (`advertisedKeepAlive_connect`), and the broker gives the
connection up after one and a half times that.  The PINGREQs follow
`m_keep_alive_interval`: a client is silent for this interval and for the 100 ms
between two polls, and no longer (`Regular`).  So the broker is satisfied if and only
if this is within its 45 seconds (`keep_alive_honoured_iff`).
-/

namespace TrueMqtt

/-! ## what the CONNECT announces -/

/-- The keep-alive of a CONNECT with this body, in seconds. -/
def advertisedKeepAlive (body : Str) : Option Nat := do
  let (_, p) ← (Packet.ofBody .connect 0 body).readString
  let (_, p) ← p.readUint8
  let (_, p) ← p.readUint8
  let (keepAlive, _) ← p.readUint16
  some keepAlive.toNat

/-- It is 30 seconds for every client. -/
theorem advertisedKeepAlive_connect (info : ConnectInfo) :
    advertisedKeepAlive (Draft.connect info).body = some 30 := by
  obtain ⟨rest, hbody⟩ : ∃ rest : Str, (Packet.ofBody .connect 0 (Draft.connect info).body).rest =
      (Field.string [77, 81, 84, 84]).bytes ++ 4 :: info.flags :: 0 :: 30 :: rest := ⟨_, rfl⟩
  have hfits : (Field.string [77, 81, 84, 84]).Fits := by simp [Field.Fits]
  obtain ⟨p₁, hname, hrest₁⟩ := readField_of_rest rfl hfits hbody
  obtain ⟨p₂, hlevel, hrest₂⟩ := Packet.readUint8_of_rest hrest₁
  obtain ⟨p₃, hflags, hrest₃⟩ := Packet.readUint8_of_rest hrest₂
  obtain ⟨p₄, hkeepAlive, -, -⟩ := Packet.readUint16_of_rest hrest₃
  rw [Packet.readField, Option.map_eq_some_iff] at hname
  obtain ⟨⟨name, p⟩, hname, heq⟩ := hname
  cases heq
  simp only [advertisedKeepAlive, hname, hlevel, hflags, hkeepAlive, Option.bind_eq_bind,
    Option.bind_some]
  rfl

/-- One and a half times the keep-alive: when the broker gives a silent client up. -/
def brokerTimeout (seconds : Nat) : Nat := ms (seconds * 1500)

namespace Timers

variable {keepAlive : Nat} {s s' : Timers} {e : TimerEvent} {t : Nat} {written : List Nat}

/-! ## the packets written -/

/-- The times at which packets were written, the CONNECT included: an observer sees
each packet sent, and each PINGREQ by the timer it resets. -/
def noteWritten (s : Timers) (e : TimerEvent) (s' : Timers) (written : List Nat) : List Nat :=
  match e with
  | .send t _ => written ++ [t]
  | .poll t => if s'.lastSentPacket = s.lastSentPacket then written else written ++ [t]
  | .arrive _ _ => written

/-- Two packets in a row are at most so far apart. -/
def Spaced (gap : Nat) (written : List Nat) : Prop :=
  written.IsChain fun a b => b ≤ a + gap

theorem spaced_concat {gap : Nat} {written : List Nat} {last : Nat} (h : Spaced gap written)
    (hlast : written.getLast? = some last) (ht : t ≤ last + gap) :
    Spaced gap (written ++ [t]) := by
  refine h.append (List.isChain_singleton t) fun a ha b hb => ?_
  rw [hlast, Option.mem_some] at ha
  rw [List.head?_cons, Option.mem_some] at hb
  omega

/-- The timers of a client that sends its PINGREQs in time. -/
structure Regular (keepAlive : Nat) (p : Timers × List Nat) : Prop where
  lastPoll_le : p.1.lastPoll ≤ p.1.now
  ping : p.1.lastPoll ≤ p.1.lastSentPacket + ms keepAlive
  last : p.2.getLast? = some p.1.lastSentPacket
  spaced : Spaced (ms keepAlive + ms 100) p.2

theorem start_regular (keepAlive t : Nat) : Regular keepAlive (start t, [t]) where
  lastPoll_le := Nat.le_refl t
  ping := Nat.le_add_right t _
  last := rfl
  spaced := List.isChain_singleton t

/-- A poll moves the clock, and the timer of the packets sent when a PINGREQ is due. -/
theorem poll_timers (keepAlive t : Nat) (s : Timers) :
    (s.poll keepAlive t).now = t ∧ (s.poll keepAlive t).lastPoll = t ∧
      (s.poll keepAlive t).lastSentPacket =
        if s.lastSentPacket + ms keepAlive < t then t else s.lastSentPacket := by
  have hrecv : ∀ s : Timers, (s.recv t).now = s.now ∧ (s.recv t).lastPoll = s.lastPoll ∧
      (s.recv t).lastSentPacket = s.lastSentPacket := by
    intro s
    unfold Timers.recv
    repeat' split
    all_goals exact ⟨rfl, rfl, rfl⟩
  unfold poll
  rcases keepAliveTimer_cases keepAlive t { s with now := t, lastPoll := t } with
    ⟨hdue, heq⟩ | ⟨hdue, heq⟩
  · simp only [heq, if_pos hdue]
    repeat' split
    all_goals simp [hrecv]
  · simp only [heq, if_neg (Nat.not_lt.mpr hdue)]
    repeat' split
    all_goals simp [hrecv]

/-- **Step lemma**: the client is never silent for longer than the interval and the
time between two polls. -/
theorem regular_step {p p' : Timers × List Nat} (h : Regular keepAlive p)
    (hstep : Observed (Steps keepAlive) noteWritten p e p') : Regular keepAlive p' := by
  obtain ⟨s, written⟩ := p
  obtain ⟨s', written'⟩ := p'
  obtain ⟨hstep, hnote : written' = s.noteWritten e s' written⟩ := hstep
  obtain ⟨hlastPoll, hping, hlast, hspaced⟩ := h
  subst hnote
  simp only at hlastPoll hping hlast hspaced
  obtain ⟨⟨-, hnow, hpace⟩, ⟨t, rfl, rfl⟩ | ⟨t, o, rfl, rfl⟩ | ⟨t, calls, rfl, -, rfl⟩⟩ :=
    step_cases hstep
  all_goals simp only [TimerEvent.time] at hnow hpace
  · -- a poll; the PINGREQ goes out when the timer has run down
    obtain ⟨hnow', hpoll', hsent'⟩ := poll_timers keepAlive t s
    by_cases hdue : s.lastSentPacket + ms keepAlive < t
    · rw [if_pos hdue] at hsent'
      have hwritten : s.noteWritten (.poll t) (s.poll keepAlive t) written = written ++ [t] := by
        rw [noteWritten, if_neg (by omega)]
      rw [hwritten]
      refine ⟨by simp only; omega, by simp only; omega, by simp [hsent'], ?_⟩
      exact spaced_concat hspaced hlast (by omega)
    · rw [if_neg hdue] at hsent'
      have hwritten : s.noteWritten (.poll t) (s.poll keepAlive t) written = written := by
        rw [noteWritten, if_pos hsent']
      rw [hwritten]
      exact ⟨by simp only; omega, by simp only; omega, by simpa [hsent'] using hlast, hspaced⟩
  · refine ⟨?_, ?_, by simp [noteWritten, sendPacket], ?_⟩
    · show s.lastPoll ≤ t
      omega
    · show s.lastPoll ≤ t + ms keepAlive
      omega
    · exact spaced_concat hspaced hlast (by omega)
  · exact ⟨by simp only; omega, hping, hlast, hspaced⟩

/-! ## a silent client -/

/-- A poll of a client with nothing to send and nothing to read. -/
theorem observed_of_quiet (htimedOut : s.timedOut = false) (harr : s.arrived = [])
    (hnow : s.now ≤ t) (hpoll : t ≤ s.lastPoll + ms 100)
    (hdue : t ≤ s.lastSentPacket + ms keepAlive)
    (halive : t ≤ s.lastReceivedPacket + receiveTimeout keepAlive) :
    Observed (Steps keepAlive) noteWritten (s, written) (.poll t)
      ({ s with now := t, lastPoll := t }, written) := by
  refine ⟨?_, (if_pos rfl).symm⟩
  show s.step keepAlive (.poll t) = some { s with now := t, lastPoll := t }
  rw [← poll_of_quiet halive harr hdue]
  exact if_pos ⟨htimedOut, hnow, hpoll⟩

/-- Such a client is polled until its next PINGREQ is due. -/
theorem run_of_wait {u : Nat} (rounds : Nat) (htimedOut : s.timedOut = false)
    (harr : s.arrived = []) (hnow : s.now ≤ u) (hpoll : s.now ≤ s.lastPoll + ms 100)
    (hdue : u ≤ s.lastSentPacket + ms keepAlive)
    (halive : u ≤ s.lastReceivedPacket + receiveTimeout keepAlive)
    (hrounds : u ≤ s.lastPoll + rounds * ms 100) :
    ∃ es, Run (Observed (Steps keepAlive) noteWritten) (s, written) es
      ({ s with now := u, lastPoll := u }, written) := by
  induction rounds generalizing s with
  | zero =>
      have hnear : u ≤ s.lastPoll + ms 100 := by omega
      exact ⟨_, .snoc .nil (observed_of_quiet htimedOut harr hnow hnear hdue halive)⟩
  | succ rounds ih =>
      by_cases hnear : u ≤ s.lastPoll + ms 100
      · exact ⟨_, .snoc .nil (observed_of_quiet htimedOut harr hnow hnear hdue halive)⟩
      · rw [Nat.add_mul, Nat.one_mul] at hrounds
        have hdue' : s.lastPoll + ms 100 ≤ s.lastSentPacket + ms keepAlive := by omega
        have halive' : s.lastPoll + ms 100 ≤ s.lastReceivedPacket + receiveTimeout keepAlive := by
          omega
        have hfirst : Observed (Steps keepAlive) noteWritten (s, written) _ (_, written) :=
          observed_of_quiet htimedOut harr hpoll (Nat.le_refl _) hdue' halive'
        obtain ⟨es, hrun⟩ := ih (s := { s with
            now := s.lastPoll + ms 100, lastPoll := s.lastPoll + ms 100 })
          htimedOut harr (by simp only; omega) (by simp only; omega) hdue halive
          (by simp only; omega)
        exact ⟨_, Run.cons hfirst hrun⟩

/-- The poll that finds the PINGREQ due. -/
theorem observed_of_due (htimedOut : s.timedOut = false) (harr : s.arrived = [])
    (hnow : s.now ≤ t) (hpoll : t ≤ s.lastPoll + ms 100)
    (hdue : s.lastSentPacket + ms keepAlive < t)
    (halive : t ≤ s.lastReceivedPacket + receiveTimeout keepAlive) :
    ∃ s', Observed (Steps keepAlive) noteWritten (s, written) (.poll t) (s', written ++ [t]) ∧
      s'.timedOut = false := by
  have hpoll' : s.poll keepAlive t =
      { s with now := t, lastPoll := t, lastSentPacket := t, arrived := s.arrived ++ [2] } := by
    rw [poll_of_idle halive harr, keepAliveTimer, if_pos hdue]
    rfl
  have hsent : (s.poll keepAlive t).lastSentPacket = t := by rw [hpoll']
  refine ⟨s.poll keepAlive t, ⟨if_pos ⟨htimedOut, hnow, hpoll⟩, ?_⟩, ?_⟩
  · show written ++ [t] = s.noteWritten (.poll t) (s.poll keepAlive t) written
    rw [noteWritten, if_neg (by omega)]
  · rw [hpoll']
    exact htimedOut

/-- A client with nothing to send is silent for the interval and the time between two
polls. -/
theorem silent_run (hK : 1000 ≤ keepAlive) :
    ∃ es s, Run (Observed (Steps keepAlive) noteWritten) (start 0, [0]) es
        (s, [0, ms keepAlive + ms 100]) ∧ s.timedOut = false := by
  have hms := ms_le_receiveTimeout hK
  have hrounds : ms keepAlive ≤ (start 0).lastPoll + keepAlive * ms 100 := by
    simp only [start, ms]
    omega
  have hdue : ms keepAlive ≤ (start 0).lastSentPacket + ms keepAlive := Nat.le_add_left _ _
  have halive : ms keepAlive + ms 100 ≤
      (start 0).lastReceivedPacket + receiveTimeout keepAlive := by
    have hpoll : ms keepAlive + ms 100 ≤ ms keepAlive + ms 300 :=
      Nat.add_le_add_left (by decide) _
    exact hpoll.trans (hms.trans (Nat.le_add_left _ _))
  obtain ⟨es, hrun⟩ : ∃ es, Run (Observed (Steps keepAlive) noteWritten) (start 0, [0]) es
      ({ start 0 with now := ms keepAlive, lastPoll := ms keepAlive }, [0]) :=
    run_of_wait keepAlive rfl rfl (Nat.zero_le _) (Nat.zero_le _) hdue (by omega) hrounds
  -- the next poll comes 100 ms later, and sends the PINGREQ
  have hlate : (start 0).lastSentPacket + ms keepAlive < ms keepAlive + ms 100 := by
    rw [start, Nat.zero_add]
    exact Nat.lt_add_of_pos_right (by decide)
  obtain ⟨s, hping, hup⟩ : ∃ s, Observed (Steps keepAlive) noteWritten
      ({ start 0 with now := ms keepAlive, lastPoll := ms keepAlive }, [0])
      (.poll (ms keepAlive + ms 100)) (s, [0] ++ [ms keepAlive + ms 100]) ∧ s.timedOut = false :=
    observed_of_due rfl rfl (Nat.le_add_right _ _) (Nat.le_refl _) hlate halive
  exact ⟨_, s, .snoc hrun hping, hup⟩

/-! ## the broker -/

/-- **Keep-alive**: for a connection that stays up, the times between two packets of
the client stay within one and a half times the keep-alive of its CONNECT if and only
if the interval and the 100 ms of a poll do. -/
theorem keep_alive_honoured_iff (keepAlive : Nat) (info : ConnectInfo) :
    ∃ seconds, advertisedKeepAlive (Draft.connect info).body = some seconds ∧
      ((∀ t₀ es s written,
          Run (Observed (Steps keepAlive) noteWritten) (start t₀, [t₀]) es (s, written) →
          s.timedOut = false → Spaced (brokerTimeout seconds) written) ↔
        ms keepAlive + ms 100 ≤ brokerTimeout seconds) := by
  refine ⟨30, advertisedKeepAlive_connect info, fun hall => ?_,
    fun hle t₀ es s written hrun _ => ?_⟩
  · by_contra hlong
    have hK : 1000 ≤ keepAlive := by
      unfold brokerTimeout ms at hlong
      omega
    obtain ⟨es, s, hrun, hup⟩ := silent_run hK
    have hspaced := hall 0 es s _ hrun hup
    have hgap := (List.isChain_cons_cons.mp hspaced).1
    omega
  · have hregular := hrun.invariant (start_regular keepAlive t₀) fun _ _ _ => regular_step
    exact hregular.spaced.imp fun a b hab => by omega

/-- With an interval of a minute, a client is silent for 60.1 seconds after a CONNECT
that announces 30. -/
theorem silent_for_a_minute :
    ∃ es s, Run (Observed (Steps 60000) noteWritten) (start 0, [0]) es
        (s, [0, ms 60000 + ms 100]) ∧ s.timedOut = false ∧
      advertisedKeepAlive (Draft.connect { clientId := [97] }).body = some 30 ∧
      ¬ Spaced (brokerTimeout 30) [0, ms 60000 + ms 100] := by
  obtain ⟨es, s, hrun, hup⟩ := silent_run (by decide : 1000 ≤ 60000)
  refine ⟨es, s, hrun, hup, advertisedKeepAlive_connect _, fun hspaced => ?_⟩
  exact absurd (List.isChain_cons_cons.mp hspaced).1 (by decide)

end Timers

end TrueMqtt
