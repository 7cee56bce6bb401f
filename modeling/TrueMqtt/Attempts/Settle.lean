import TrueMqtt.Attempts
import TrueMqtt.Lib.Within

/-!
# TrueMqtt.Attempts.Settle

CONNECTING comes to an end (`connectToAny`, `tryNextAddress` of `Connection.cpp`).

A call of `connectToAny` that is neither the last one nor spoiled by `select` makes
progress of one of three kinds: it takes the next address, it finds a pending attempt
in error state and closes it, or it spends 100 ms of the time that the last attempt
still has.  An attempt is left alone for 250 ms, the last address for
`m_connection_timeout`.  So the calls are bounded by the number of addresses and the
timeout (`settles`).  What is assumed of the environment is `Timely`.  If `select`
fails every time, the read thread calls it forever; such calls are not counted.
-/

namespace TrueMqtt

/-- `write_fds`, if `select` reports any socket. -/
def Polled.writable? : Polled → Option (List Nat)
  | ready writable _ => some writable
  | error | idle => none

namespace Attempts

variable {A : Type} {a a' : Attempts A} {timeout now : Nat} {t : Turn}

/-! ## the clock of a call -/

/-- What `select` and the clock promise: the clock does not go back, `select` returns
nothing only after its 100 ms, and something only if a socket is writable. -/
structure Timely (now : Nat) (t : Turn) (a : Attempts A) : Prop where
  idleAt : now ≤ t.idleAt
  attemptAt : t.idleAt ≤ t.attemptAt
  timeoutAt : t.attemptAt ≤ t.timeoutAt
  error : t.polled = .error → a.sockets ≠ []
  idle : t.polled = .idle → a.sockets ≠ [] → now + ms 100 ≤ t.idleAt
  ready : ∀ writable ∈ t.polled.writable?, ∃ fd ∈ a.sockets, fd ∈ writable

instance (now : Nat) (t : Turn) (a : Attempts A) : Decidable (a.Timely now t) :=
  decidable_of_iff
    (now ≤ t.idleAt ∧ t.idleAt ≤ t.attemptAt ∧ t.attemptAt ≤ t.timeoutAt ∧
      (t.polled = .error → a.sockets ≠ []) ∧
      (t.polled = .idle → a.sockets ≠ [] → now + ms 100 ≤ t.idleAt) ∧
      ∀ writable ∈ t.polled.writable?, ∃ fd ∈ a.sockets, fd ∈ writable)
    ⟨fun h => ⟨h.1, h.2.1, h.2.2.1, h.2.2.2.1, h.2.2.2.2.1, h.2.2.2.2.2⟩,
      fun h => ⟨h.1, h.2, h.3, h.4, h.5, h.6⟩⟩

/-- A call, from `now` on; it is over at its last reading of the clock. -/
def Goes (timeout : Nat) (x : (Attempts A × Attempt) × Nat) (t : Turn)
    (x' : (Attempts A × Attempt) × Nat) : Prop :=
  x.1.1.Timely x.2 t ∧ Turns timeout x.1 t x'.1 ∧ x'.2 = t.timeoutAt

/-- The calls that can only wait, from an attempt until the next address or the
timeout. -/
def patience (timeout : Nat) : Nat := max 2 ((timeout - 1) / 100)

/-- Until when the last attempt is waited for. -/
def deadline (timeout : Nat) (a : Attempts A) : Nat :=
  a.lastAttempt +
    if a.addressCurrent < a.addresses.length then ms 250 else max (ms 250) (ms timeout)

/-- The calls that can still only wait for the last attempt. -/
def waits (timeout now : Nat) (a : Attempts A) : Nat := (a.deadline timeout - now - 1) / ms 100

/-- The calls left while the result is pending. -/
def callsLeft (timeout now : Nat) (a : Attempts A) : Nat :=
  (a.addresses.length - a.addressCurrent) * (patience timeout + 2) + a.sockets.length +
    a.waits timeout now + 1

/-! ## what a call leaves -/

/-- A call with a pending result spends time, an address or a socket, unless `select`
fails. -/
theorem pending_cases (h : a.connectToAny timeout t = (a', .pending)) :
    (a' = a ∧ a.sockets ≠ [] ∧ (t.polled = .error ∨ t.polled = .idle ∧
      (t.idleAt < a.lastAttempt + ms 250 ∨
        a.addresses.length ≤ a.addressCurrent ∧ t.timeoutAt < a.lastAttempt + ms timeout))) ∨
    (∃ hlt, a' = a.tried t hlt) ∨
    ∃ writable failed, t.polled = .ready writable failed ∧
      a' = a.swept writable failed ∧ a'.socketConnected = none := by
  by_cases hlt : a.addressCurrent < a.addresses.length
  · have hnext : a.tryNextAddress t = (a.tried t hlt, true) := dif_pos hlt
    simp only [connectToAny, hnext, if_true] at h
    repeat' split at h
    all_goals cases h
    · exact .inr (.inl ⟨hlt, rfl⟩)
    · exact .inl ⟨rfl, ‹_›, .inl ‹_›⟩
    · exact .inl ⟨rfl, ‹_›, .inr ⟨‹_›, .inl ‹_›⟩⟩
    · exact .inr (.inl ⟨hlt, rfl⟩)
    · exact .inr (.inr ⟨_, _, ‹_›, rfl, ‹_›⟩)
  · have hnext : a.tryNextAddress t = (a, false) := dif_neg hlt
    have hle : a.addresses.length ≤ a.addressCurrent := Nat.le_of_not_lt hlt
    simp only [connectToAny, hnext, Bool.false_eq_true, if_false] at h
    repeat' split at h
    all_goals cases h
    · exact .inl ⟨rfl, ‹_›, .inl ‹_›⟩
    · exact .inl ⟨rfl, ‹_›, .inr ⟨‹_›, .inl ‹_›⟩⟩
    · exact .inl ⟨rfl, ‹_›, .inr ⟨‹_›, .inr ⟨hle, ‹_›⟩⟩⟩
    · exact .inr (.inr ⟨_, _, ‹_›, rfl, ‹_›⟩)

/-- An attempt takes one address, and leaves at most one socket more. -/
theorem tried_spec (hlt : a.addressCurrent < a.addresses.length) :
    (a.tried t hlt).addresses = a.addresses ∧
      (a.tried t hlt).addressCurrent = a.addressCurrent + 1 ∧
      (a.tried t hlt).lastAttempt = t.attemptAt ∧
      (a.tried t hlt).sockets.length ≤ a.sockets.length + 1 := by
  unfold tried connect
  cases t.dial with
  | noSocket => exact ⟨rfl, rfl, rfl, Nat.le_succ _⟩
  | refused fd => exact ⟨rfl, rfl, rfl, Nat.le_succ _⟩
  | pending fd => exact ⟨rfl, rfl, rfl, by simp⟩

/-- The loop over `m_sockets` leaves the addresses and the clock alone. -/
theorem deadline_sweep (writable failed fds : List Nat) (a : Attempts A) :
    (a.sweep writable failed fds).addresses = a.addresses ∧
      (a.sweep writable failed fds).addressCurrent = a.addressCurrent ∧
      (a.sweep writable failed fds).lastAttempt = a.lastAttempt := by
  induction fds generalizing a with
  | nil => simp [sweep]
  | cons fd fds ih =>
      have hone : (a.sweepOne writable failed fd).addresses = a.addresses ∧
          (a.sweepOne writable failed fd).addressCurrent = a.addressCurrent ∧
          (a.sweepOne writable failed fd).lastAttempt = a.lastAttempt := by
        unfold sweepOne
        split <;> simp [readAddress]
      simpa [sweep, hone] using ih (a.sweepOne writable failed fd)

/-- When `select` reports a socket and none has connected, an attempt has failed. -/
theorem length_swept_lt {writable failed : List Nat}
    (hready : ∃ fd ∈ a.sockets, fd ∈ writable)
    (hnone : (a.swept writable failed).socketConnected = none) :
    (a.swept writable failed).sockets.length < a.sockets.length := by
  obtain ⟨fd, hfd, hw⟩ := hready
  rw [socketConnected_swept, List.find?_eq_none] at hnone
  have hfailed : fd ∈ failed := by
    have hnot := hnone fd hfd
    simp only [decide_eq_true_eq, not_and] at hnot
    by_contra hf
    exact hnot hf hw
  rw [swept, sockets_sweep, List.nil_append]
  refine List.length_filter_lt_length_iff_exists.mpr ⟨fd, hfd, ?_⟩
  simpa using hfailed

/-! ## the calls left -/

theorem waits_le_patience (timeout : Nat) (h : a.lastAttempt ≤ now) :
    a.waits timeout now ≤ patience timeout := by
  have hbound : (max (ms 250) (ms timeout) - 1) / ms 100 ≤ patience timeout := by
    simp only [ms, patience]
    omega
  have hdeadline : a.deadline timeout ≤ now + max (ms 250) (ms timeout) := by
    unfold deadline
    split <;> omega
  have hsub : a.deadline timeout - now - 1 ≤ max (ms 250) (ms timeout) - 1 := by omega
  unfold waits
  exact (Nat.div_le_div_right hsub).trans hbound

/-- Waiting uses up what an attempt still has. -/
theorem waits_lt {later : Nat} (hlater : now + ms 100 ≤ later)
    (hdeadline : now + ms 100 < a.deadline timeout) :
    a.waits timeout later < a.waits timeout now := by
  have hpos : 0 < ms 100 := by decide
  have hsub : a.deadline timeout - later - 1 + ms 100 ≤ a.deadline timeout - now - 1 := by omega
  unfold waits
  calc
    (a.deadline timeout - later - 1) / ms 100
      < (a.deadline timeout - later - 1 + ms 100) / ms 100 := by
        rw [Nat.add_div_right _ hpos]
        exact Nat.lt_succ_self _
    _ ≤ (a.deadline timeout - now - 1) / ms 100 := Nat.div_le_div_right hsub

theorem waits_mono (timeout : Nat) {later : Nat} (hlater : now ≤ later) :
    a.waits timeout later ≤ a.waits timeout now :=
  Nat.div_le_div_right (by omega)

/-- A call with a pending result uses up one of those left, unless `select` fails. -/
theorem callsLeft_lt (hclock : a.lastAttempt ≤ now) (ht : a.Timely now t)
    (h : a.connectToAny timeout t = (a', .pending)) :
    a'.lastAttempt ≤ t.timeoutAt ∧
      a'.callsLeft timeout t.timeoutAt + (decide (t.polled ≠ .error)).toNat ≤
        a.callsLeft timeout now := by
  have hlater : now ≤ t.timeoutAt := ht.idleAt.trans (ht.attemptAt.trans ht.timeoutAt)
  obtain ⟨rfl, hs, hwait⟩ | ⟨hlt, rfl⟩ | ⟨writable, failed, hp, rfl, hnone⟩ := pending_cases h
  · refine ⟨hclock.trans hlater, ?_⟩
    obtain herror | ⟨hidle, hearly⟩ := hwait
    · have hmono := waits_mono (a := a') timeout hlater
      simp only [callsLeft, herror, ne_eq, not_true_eq_false, decide_false, Bool.toNat_false]
      omega
    · -- `select` has waited its 100 ms, and the deadline is still ahead
      have hspent := ht.idle hidle hs
      have hahead : now + ms 100 < a'.deadline timeout := by
        unfold deadline
        obtain hearly | ⟨hle, hearly⟩ := hearly
        · split <;> omega
        · rw [if_neg (Nat.not_lt.mpr hle)]
          have := ht.attemptAt.trans ht.timeoutAt
          omega
      have hlt := waits_lt (hspent.trans (ht.attemptAt.trans ht.timeoutAt)) hahead
      have hone := Bool.toNat_le (decide (t.polled ≠ .error))
      unfold callsLeft
      omega
  · -- the next address: all that is left of it is new
    obtain ⟨haddresses, hcurrent, hlast, hsockets⟩ := tried_spec (t := t) hlt
    have hclock' : (a.tried t hlt).lastAttempt ≤ t.timeoutAt := by
      rw [hlast]
      exact ht.timeoutAt
    refine ⟨hclock', ?_⟩
    have hwaits := waits_le_patience timeout hclock'
    have hone := Bool.toNat_le (decide (t.polled ≠ .error))
    obtain ⟨rest, hrest⟩ : ∃ rest, a.addresses.length - a.addressCurrent = rest + 1 :=
      ⟨a.addresses.length - a.addressCurrent - 1, by omega⟩
    have hrest' : a.addresses.length - (a.addressCurrent + 1) = rest := by omega
    unfold callsLeft
    rw [haddresses, hcurrent, hrest, hrest', Nat.succ_mul]
    omega
  · have hclosed := length_swept_lt (ht.ready writable (by rw [hp]; rfl)) hnone
    obtain ⟨haddresses, hcurrent, hlast⟩ :=
      deadline_sweep writable failed a.sockets { a with sockets := [], socketConnected := none }
    refine ⟨?_, ?_⟩
    · exact hlast.le.trans (hclock.trans hlater)
    · have hmono := waits_mono (a := a) timeout hlater
      have hwaits : (a.swept writable failed).waits timeout t.timeoutAt =
          a.waits timeout t.timeoutAt := by
        unfold waits deadline swept
        rw [haddresses, hcurrent, hlast]
      have hone := Bool.toNat_le (decide (t.polled ≠ .error))
      unfold callsLeft
      rw [hwaits, show (a.swept writable failed).addresses = a.addresses from haddresses,
        show (a.swept writable failed).addressCurrent = a.addressCurrent from hcurrent]
      omega

/-! ## runs of calls -/

variable {addresses : List A} {x x' : (Attempts A × Attempt) × Nat}

/-- The calls left of a run; none once there is a result. -/
def rank (timeout : Nat) (x : (Attempts A × Attempt) × Nat) : Nat :=
  if x.1.2 = .pending then x.1.1.callsLeft timeout x.2 else 0

/-- Between two calls, or after the last. -/
structure Settling (addresses : List A) (x : (Attempts A × Attempt) × Nat) : Prop where
  waiting : x.1.2 = .pending → x.1.1.Waiting addresses ∧ x.1.1.lastAttempt ≤ x.2
  exhausted : x.1.2 = .exhausted →
    x.1.1.dialed = addresses ∧ x.1.1.sockets = [] ∧ x.1.1.handles.live = []
  established : x.1.2 = .established →
    ∃ fd, x.1.1.socket = some fd ∧ x.1.1.sockets = [] ∧ x.1.1.handles.live = [fd]

/-- A call, apart from its result. -/
theorem connectToAny_of_turns {p p' : Attempts A × Attempt} (h : Turns timeout p t p') :
    p.2 = .pending ∧ t.dial.fresh p.1.handles = true ∧
      ∃ a', p.1.connectToAny timeout t = (a', p'.2) ∧
        p'.1 = if p'.2 = .established then a'.storeSocket else a' := by
  unfold Turns turn at h
  split at h
  · next hg =>
    cases h
    exact ⟨hg.1, hg.2, _, rfl, rfl⟩
  · cases h

theorem settling_goes (hx : Settling addresses x) (h : Goes timeout x t x') :
    Settling addresses x' ∧
      rank timeout x' + (decide (t.polled ≠ .error)).toNat ≤ rank timeout x := by
  obtain ⟨ht, hturn, hnow⟩ := h
  obtain ⟨hpending, hfresh, a', hcall, hx'⟩ := connectToAny_of_turns hturn
  obtain ⟨hw, hclock⟩ := hx.waiting hpending
  have hcalled := called_of_connectToAny hcall
  have hone := Bool.toNat_le (decide (t.polled ≠ .error))
  have hrank : rank timeout x = x.1.1.callsLeft timeout x.2 := if_pos hpending
  have hpos : 1 ≤ x.1.1.callsLeft timeout x.2 := Nat.le_add_left _ _
  cases hr : x'.1.2 with
  | pending =>
      rw [hr] at hcall
      rw [hr, if_neg (by decide)] at hx'
      obtain ⟨hclock', hlt⟩ := callsLeft_lt hclock ht hcall
      have hrank' : rank timeout x' = x'.1.1.callsLeft timeout x'.2 := if_pos hr
      rw [hrank, hrank', hx', hnow]
      refine ⟨⟨fun hp => ⟨waiting_turns (fun _ => hw) hturn hp, ?_⟩, ?_, ?_⟩, hlt⟩
      · rwa [hx', hnow]
      · simp [hr]
      · simp [hr]
  | exhausted =>
      rw [hr] at hcalled
      rw [hr, if_neg (by decide)] at hx'
      have hrank' : rank timeout x' = 0 := if_neg (by simp [hr])
      refine ⟨⟨by simp [hr], fun _ => ?_, by simp [hr]⟩, by omega⟩
      rw [hx']
      exact exhausted_spec hw hfresh hcalled
  | established =>
      rw [hr] at hcalled
      rw [hr, if_pos rfl] at hx'
      have hrank' : rank timeout x' = 0 := if_neg (by simp [hr])
      obtain ⟨fd, writable, failed, -, hfd, -, -, -, -, hsockets, hlive⟩ :=
        established_spec hw hfresh hcalled
      refine ⟨⟨by simp [hr], by simp [hr], fun _ => ⟨fd, ?_⟩⟩, by omega⟩
      rw [hx']
      exact ⟨hfd, hsockets, hlive⟩

/-- `select` returns nothing, and `socket` nothing either. -/
theorem exists_goes (hp : x.1.2 = .pending) : ∃ t x', t.polled ≠ .error ∧ Goes timeout x t x' := by
  let t : Turn :=
    { idleAt := x.2 + ms 100, attemptAt := x.2 + ms 100, timeoutAt := x.2 + ms 100 }
  have hturn : (turn timeout x.1 t).isSome = true := by
    unfold turn
    rw [if_pos ⟨hp, rfl⟩]
    rfl
  obtain ⟨p', hp'⟩ := Option.isSome_iff_exists.mp hturn
  refine ⟨t, (p', t.timeoutAt), by simp [t], ?_, hp', rfl⟩
  exact
    { idleAt := Nat.le_add_right _ _
      attemptAt := Nat.le_refl _
      timeoutAt := Nat.le_refl _
      error := by simp [t]
      idle := fun _ _ => Nat.le_refl _
      ready := by simp [t, Polled.writable?] }

theorem settling_entering {lastAttempt : Nat} (h : lastAttempt ≤ now) :
    Settling addresses ((entering addresses lastAttempt, .pending), now) where
  waiting := fun _ => ⟨waiting_of_run (Run.nil (R := Turns 0)) rfl, h⟩
  exhausted := by simp
  established := by simp

/-- **CONNECTING settles.**  From entering it on, at most so many calls of
`connectToAny` go by without `select` failing, and there is always a next one until
there is a result: a connected socket in `m_socket`, the only one left open, or all
addresses attempted and nothing left open. -/
theorem settles {lastAttempt : Nat} {ts : List Turn} (hclock : lastAttempt ≤ now)
    (h : Run (Goes timeout) ((entering addresses lastAttempt, .pending), now) ts x) :
    ts.countP (fun t => t.polled ≠ .error) ≤
        addresses.length * (patience timeout + 2) + patience timeout + 1 ∧
      (x.1.2 = .pending → ∃ t x', t.polled ≠ .error ∧ Goes timeout x t x') ∧
      (x.1.2 = .established →
        ∃ fd, x.1.1.socket = some fd ∧ x.1.1.sockets = [] ∧ x.1.1.handles.live = [fd]) ∧
      (x.1.2 = .exhausted →
        x.1.1.dialed = addresses ∧ x.1.1.sockets = [] ∧ x.1.1.handles.live = []) := by
  obtain ⟨hx, hcount⟩ := Run.countP_le_rank (fun t : Turn => decide (t.polled ≠ .error))
    (rank timeout) (fun _ _ _ => settling_goes) (settling_entering hclock) h
  have hwaits : (entering addresses lastAttempt).waits timeout now ≤ patience timeout :=
    waits_le_patience timeout hclock
  have hstart : rank timeout ((entering addresses lastAttempt, .pending), now) =
      addresses.length * (patience timeout + 2) +
        (entering addresses lastAttempt).waits timeout now + 1 := rfl
  exact ⟨by omega, exists_goes, hx.established, hx.exhausted⟩

/-- A call, by evaluation. -/
def go (timeout : Nat) (x : (Attempts A × Attempt) × Nat) (t : Turn) :
    Option ((Attempts A × Attempt) × Nat) :=
  if x.1.1.Timely x.2 t then (turn timeout x.1 t).map (·, t.timeoutAt) else none

theorem goes_of_go (h : go timeout x t = some x') : Goes timeout x t x' := by
  unfold go at h
  split at h
  · next ht =>
    obtain ⟨p', hp', rfl⟩ := Option.map_eq_some_iff.mp h
    exact ⟨ht, hp', rfl⟩
  · cases h

theorem run_of_go (timeout : Nat) (x : (Attempts A × Attempt) × Nat) (ts : List Turn)
    (test : (Attempts A × Attempt) × Nat → Bool)
    (h : (exec (go timeout) x ts).any test = true) :
    ∃ x', Run (Goes timeout) x ts x' ∧ test x' = true :=
  Run.of_exec (fun {_ _ _} h => goes_of_go h) h

/-- A call at one reading of the clock. -/
def atOnce (now : Nat) (polled : Polled) (dial : Dial) : Turn :=
  { polled := polled, dial := dial, idleAt := ms now, attemptAt := ms now, timeoutAt := ms now }

/-- Of two addresses one fails, while `select` does once, and one times out. -/
def failAndTimeOut : List Turn :=
  [atOnce 0 .idle (.pending 3), atOnce 0 .error .noSocket, atOnce 100 .idle .noSocket,
    atOnce 120 (.ready [3] [3]) .noSocket, atOnce 120 .idle (.pending 4),
    atOnce 220 .idle .noSocket, atOnce 320 .idle .noSocket, atOnce 420 .idle .noSocket]

theorem settles_failAndTimeOut : ∃ x : (Attempts Nat × Attempt) × Nat,
    x.1.2 = .exhausted ∧ x.1.1.dialed = [6, 4] ∧ x.1.1.handles.live = [] ∧
      failAndTimeOut.countP (fun t => t.polled ≠ .error) ≤ 11 := by
  obtain ⟨x, hrun, htest⟩ := run_of_go 300 ((entering [6, 4] 0, .pending), 0) failAndTimeOut
    (fun x => x.1.2 = .exhausted) (by decide +kernel)
  obtain ⟨hcount, -, -, hexhausted⟩ := settles (Nat.le_refl 0) hrun
  have hr := of_decide_eq_true htest
  obtain ⟨hdialed, -, hlive⟩ := hexhausted hr
  exact ⟨x, hr, hdialed, hlive, hcount⟩

end Attempts

end TrueMqtt
