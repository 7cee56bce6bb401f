import TrueMqtt.Lib.CappedDoubling
import TrueMqtt.System.Greeting

/-!
# TrueMqtt.System.Backoff

The sleeps between two attempts to connect.  `m_backoff` is doubled after a sleep,
up to `m_connection_backoff_max`, and set to `m_connection_backoff` when a TCP
connection is established, before the broker has accepted anything.

So the n-th sleep since the last accepted CONNACK is `b * 2 ^ (n - 1)`, capped, as
long as the sleeps since then and those since the last TCP connection agree
(`backoff_law`).  The first of them is not capped.
-/

namespace TrueMqtt

open CappedDoubling

/-- The sleeps in BACKOFF, counted by an observer. -/
structure Sleeps where
  /-- since the connection was made or has processed an accepting CONNACK -/
  count : Nat := 0
  /-- since the connection was made or has established a TCP connection, less those
  cut off by STOP -/
  doublings : Nat := 0
  /-- the number and the duration of each -/
  durations : List (Nat × Nat) := []

namespace Sleeps

/-- A step of the read thread is observed. -/
def read (c : Connection) (g : Sleeps) : Sleeps :=
  match c.readPc with
  | .sleep =>
      { count := g.count + 1
        doublings := if c.state = .stop then g.doublings else g.doublings + 1
        durations := g.durations ++ [(g.count + 1, c.backoff)] }
  | .authCheck => if c.state = .stop then { g with doublings := 0 } else g
  | .sendConnect => { g with doublings := 0 }
  | .connackStore => { g with count := 0 }
  | _ => g

/-- A connection is made. -/
def restart (g : Sleeps) : Sleeps := { g with count := 0, doublings := 0 }

/-- The n-th sleep lasts `b * 2 ^ (n - 1)`, but no longer than `m`. -/
def Lawful (b m : Nat) (g : Sleeps) : Prop :=
  ∀ p ∈ g.durations, p.2 = min (b * 2 ^ (p.1 - 1)) m

/-- The sleeps since the last CONNACK and those since the last TCP connection lead
to the same duration. -/
def Fits (b m : Nat) (g : Sleeps) : Prop :=
  (g.doublings = 0 → b ≤ m) ∧
    (g.doublings = g.count ∨ b = 0 ∨ m ≤ b * 2 ^ min g.doublings g.count)

instance (b m : Nat) (g : Sleeps) : Decidable (Fits b m g) := by
  unfold Fits
  infer_instance

end Sleeps

/-! ## the read thread -/

namespace Connection

variable {cfg : Config} {c c' : Connection} {i : ReadInput}

@[simp] theorem backoff_notify (c : Connection) : c.notify.backoff = c.backoff := by
  unfold notify; split <;> rfl

@[simp] theorem backoff_push (o : Outgoing) (c : Connection) : (c.push o).backoff = c.backoff :=
  backoff_notify _

@[simp] theorem backoff_pushFront (o : Outgoing) (c : Connection) :
    (c.pushFront o).backoff = c.backoff :=
  backoff_notify _

/-- **Read step**: `m_backoff` is what the doublings counted make of it. -/
theorem backoff_readStep {g : Sleeps}
    (h : c.backoff = doubled cfg.connectionBackoff cfg.connectionBackoffMax g.doublings)
    (hr : c.readStep cfg i = .ok c') :
    c'.backoff
      = doubled cfg.connectionBackoff cfg.connectionBackoffMax (g.read c).doublings := by
  cases readBranch_of_readStep hr with
  | sleep hpc hst => simp [Sleeps.read, hpc, hst, h, doubled_succ]
  | sleepStop hpc hst => simp [Sleeps.read, hpc, hst, h]
  | authCheck hpc hst => simp [Sleeps.read, hpc, hst, h]
  | authStop hpc hst => simp [Sleeps.read, hpc, hst]
  | sendConnect hpc => simp [Sleeps.read, hpc]
  | _ hpc => simp [Sleeps.read, hpc, h]

theorem backoff_writeStep {pointer : Bool} {i : WriteInput}
    (hw : c.writeStep pointer i = .ok c') : c'.backoff = c.backoff := by
  cases writeBranch_of_writeStep hw <;> rfl

end Connection

namespace System

variable {C : Type} {s s' : System C} {a : Action C} {c : Connection}

/-! ## observation -/

/-- What an observer of the sleeps makes of a step. -/
def noteSleep (s : System C) (a : Action C) (s' : System C) (g : Sleeps) : Sleeps :=
  match a, s.connection with
  | .read _, some c => g.read c
  | .read _, none => g
  | _, _ => if s.holder ≠ .assign ∧ s'.holder = .assign then g.restart else g

/-- A sleep that is taken finds `m_backoff` where the law wants it. -/
def SleepFits (b m : Nat) (p : System C × Sleeps) : Action C → Prop
  | .read _ => match p.1.connection with
      | some c => c.readPc = .sleep → p.2.Fits b m
      | none => True
  | _ => True

instance (b m : Nat) (p : System C × Sleeps) (a : Action C) : Decidable (SleepFits b m p a) := by
  unfold SleepFits
  induction a using Action.casesOn with
  | read i => induction p.1.connection using Option.casesOn <;> infer_instance
  | _ => infer_instance

/-- The invariant of the observed runs: the settings stay, and the doublings counted
give `m_backoff`. -/
structure Doubled (b m : Nat) (p : System C × Sleeps) : Prop where
  initial : p.1.config.connectionBackoff = b
  max : p.1.config.connectionBackoffMax = m
  current : ∀ c, p.1.connection = some c → c.backoff = doubled b m p.2.doublings

/-! ## what a step leaves alone -/

theorem config_after {sent : Bool} {k : After} (h : s.after c sent k = .ok s') :
    s'.config = s.config := by
  obtain hon | ⟨-, -, rfl⟩ := goesOn_after h
  · exact hon.config
  · exact config_disconnect true _

theorem config_move (hm : Move s a s') (ha : ∀ t m r, a ≠ .setLastWill t m r) :
    s'.config = s.config := by
  cases hm with
  | setLastWill => exact absurd rfl (ha _ _ _)
  | disconnect hfree hst => exact config_disconnect false _
  | refused hc hh hsize h => exact config_after h
  | pushed hc hh hqf h => exact config_after h
  | connected hc hfree hpc => exact (goesOn_resubscribe _ _ _).config
  | _ => rfl

/-- The settings of the backoff are those of the constructor. -/
theorem backoff_config (h : s.Steps a s') :
    s'.config.connectionBackoff = s.config.connectionBackoff ∧
      s'.config.connectionBackoffMax = s.config.connectionBackoffMax := by
  by_cases ha : ∀ t m r, a ≠ .setLastWill t m r
  · rw [config_move (move_of_step h) ha]
    exact ⟨rfl, rfl⟩
  · push Not at ha
    obtain ⟨t, m, r, rfl⟩ := ha
    rw [Steps, step, setting] at h
    split at h
    all_goals
      cases h
      exact ⟨rfl, rfl⟩

/-- A step of another thread makes a connection, or leaves `m_backoff` alone. -/
inductive Spared (s s' : System C) : Prop
  | made (hh : s.holder ≠ .assign) (hh' : s'.holder = .assign)
      (hc : ∀ c', s'.connection = some c' → c'.backoff = s.config.connectionBackoff)
  | kept (hh : s'.holder = .assign → s.holder = .assign)
      (hc : ∀ c', s'.connection = some c' → ∃ c, s.connection = some c ∧ c'.backoff = c.backoff)

theorem Spared.of_same (hh : s'.holder = .assign → s.holder = .assign)
    (hc : s'.connection = s.connection) : Spared s s' :=
  .kept hh fun c' hc' => ⟨c', by rw [← hc, hc'], rfl⟩

theorem Spared.of_eq {c' : Connection} (hh : s'.holder ≠ .assign) (hc : s.connection = some c)
    (hc' : s'.connection = some c') (hb : c'.backoff = c.backoff) : Spared s s' :=
  .kept (fun h => absurd h hh) fun d hd => ⟨c, hc, by cases hc'.symm.trans hd; exact hb⟩

theorem spared_move (hm : Move s a s') (ha : ∀ i, a ≠ .read i) : Spared s s' := by
  cases hm with
  | idle => exact .of_same id rfl
  | setPublishQueue hst => exact .of_same id rfl
  | setSendQueue hst => exact .of_same id rfl
  | setLastWill => exact .of_same id rfl
  | connect hfree hst =>
      refine .made (by simp [hfree]) rfl fun c' hc' => ?_
      cases hc'
      rfl
  | disconnect hfree hst =>
      exact .of_same (fun h => absurd h (disconnect_not_assign _)) (connection_disconnect _)
  | toPublishQueue hfree hst hq => exact .of_same id rfl
  | publish hfree hst => exact .of_same (by simp [sendPublish]) rfl
  | addSubscription hfree hst => exact .of_same id rfl
  | subscribe hfree hst => exact .of_same (by simp [sendSubscribe]) rfl
  | removeSubscription hfree hst hmem hi => exact .of_same id rfl
  | unsubscribe hfree hst hmem hi => exact .of_same (by simp [sendUnsubscribe]) rfl
  | room hc hh hsize => exact .of_same (by simp) rfl
  | refused hc hh hsize h =>
      obtain hc' | ⟨-, hc'⟩ := connection_after h
      all_goals exact .of_eq (holder_after h) hc hc' rfl
  | pushed hc hh hqf h =>
      obtain hc' | ⟨-, hc'⟩ := connection_after h
      all_goals exact .of_eq (holder_after h) hc hc' (Connection.backoff_push _ _)
  | stop hc hh => exact .of_eq (by simp) hc rfl rfl
  | notify hc hh => exact .of_eq (by simp) hc rfl (Connection.backoff_notify _)
  | joinRead hc hh hpc => exact .of_same (by simp) rfl
  | destroyed hc hh hpc => exact .kept (by simp) fun c' hc' => by cases hc'
  | replaced hc hh hpc =>
      refine .made (by simp [hh]) rfl fun c' hc' => ?_
      cases hc'
      rfl
  | assign hh hc => exact .of_same (by simp) rfl
  | connected hc hfree hpc =>
      obtain hc' | hc' := connection_resubscribe _ _ _
      all_goals exact .of_eq (goesOn_resubscribe _ _ _).not_assign hc hc' rfl
  | lost hc hfree hpc => exact .of_eq (by simp [setState, hfree]) hc rfl rfl
  | message hc hfree hpc => exact .of_eq (by simp [hfree]) hc rfl rfl
  | read hc hr => exact absurd rfl (ha _)
  | write hc hw =>
      refine .kept id fun c' hc' => ⟨_, hc, ?_⟩
      cases hc'
      exact Connection.backoff_writeStep hw

/-! ## runs -/

variable {b m : Nat} {g : Sleeps}

theorem noteSleep_of_ne (ha : ∀ i, a ≠ .read i) :
    s.noteSleep a s' g =
      if s.holder ≠ .assign ∧ s'.holder = .assign then g.restart else g := by
  cases a with
  | read i => exact absurd rfl (ha i)
  | _ => rfl

theorem noteSleep_read {i : ReadInput} (hc : s.connection = some c) :
    s.noteSleep (.read i) s' g = g.read c := by
  simp only [noteSleep, hc]

/-- **Step lemma**: the doublings counted give `m_backoff`. -/
theorem doubled_step {p p' : System C × Sleeps} (hd : Doubled b m p)
    (h : Observed Steps noteSleep p a p') : Doubled b m p' := by
  obtain ⟨s, g⟩ := p
  obtain ⟨s', g'⟩ := p'
  obtain ⟨hstep, hnote : g' = s.noteSleep a s' g⟩ := h
  obtain ⟨hinitial, hmax, hcurrent⟩ := hd
  obtain ⟨hi, hm⟩ := backoff_config hstep
  refine ⟨hi.trans hinitial, hm.trans hmax, ?_⟩
  by_cases ha : ∀ i, a ≠ .read i
  · rw [noteSleep_of_ne ha] at hnote
    cases spared_move (move_of_step hstep) ha with
    | made hh hh' hc =>
        rw [if_pos ⟨hh, hh'⟩] at hnote
        intro c' hc'
        subst hnote
        simp only [Sleeps.restart, doubled_zero]
        exact (hc c' hc').trans hinitial
    | kept hh hc =>
        rw [if_neg fun h => h.1 (hh h.2)] at hnote
        intro c' hc'
        obtain ⟨c, hcs, hb⟩ := hc c' hc'
        subst hnote
        exact hb.trans (hcurrent c hcs)
  · push Not at ha
    obtain ⟨i, rfl⟩ := ha
    obtain ⟨c, c', hc, hr, rfl⟩ := readStep_of_steps hstep
    rw [noteSleep_read hc] at hnote
    have hbefore := hcurrent c hc
    rw [← hinitial, ← hmax] at hbefore ⊢
    subst hnote
    intro d hd
    cases hd
    exact Connection.backoff_readStep hbefore hr

/-- A sleep that is taken as the law wants it is noted as such. -/
theorem lawful_step {p p' : System C × Sleeps} (hd : Doubled b m p) (hl : p.2.Lawful b m)
    (hfits : SleepFits b m p a) (h : Observed Steps noteSleep p a p') : p'.2.Lawful b m := by
  obtain ⟨s, g⟩ := p
  obtain ⟨s', g'⟩ := p'
  obtain ⟨hstep, hnote : g' = s.noteSleep a s' g⟩ := h
  subst hnote
  by_cases ha : ∀ i, a ≠ .read i
  · rw [noteSleep_of_ne ha]
    split
    · exact hl
    · exact hl
  · push Not at ha
    obtain ⟨i, rfl⟩ := ha
    obtain ⟨c, c', hc : s.connection = some c, -, -⟩ := readStep_of_steps hstep
    simp only [SleepFits, hc] at hfits
    rw [noteSleep_read hc]
    unfold Sleeps.read
    split
    · next hpc =>
      have hlaw : c.backoff = min (b * 2 ^ g.count) m :=
        (hd.current c hc).trans (doubled_eq_capped_iff.mpr (hfits hpc))
      intro p hp
      obtain hp | hp := List.mem_append.mp hp
      · exact hl p hp
      · cases List.mem_singleton.mp hp
        exact hlaw
    · split
      · exact hl
      · exact hl
    · exact hl
    · exact hl
    · exact hl

theorem doubled_initial (h₀ : Initial s) :
    Doubled s.config.connectionBackoff s.config.connectionBackoffMax (s, {}) := by
  obtain ⟨config, rfl⟩ := h₀
  exact ⟨rfl, rfl, fun c hc => by cases hc⟩

/-- **The law of the sleeps**: in a run whose sleeps find the doublings in step with
the failures since the last accepted CONNACK, the n-th of them lasts
`b * 2 ^ (n - 1)`, capped.  In every run, a sleep that does not find them so lasts
otherwise. -/
theorem backoff_law {s₀ : System C} (h₀ : Initial s₀) (hb : s₀.config.connectionBackoff = b)
    (hm : s₀.config.connectionBackoffMax = m) :
    (∀ {as : List (Action C)} {s : System C} {g : Sleeps},
      Run (Guarded (Observed Steps noteSleep) (SleepFits b m)) (s₀, {}) as (s, g) →
      g.Lawful b m) ∧
    ∀ {as : List (Action C)} {s : System C}, Run Steps s₀ as s →
      ∃ g, Run (Observed Steps noteSleep) (s₀, {}) as (s, g) ∧
        ∀ c, s.connection = some c → (c.backoff = min (b * 2 ^ g.count) m ↔ g.Fits b m) := by
  subst hb hm
  refine ⟨fun hrun => ?_, fun hrun => ?_⟩
  · refine (hrun.invariant (I := fun p => Doubled _ _ p ∧ p.2.Lawful _ _)
      ⟨doubled_initial h₀, fun p hp => by cases hp⟩ ?_).2
    intro p a p' hp hstep
    exact ⟨doubled_step hp.1 hstep.2, lawful_step hp.1 hp.2 hstep.1 hstep.2⟩
  · obtain ⟨g, hobserved⟩ := Run.observed hrun ({} : Sleeps)
    refine ⟨g, hobserved, fun c hc => ?_⟩
    have hd := hobserved.invariant (doubled_initial h₀) fun _ _ _ hd hstep =>
      doubled_step hd hstep
    rw [hd.current c hc]
    exact doubled_eq_capped_iff

theorem noted_of_observe {p p' : System C × Sleeps}
    (h : observe next noteSleep p a = some p') : Observed Steps noteSleep p a p' :=
  observed_of_observe (fun {_ _ _} => steps_of_next) h

/-- The lookup fails twice. -/
def lookupFailsTwice : List (Action Unit) :=
  [.call .connect, .hold] ++
    [.read .next, .read .next, .read (.lookup false), .read .next, .read .next, .read .next,
      .read .next, .read .next] ++
    [.read .next, .read .next, .read (.lookup false), .read .next, .read .next, .read .next,
      .read .next, .read .next]

theorem backoff_law_lookupFailsTwice :
    ∃ g : Sleeps, g.Lawful 1000 30000 ∧ g.durations = [(1, 1000), (2, 2000)] := by
  have heval : (exec (fun p a => if SleepFits 1000 30000 p a then observe next noteSleep p a
      else none) (({} : System Unit), ({} : Sleeps)) lookupFailsTwice).any
      (fun p => p.2.durations = [(1, 1000), (2, 2000)]) = true := by
    decide +kernel
  obtain ⟨⟨s, g⟩, hrun, htest⟩ := Run.of_exec
    (R := Guarded (Observed Steps noteSleep) (SleepFits 1000 30000)) (fun {p a p'} h => by
      split at h
      · next hfits => exact ⟨hfits, noted_of_observe h⟩
      · cases h) heval
  exact ⟨g, (backoff_law initial_default rfl rfl).1 hrun, of_decide_eq_true htest⟩

/-! ## a broker that refuses -/

/-- A fresh connection up to a CONNACK that refuses, and to the end of the sleep
after it. -/
def refusedConnack : List (Action Unit) :=
  toConnack.take 21 ++
    [.read (.receive (.packet (Packet.ofBody .connack 0 [0, 5]))), .read .next, .read .next,
      .read .next, .read .next, .read .next, .read .next, .read .next, .grant, .read .next,
      .read .next, .read .next, .read .next]

/-- Two attempts to connect, both refused. -/
def refusedTwice : List (Action Unit) :=
  [.call .connect, .hold] ++ refusedConnack ++ refusedConnack

/-- A client that is refused twice waits a second each time. -/
theorem refused_keeps_backoff :
    ∃ (s : System Unit) (g : Sleeps), Run (Observed Steps noteSleep) ({}, {}) refusedTwice (s, g) ∧
      g.durations = [(1, 1000), (2, 1000)] ∧ ¬ g.Lawful 1000 30000 := by
  have heval : (exec (observe next noteSleep) (({} : System Unit), ({} : Sleeps)) refusedTwice).any
      (fun p => p.2.durations = [(1, 1000), (2, 1000)]) = true := by
    decide +kernel
  obtain ⟨⟨s, g⟩, hrun, htest⟩ := Run.of_exec (fun {_ _ _} => noted_of_observe) heval
  have hdurations : g.durations = [(1, 1000), (2, 1000)] := of_decide_eq_true htest
  refine ⟨s, g, hrun, hdurations, fun hlawful => ?_⟩
  have hsecond := hlawful (2, 1000) (by simp [hdurations])
  exact absurd hsecond (by decide)

end System

end TrueMqtt
