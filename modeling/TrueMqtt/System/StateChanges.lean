import Mathlib.Data.List.Chain
import TrueMqtt.System.Handshake

/-!
# TrueMqtt.System.StateChanges

The state-change callback.  `connect` and `disconnect` look at `m_state` before
they store the new one; `connectionStateChange` does not.  A second CONNACK, or a
connection that fails before its CONNACK, reports the state the client is already
in (`lost_before_connack`).

The callback reports changes only in the runs, and by the steps, in which
`connectionStateChange` finds another state (`reports_changes`).
-/

namespace TrueMqtt

namespace System

variable {C : Type} {s s' : System C} {a : Action C} {c : Connection}

/-- The steps in which `connectionStateChange` finds another state than the one it
stores. -/
def FindsOtherState (s : System C) : Action C → Prop
  | .grant => match s.connection with
      | some c =>
          (c.readPc = .lockState true → s.impl.state ≠ .connected) ∧
            (c.readPc = .lockState false → s.impl.state ≠ .connecting)
      | none => True
  | _ => True

instance (s : System C) (a : Action C) : Decidable (s.FindsOtherState a) := by
  unfold FindsOtherState
  induction a using Action.casesOn with
  | grant => induction s.connection using Option.casesOn <;> infer_instance
  | _ => infer_instance

/-- A step invokes the callback exactly when it changes `m_state`, with the new
value. -/
def ReportsChange (s s' : System C) : Prop :=
  (s'.stateChanges = s.stateChanges ∧ s'.impl.state = s.impl.state) ∨
    (s'.stateChanges = s.stateChanges ++ [s'.impl.state] ∧ s'.impl.state ≠ s.impl.state)

/-- No two consecutive states the client was in, according to the callback, are the
same; it is DISCONNECTED at first. -/
def ReportsDiffer (s : System C) : Prop :=
  (State.disconnected :: s.stateChanges).IsChain (· ≠ ·)

/-! ## what a step reports -/

/-- Nothing is reported, and nothing changes. -/
def Quiet (s s' : System C) : Prop :=
  s'.stateChanges = s.stateChanges ∧ s'.impl.state = s.impl.state

/-- `st` is stored and reported. -/
def Reports (st : State) (s s' : System C) : Prop :=
  s'.stateChanges = s.stateChanges ++ [st] ∧ s'.impl.state = st

theorem quiet_of_goesOn (h : GoesOn c s s') : Quiet s s' := ⟨h.stateChanges, h.state⟩

theorem quiet_disconnect (again : Bool) (s : System C) : Quiet s (s.disconnect again) := by
  refine ⟨stateChanges_disconnect again s, ?_⟩
  rw [impl_disconnect, Impl.disconnect]

theorem quiet_after {sent : Bool} {k : After} (h : s.after c sent k = .ok s') : Quiet s s' := by
  obtain hon | ⟨-, -, rfl⟩ := goesOn_after h
  · exact quiet_of_goesOn hon
  · exact quiet_disconnect true _

/-- Outside of `connectionStateChange` a state is reported only when it is new. -/
theorem reportsChange_of_move (hm : Move s a s') (ha : a ≠ .grant) : ReportsChange s s' := by
  cases hm with
  | connect hfree hst =>
      right
      exact ⟨rfl, by rw [hst]; simp [System.connect, setState]⟩
  | disconnect hfree hst =>
      obtain ⟨hl, hs⟩ := quiet_disconnect false (s.setState .disconnected)
      right
      rw [hl, hs]
      exact ⟨rfl, Ne.symm hst⟩
  | toPublishQueue hfree hst hq =>
      left
      obtain ⟨-, rfl⟩ | ⟨-, q, -, rfl⟩ := Impl.toPublishQueue_spec hq <;> exact ⟨rfl, rfl⟩
  | removeSubscription hfree hst hmem hi | unsubscribe hfree hst hmem hi =>
      left
      obtain ⟨subscriptions, rfl⟩ := Impl.removeSubscription_spec hi
      exact ⟨rfl, rfl⟩
  | refused hc hh hsize hafter => exact .inl (quiet_after hafter)
  | pushed hc hh hqf hafter => exact .inl (quiet_after hafter)
  | connected | lost | message => exact absurd rfl ha
  | _ => exact .inl ⟨rfl, rfl⟩

/-- `connectionStateChange` reports the state it stores. -/
theorem reportsChange_grant (h : s.Steps .grant s') :
    (Quiet s s' ∧ s.FindsOtherState .grant) ∨
      ∃ st, Reports st s s' ∧ (s.FindsOtherState .grant ↔ st ≠ s.impl.state) := by
  unfold Steps at h
  rw [step] at h
  split at h
  · cases h
  · next c hc =>
    unfold grant at h
    split at h
    · cases h
    · split at h
      · next hpc =>
        cases h
        obtain ⟨hl, hs⟩ := quiet_of_goesOn (goesOn_resubscribe { c with readPc := .stateChange }
          s.impl.subscriptionTopics.elems (s.setState .connected))
        right
        exact ⟨.connected, ⟨hl, hs⟩, by simp [FindsOtherState, hc, hpc, eq_comm]⟩
      · next hpc =>
        cases h
        right
        exact ⟨.connecting, ⟨rfl, rfl⟩, by simp [FindsOtherState, hc, hpc, eq_comm]⟩
      · next topic message hpc =>
        cases h
        left
        exact ⟨⟨rfl, rfl⟩, by simp [FindsOtherState, hc, hpc]⟩
      · cases h

/-- A step reports exactly its change when it meets the condition. -/
theorem reportsChange_iff (h : s.Steps a s') : ReportsChange s s' ↔ s.FindsOtherState a := by
  by_cases ha : a = .grant
  · subst ha
    obtain ⟨hquiet, hfinds⟩ | ⟨st, ⟨hl, hs⟩, hfinds⟩ := reportsChange_grant h
    · exact iff_of_true (.inl hquiet) hfinds
    · rw [hfinds]
      unfold ReportsChange
      rw [hl, hs]
      simp
  · have hfinds : s.FindsOtherState a := by
      unfold FindsOtherState
      split
      · exact absurd rfl ha
      · trivial
    exact iff_of_true (reportsChange_of_move (move_of_step h) ha) hfinds

theorem quiet_or_reports (h : s.Steps a s') : Quiet s s' ∨ Reports s'.impl.state s s' := by
  by_cases ha : a = .grant
  · subst ha
    obtain ⟨hquiet, -⟩ | ⟨st, ⟨hl, hst⟩, -⟩ := reportsChange_grant h
    · exact .inl hquiet
    · exact .inr ⟨by rw [hl, hst], rfl⟩
  · obtain hquiet | ⟨hl, -⟩ := reportsChange_of_move (move_of_step h) ha
    · exact .inl hquiet
    · exact .inr ⟨hl, rfl⟩

/-! ## what a run reports -/

/-- The last state reported is the client's. -/
theorem getLast?_of_run {s₀ : System C} {as : List (Action C)} (h₀ : Initial s₀)
    (h : Run Steps s₀ as s) :
    (State.disconnected :: s.stateChanges).getLast? = some s.impl.state := by
  refine Run.invariant
    (I := fun s => (State.disconnected :: s.stateChanges).getLast? = some s.impl.state) ?_ ?_ h
  · obtain ⟨config, rfl⟩ := h₀
    rfl
  · intro s a s' hs hstep
    obtain ⟨hl, hst⟩ | ⟨hl, -⟩ := quiet_or_reports hstep
    · rw [hl, hst, hs]
    · rw [hl, ← List.cons_append, List.getLast?_append]
      rfl

/-- The reports differ as long as every step reports its change. -/
theorem reportsDiffer_step (h : s.Steps a s')
    (hlast : (State.disconnected :: s.stateChanges).getLast? = some s.impl.state) :
    s'.ReportsDiffer ↔ s.ReportsDiffer ∧ ReportsChange s s' := by
  obtain hquiet | ⟨hl, -⟩ := quiet_or_reports h
  · have hsame : s'.ReportsDiffer ↔ s.ReportsDiffer := by
      unfold ReportsDiffer
      rw [hquiet.1]
    rw [hsame]
    exact (and_iff_left (.inl hquiet)).symm
  · have hchange : ReportsChange s s' ↔ s.impl.state ≠ s'.impl.state := by
      unfold ReportsChange
      rw [hl]
      simp [eq_comm]
    rw [hchange]
    unfold ReportsDiffer
    rw [hl, ← List.cons_append, List.isChain_append, hlast]
    simp

/-- **The callback reports the changes**: in a run no two consecutive reports are the
same exactly if `connectionStateChange` always finds another state; and from every
state of the run, a step invokes the callback exactly when it changes `m_state`, if
and only if it meets this condition. -/
theorem reports_changes {s₀ s : System C} {as : List (Action C)} (h₀ : Initial s₀)
    (h : Run Steps s₀ as s) :
    (s.ReportsDiffer ↔ Run (Guarded Steps FindsOtherState) s₀ as s) ∧
      ∀ a s', s.Steps a s' → (ReportsChange s s' ↔ s.FindsOtherState a) := by
  refine ⟨?_, fun a s' hstep => reportsChange_iff hstep⟩
  induction h with
  | nil =>
      obtain ⟨config, rfl⟩ := h₀
      exact iff_of_true (List.isChain_singleton _) .nil
  | @snoc s s' es a hrun hstep ih =>
      rw [reportsDiffer_step hstep (getLast?_of_run h₀ hrun), reportsChange_iff hstep, ih]
      constructor
      · rintro ⟨hguarded, hfinds⟩
        exact .snoc hguarded ⟨hfinds, hstep⟩
      · intro hguarded
        obtain ⟨t, hguarded', hfinds, -⟩ := Run.of_snoc hguarded
        have hst : s = t :=
          hrun.unique (fun _ _ _ _ hr hr' => Except.ok.inj (hr.symm.trans hr'))
            (hguarded'.mono fun _ _ _ hg => hg.2)
        subst hst
        exact ⟨hguarded', hfinds⟩

/-- A client connects, and is CONNECTED. -/
def connectAndGrant : List (Action Unit) :=
  [.call .connect, .hold] ++ toConnack ++ [.grant]

theorem reports_changes_connectAndGrant :
    ∃ s : System Unit, (s.ReportsDiffer ↔
        Run (Guarded Steps FindsOtherState) ({} : System Unit) connectAndGrant s) ∧
      s.stateChanges = [.connecting, .connected] := by
  obtain ⟨s, hrun, htest⟩ := run_of_exec connectAndGrant
    (fun s => s.stateChanges = [.connecting, .connected]) (by decide +kernel)
  exact ⟨s, (reports_changes initial_default hrun).1, of_decide_eq_true htest⟩

/-- The broker closes the connection instead of sending a CONNACK, and
`connectionStateChange(false)` reports CONNECTING to a client that is CONNECTING. -/
def closedByBroker : List (Action Unit) :=
  [.call .connect, .hold] ++ toConnack.take 21 ++
    [.read (.receive .failed), .read .next, .read .next, .read .next, .read .next, .read .next,
      .read .next, .read .next, .grant]

theorem lost_before_connack : ∃ s : System Unit, s.Reachable ∧ ¬ s.ReportsDiffer := by
  obtain ⟨s, hrun, htest⟩ := run_of_exec closedByBroker
    (fun s => s.stateChanges = [.connecting, .connecting]) (by decide +kernel)
  have hreports : s.stateChanges = [.connecting, .connecting] := of_decide_eq_true htest
  refine ⟨s, ⟨{}, closedByBroker, initial_default, hrun⟩, ?_⟩
  unfold ReportsDiffer
  rw [hreports]
  decide

end System

end TrueMqtt
