import Mathlib.Data.List.Basic
import Mathlib.Data.Option.Basic

/-!
# Runs of a labelled transition system

`Run R s es s'` is a finite run of the relation `R` from `s` to `s'` under the
labels `es`.  `Guarded R G` keeps the transitions whose label meets a condition
on the state it is taken in, so a run all of whose steps meet `G` is a run of
`Guarded R G`.  `Run.invariant` is the induction every safety proof goes through.

A partial function whose values are transitions computes runs: `exec` is the
state after a list of labels, and `Run.of_exec` turns an evaluation into a run.
-/

variable {σ ε : Type*}

/-- A finite run: the start state, the labels in order, the end state. -/
inductive Run (R : σ → ε → σ → Prop) (s : σ) : List ε → σ → Prop
  | nil : Run R s [] s
  | snoc {s' s'' : σ} {es : List ε} {e : ε} :
      Run R s es s' → R s' e s'' → Run R s (es ++ [e]) s''

/-- The transitions whose label meets the condition `G` where it is taken. -/
def Guarded (R : σ → ε → σ → Prop) (G : σ → ε → Prop) : σ → ε → σ → Prop :=
  fun s e s' => G s e ∧ R s e s'

namespace Run

variable {R : σ → ε → σ → Prop}

/-- **Invariant rule**: what holds initially and is kept by every transition
holds in every state a run reaches. -/
theorem invariant {I : σ → Prop} {s₀ s : σ} {es : List ε} (h₀ : I s₀)
    (hstep : ∀ s e s', I s → R s e s' → I s') (h : Run R s₀ es s) : I s := by
  induction h with
  | nil => exact h₀
  | snoc _ hr ih => exact hstep _ _ _ ih hr

/-- A run is a run of every larger relation. -/
theorem mono {R' : σ → ε → σ → Prop} {s s' : σ} {es : List ε}
    (hR : ∀ s e s', R s e s' → R' s e s') (h : Run R s es s') : Run R' s es s' := by
  induction h with
  | nil => exact .nil
  | snoc _ hr ih => exact .snoc ih (hR _ _ _ hr)

theorem cons {s s' s'' : σ} {e : ε} {es : List ε} (hr : R s e s') (h : Run R s' es s'') :
    Run R s (e :: es) s'' := by
  induction h with
  | nil => exact .snoc .nil hr
  | snoc _ hlast ih => exact .snoc ih hlast

theorem trans {s s' s'' : σ} {es es' : List ε} (h : Run R s es s') (h' : Run R s' es' s'') :
    Run R s (es ++ es') s'' := by
  induction h' with
  | nil => rwa [List.append_nil]
  | snoc _ hlast ih =>
      rw [← List.append_assoc]
      exact .snoc ih hlast

/-- The last transition of a run. -/
theorem of_snoc {s s'' : σ} {es : List ε} {e : ε} (h : Run R s (es ++ [e]) s'') :
    ∃ s', Run R s es s' ∧ R s' e s'' := by
  generalize hl : es ++ [e] = l at h
  cases h with
  | nil => simp at hl
  | snoc hrun hlast =>
      obtain ⟨rfl, rfl⟩ := List.append_singleton_inj.mp hl
      exact ⟨_, hrun, hlast⟩

theorem eq_of_nil {s s' : σ} (h : Run R s [] s') : s' = s := by
  generalize hl : ([] : List ε) = l at h
  cases h with
  | nil => rfl
  | snoc => simp at hl

/-- The labels determine the run of a deterministic relation. -/
theorem unique (hdet : ∀ s e s' s'', R s e s' → R s e s'' → s' = s'') {s s' s'' : σ}
    {es : List ε} (h : Run R s es s') (h' : Run R s es s'') : s' = s'' := by
  induction h generalizing s'' with
  | nil => exact (eq_of_nil h').symm
  | snoc _ hlast ih =>
      obtain ⟨t, hrun, hlast'⟩ := of_snoc h'
      cases ih hrun
      exact hdet _ _ _ _ hlast hlast'

end Run

/-! ## observation -/

/-- The transitions, and what an observer makes of each of them. -/
def Observed {γ : Type*} (R : σ → ε → σ → Prop) (note : σ → ε → σ → γ → γ) :
    σ × γ → ε → σ × γ → Prop :=
  fun s e s' => R s.1 e s'.1 ∧ s'.2 = note s.1 e s'.1 s.2

namespace Run

variable {γ : Type*} {R : σ → ε → σ → Prop} {note : σ → ε → σ → γ → γ}

/-- Every run is observed. -/
theorem observed {s s' : σ} {es : List ε} (h : Run R s es s') (g : γ) :
    ∃ g', Run (Observed R note) (s, g) es (s', g') := by
  induction h with
  | nil => exact ⟨g, .nil⟩
  | @snoc s' s'' es e _ hlast ih =>
      obtain ⟨g', hrun⟩ := ih
      exact ⟨note s' e s'' g', .snoc hrun ⟨hlast, rfl⟩⟩

end Run

/-! ## evaluation -/

/-- The state a partial step function reaches under a list of labels. -/
def exec (step : σ → ε → Option σ) (s : σ) : List ε → Option σ
  | [] => some s
  | e :: es => (step s e).bind fun s' => exec step s' es

theorem Run.of_exec_eq {R : σ → ε → σ → Prop} {step : σ → ε → Option σ} {s s' : σ}
    {es : List ε} (hstep : ∀ {s e s'}, step s e = some s' → R s e s')
    (h : exec step s es = some s') : Run R s es s' := by
  induction es generalizing s with
  | nil =>
      cases h
      exact .nil
  | cons e es ih =>
      rw [exec] at h
      obtain ⟨s₁, hs, hrest⟩ := Option.bind_eq_some_iff.mp h
      exact Run.cons (hstep hs) (ih hrest)

/-- A run whose last state passes a test, by evaluation. -/
theorem Run.of_exec {R : σ → ε → σ → Prop} {step : σ → ε → Option σ} {s : σ} {es : List ε}
    {test : σ → Bool} (hstep : ∀ {s e s'}, step s e = some s' → R s e s')
    (h : (exec step s es).any test = true) : ∃ s', Run R s es s' ∧ test s' = true := by
  obtain ⟨s', hs', htest⟩ := (Option.any_eq_true _ _).mp h
  exact ⟨s', Run.of_exec_eq hstep hs', htest⟩

/-- An observed step, by evaluation. -/
def observe {γ : Type*} (step : σ → ε → Option σ) (note : σ → ε → σ → γ → γ) (p : σ × γ)
    (e : ε) : Option (σ × γ) :=
  (step p.1 e).map fun s' => (s', note p.1 e s' p.2)

theorem observed_of_observe {γ : Type*} {R : σ → ε → σ → Prop} {step : σ → ε → Option σ}
    {note : σ → ε → σ → γ → γ} {p p' : σ × γ} {e : ε}
    (hstep : ∀ {s e s'}, step s e = some s' → R s e s') (h : observe step note p e = some p') :
    Observed R note p e p' := by
  obtain ⟨s', hs', rfl⟩ := Option.map_eq_some_iff.mp h
  exact ⟨hstep hs', rfl⟩
