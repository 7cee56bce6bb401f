import Mathlib.Data.Nat.Basic
import Mathlib.Order.Basic
import TrueMqtt.Lib.Run

/-!
# Bounded inevitability

`Within R due P n s`: whatever happens, `P` holds after at most `n` transitions of
`R` from `s`, and until then a transition is enabled that is `due`, that is, one
that may be relied upon to happen.  What is not due can happen (a spurious
wakeup), but nothing has to wait for it.

`Within.of_rank` is the rule to prove it by: an invariant under which something is
always due, and a rank that every transition lowers.

`Can R P n s` is the weaker claim that `P` can be reached in `n` transitions of `R`, whose
rule `Can.of_rank` needs one transition that lowers the rank where the former needs all to.
What is reached depends on what `R` allows: it is to allow no more than what can happen.

If only the transitions of a kind lower a rank, there can only be so many of them:
`Run.countP_le_rank`.
-/

variable {σ ε : Type*}

inductive Within (R : σ → ε → σ → Prop) (due : σ → ε → Prop) (P : σ → Prop) : Nat → σ → Prop
  | now {n : Nat} {s : σ} : P s → Within R due P n s
  | later {n : Nat} {s : σ} : (∃ e s', due s e ∧ R s e s') →
      (∀ e s', R s e s' → Within R due P n s') → Within R due P (n + 1) s

namespace Within

variable {R : σ → ε → σ → Prop} {due : σ → ε → Prop} {P : σ → Prop}

theorem mono {m n : Nat} {s : σ} (h : Within R due P m s) (hmn : m ≤ n) : Within R due P n s := by
  induction h generalizing n with
  | now hp => exact .now hp
  | later hdue _ ih =>
      obtain ⟨k, rfl⟩ := Nat.exists_eq_add_of_le' (show 1 ≤ n by omega)
      exact .later hdue fun e s' hr => ih e s' hr (by omega)

/-- **Ranking rule**. -/
theorem of_rank {I : σ → Prop} (rank : σ → Nat)
    (hdue : ∀ s, I s → ¬ P s → ∃ e s', due s e ∧ R s e s')
    (hstep : ∀ s e s', I s → ¬ P s → R s e s' → I s' ∧ rank s' < rank s) {s : σ} (h : I s) :
    Within R due P (rank s) s := by
  generalize hn : rank s = n
  induction n using Nat.strong_induction_on generalizing s with
  | _ n ih =>
    by_cases hp : P s
    · exact .now hp
    · obtain ⟨e, s', hd, hr⟩ := hdue s h hp
      obtain ⟨k, rfl⟩ := Nat.exists_eq_add_of_le' (show 1 ≤ n by
        have hlt := (hstep s e s' h hp hr).2
        omega)
      refine .later ⟨e, s', hd, hr⟩ fun e' t hr' => ?_
      obtain ⟨ht, hlt⟩ := hstep s e' t h hp hr'
      exact (ih (rank t) (by omega) ht rfl).mono (by omega)

end Within

/-- **Bounded possibility**: some `n` transitions, or fewer, lead from `s` to `P`. -/
inductive Can (R : σ → ε → σ → Prop) (P : σ → Prop) : Nat → σ → Prop
  | now {n : Nat} {s : σ} : P s → Can R P n s
  | step {n : Nat} {s s' : σ} {e : ε} : R s e s' → Can R P n s' → Can R P (n + 1) s

namespace Can

variable {R : σ → ε → σ → Prop} {P Q I : σ → Prop}

theorem mono {m n : Nat} {s : σ} (h : Can R P m s) (hmn : m ≤ n) : Can R P n s := by
  induction h generalizing n with
  | now hp => exact .now hp
  | step hr _ ih =>
      obtain ⟨k, rfl⟩ := Nat.exists_eq_add_of_le' (show 1 ≤ n by omega)
      exact .step hr (ih (by omega))

theorem trans {m n : Nat} {s : σ} (h : Can R Q m s) (hq : ∀ s', Q s' → Can R P n s') :
    Can R P (m + n) s := by
  induction h with
  | now hs => exact (hq _ hs).mono (Nat.le_add_left _ _)
  | step hr _ ih => exact (Can.step hr ih).mono (by omega)

theorem exists_run {n : Nat} {s : σ} (h : Can R P n s) :
    ∃ es s', Run R s es s' ∧ es.length ≤ n ∧ P s' := by
  induction h with
  | @now n s hp => exact ⟨[], s, .nil, Nat.zero_le _, hp⟩
  | @step n s s' e hr _ ih =>
      obtain ⟨es, t, hrun, hlength, hp⟩ := ih
      exact ⟨e :: es, t, hrun.cons hr, Nat.succ_le_succ hlength, hp⟩

/-- **Possibility rule**: under an invariant, some transition leads to `P` or lowers the
rank. -/
theorem of_rank (rank : σ → Nat)
    (hstep : ∀ s, I s → ¬ P s → ∃ e s', R s e s' ∧ (P s' ∨ I s' ∧ rank s' < rank s)) {s : σ}
    (h : I s) : Can R P (rank s + 1) s := by
  generalize hn : rank s = n
  induction n using Nat.strong_induction_on generalizing s with
  | _ n ih =>
    by_cases hp : P s
    · exact .now hp
    · obtain ⟨e, s', hr, hp' | ⟨hi, hlt⟩⟩ := hstep s h hp
      · exact .step hr (.now hp')
      · exact .step hr ((ih (rank s') (by omega) hi rfl).mono (by omega))

end Can

/-- **Counting rule**: where the transitions of a kind lower a rank and no other raises
it until `P` holds, a run has at most as many of them as the rank it starts with, or has
come to `P`. -/
theorem Run.countP_le_rank_until {R : σ → ε → σ → Prop} {P I : σ → Prop} (kind : ε → Bool)
    (rank : σ → Nat)
    (hstep : ∀ s e s', I s → R s e s' →
      I s' ∧ (P s → P s') ∧ (P s ∨ rank s' + (kind e).toNat ≤ rank s))
    {s s' : σ} {es : List ε} (h : I s) (hrun : Run R s es s') :
    I s' ∧ (P s' ∨ es.countP kind + rank s' ≤ rank s) := by
  induction hrun with
  | nil => exact ⟨h, .inr (by simp)⟩
  | @snoc s' s'' es e _ hr ih =>
      obtain ⟨hi', hcount⟩ := ih
      obtain ⟨hi'', hstable, hlower⟩ := hstep s' e s'' hi' hr
      have hlast : (es ++ [e]).countP kind = es.countP kind + (kind e).toNat := by
        rw [List.countP_append, List.countP_singleton]
        cases kind e <;> rfl
      refine ⟨hi'', ?_⟩
      obtain hp | hcount := hcount
      · exact .inl (hstable hp)
      · obtain hp | hlower := hlower
        · exact .inl (hstable hp)
        · exact .inr (by omega)

theorem Run.countP_le_rank {R : σ → ε → σ → Prop} {I : σ → Prop} (kind : ε → Bool)
    (rank : σ → Nat)
    (hstep : ∀ s e s', I s → R s e s' → I s' ∧ rank s' + (kind e).toNat ≤ rank s)
    {s s' : σ} {es : List ε} (h : I s) (hrun : Run R s es s') :
    I s' ∧ es.countP kind + rank s' ≤ rank s := by
  obtain ⟨hi, hcount⟩ := hrun.countP_le_rank_until (P := fun _ => False) kind rank
    (fun s e s' hs hr => ⟨(hstep s e s' hs hr).1, id, .inr (hstep s e s' hs hr).2⟩) h
  exact ⟨hi, hcount.resolve_left id⟩
