import Mathlib.Data.List.Basic

/-!
# Decoders

A decoder reads a value from the front of a list and leaves what follows it.
`Decodes d bs a` says that `bs` spells `a` for the decoder `d`: in front of any
list, `bs` is what `d` takes, and `a` is what it reads.  The spellings compose as
the decoders do (`Decodes.bind`), so a format is checked one field after the other.

`all` reads a list with nothing left over, `stream` as many values as there are.
What is left then is the beginning of a value that is not complete: a decoder that
does not look at the end of its list (`Extends`) reads nothing from it
(`stream_eq`).
-/

/-- A value read from the front of a list, and the rest of the list. -/
abbrev Decoder (β α : Type) : Type := StateT (List β) Option α

namespace Decoder

variable {α β γ : Type} {a : α} {bs : List β}

/-! ## the decoders -/

/-- The next symbol. -/
def symbol : Decoder β β
  | [] => none
  | b :: bs => some (b, bs)

/-- The next `n` symbols. -/
def take (n : Nat) : Decoder β (List β) := fun bs =>
  if n ≤ bs.length then some (bs.take n, bs.drop n) else none

/-- A value there may not be; nothing is read. -/
def ofOption (o : Option α) : Decoder β α := fun bs => o.map (·, bs)

/-- Go on if `p` holds. -/
def check (p : Prop) [Decidable p] : Decoder β Unit := ofOption (if p then some () else none)

/-- Read a value that is present or absent. -/
def optionally (present : Bool) (d : Decoder β α) : Decoder β (Option α) :=
  if present then do return some (← d) else return none

/-- Read the whole list. -/
def all (d : Decoder β α) (bs : List β) : Option α :=
  match d bs with
  | some (a, []) => some a
  | _ => none

/-! ## what spells a value -/

/-- In front of any list, `d` reads `a` from `bs`. -/
def Decodes (d : Decoder β α) (bs : List β) (a : α) : Prop :=
  ∀ rest, d (bs ++ rest) = some (a, rest)

theorem decodes_pure (a : α) : Decodes (pure a : Decoder β α) [] a := fun _ => rfl

theorem Decodes.bind {d : Decoder β α} {f : α → Decoder β γ} {cs : List β} {c : γ}
    (h : Decodes d bs a) (hf : Decodes (f a) cs c) : Decodes (d >>= f) (bs ++ cs) c := by
  intro rest
  have hfirst : d (bs ++ (cs ++ rest)) = some (a, cs ++ rest) := h (cs ++ rest)
  rw [List.append_assoc]
  change (d (bs ++ (cs ++ rest))).bind (fun p => f p.1 p.2) = some (c, rest)
  rw [hfirst]
  exact hf rest

/-- A decoder and a function of what it reads. -/
theorem Decodes.bind_pure {d : Decoder β α} (h : Decodes d bs a) (g : α → γ) :
    Decodes (d >>= fun a => pure (g a)) bs (g a) := by
  have hbind : Decodes (d >>= fun a => pure (g a)) (bs ++ []) (g a) :=
    h.bind (f := fun a => pure (g a)) (decodes_pure (g a))
  rwa [List.append_nil] at hbind

theorem decodes_symbol (b : β) : Decodes symbol [b] b := fun _ => rfl

theorem decodes_take {n : Nat} (h : bs.length = n) : Decodes (take n) bs bs := by
  intro rest
  subst h
  rw [take, if_pos (by simp), List.take_left, List.drop_left]

theorem decodes_ofOption {o : Option α} (h : o = some a) :
    Decodes (ofOption o : Decoder β α) [] a := by
  subst h
  exact fun _ => rfl

theorem decodes_check {p : Prop} [Decidable p] (h : p) :
    Decodes (check p : Decoder β Unit) [] () :=
  decodes_ofOption (if_pos h)

theorem decodes_absent (d : Decoder β α) : Decodes (optionally false d) [] none :=
  decodes_pure none

theorem Decodes.present {d : Decoder β α} (h : Decodes d bs a) :
    Decodes (optionally true d) bs (some a) :=
  h.bind_pure some

/-- What follows the first value is up to the second decoder. -/
theorem bind_of_eq {d : Decoder β α} {f : α → Decoder β γ} {rest : List β}
    (h : d bs = some (a, rest)) : (d >>= f) bs = f a rest := by
  change (d bs).bind (fun p => f p.1 p.2) = f a rest
  rw [h]
  rfl

/-- A value spelled by the whole list. -/
theorem Decodes.all_eq {d : Decoder β α} (h : Decodes d bs a) : d.all bs = some a := by
  have hall := h []
  rw [List.append_nil] at hall
  rw [all, hall]

/-! ## incomplete lists -/

/-- A longer list does not change what was read. -/
def Extends (d : Decoder β α) : Prop :=
  ∀ bs a rest more, d bs = some (a, rest) → d (bs ++ more) = some (a, rest ++ more)

theorem extends_pure (a : α) : Extends (pure a : Decoder β α) := by
  intro bs b rest more h
  cases h
  rfl

theorem Extends.bind {d : Decoder β α} {f : α → Decoder β γ} (h : Extends d)
    (hf : ∀ a, Extends (f a)) : Extends (d >>= f) := by
  intro bs c rest more hc
  obtain ⟨⟨a, mid⟩, ha, hc⟩ := Option.bind_eq_some_iff.mp hc
  change (d (bs ++ more)).bind (fun p => f p.1 p.2) = some (c, rest ++ more)
  rw [h bs a mid more ha]
  exact hf a mid c rest more hc

theorem extends_symbol : Extends (symbol : Decoder β β) := by
  intro bs b rest more h
  cases bs with
  | nil => cases h
  | cons x xs =>
      cases h
      rfl

theorem extends_take (n : Nat) : Extends (take n : Decoder β (List β)) := by
  intro bs a rest more h
  unfold take at h ⊢
  split at h
  · next hn =>
    cases h
    rw [if_pos (by simp; omega), List.take_append_of_le_length hn,
      List.drop_append_of_le_length hn]
  · cases h

theorem extends_ofOption (o : Option α) : Extends (ofOption o : Decoder β α) := by
  intro bs a rest more h
  cases o with
  | none => cases h
  | some b =>
      cases h
      rfl

theorem extends_check (p : Prop) [Decidable p] : Extends (check p : Decoder β Unit) :=
  extends_ofOption _

/-- Nothing is read from a part of what spells a value. -/
theorem Extends.eq_none {d : Decoder β α} (hd : Extends d) {bs cs : List β}
    (h : Decodes d (bs ++ cs) a) (hcs : cs ≠ []) : d bs = none := by
  cases hbs : d bs with
  | none => rfl
  | some p =>
      have hmore := hd bs p.1 p.2 cs hbs
      have hall := h []
      rw [List.append_nil, hmore, Option.some.injEq, Prod.mk.injEq] at hall
      exact absurd (List.append_eq_nil_iff.mp hall.2).2 hcs

/-! ## streams -/

/-- Read values as long as there are any, at most `n`. -/
def stream (d : Decoder β α) : Nat → List β → List α × List β
  | 0, bs => ([], bs)
  | n + 1, bs =>
      match d bs with
      | none => ([], bs)
      | some (a, rest) => ((stream d n rest).map (a :: ·) id)

/-- A stream of spelled values is read one after the other. -/
theorem stream_eq {ι : Type} {d : Decoder β α} {spell : ι → List β} {value : ι → α}
    {is : List ι} (h : ∀ i ∈ is, Decodes d (spell i) (value i)) {tail : List β}
    (htail : d tail = none) {n : Nat} (hn : is.length ≤ n) :
    stream d n (is.flatMap spell ++ tail) = (is.map value, tail) := by
  induction is generalizing n with
  | nil =>
      cases n with
      | zero => rfl
      | succ n => simp [stream, htail]
  | cons i is ih =>
      obtain ⟨n, rfl⟩ := Nat.exists_eq_add_of_le' (show 1 ≤ n by simp at hn; omega)
      have hfirst := h i List.mem_cons_self (is.flatMap spell ++ tail)
      have hrest := ih (fun j hj => h j (List.mem_cons_of_mem i hj)) (n := n) (by simpa using hn)
      rw [List.flatMap_cons, List.append_assoc, stream, hfirst]
      simp [hrest]

/-- Read values to the end of the list. -/
def toEnd (d : Decoder β α) : Decoder β (List α) := fun bs =>
  match stream d bs.length bs with
  | (as, []) => some (as, [])
  | _ => none

/-- There are no more values than symbols. -/
theorem length_le_flatMap {ι : Type} {spell : ι → List β} {is : List ι}
    (hne : ∀ i ∈ is, spell i ≠ []) : is.length ≤ (is.flatMap spell).length := by
  induction is with
  | nil => exact Nat.le_refl 0
  | cons i is ih =>
      have hpos := List.length_pos_of_ne_nil (hne i List.mem_cons_self)
      have hrest := ih fun j hj => hne j (List.mem_cons_of_mem i hj)
      rw [List.flatMap_cons, List.length_append, List.length_cons]
      omega

/-- A list of spelled values is read to its end. -/
theorem toEnd_eq {ι : Type} {d : Decoder β α} {spell : ι → List β} {value : ι → α}
    {is : List ι} (h : ∀ i ∈ is, Decodes d (spell i) (value i)) (hne : ∀ i ∈ is, spell i ≠ [])
    (hnil : d [] = none) : toEnd d (is.flatMap spell) = some (is.map value, []) := by
  have hread := stream_eq h hnil (length_le_flatMap hne)
  rw [List.append_nil] at hread
  rw [toEnd, hread]

/-- One value. -/
theorem toEnd_single {d : Decoder β α} (h : Decodes d bs a) (hne : bs ≠ []) (hnil : d [] = none) :
    toEnd d bs = some ([a], []) := by
  have hread : toEnd d ([()].flatMap fun _ => bs) = some ([()].map fun _ => a, []) :=
    toEnd_eq (fun _ _ => h) (fun _ _ => hne) hnil
  rwa [List.flatMap_cons, List.flatMap_nil, List.append_nil] at hread

end Decoder
