import TrueMqtt.Network

/-!
# TrueMqtt.Network.Resolve

The addresses of a resolution.  `resolve` sorts what the lookup has found into two
queues, one for each family, and then takes from both in turns until they are empty
(`Queues`).  That is `interweave` of the two (`addresses_resolved`), so the addresses
are those found less the other families, in the order found within each family,
and IPv6 and IPv4 alternate for as long as both last (`resolve_interweaves`).
-/

namespace TrueMqtt

variable {A B : Type}

/-! ## the loops of `resolve` -/

/-- `m_addresses`, and the two queues it is built from. -/
structure Queues (A : Type) where
  addresses : List A := []
  ipv6 : List A := []
  ipv4 : List A := []

namespace Queues

/-- The body of the loop over the result of the lookup. -/
def sort (q : Queues A) (entry : Family × A) : Queues A :=
  match entry.1 with
  | .ipv6 => { q with ipv6 := q.ipv6 ++ [entry.2] }
  | .ipv4 => { q with ipv4 := q.ipv4 ++ [entry.2] }
  | .other => q

def takeIpv6 (q : Queues A) : Queues A :=
  match q.ipv6 with
  | [] => q
  | a :: ipv6 => { q with addresses := q.addresses ++ [a], ipv6 := ipv6 }

def takeIpv4 (q : Queues A) : Queues A :=
  match q.ipv4 with
  | [] => q
  | a :: ipv4 => { q with addresses := q.addresses ++ [a], ipv4 := ipv4 }

/-- The loop that interweaves the two queues. -/
def loop (q : Queues A) : List A :=
  if q.ipv6 = [] ∧ q.ipv4 = [] then q.addresses else q.takeIpv6.takeIpv4.loop
termination_by q.ipv6.length + q.ipv4.length
decreasing_by
  obtain ⟨addresses, ipv6, ipv4⟩ := q
  cases ipv6 <;> cases ipv4 <;> simp_all [takeIpv6, takeIpv4]
  omega

/-- What the loop over the result of the lookup has put into the queues. -/
theorem foldl_sort (found : List (Family × A)) (q : Queues A) :
    found.foldl sort q =
      { q with
        ipv6 := q.ipv6 ++ ofFamily .ipv6 found
        ipv4 := q.ipv4 ++ ofFamily .ipv4 found } := by
  induction found generalizing q with
  | nil => simp [ofFamily]
  | cons entry found ih =>
      obtain ⟨family, a⟩ := entry
      rw [List.foldl_cons, ih]
      cases family <;> simp [sort, ofFamily]

theorem loop_eq (q : Queues A) : q.loop = q.addresses ++ interweave q.ipv6 q.ipv4 := by
  induction q using loop.induct with
  | case1 q hempty => rw [loop, if_pos hempty, hempty.1, hempty.2, interweave, List.append_nil]
  | case2 q hne ih =>
      rw [loop, if_neg hne, ih]
      obtain ⟨addresses, ipv6, ipv4⟩ := q
      cases ipv6 with
      | nil =>
          cases ipv4 with
          | nil => exact absurd ⟨rfl, rfl⟩ hne
          | cons b ipv4 => simp [takeIpv6, takeIpv4, interweave]
      | cons a ipv6 =>
          cases ipv4 with
          | nil => cases ipv6 <;> simp [takeIpv6, takeIpv4, interweave]
          | cons b ipv4 => simp [takeIpv6, takeIpv4, interweave]

end Queues

/-- `m_addresses` after a lookup is what the two loops make of the cleared list. -/
theorem addresses_resolved (found : List (Family × A)) (a : Attempts A) :
    (a.resolved found).addresses =
      (found.foldl Queues.sort { addresses := a.resolve.addresses }).loop := by
  rw [Queues.foldl_sort, Queues.loop_eq]
  rfl

/-! ## two lists in turns -/

theorem interweave_perm (xs ys : List A) : (interweave xs ys).Perm (xs ++ ys) := by
  fun_induction interweave xs ys with
  | case1 ys => exact .refl ys
  | case2 x xs => rw [List.append_nil]
  | case3 x xs y ys ih =>
      refine .cons x ?_
      exact (ih.cons y).trans List.perm_middle.symm

theorem map_interweave (f : A → B) (xs ys : List A) :
    (interweave xs ys).map f = interweave (xs.map f) (ys.map f) := by
  fun_induction interweave xs ys with
  | case1 ys => rfl
  | case2 x xs => rfl
  | case3 x xs y ys ih => simp [interweave, ih]

theorem filter_interweave_left {p : A → Bool} {xs ys : List A} (hxs : ∀ x ∈ xs, p x = true)
    (hys : ∀ y ∈ ys, p y = false) : (interweave xs ys).filter p = xs := by
  fun_induction interweave xs ys with
  | case1 ys => simpa using hys
  | case2 x xs => exact List.filter_eq_self.mpr hxs
  | case3 x xs y ys ih =>
      have hrest := ih (fun x' hx' => hxs x' (by simp [hx'])) (fun y' hy' => hys y' (by simp [hy']))
      simp [hxs x, hys y, hrest]

theorem filter_interweave_right {p : A → Bool} {xs ys : List A} (hxs : ∀ x ∈ xs, p x = false)
    (hys : ∀ y ∈ ys, p y = true) : (interweave xs ys).filter p = ys := by
  fun_induction interweave xs ys with
  | case1 ys => exact List.filter_eq_self.mpr hys
  | case2 x xs => simpa using hxs
  | case3 x xs y ys ih =>
      have hrest := ih (fun x' hx' => hxs x' (by simp [hx'])) (fun y' hy' => hys y' (by simp [hy']))
      simp [hxs x, hys y, hrest]

/-- While both lists last, they alternate. -/
theorem getElem?_interweave {xs ys : List A} {i : Nat}
    (hi : i < 2 * min xs.length ys.length) :
    (interweave xs ys)[i]? = if i % 2 = 0 then xs[i / 2]? else ys[i / 2]? := by
  fun_induction interweave xs ys generalizing i with
  | case1 ys => simp at hi
  | case2 x xs => simp at hi
  | case3 x xs y ys ih =>
      match i with
      | 0 => rfl
      | 1 => rfl
      | i + 2 =>
          have hrest : (interweave xs ys)[i]? = if i % 2 = 0 then xs[i / 2]? else ys[i / 2]? :=
            ih (by simp only [List.length_cons] at hi; omega)
          have hdiv : (i + 2) / 2 = i / 2 + 1 := by omega
          have hmod : (i + 2) % 2 = i % 2 := by omega
          rw [hdiv, hmod, List.getElem?_cons_succ, List.getElem?_cons_succ,
            List.getElem?_cons_succ, List.getElem?_cons_succ, hrest]

/-- Then comes what is left of the longer one. -/
theorem drop_interweave (xs ys : List A) :
    (interweave xs ys).drop (2 * min xs.length ys.length) =
      xs.drop (min xs.length ys.length) ++ ys.drop (min xs.length ys.length) := by
  fun_induction interweave xs ys with
  | case1 ys => simp
  | case2 x xs => simp
  | case3 x xs y ys ih =>
      have hmin : min (x :: xs).length (y :: ys).length = min xs.length ys.length + 1 := by
        simp only [List.length_cons]
        omega
      rw [hmin, Nat.mul_add, List.drop_succ_cons, List.drop_succ_cons]
      exact ih

/-! ## the addresses of a resolution -/

/-- The entries of a family. -/
def entriesOf (family : Family) (found : List (Family × A)) : List (Family × A) :=
  found.filter (·.1 = family)

/-- How many entries each of the two families has at least. -/
def pairs (found : List (Family × A)) : Nat :=
  min (entriesOf .ipv6 found).length (entriesOf .ipv4 found).length

/-- The entries of both families, in turns. -/
structure Interwoven (found entries : List (Family × A)) : Prop where
  /-- each entry once, and nothing else -/
  perm : entries.Perm (found.filter (·.1 ≠ .other))
  /-- in the order of the lookup within each family -/
  order : ∀ family, family ≠ .other → entriesOf family entries = entriesOf family found
  /-- IPv6 first, for as long as both last -/
  turns : ∀ i < 2 * pairs found,
    entries[i]?.map (·.1) = some (if i % 2 = 0 then .ipv6 else .ipv4)
  /-- the rest of the longer one -/
  tail : entries.drop (2 * pairs found) =
    (entriesOf .ipv6 found).drop (pairs found) ++ (entriesOf .ipv4 found).drop (pairs found)

theorem fst_of_mem_entriesOf {family : Family} {found : List (Family × A)} {p : Family × A}
    (h : p ∈ entriesOf family found) : p.1 = family :=
  of_decide_eq_true (List.mem_filter.mp h).2

theorem entriesOf_perm (found : List (Family × A)) :
    (entriesOf .ipv6 found ++ entriesOf .ipv4 found).Perm (found.filter (·.1 ≠ .other)) := by
  induction found with
  | nil => exact .refl _
  | cons entry found ih =>
      obtain ⟨family, a⟩ := entry
      unfold entriesOf at ih ⊢
      cases family with
      | ipv6 => simpa using ih
      | ipv4 =>
          simp only [reduceCtorEq, decide_false, decide_true, List.filter_cons, ↓reduceIte,
            Bool.false_eq_true, ne_eq, not_false_eq_true]
          exact List.perm_middle.trans (ih.cons _)
      | other => simpa using ih

theorem interwoven_interweave (found : List (Family × A)) :
    Interwoven found (interweave (entriesOf .ipv6 found) (entriesOf .ipv4 found)) where
  perm := (interweave_perm _ _).trans (entriesOf_perm found)
  order := by
    intro family hfamily
    cases family with
    | ipv6 =>
        refine filter_interweave_left (fun p hp => ?_) (fun p hp => ?_)
        · simp [fst_of_mem_entriesOf hp]
        · simp [fst_of_mem_entriesOf hp]
    | ipv4 =>
        refine filter_interweave_right (fun p hp => ?_) (fun p hp => ?_)
        · simp [fst_of_mem_entriesOf hp]
        · simp [fst_of_mem_entriesOf hp]
    | other => exact absurd rfl hfamily
  turns := by
    intro i hi
    rw [pairs] at hi
    have hlt : i / 2 < (entriesOf .ipv6 found).length ∧ i / 2 < (entriesOf .ipv4 found).length := by
      omega
    rw [getElem?_interweave hi, List.getElem?_eq_getElem hlt.1, List.getElem?_eq_getElem hlt.2]
    split
    · exact congrArg some (fst_of_mem_entriesOf (List.getElem_mem hlt.1))
    · exact congrArg some (fst_of_mem_entriesOf (List.getElem_mem hlt.2))
  tail := drop_interweave _ _

/-- The addresses of a resolution are those of the entries in turns. -/
theorem map_interweave_entriesOf (entries : List (Family × A)) (a : Attempts A) :
    (interweave (entriesOf .ipv6 entries) (entriesOf .ipv4 entries)).map (·.2) =
      (a.resolved entries).addresses := by
  rw [map_interweave]
  rfl

theorem isEmpty_resolved (entries : List (Family × A)) (a : Attempts A) :
    (a.resolved entries).addresses.isEmpty = true ↔
      (entriesOf .ipv6 entries).length + (entriesOf .ipv4 entries).length = 0 := by
  rw [List.isEmpty_iff_length_eq_zero, ← map_interweave_entriesOf, List.length_map,
    (interweave_perm _ _).length_eq, List.length_append]

namespace Network

variable {C : Type} {n n' : Network C A}

/-- **Resolution**: `m_addresses` is what the lookup has found of the two families, in
turns; `resolve` returns false exactly when the lookup has failed or has found no
address of either. -/
theorem resolve_interweaves {found : Option (List (Family × A))}
    (h : n.Steps (.read (.lookup found)) n') :
    (∃ c, n'.system.connection = some c ∧
      (c.readPc = .lookupCallback ∨ c.readPc = .resolveCheck) ∧
      (c.readPc = .lookupCallback ↔ found = none ∨ ∃ entries, found = some entries ∧
        (entriesOf .ipv6 entries).length + (entriesOf .ipv4 entries).length = 0)) ∧
    ∀ entries, found = some entries →
      n'.attempts.addresses = (entries.foldl Queues.sort {}).loop ∧
        ∃ interwoven, interwoven.map (·.2) = n'.attempts.addresses ∧
          Interwoven entries interwoven := by
  obtain ⟨c, c', j, hc, hread, hr, -, hs⟩ := steps_read h
  have hc' : n'.system.connection = some c' := by rw [hs]
  cases found with
  | none =>
      simp only [readSockets, Option.some.injEq, Prod.mk.injEq] at hread
      obtain ⟨rfl, -⟩ := hread
      cases Connection.readBranch_of_readStep hr with
      | lookupFails => exact ⟨⟨_, hc', .inl rfl, by simp⟩, fun entries he => by cases he⟩
  | some entries =>
      simp only [readSockets, Option.some.injEq, Prod.mk.injEq] at hread
      obtain ⟨rfl, ha⟩ := hread
      simp only [Connection.readStep] at hr
      split at hr
      · cases hr
        refine ⟨⟨_, hc', ?_, ?_⟩, fun entries' he => ?_⟩
        · by_cases hempty : (n.attempts.resolved entries).addresses.isEmpty = true
          · simp [hempty]
          · simp [hempty]
        · have hnone := isEmpty_resolved entries n.attempts
          by_cases hempty : (n.attempts.resolved entries).addresses.isEmpty = true
          · simpa [hempty] using hnone.mp hempty
          · simpa [hempty] using fun h6 h4 => hempty (hnone.mpr (by simp [h6, h4]))
        · cases he
          rw [← ha]
          refine ⟨addresses_resolved entries n.attempts, _, map_interweave_entriesOf entries _, ?_⟩
          exact interwoven_interweave entries
      · cases hr

/-- A fresh network that has connected, up to the lookup. -/
def toLookup : List (NetworkAction Unit Nat) :=
  [.client (.call .connect), .client .hold, .read .next, .read .next]

/-- Two IPv4 addresses, an IPv6 address, and one of another family. -/
theorem resolve_interweaves_fourEntries :
    ∃ n' : Network Unit Nat, n'.attempts.addresses = [2, 1, 4] ∧
      ∃ interwoven, interwoven.map (·.2) = n'.attempts.addresses ∧
        Interwoven [(.ipv4, 1), (.ipv6, 2), (.other, 3), (.ipv4, 4)] interwoven := by
  obtain ⟨n', hrun, htest⟩ := run_of_exec
    (toLookup ++ [.read (.lookup (some [(.ipv4, 1), (.ipv6, 2), (.other, 3), (.ipv4, 4)]))])
    (fun n => n.attempts.addresses = [2, 1, 4]) (by decide +kernel)
  obtain ⟨n, -, hstep⟩ := hrun.of_snoc
  exact ⟨n', of_decide_eq_true htest, ((resolve_interweaves hstep).2 _ rfl).2⟩

end Network

end TrueMqtt
