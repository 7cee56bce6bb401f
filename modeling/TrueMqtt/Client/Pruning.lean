import TrueMqtt.Client.Agreement

/-!
# TrueMqtt.Client.Pruning

What the pruning of `unsubscribe` leaves behind.

A tree is pruned when each of its nodes has a callback or a child.  Then a node
stands for the paths with callbacks through it (`exists_callbacks`), and a tree
without callbacks is empty.  `subscribe` keeps a tree pruned; `unsubscribe` does
not erase an empty node that is named by the empty string, so it keeps the tree
pruned as long as no empty level loses its last path (`pruned_unsubscribe_iff`).
-/

namespace TrueMqtt

open AssocMap

variable {C : Type}

namespace Subscriptions

/-- Each node of the tree has a callback or a child. -/
def Pruned (m : Subscriptions C) : Prop :=
  ∀ path n, nodeAt path m = some n → n.isEmpty = false

theorem pruned_nil : Pruned ([] : Subscriptions C) := by
  intro path n h
  cases path with
  | nil => cases h
  | cons part rest => cases rest <;> cases h

/-- A tree is pruned if its roots are not empty and the trees below them are
pruned. -/
theorem pruned_iff {m : Subscriptions C} :
    Pruned m ↔ ∀ part n, m.lookup part = some n → n.isEmpty = false ∧ Pruned n.children := by
  constructor
  · intro h part n hn
    refine ⟨h [part] n hn, fun path n' hn' => ?_⟩
    cases path with
    | nil => cases hn'
    | cons q rest => exact h (part :: q :: rest) n' (by rw [nodeAt_cons_cons, hn]; exact hn')
  · intro h path n hn
    cases path with
    | nil => cases hn
    | cons part rest =>
        cases rest with
        | nil => exact (h part n hn).1
        | cons q rest =>
            rw [nodeAt_cons_cons] at hn
            obtain ⟨n₁, hn₁, hrest⟩ := Option.bind_eq_some_iff.mp hn
            exact (h part n₁ hn₁).2 (q :: rest) n hrest

/-- Below a root, the tree is pruned. -/
theorem pruned_tryEmplace {m : Subscriptions C} (h : Pruned m) (part : Str) :
    Pruned (tryEmplace part m).children := by
  unfold tryEmplace
  cases hn : m.lookup part with
  | none => exact pruned_nil
  | some n => exact (pruned_iff.mp h part n hn).2

/-- **Nodes and paths**: in a pruned tree that is not empty some path holds
callbacks. -/
theorem exists_callbacks {m : Subscriptions C} (h : Pruned m) (hne : m ≠ []) :
    ∃ path, callbacksAt path m ≠ [] := by
  -- the induction is on the size of the tree, along the first child of each node
  induction hs : sizeOf m using Nat.strong_induction_on generalizing m with
  | _ size ih =>
      obtain ⟨⟨part, n⟩, rest, rfl⟩ := List.exists_cons_of_ne_nil hne
      have hn : List.lookup part ((part, n) :: rest) = some n := List.lookup_cons_self
      obtain ⟨hempty, hchildren⟩ := pruned_iff.mp h part n hn
      by_cases hcb : n.callbacks = []
      · have hch : n.children ≠ [] := by
          intro hch
          simp [SubscriptionPart.isEmpty, hcb, hch] at hempty
        have hsize : sizeOf n.children < size := by
          obtain ⟨children, callbacks⟩ := n
          subst hs
          simp
          omega
        obtain ⟨path, hpath⟩ := ih _ hsize hchildren hch rfl
        cases path with
        | nil => exact absurd rfl hpath
        | cons q path =>
            refine ⟨part :: q :: path, ?_⟩
            rwa [callbacksAt_cons_cons, tryEmplace_of_lookup hn]
      · refine ⟨[part], ?_⟩
        rwa [callbacksAt_singleton, tryEmplace_of_lookup hn]

/-- A root is empty when no path through it holds callbacks. -/
theorem exists_callbacks_iff {m : Subscriptions C} {part : Str}
    (h : Pruned (tryEmplace part m).children) :
    (∃ path, [part] <+: path ∧ callbacksAt path m ≠ []) ↔
      (tryEmplace part m).isEmpty = false := by
  rw [SubscriptionPart.isEmpty, Bool.and_eq_false_iff, List.isEmpty_eq_false_iff,
    List.isEmpty_eq_false_iff]
  constructor
  · rintro ⟨path, ⟨rest, rfl⟩, hcb⟩
    cases rest with
    | nil =>
        left
        rwa [List.append_nil, callbacksAt_singleton] at hcb
    | cons q rest =>
        right
        intro hch
        rw [List.singleton_append, callbacksAt_cons_cons, hch, callbacksAt_empty] at hcb
        exact hcb rfl
  · rintro (hcb | hch)
    · exact ⟨[part], List.prefix_rfl, by rwa [callbacksAt_singleton]⟩
    · obtain ⟨path, hcb⟩ := exists_callbacks h hch
      cases path with
      | nil => exact absurd rfl hcb
      | cons q rest => exact ⟨part :: q :: rest, ⟨q :: rest, rfl⟩, by rwa [callbacksAt_cons_cons]⟩

/-! ## insertion -/

theorem pruned_insert_root {m : Subscriptions C} (h : Pruned m) {part : Str}
    {n : SubscriptionPart C} (hempty : n.isEmpty = false) (hn : Pruned n.children) :
    Pruned (AssocMap.insert part n m) := by
  rw [pruned_iff] at h ⊢
  intro part' n' hn'
  by_cases hp : part' = part
  · subst hp
    rw [lookup_insert_self] at hn'
    cases hn'
    exact ⟨hempty, hn⟩
  · rw [lookup_insert_ne hp] at hn'
    exact h part' n' hn'

theorem insert_ne_nil (callback : C) {path : List Str} (hne : path ≠ [])
    (m : Subscriptions C) : insert callback path m ≠ [] := by
  intro h
  have hcb := callbacksAt_insert callback hne m path
  rw [h, callbacksAt_empty, if_pos rfl] at hcb
  simp at hcb

theorem pruned_insert (callback : C) (path : List Str) {m : Subscriptions C} (h : Pruned m) :
    Pruned (insert callback path m) := by
  induction path generalizing m with
  | nil => exact h
  | cons part rest ih =>
      cases rest with
      | nil =>
          exact pruned_insert_root h (by simp [SubscriptionPart.isEmpty]) (pruned_tryEmplace h part)
      | cons q rest =>
          refine pruned_insert_root h ?_ (ih (pruned_tryEmplace h part))
          simp [SubscriptionPart.isEmpty, insert_ne_nil]

/-! ## removal -/

/-- One round of the pruning loop: the node at a part is updated, and erased if it is
empty and its part is not. -/
def putBack (part : Str) (n : SubscriptionPart C) (m : Subscriptions C) : Subscriptions C :=
  eraseNext (if n.isEmpty then part else []) (AssocMap.insert part n m)

theorem lookup_putBack_ne {part part' : Str} (h : part' ≠ part) (n : SubscriptionPart C)
    (m : Subscriptions C) : (putBack part n m).lookup part' = m.lookup part' := by
  unfold putBack eraseNext
  by_cases hn : n.isEmpty = true <;> cases part <;>
    simp [hn, lookup_insert_ne h, lookup_erase_ne h]

theorem lookup_putBack_self (part : Str) (n : SubscriptionPart C) (m : Subscriptions C) :
    (putBack part n m).lookup part =
      if n.isEmpty = true ∧ part ≠ [] then none else some n := by
  unfold putBack eraseNext
  by_cases hn : n.isEmpty = true <;> cases part <;> simp [hn]

/-- An update of `unsubscribe` leaves an empty root only where its part is empty. -/
theorem pruned_putBack_iff {m : Subscriptions C} (h : Pruned m) {part : Str}
    {n : SubscriptionPart C} :
    Pruned (putBack part n m) ↔ (part = [] → n.isEmpty = false) ∧ Pruned n.children := by
  have hself := lookup_putBack_self part n m
  constructor
  · intro hp
    rw [pruned_iff] at hp
    by_cases hempty : n.isEmpty = true
    · have hch : n.children = [] := by
        simp only [SubscriptionPart.isEmpty, Bool.and_eq_true, List.isEmpty_iff] at hempty
        exact hempty.2
      refine ⟨fun hpart => ?_, hch ▸ pruned_nil⟩
      rw [if_neg fun hc => hc.2 hpart] at hself
      exact (hp part n hself).1
    · rw [if_neg fun hc => hempty hc.1] at hself
      exact ⟨fun _ => (hp part n hself).1, (hp part n hself).2⟩
  · rintro ⟨hempty, hch⟩
    rw [pruned_iff] at h ⊢
    intro part' n' hn'
    by_cases hpart : part' = part
    · subst hpart
      rw [hself] at hn'
      split at hn'
      · cases hn'
      · next hkept =>
        cases hn'
        grind
    · rw [lookup_putBack_ne hpart] at hn'
      exact h part' n' hn'

theorem isEmpty_tryEmplace_putBack (part : Str) (n : SubscriptionPart C) (m : Subscriptions C) :
    (tryEmplace part (putBack part n m)).isEmpty = n.isEmpty := by
  rw [tryEmplace, lookup_putBack_self]
  split
  · next h => exact h.1.symm
  · rfl

theorem pruned_tryEmplace_putBack {n : SubscriptionPart C} (h : Pruned n.children) (part : Str)
    (m : Subscriptions C) : Pruned (tryEmplace part (putBack part n m)).children := by
  rw [tryEmplace, lookup_putBack_self]
  split
  · exact pruned_nil
  · exact h

/-- The loops of `unsubscribe`, from the root down. -/
theorem unsubscribe_cons {part : Str} {rest : List Str} {m m' : Subscriptions C}
    (h : unsubscribe (part :: rest) m = some m') :
    ∃ children callbacks, m' = putBack part (.mk children callbacks) m ∧
      (rest = [] ∧ children = (tryEmplace part m).children ∨
        unsubscribe rest (tryEmplace part m).children = some children) := by
  simp only [unsubscribe, Option.bind_eq_bind, Option.bind_eq_some_iff, Option.some.injEq] at h
  obtain ⟨⟨m₁, next⟩, hclear, rfl⟩ := h
  cases rest with
  | nil =>
      simp only [clearPath, Option.bind_eq_bind, Option.bind_eq_some_iff, Option.some.injEq,
        Prod.mk.injEq] at hclear
      obtain ⟨n, hn, rfl, rfl⟩ := hclear
      exact ⟨n.children, [], rfl, .inl ⟨rfl, by rw [tryEmplace_of_lookup hn]⟩⟩
  | cons q rest =>
      simp only [clearPath, Option.bind_eq_bind, Option.bind_eq_some_iff, Option.some.injEq,
        Prod.mk.injEq] at hclear
      obtain ⟨n, hn, ⟨children, next'⟩, hrec, rfl, rfl⟩ := hclear
      refine ⟨eraseNext next' children, n.callbacks, rfl, .inr ?_⟩
      rw [tryEmplace_of_lookup hn, unsubscribe, hrec]
      rfl

/-- Each prefix of a path that ends in an empty level is one of another path that
holds callbacks. -/
def SharesEmptyLevels (path : List Str) (m : Subscriptions C) : Prop :=
  ∀ p, p ++ [[]] <+: path →
    ∃ path', path' ≠ path ∧ p ++ [[]] <+: path' ∧ callbacksAt path' m ≠ []

/-- The empty levels of a path are its first level and those below its root. -/
theorem sharesEmptyLevels_cons {part : Str} {rest : List Str} {m : Subscriptions C} :
    SharesEmptyLevels (part :: rest) m ↔
      (part = [] → ∃ path', path' ≠ part :: rest ∧ [part] <+: path' ∧ callbacksAt path' m ≠ []) ∧
        SharesEmptyLevels rest (tryEmplace part m).children := by
  have hbelow : ∀ p tail : List Str, callbacksAt (part :: (p ++ [[]] ++ tail)) m =
      callbacksAt (p ++ [[]] ++ tail) (tryEmplace part m).children := by
    intro p tail
    cases p with
    | nil => exact callbacksAt_cons_cons part [] tail m
    | cons q p => exact callbacksAt_cons_cons part q _ m
  constructor
  · intro h
    refine ⟨?_, fun p hp => ?_⟩
    · rintro rfl
      exact h [] ⟨rest, rfl⟩
    · obtain ⟨path', hne, ⟨tail, rfl⟩, hcb⟩ := h (part :: p) (List.cons_prefix_cons.mpr ⟨rfl, hp⟩)
      refine ⟨p ++ [[]] ++ tail, fun heq => hne (congrArg (part :: ·) heq), ⟨tail, rfl⟩, ?_⟩
      rwa [← hbelow]
  · rintro ⟨hroot, hrest⟩ p hp
    cases p with
    | nil =>
        have hpart : [] = part := (List.cons_prefix_cons.mp hp).1
        obtain ⟨path', hne, hprefix, hcb⟩ := hroot hpart.symm
        exact ⟨path', hne, hpart ▸ hprefix, hcb⟩
    | cons q p =>
        obtain ⟨rfl, hp'⟩ := List.cons_prefix_cons.mp hp
        obtain ⟨path', hne, ⟨tail, rfl⟩, hcb⟩ := hrest p hp'
        refine ⟨q :: (p ++ [[]] ++ tail), fun heq => hne (List.cons.inj heq).2, ⟨tail, rfl⟩, ?_⟩
        rwa [hbelow]

/-- **Removal**: `unsubscribe` keeps the tree pruned if and only if it shares its
empty levels. -/
theorem pruned_unsubscribe_iff {path : List Str} {m m' : Subscriptions C} (h : Pruned m)
    (hu : unsubscribe path m = some m') : Pruned m' ↔ SharesEmptyLevels path m := by
  induction path generalizing m m' with
  | nil => simp [unsubscribe, clearPath] at hu
  | cons part rest ih =>
      obtain ⟨children, callbacks, hput, hchildren⟩ := unsubscribe_cons hu
      have hcb := callbacksAt_unsubscribe hu
      have hpruned : Pruned children ↔ SharesEmptyLevels rest (tryEmplace part m).children := by
        obtain ⟨rfl, rfl⟩ | hrec := hchildren
        · refine iff_of_true (pruned_tryEmplace h part) fun p hp => ?_
          simp at hp
        · exact ih (pruned_tryEmplace h part) hrec
      rw [sharesEmptyLevels_cons, hput, pruned_putBack_iff h, SubscriptionPart.children_mk, hpruned]
      refine and_congr_left fun hshares => imp_congr_right fun _ => ?_
      -- what is left of the node at the part is what the other paths through it hold
      have hbelow := pruned_tryEmplace_putBack (n := .mk children callbacks) (hpruned.mpr hshares)
        part m
      rw [← isEmpty_tryEmplace_putBack part (.mk children callbacks) m,
        ← exists_callbacks_iff hbelow, ← hput]
      refine exists_congr fun path' => ?_
      rw [hcb]
      split
      · next heq => simp [heq]
      · next hne => simp [hne]

/-- Every path that holds callbacks spells a filter. -/
def Spelled (m : Subscriptions C) : Prop :=
  ∀ path, callbacksAt path m ≠ [] → ∃ f, levels f = path

/-- In such a tree that is pruned, nothing is left without callbacks. -/
theorem eq_nil_of_pruned {m : Subscriptions C} (h : Pruned m) (hs : Spelled m)
    (hno : ∀ f, callbacksAt (levels f) m = []) : m = [] := by
  by_contra hne
  obtain ⟨path, hcb⟩ := exists_callbacks h hne
  obtain ⟨f, rfl⟩ := hs path hcb
  exact hcb (hno f)

end Subscriptions

open Subscriptions

namespace Client

variable {c c' : Client C} {e : Event C}

/-! ## runs of the client -/

theorem subscriptions_sendOrReconnect (sent : Bool) (c : Client C) :
    (c.sendOrReconnect sent).impl.subscriptions =
      if c.impl.state = .connected ∧ sent = false then [] else c.impl.subscriptions := by
  unfold sendOrReconnect
  by_cases hst : c.impl.state = .connected
  · cases sent <;> simp [hst, reconnect, Impl.disconnect, Impl.takePacketId]
  · simp [hst]

/-- The steps after which no empty node is left: an `unsubscribe` of a subscribed
topic shares the topic's empty levels, or fails to send and clears the tree. -/
def PrunesAll (c : Client C) : Event C → Prop
  | .unsubscribe topic sent =>
      c.impl.state ≠ .disconnected → topic ∈ c.impl.subscriptionTopics →
        (c.impl.state = .connected ∧ sent = false) ∨
          SharesEmptyLevels (levels topic) c.impl.subscriptions
  | _ => True

theorem spelled_step (h : Spelled c.impl.subscriptions) (hstep : Steps c e c') :
    Spelled c'.impl.subscriptions := by
  have hnil : Spelled ([] : Subscriptions C) := fun path hcb => absurd (callbacksAt_empty path) hcb
  have hcleared : ∀ (sent : Bool) (c : Client C), Spelled c.impl.subscriptions →
      Spelled (c.sendOrReconnect sent).impl.subscriptions := by
    intro sent c hc
    rw [subscriptions_sendOrReconnect]
    split
    · exact hnil
    · exact hc
  cases move_of_step hstep with
  | disconnect hst => exact hnil
  | @subscribe topic callback sent hst =>
      refine hcleared sent _ fun path hcb => ?_
      by_cases hpath : path = levels topic
      · exact ⟨topic, hpath.symm⟩
      · refine h path fun hnone => hcb ?_
        show callbacksAt path (Subscriptions.insert callback (levels topic) _) = []
        rw [callbacksAt_insert callback (levels_ne_nil topic), hnone, if_neg hpath]
        rfl
  | @unsubscribe topic sent i hst hmem hi =>
      obtain ⟨subscriptions, hsub, rfl⟩ := Option.map_eq_some_iff.mp hi
      refine hcleared sent _ fun path hcb => h path fun hnone => hcb ?_
      show callbacksAt path subscriptions = []
      rw [callbacksAt_unsubscribe hsub, hnone, ite_self]
  | ignored hignored => exact h
  | toPublishQueue hst htq =>
      obtain ⟨-, rfl⟩ | ⟨-, q, -, rfl⟩ := Impl.toPublishQueue_spec htq <;> exact h
  | connectionUp hc hi =>
      obtain ⟨id, rfl⟩ := Impl.resubscribe_spec hi
      exact h
  | setPublishQueue hst => exact h
  | setSendQueue hst => exact h
  | connect hst => exact h
  | connectionDown hc => exact h

theorem prunesAll_of_ignores (h : c.Ignores e) : c.PrunesAll e := by
  cases e with
  | unsubscribe topic sent =>
      intro hst hmem
      obtain hdis | hnot := h
      · exact absurd hdis hst
      · exact absurd hmem hnot
  | _ => trivial

/-- **Step lemma**: from a pruned tree, a step leads to a pruned tree exactly when
it prunes all. -/
theorem pruned_step_iff (h : Pruned c.impl.subscriptions) (hstep : Steps c e c') :
    Pruned c'.impl.subscriptions ↔ c.PrunesAll e := by
  cases move_of_step hstep with
  | disconnect hst => exact iff_of_true pruned_nil trivial
  | @subscribe topic callback sent hst =>
      refine iff_of_true ?_ trivial
      rw [subscriptions_sendOrReconnect]
      split
      · exact pruned_nil
      · exact pruned_insert callback (levels topic) h
  | @unsubscribe topic sent i hst hmem hi =>
      have hstate := state_removeSubscription hi
      obtain ⟨subscriptions, hsub, rfl⟩ := Option.map_eq_some_iff.mp hi
      simp only [PrunesAll, subscriptions_sendOrReconnect, hmem, ne_eq, hst, not_false_eq_true,
        true_imp_iff]
      split
      · next hfailed => exact iff_of_true pruned_nil (.inl hfailed)
      · next hsent =>
        rw [pruned_unsubscribe_iff h hsub, or_iff_right hsent]
  | ignored hignored => exact iff_of_true h (prunesAll_of_ignores hignored)
  | toPublishQueue hst htq =>
      obtain ⟨-, rfl⟩ | ⟨-, q, -, rfl⟩ := Impl.toPublishQueue_spec htq
      all_goals exact iff_of_true h trivial
  | connectionUp hc hi =>
      obtain ⟨id, rfl⟩ := Impl.resubscribe_spec hi
      exact iff_of_true h trivial
  | setPublishQueue hst => exact iff_of_true h trivial
  | setSendQueue hst => exact iff_of_true h trivial
  | connect hst => exact iff_of_true h trivial
  | connectionDown hc => exact iff_of_true h trivial

/-- **Pruning**: in a run whose steps prune all, each node of the tree has a callback
or a child, and the tree is empty once no filter has callbacks.  The first step that
does not prune all leaves an empty node. -/
theorem tree_pruned {es : List (Event C)} {c : Client C}
    (h : Run (Guarded Steps PrunesAll) {} es c) :
    Pruned c.impl.subscriptions ∧
      ((∀ f, c.impl.callbacksOf f = []) → c.impl.subscriptions = []) ∧
      ∀ e c', Steps c e c' → (Pruned c'.impl.subscriptions ↔ c.PrunesAll e) := by
  have hinv : Pruned c.impl.subscriptions ∧ Spelled c.impl.subscriptions := by
    refine h.invariant (I := fun c : Client C => Pruned c.impl.subscriptions ∧
      Spelled c.impl.subscriptions) ?_ ?_
    · exact ⟨pruned_nil, fun path hcb => absurd (callbacksAt_empty path) hcb⟩
    · rintro s e s' ⟨hp, hs⟩ ⟨hall, hstep⟩
      exact ⟨(pruned_step_iff hp hstep).mpr hall, spelled_step hs hstep⟩
  exact ⟨hinv.1, eq_nil_of_pruned hinv.1 hinv.2, fun e c' => pruned_step_iff hinv.1⟩

/-- Subscribing `a/b` and `a/`, and unsubscribing `a/b` prunes all. -/
theorem tree_pruned_subscribe_unsubscribe :
    ∃ c : Client Nat, Run (Guarded Steps PrunesAll) {}
        [.connect, .subscribe [97, 47, 98] 0 true, .subscribe [97, 47] 1 true,
          .unsubscribe [97, 47, 98] true] c ∧ Pruned c.impl.subscriptions := by
  have hrun : ∃ c : Client Nat, Run (Guarded Steps PrunesAll) {}
      [.connect, .subscribe [97, 47, 98] 0 true, .subscribe [97, 47] 1 true,
        .unsubscribe [97, 47, 98] true] c := by
    refine ⟨_, Run.cons ⟨trivial, rfl⟩ (Run.cons ⟨trivial, rfl⟩ (Run.cons ⟨trivial, rfl⟩
      (Run.cons ⟨fun _ _ => .inr fun p hp => ?_, rfl⟩ .nil)))⟩
    -- no level of `a/b` is empty
    have hmem : [] ∈ levels [97, 47, 98] := hp.subset (by simp)
    exact absurd hmem (by decide)
  obtain ⟨c, hc⟩ := hrun
  exact ⟨c, hc, (tree_pruned hc).1⟩

/-- Unsubscribing `a/` leaves its node, named by the empty string, and that of `a`. -/
theorem empty_level_not_pruned :
    ∃ c : Client Nat, c.Reachable ∧ (∀ f, c.impl.callbacksOf f = []) ∧
      c.impl.subscriptions ≠ [] ∧ ¬ Pruned c.impl.subscriptions := by
  refine ⟨_, ⟨[.connect, .subscribe [97, 47] 0 true, .unsubscribe [97, 47] true],
    Run.cons rfl (Run.cons rfl (Run.cons rfl .nil))⟩, fun f => ?_, List.cons_ne_nil _ _,
    fun h => ?_⟩
  · have hsub : Subscriptions.unsubscribe (levels [97, 47])
        (Subscriptions.insert 0 (levels [97, 47]) []) =
          some [([97], .mk [([], .mk [] ([] : List Nat))] [])] := rfl
    refine (callbacksAt_unsubscribe hsub (levels f)).trans ?_
    rw [callbacksAt_insert 0 (levels_ne_nil [97, 47])]
    split
    · rfl
    · simp
  · exact absurd (h [[97], []] (.mk [] []) rfl) (by decide)

end Client

end TrueMqtt
