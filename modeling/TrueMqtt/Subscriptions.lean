import TrueMqtt.Lib.AssocMap
import TrueMqtt.Topic

/-!
# TrueMqtt.Subscriptions

The tree of active subscriptions (`m_subscriptions`) and the three walks over
it: the insertion of `Client::subscribe`, the removal and pruning of
`Client::unsubscribe`, and the search of `Impl::findSubscriptionMatch`.

`std::map<std::string, SubscriptionPart>` is an association list; the code
only finds, emplaces, erases and asks for emptiness, so the order of its
entries is never observed.  Each loop goes down the levels of a topic, and
each function here is structurally recursive on those levels.

`callbacksAt` reads the tree as a function from paths to callback lists.  The
specification lemmas `callbacksAt_insert` and `callbacksAt_unsubscribe` say what
the two updates do to that function: this is all the later modules use.
-/

namespace TrueMqtt

open AssocMap

/-- A node of the subscription tree (`Impl::SubscriptionPart`). -/
inductive SubscriptionPart (C : Type) where
  | mk (children : List (Str × SubscriptionPart C)) (callbacks : List C)

/-- The type of `m_subscriptions` and of `SubscriptionPart::children`. -/
abbrev Subscriptions (C : Type) := List (Str × SubscriptionPart C)

namespace SubscriptionPart

variable {C : Type}

def children : SubscriptionPart C → Subscriptions C
  | mk ch _ => ch

def callbacks : SubscriptionPart C → List C
  | mk _ cbs => cbs

/-- The node `try_emplace` creates. -/
def empty : SubscriptionPart C := mk [] []

@[simp] theorem children_mk (ch : Subscriptions C) (cbs : List C) : (mk ch cbs).children = ch := rfl

@[simp] theorem callbacks_mk (ch : Subscriptions C) (cbs : List C) :
    (mk ch cbs).callbacks = cbs := rfl

/-- The pruning test: no callbacks and no children. -/
def isEmpty (n : SubscriptionPart C) : Bool := n.callbacks.isEmpty && n.children.isEmpty

end SubscriptionPart

namespace Subscriptions

variable {C : Type}

/-! ## the three walks -/

/-- `try_emplace(part).first->second`: the node of a part, created when missing. -/
def tryEmplace (part : Str) (m : Subscriptions C) : SubscriptionPart C :=
  (m.lookup part).getD .empty

/-- The insertion loop of `subscribe`: walk down the levels, creating what is
missing, and append the callback to the last node. -/
def insert (callback : C) : List Str → Subscriptions C → Subscriptions C
  | [], m => m
  | [part], m =>
      let n := tryEmplace part m
      AssocMap.insert part (.mk n.children (n.callbacks ++ [callback])) m
  | part :: rest, m =>
      let n := tryEmplace part m
      AssocMap.insert part (.mk (insert callback rest n.children) n.callbacks) m

/-- `if (!remove_next.empty()) children.erase(children.find(remove_next))`: a
level named by the empty string is taken for "nothing to remove". -/
def eraseNext (removeNext : Str) (m : Subscriptions C) : Subscriptions C :=
  if removeNext.isEmpty then m else AssocMap.erase removeNext m

/-- The removal loops of `unsubscribe` below one map: clear the callbacks of the
last node and go back up, erasing in every node the child the round before
left in `remove_next`.  The result is the map with its nodes updated and the
`remove_next` it leaves for its owner.  `none` is a `find` that missed, whose
`end()` the code dereferences. -/
def clearPath : List Str → Subscriptions C → Option (Subscriptions C × Str)
  | [], _ => none
  | [part], m => do
      let n ← m.lookup part
      let n' : SubscriptionPart C := .mk n.children []
      some (AssocMap.insert part n' m, if n'.isEmpty then part else [])
  | part :: rest, m => do
      let n ← m.lookup part
      let (children, removeNext) ← clearPath rest n.children
      let n' : SubscriptionPart C := .mk (eraseNext removeNext children) n.callbacks
      some (AssocMap.insert part n' m, if n'.isEmpty then part else [])

/-- The whole removal of `unsubscribe`, the erasure at the root included. -/
def unsubscribe (path : List Str) (m : Subscriptions C) : Option (Subscriptions C) := do
  let (m', removeNext) ← clearPath path m
  some (eraseNext removeNext m')

/-- `findSubscriptionMatch`, on the levels of `topic_search`: the callbacks it
invokes, in order.  A node found for the part or for `+` has its callbacks run
whether or not the topic ends here; only the recursion asks for more levels. -/
def findSubscriptionMatch : List Str → Subscriptions C → List C
  | [], _ => []
  | part :: rest, m =>
      let visit (key : Str) : List C := match m.lookup key with
        | none => []
        | some n =>
            n.callbacks ++ (if rest.isEmpty then [] else findSubscriptionMatch rest n.children)
      visit part ++ visit plus ++ (match m.lookup hash with
        | none => []
        | some n => n.callbacks)

/-! ## the tree as a function of paths -/

/-- The node at a path. -/
def nodeAt : List Str → Subscriptions C → Option (SubscriptionPart C)
  | [], _ => none
  | [part], m => m.lookup part
  | part :: rest, m => (m.lookup part).bind fun n => nodeAt rest n.children

/-- The callbacks held at a path; none when the path does not exist. -/
def callbacksAt (path : List Str) (m : Subscriptions C) : List C :=
  match nodeAt path m with
  | none => []
  | some n => n.callbacks

theorem nodeAt_cons_cons (part q : Str) (rest : List Str) (m : Subscriptions C) :
    nodeAt (part :: q :: rest) m = (m.lookup part).bind fun n => nodeAt (q :: rest) n.children :=
  rfl

@[simp] theorem callbacksAt_nil (m : Subscriptions C) : callbacksAt [] m = [] := rfl

@[simp] theorem callbacksAt_empty (path : List Str) :
    callbacksAt path ([] : Subscriptions C) = [] := by
  cases path with
  | nil => rfl
  | cons part rest => cases rest <;> rfl

theorem callbacksAt_singleton (part : Str) (m : Subscriptions C) :
    callbacksAt [part] m = (tryEmplace part m).callbacks := by
  unfold callbacksAt nodeAt tryEmplace
  cases m.lookup part <;> rfl

theorem callbacksAt_cons_cons (part q : Str) (rest : List Str) (m : Subscriptions C) :
    callbacksAt (part :: q :: rest) m =
      callbacksAt (q :: rest) (tryEmplace part m).children := by
  unfold tryEmplace
  cases h : m.lookup part with
  | none =>
      rw [callbacksAt, nodeAt_cons_cons, h]
      exact (callbacksAt_empty _).symm
  | some n =>
      rw [callbacksAt, nodeAt_cons_cons, h]
      rfl

/-- Two maps with the same node at a part hold the same callbacks below it. -/
theorem callbacksAt_congr {part : Str} {m m' : Subscriptions C}
    (h : m.lookup part = m'.lookup part) (rest : List Str) :
    callbacksAt (part :: rest) m = callbacksAt (part :: rest) m' := by
  have he : tryEmplace part m = tryEmplace part m' := by rw [tryEmplace, tryEmplace, h]
  cases rest with
  | nil => rw [callbacksAt_singleton, callbacksAt_singleton, he]
  | cons q rest => rw [callbacksAt_cons_cons, callbacksAt_cons_cons, he]

@[simp] theorem tryEmplace_insert_self (part : Str) (n : SubscriptionPart C)
    (m : Subscriptions C) : tryEmplace part (AssocMap.insert part n m) = n := by
  simp [tryEmplace]

theorem tryEmplace_of_lookup {part : Str} {m : Subscriptions C} {n : SubscriptionPart C}
    (h : m.lookup part = some n) : tryEmplace part m = n := by
  simp [tryEmplace, h]

/-- A node whose path holds callbacks exists. -/
theorem isSome_nodeAt {path : List Str} {m : Subscriptions C} (h : callbacksAt path m ≠ []) :
    (nodeAt path m).isSome := by
  unfold callbacksAt at h
  cases hn : nodeAt path m with
  | none => simp [hn] at h
  | some n => rfl

/-! ## insertion -/

/-- **Insertion**: `subscribe` appends the callback at its own path and leaves
every other path as it was. -/
theorem callbacksAt_insert (callback : C) {path : List Str} (hne : path ≠ [])
    (m : Subscriptions C) (path' : List Str) :
    callbacksAt path' (insert callback path m) =
      callbacksAt path' m ++ if path' = path then [callback] else [] := by
  induction path generalizing m path' with
  | nil => contradiction
  | cons part rest ih =>
      cases path' with
      | nil => simp
      | cons part' rest' =>
          by_cases hp : part' = part
          · subst hp
            cases rest with
            | nil =>
                cases rest' with
                | nil => simp [insert, callbacksAt_singleton]
                | cons q' rest' =>
                    rw [callbacksAt_cons_cons, callbacksAt_cons_cons]
                    simp [insert]
            | cons q rest =>
                cases rest' with
                | nil => simp [insert, callbacksAt_singleton]
                | cons q' rest' =>
                    rw [callbacksAt_cons_cons, callbacksAt_cons_cons]
                    simp [insert, ih]
          · -- another root: the inserted key is not looked at
            have hl : (insert callback (part :: rest) m).lookup part' = m.lookup part' := by
              cases rest <;> exact lookup_insert_ne hp _ _
            rw [callbacksAt_congr hl]
            simp [hp]

/-! ## removal -/

/-- The key `remove_next` names an empty node, so that erasing it loses no
callback. -/
def Prunable (removeNext : Str) (m : Subscriptions C) : Prop :=
  removeNext ≠ [] → ∃ n, m.lookup removeNext = some n ∧ n.isEmpty = true

theorem callbacksAt_eraseNext {removeNext : Str} {m : Subscriptions C}
    (h : Prunable removeNext m) (path : List Str) :
    callbacksAt path (eraseNext removeNext m) = callbacksAt path m := by
  unfold eraseNext
  cases removeNext with
  | nil => rfl
  | cons c cs =>
      obtain ⟨n, hn, hempty⟩ := h (by simp)
      simp only [SubscriptionPart.isEmpty, Bool.and_eq_true, List.isEmpty_iff] at hempty
      cases path with
      | nil => rfl
      | cons part rest =>
          by_cases hp : part = c :: cs
          · subst hp
            have hgone : tryEmplace (c :: cs) (AssocMap.erase (c :: cs) m) = .empty := by
              simp [tryEmplace]
            cases rest with
            | nil =>
                simp [callbacksAt_singleton, hgone, tryEmplace_of_lookup hn, hempty.1,
                  SubscriptionPart.empty]
            | cons q rest =>
                rw [callbacksAt_cons_cons, callbacksAt_cons_cons]
                simp [hgone, tryEmplace_of_lookup hn, hempty.2, SubscriptionPart.empty]
          · exact callbacksAt_congr (lookup_erase_ne hp m) rest

/-- What a pruning round leaves in `remove_next` is prunable. -/
theorem prunable_insert (part : Str) (n : SubscriptionPart C) (m : Subscriptions C) :
    Prunable (if n.isEmpty then part else []) (AssocMap.insert part n m) := by
  intro hne
  by_cases h : n.isEmpty = true
  · rw [if_pos h]
    exact ⟨n, by simp, h⟩
  · rw [if_neg h] at hne
    contradiction

/-- The removal loops clear their own path and no other one. -/
theorem callbacksAt_clearPath {path : List Str} {m m' : Subscriptions C} {removeNext : Str}
    (h : clearPath path m = some (m', removeNext)) :
    Prunable removeNext m' ∧ ∀ path', callbacksAt path' m' =
      if path' = path then [] else callbacksAt path' m := by
  induction path generalizing m m' removeNext with
  | nil => simp [clearPath] at h
  | cons part rest ih =>
      cases rest with
      | nil =>
          simp only [clearPath, Option.bind_eq_bind, Option.bind_eq_some_iff, Option.some.injEq,
            Prod.mk.injEq] at h
          obtain ⟨n, hn, rfl, rfl⟩ := h
          refine ⟨prunable_insert _ _ _, fun path' => ?_⟩
          cases path' with
          | nil => simp
          | cons part' rest' =>
              by_cases hp : part' = part
              · subst hp
                cases rest' with
                | nil => simp [callbacksAt_singleton]
                | cons q' rest' =>
                    rw [callbacksAt_cons_cons, callbacksAt_cons_cons]
                    simp [tryEmplace_of_lookup hn]
              · rw [callbacksAt_congr (lookup_insert_ne hp _ m)]
                simp [hp]
      | cons q rest =>
          simp only [clearPath, Option.bind_eq_bind, Option.bind_eq_some_iff, Option.some.injEq,
            Prod.mk.injEq] at h
          obtain ⟨n, hn, ⟨children, next⟩, hrec, rfl, rfl⟩ := h
          obtain ⟨hprune, hcb⟩ := ih hrec
          refine ⟨prunable_insert _ _ _, fun path' => ?_⟩
          cases path' with
          | nil => simp
          | cons part' rest' =>
              by_cases hp : part' = part
              · subst hp
                cases rest' with
                | nil => simp [callbacksAt_singleton, tryEmplace_of_lookup hn]
                | cons q' rest' =>
                    rw [callbacksAt_cons_cons, callbacksAt_cons_cons]
                    simp [tryEmplace_of_lookup hn, callbacksAt_eraseNext hprune, hcb]
              · rw [callbacksAt_congr (lookup_insert_ne hp _ m)]
                simp [hp]

/-- **Removal**: `unsubscribe` empties its own path and leaves every other path
as it was, whatever it prunes. -/
theorem callbacksAt_unsubscribe {path : List Str} {m m' : Subscriptions C}
    (h : unsubscribe path m = some m') (path' : List Str) :
    callbacksAt path' m' = if path' = path then [] else callbacksAt path' m := by
  simp only [unsubscribe, Option.bind_eq_bind, Option.bind_eq_some_iff, Option.some.injEq] at h
  obtain ⟨⟨m₁, next⟩, hclear, rfl⟩ := h
  obtain ⟨hprune, hcb⟩ := callbacksAt_clearPath hclear
  rw [callbacksAt_eraseNext hprune, hcb]

/-- The removal loops meet no missing key exactly when the path exists. -/
theorem isSome_clearPath (path : List Str) (m : Subscriptions C) :
    (clearPath path m).isSome = (nodeAt path m).isSome := by
  induction path generalizing m with
  | nil => rfl
  | cons part rest ih =>
      cases rest with
      | nil => cases h : m.lookup part <;> simp [clearPath, nodeAt, h]
      | cons q rest =>
          cases h : m.lookup part with
          | none => simp [clearPath, nodeAt, h]
          | some n =>
              have ihn := ih n.children
              cases hc : clearPath (q :: rest) n.children <;>
                simp_all [clearPath, nodeAt_cons_cons]

theorem isSome_unsubscribe (path : List Str) (m : Subscriptions C) :
    (unsubscribe path m).isSome = (nodeAt path m).isSome := by
  rw [← isSome_clearPath]
  cases h : clearPath path m <;> simp [unsubscribe, h]

end Subscriptions

end TrueMqtt
