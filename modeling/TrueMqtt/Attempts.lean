import Mathlib.Data.List.Pairwise
import TrueMqtt.KeepAlive
import TrueMqtt.Lib.AssocMap
import TrueMqtt.Lib.Handles

/-!
# TrueMqtt.Attempts

The sockets of a `Connection`: the addresses of the current resolution, the
attempts pending in `m_sockets`, and `m_socket` (`resolve`, `connectToAny`,
`tryNextAddress` and `connect` of `Connection.cpp`, and the `closesocket` calls of
`runRead` and `socketError`).

What the operating system answers in a call of `connectToAny` is its argument
(`Turn`): what `select` and SO_ERROR report, what `socket` and `::connect` do, and
three readings of the clock.  Any descriptor that is not open may come back from
`socket`.  The calls go through the addresses in order, and settle for the first
attempt that succeeds (`first_connected`).

Times are in nanoseconds.
-/

namespace TrueMqtt

/-- What becomes of `socket` and of `::connect` in `Connection::connect`. -/
inductive Dial where
  | noSocket
  /-- `::connect` fails, with an error other than EINPROGRESS -/
  | refused (fd : Nat)
  | pending (fd : Nat)
deriving DecidableEq, Repr

/-- What `select` reports within its 100 ms. -/
inductive Polled where
  | error
  | idle
  /-- the sockets in `write_fds`, and those whose SO_ERROR is set -/
  | ready (writable failed : List Nat)
deriving DecidableEq, Repr

/-- What the environment decides in a call of `connectToAny`. -/
structure Turn where
  polled : Polled := .idle
  dial : Dial := .noSocket
  /-- the clock at the test of the 250 ms -/
  idleAt : Nat := 0
  /-- the clock at `m_last_attempt = now` -/
  attemptAt : Nat := 0
  /-- the clock at the test of `m_connection_timeout` -/
  timeoutAt : Nat := 0
deriving DecidableEq, Repr

/-- The sockets of a connection and, from `handles` on, what happened so far. -/
structure Attempts (A : Type) where
  addresses : List A := []
  addressCurrent : Nat := 0
  lastAttempt : Nat := 0
  sockets : List Nat := []
  socketToAddress : List (Nat × A) := []
  /-- `socket_connected`, from its choice to its store -/
  socketConnected : Option Nat := none
  /-- `m_socket` -/
  socket : Option Nat := none
  handles : Handles Nat := {}
  /-- the addresses `connect` was called with since `resolve` -/
  dialed : List A := []
  /-- the number of the attempt a descriptor was opened for -/
  attempt : Nat → Nat := fun _ => 0
  /-- `m_socket_to_address` was read at a key it does not have -/
  missed : Bool := false

/-- `socket` returns a descriptor that is not open. -/
def Dial.fresh (handles : Handles Nat) : Dial → Bool
  | noSocket => true
  | refused fd | pending fd => fd ∉ handles.live

/-- `ai_family`. -/
inductive Family where
  | ipv4
  | ipv6
  | other
deriving DecidableEq, Repr

/-- The addresses of a family, in the order of the lookup. -/
def ofFamily {A : Type} (family : Family) (found : List (Family × A)) : List A :=
  (found.filter (·.1 = family)).map (·.2)

/-- The loop of `resolve` over the IPv6 and the IPv4 addresses. -/
def interweave {A : Type} : List A → List A → List A
  | [], ipv4 => ipv4
  | a :: ipv6, [] => a :: ipv6
  | a :: ipv6, b :: ipv4 => a :: b :: interweave ipv6 ipv4

namespace Attempts

variable {A : Type}

/-! ## `resolve` -/

/-- `resolve` up to the lookup. -/
def resolve (a : Attempts A) : Attempts A :=
  { a with addressCurrent := 0, socket := none, addresses := [], dialed := [] }

/-- `resolve`, with what the lookup has found. -/
def resolved (found : List (Family × A)) (a : Attempts A) : Attempts A :=
  { a with addresses := interweave (ofFamily .ipv6 found) (ofFamily .ipv4 found) }

/-! ## `connectToAny` -/

def connect (address : A) (d : Dial) (a : Attempts A) : Attempts A :=
  let a' := { a with dialed := a.dialed ++ [address] }
  match d with
  | .noSocket => a'
  | .refused fd => { a' with handles := (a.handles.openAs fd).close fd }
  | .pending fd =>
      { a' with
        handles := a.handles.openAs fd
        socketToAddress := AssocMap.insert fd address a.socketToAddress
        sockets := a.sockets ++ [fd]
        attempt := fun k => if k = fd then a.dialed.length else a.attempt k }

def tryNextAddress (t : Turn) (a : Attempts A) : Attempts A × Bool :=
  if h : a.addressCurrent < a.addresses.length then
    ({ a with lastAttempt := t.attemptAt, addressCurrent := a.addressCurrent + 1 }.connect
      a.addresses[a.addressCurrent] t.dial, true)
  else (a, false)

/-- `m_socket_to_address[fd]`, for a text of the log. -/
def readAddress (fd : Nat) (a : Attempts A) : Attempts A :=
  { a with missed := a.missed || (a.socketToAddress.lookup fd).isNone }

/-- The body of the loop over `m_sockets`, with the sockets passed in `sockets`. -/
def sweepOne (writable failed : List Nat) (fd : Nat) (a : Attempts A) : Attempts A :=
  if fd ∈ failed then
    { a.readAddress fd with
      handles := a.handles.close fd
      socketToAddress := AssocMap.erase fd a.socketToAddress }
  else
    { a with
      sockets := a.sockets ++ [fd]
      socketConnected :=
        if a.socketConnected = none ∧ fd ∈ writable then some fd else a.socketConnected }

/-- The loop over `m_sockets`, from these sockets on. -/
def sweep (writable failed : List Nat) : List Nat → Attempts A → Attempts A
  | [], a => a
  | fd :: fds, a => sweep writable failed fds (a.sweepOne writable failed fd)

/-- The loop over `m_sockets`. -/
def swept (writable failed : List Nat) (a : Attempts A) : Attempts A :=
  { a with sockets := [], socketConnected := none }.sweep writable failed a.sockets

/-- Close these sockets, and forget all that are pending. -/
def closeSockets (fds : List Nat) (a : Attempts A) : Attempts A :=
  { a with handles := a.handles.closeAll fds, socketToAddress := [], sockets := [] }

/-- `connectToAny` up to `m_socket = socket_connected`, with no stop request. -/
def connectToAny (timeout : Nat) (t : Turn) (a : Attempts A) : Attempts A × Attempt :=
  if a.sockets = [] then
    let (a', tried) := a.tryNextAddress t
    (a', if tried then .pending else .exhausted)
  else
    match t.polled with
    | .error => (a, .pending)
    | .idle =>
        if t.idleAt < a.lastAttempt + ms 250 then (a, .pending)
        else
          let (a', tried) := a.tryNextAddress t
          if tried then (a', .pending)
          else if t.timeoutAt < a'.lastAttempt + ms timeout then (a', .pending)
          else (a'.closeSockets a'.sockets, .exhausted)
    | .ready writable failed =>
        let a' := a.swept writable failed
        match a'.socketConnected with
        | none => (a', .pending)
        | some fd =>
            ((a'.readAddress fd).closeSockets (a'.sockets.filter (· != fd)), .established)

/-- `m_socket = socket_connected`. -/
def storeSocket (a : Attempts A) : Attempts A :=
  { a with socket := a.socketConnected, socketConnected := none }

/-! ## the other ends of `m_socket` -/

/-- `closesocket(m_socket)`; there is nothing to close under INVALID_SOCKET. -/
def closeSocket (a : Attempts A) : Attempts A :=
  { a with handles := a.handles.closeAll a.socket.toList }

/-- `m_socket = INVALID_SOCKET`. -/
def invalidate (a : Attempts A) : Attempts A := { a with socket := none }

/-! ## what a call does -/

variable {a a' : Attempts A} {timeout : Nat} {t : Turn} {r : Attempt}

/-- `tryNextAddress` with an address left. -/
def tried (t : Turn) (a : Attempts A) (h : a.addressCurrent < a.addresses.length) : Attempts A :=
  { a with lastAttempt := t.attemptAt, addressCurrent := a.addressCurrent + 1 }.connect
    a.addresses[a.addressCurrent] t.dial

/-- What one call of `connectToAny` can do. -/
inductive Called (t : Turn) (a : Attempts A) : Attempts A → Attempt → Prop
  | waits : Called t a a .pending
  | tries (h : a.addressCurrent < a.addresses.length) : Called t a (a.tried t h) .pending
  | gaveUp (h : a.addresses.length ≤ a.addressCurrent) (hs : a.sockets = []) :
      Called t a a .exhausted
  | timedOut (h : a.addresses.length ≤ a.addressCurrent) :
      Called t a (a.closeSockets a.sockets) .exhausted
  | swept {writable failed : List Nat} (hp : t.polled = .ready writable failed)
      (hn : (a.swept writable failed).socketConnected = none) :
      Called t a (a.swept writable failed) .pending
  | connected {writable failed : List Nat} {fd : Nat} (hp : t.polled = .ready writable failed)
      (hfd : (a.swept writable failed).socketConnected = some fd) :
      Called t a
        (((a.swept writable failed).readAddress fd).closeSockets
          ((a.swept writable failed).sockets.filter (· != fd)))
        .established

theorem called_of_connectToAny (h : a.connectToAny timeout t = (a', r)) : Called t a a' r := by
  by_cases hlt : a.addressCurrent < a.addresses.length
  · have hnext : a.tryNextAddress t = (a.tried t hlt, true) := dif_pos hlt
    simp only [connectToAny, hnext, if_true] at h
    repeat' split at h
    all_goals cases h
    · exact .tries hlt
    · exact .waits
    · exact .waits
    · exact .tries hlt
    · exact .swept ‹_› ‹_›
    · exact .connected ‹_› ‹_›
  · have hnext : a.tryNextAddress t = (a, false) := dif_neg hlt
    have hle : a.addresses.length ≤ a.addressCurrent := Nat.le_of_not_lt hlt
    simp only [connectToAny, hnext, Bool.false_eq_true, if_false] at h
    repeat' split at h
    all_goals cases h
    · exact .gaveUp hle ‹_›
    · exact .waits
    · exact .waits
    · exact .waits
    · exact .timedOut hle
    · exact .swept ‹_› ‹_›
    · exact .connected ‹_› ‹_›

/-! ## the open descriptors -/

/-- The descriptors open are those pending, the one chosen and `own`. -/
def Holds (a : Attempts A) (own : List Nat) : Prop :=
  a.handles.Holds (a.sockets ++ (a.socketConnected.toList ++ own))

variable {own : List Nat} {fd : Nat} {fds writable failed : List Nat}

theorem holds_connect {address : A} {d : Dial} (h : a.Holds own)
    (hd : d.fresh a.handles = true) : (a.connect address d).Holds own := by
  cases d with
  | noSocket => exact h
  | refused fd => exact (Handles.Holds.openAs h (of_decide_eq_true hd)).close
  | pending fd =>
      have hopen := Handles.Holds.openAs h (of_decide_eq_true hd)
      refine hopen.perm ?_
      show (fd :: (a.sockets ++ _)).Perm ((a.sockets ++ [fd]) ++ _)
      rw [List.append_assoc]
      exact List.perm_middle.symm

theorem holds_sweep (h : a.handles.Holds (a.sockets ++ (fds ++ own))) :
    (a.sweep writable failed fds).handles.Holds
      ((a.sweep writable failed fds).sockets ++ own) := by
  induction fds generalizing a with
  | nil => exact h
  | cons fd fds ih =>
      apply ih
      unfold sweepOne
      split
      · exact (h.perm List.perm_middle).close
      · refine h.perm ?_
        show (a.sockets ++ (fd :: (fds ++ own))).Perm ((a.sockets ++ [fd]) ++ (fds ++ own))
        rw [List.append_assoc, List.singleton_append]

/-- The loop keeps the sockets that are not in error state. -/
theorem sockets_sweep (a : Attempts A) :
    (a.sweep writable failed fds).sockets = a.sockets ++ fds.filter (· ∉ failed) := by
  induction fds generalizing a with
  | nil => exact (List.append_nil _).symm
  | cons fd fds ih =>
      rw [sweep, ih]
      unfold sweepOne
      by_cases hf : fd ∈ failed
      · rw [if_pos hf, List.filter_cons_of_neg (by simpa using hf)]
        rfl
      · rw [if_neg hf, List.filter_cons_of_pos (by simpa using hf)]
        exact List.append_assoc _ _ _

/-- The loop chooses the first socket that is writable and not in error state. -/
theorem socketConnected_sweep (a : Attempts A) :
    (a.sweep writable failed fds).socketConnected =
      a.socketConnected.or (fds.find? fun fd => fd ∉ failed ∧ fd ∈ writable) := by
  induction fds generalizing a with
  | nil => exact (Option.or_none).symm
  | cons fd fds ih =>
      rw [sweep, ih, List.find?_cons]
      unfold sweepOne
      by_cases hf : fd ∈ failed
      · simp [hf, readAddress]
      · by_cases hw : fd ∈ writable
        · cases a.socketConnected <;> simp [hf, hw]
        · simp [hf, hw]

/-- The first of the sockets, in the order of `m_sockets`, that has connected. -/
theorem socketConnected_swept (a : Attempts A) :
    (a.swept writable failed).socketConnected =
      a.sockets.find? fun fd => fd ∉ failed ∧ fd ∈ writable := by
  rw [swept, socketConnected_sweep, Option.none_or]

theorem mem_sockets_swept (h : (a.swept writable failed).socketConnected = some fd) :
    fd ∈ (a.swept writable failed).sockets := by
  rw [socketConnected_swept] at h
  have hmem := List.mem_of_find?_eq_some h
  have hok : fd ∉ failed ∧ fd ∈ writable := by simpa using List.find?_some h
  rw [swept, sockets_sweep]
  exact List.mem_append_right _ (List.mem_filter.mpr ⟨hmem, decide_eq_true hok.1⟩)

theorem holds_swept (h : a.Holds own) (hn : a.socketConnected = none) :
    (a.swept writable failed).handles.Holds ((a.swept writable failed).sockets ++ own) := by
  apply holds_sweep
  have hh : a.handles.Holds (a.sockets ++ (a.socketConnected.toList ++ own)) := h
  rw [hn] at hh
  exact hh

/-- Every descriptor opened is pending, or chosen, or closed. -/
theorem holds_called (h : a.Holds own) (hn : a.socketConnected = none)
    (hd : t.dial.fresh a.handles = true) (hc : Called t a a' r) : a'.Holds own := by
  cases hc with
  | waits => exact h
  | tries hlt => exact holds_connect h hd
  | gaveUp hle hs => exact h
  | timedOut hle => exact Handles.Holds.closeAll h
  | swept hp hnone =>
      rw [Holds, hnone]
      exact holds_swept h hn
  | @connected writable failed fd hp hfd =>
      have hh : (a.swept writable failed).handles.Holds _ := holds_swept h hn
      have hnodup := (List.nodup_append.mp hh.nodup).1
      have hmem := mem_sockets_swept hfd
      have hsplit : (a.swept writable failed).sockets.Perm
          (fd :: (a.swept writable failed).sockets.filter (· != fd)) := by
        rw [← hnodup.erase_eq_filter]
        exact List.perm_cons_erase hmem
      have hchosen := hh.perm ((hsplit.append_right own).trans List.perm_middle.symm)
      rw [Holds]
      show (((a.swept writable failed).handles.closeAll _).Holds
        ([] ++ ((a.swept writable failed).socketConnected.toList ++ own)))
      rw [hfd]
      exact hchosen.closeAll

/-- `m_socket` is the socket chosen. -/
theorem holds_storeSocket (h : a.Holds []) : a.storeSocket.Holds a.storeSocket.socket.toList := by
  have hh : a.handles.Holds (a.sockets ++ (a.socketConnected.toList ++ [])) := h
  rw [List.append_nil] at hh
  exact hh

theorem holds_closeSocket (h : a.Holds a.socket.toList) : a.closeSocket.Holds [] := by
  have hh : a.handles.Holds (a.sockets ++ (a.socketConnected.toList ++ a.socket.toList)) := h
  rw [← List.append_assoc] at hh
  show (a.handles.closeAll a.socket.toList).Holds (a.sockets ++ (a.socketConnected.toList ++ []))
  rw [List.append_nil]
  exact (hh.perm List.perm_append_comm).closeAll

/-- A call leaves a chosen socket only to be stored, and nothing pending when it is
over. -/
theorem results_called (hn : a.socketConnected = none) (hc : Called t a a' r) :
    (r = .established ↔ a'.socketConnected.isSome = true) ∧ (r ≠ .pending → a'.sockets = []) := by
  cases hc with
  | waits => simp [hn]
  | tries hlt =>
      have hkeep : (a.tried t hlt).socketConnected = a.socketConnected := by
        unfold tried connect
        split <;> rfl
      simp [hkeep, hn]
  | gaveUp hle hs => simp [hn, hs]
  | timedOut hle => simp [closeSockets, hn]
  | swept hp hnone => simp [hnone]
  | connected hp hfd => simp [closeSockets, readAddress, hfd]

theorem frame_sweep (a : Attempts A) :
    (a.sweep writable failed fds).addresses = a.addresses ∧
      (a.sweep writable failed fds).socket = a.socket := by
  induction fds generalizing a with
  | nil => exact ⟨rfl, rfl⟩
  | cons fd fds ih =>
      have hone : (a.sweepOne writable failed fd).addresses = a.addresses ∧
          (a.sweepOne writable failed fd).socket = a.socket := by
        unfold sweepOne
        split <;> exact ⟨rfl, rfl⟩
      obtain ⟨haddresses, hsocket⟩ := ih (a.sweepOne writable failed fd)
      exact ⟨haddresses.trans hone.1, hsocket.trans hone.2⟩

/-- A call changes neither the addresses nor `m_socket`. -/
theorem frame_called (hc : Called t a a' r) :
    a'.addresses = a.addresses ∧ a'.socket = a.socket := by
  cases hc with
  | waits => exact ⟨rfl, rfl⟩
  | tries hlt =>
      unfold tried connect
      split <;> exact ⟨rfl, rfl⟩
  | gaveUp hle hs => exact ⟨rfl, rfl⟩
  | timedOut hle => exact ⟨rfl, rfl⟩
  | swept hp hnone => exact frame_sweep { a with sockets := [], socketConnected := none }
  | connected hp hfd => exact frame_sweep { a with sockets := [], socketConnected := none }

/-! ## the order of the attempts -/

/-- The attempts follow the addresses of the current resolution, and `pending` are
those that are not over, which `m_socket_to_address` has. -/
structure Ordered (a : Attempts A) (pending : List Nat) : Prop where
  dialed : a.dialed = a.addresses.take a.addressCurrent
  bound : a.addressCurrent ≤ a.addresses.length
  order : pending.Pairwise fun i j => a.attempt i < a.attempt j
  address : ∀ fd ∈ pending, a.attempt fd < a.addressCurrent ∧
    a.socketToAddress.lookup fd = a.addresses[a.attempt fd]?
  stale : ∀ fd, fd ∉ pending → a.socketToAddress.lookup fd = none
  missed : a.missed = false

variable {pending : List Nat}

theorem ordered_closeSockets (h : a.Ordered pending) : (a.closeSockets fds).Ordered [] where
  dialed := h.dialed
  bound := h.bound
  order := .nil
  address := fun _ hfd => (nomatch hfd)
  stale := fun _ _ => rfl
  missed := h.missed

/-- The order is that of `m_addresses` and `m_socket_to_address` alone. -/
theorem ordered_of_same (h : a.Ordered pending) (sockets : List Nat)
    (socketConnected socket : Option Nat) (handles : Handles Nat) :
    { a with
      sockets := sockets, socketConnected := socketConnected, socket := socket,
      handles := handles }.Ordered pending :=
  ⟨h.dialed, h.bound, h.order, h.address, h.stale, h.missed⟩

/-- A pending socket has its address. -/
theorem lookup_of_ordered (h : a.Ordered pending) (hfd : fd ∈ pending) :
    ∃ address ∈ a.addresses, a.socketToAddress.lookup fd = some address := by
  obtain ⟨hlt, hlookup⟩ := h.address fd hfd
  have hlen := Nat.lt_of_lt_of_le hlt h.bound
  exact ⟨_, List.getElem_mem hlen, hlookup.trans (List.getElem?_eq_getElem hlen)⟩

/-- Reading the address of a pending socket does not miss. -/
theorem readAddress_of_ordered (h : a.Ordered pending) (hfd : fd ∈ pending) :
    a.readAddress fd = a := by
  obtain ⟨address, -, hlookup⟩ := lookup_of_ordered h hfd
  unfold readAddress
  rw [hlookup, Option.isNone_some, Bool.or_false]

theorem ordered_tried (h : a.Ordered a.sockets) (hlt : a.addressCurrent < a.addresses.length)
    (hnew : ∀ fd, t.dial = .pending fd → fd ∉ a.sockets) :
    (a.tried t hlt).Ordered (a.tried t hlt).sockets := by
  have hdialed : a.dialed ++ [a.addresses[a.addressCurrent]] =
      a.addresses.take (a.addressCurrent + 1) := by
    rw [h.dialed, List.take_append_getElem]
  have hlater : ∀ fd ∈ a.sockets, a.attempt fd < a.addressCurrent + 1 ∧
      a.socketToAddress.lookup fd = a.addresses[a.attempt fd]? := by
    intro fd hfd
    obtain ⟨hlt', hlookup⟩ := h.address fd hfd
    exact ⟨Nat.lt_succ_of_lt hlt', hlookup⟩
  unfold tried connect
  split
  · exact ⟨hdialed, hlt, h.order, hlater, h.stale, h.missed⟩
  · exact ⟨hdialed, hlt, h.order, hlater, h.stale, h.missed⟩
  · next fd hdial =>
    have hfd := hnew fd hdial
    have hcount : a.dialed.length = a.addressCurrent := by
      rw [h.dialed, List.length_take, Nat.min_eq_left h.bound]
    have hother : ∀ k ∈ a.sockets, k ≠ fd := fun k hk he => hfd (he ▸ hk)
    dsimp only
    refine ⟨hdialed, hlt, ?_, ?_, ?_, h.missed⟩
    · refine List.pairwise_append.mpr ⟨?_, List.pairwise_singleton _ _, ?_⟩
      · refine h.order.imp_of_mem fun {i j} hi hj hij => ?_
        show (if i = fd then _ else a.attempt i) < (if j = fd then _ else a.attempt j)
        rwa [if_neg (hother i hi), if_neg (hother j hj)]
      · intro k hk j hj
        show (if k = fd then _ else a.attempt k) < (if j = fd then a.dialed.length else _)
        rw [if_neg (hother k hk), if_pos (List.mem_singleton.mp hj), hcount]
        exact (h.address k hk).1
    · intro k hk
      dsimp only
      obtain hk | hk := List.mem_append.mp hk
      · rw [if_neg (hother k hk), AssocMap.lookup_insert_ne (hother k hk)]
        exact hlater k hk
      · rw [List.mem_singleton.mp hk, if_pos rfl, AssocMap.lookup_insert_self, hcount]
        exact ⟨Nat.lt_succ_self _, (List.getElem?_eq_getElem hlt).symm⟩
    · intro k hk
      rw [List.mem_append, List.mem_singleton, not_or] at hk
      dsimp only
      rw [AssocMap.lookup_insert_ne hk.2]
      exact h.stale k hk.1

theorem ordered_sweepOne (h : a.Ordered (a.sockets ++ fd :: fds)) :
    (a.sweepOne writable failed fd).Ordered
      ((a.sweepOne writable failed fd).sockets ++ fds) := by
  have hmem : fd ∈ a.sockets ++ fd :: fds := List.mem_append_right _ List.mem_cons_self
  unfold sweepOne
  split
  · rw [readAddress_of_ordered h hmem]
    have hfewer : (a.sockets ++ fds).Sublist (a.sockets ++ fd :: fds) :=
      (List.sublist_cons_self fd fds).append_left a.sockets
    have hsplit : ∀ k, k ∈ a.sockets ++ fd :: fds ↔ k = fd ∨ k ∈ a.sockets ++ fds :=
      fun k => List.perm_middle.mem_iff.trans List.mem_cons
    have hgone : fd ∉ a.sockets ++ fds := by
      intro hfd
      have hord := (List.pairwise_append.mp h.order).2.2
      obtain hfd | hfd := List.mem_append.mp hfd
      · exact Nat.lt_irrefl _ (hord fd hfd fd List.mem_cons_self)
      · have htail := List.rel_of_pairwise_cons (List.pairwise_append.mp h.order).2.1 hfd
        exact Nat.lt_irrefl _ htail
    refine ⟨h.dialed, h.bound, h.order.sublist hfewer, ?_, ?_, h.missed⟩
    · intro k hk
      have hne : k ≠ fd := fun he => hgone (he ▸ hk)
      dsimp only
      rw [AssocMap.lookup_erase_ne hne]
      exact h.address k ((hsplit k).mpr (.inr hk))
    · intro k hk
      dsimp only
      by_cases hkf : k = fd
      · rw [hkf, AssocMap.lookup_erase_self]
      · rw [AssocMap.lookup_erase_ne hkf]
        exact h.stale k fun hk' => ((hsplit k).mp hk').elim hkf hk
  · have hsame : a.sockets ++ [fd] ++ fds = a.sockets ++ fd :: fds :=
      List.append_cons _ _ _ |>.symm
    dsimp only
    rw [hsame]
    exact ⟨h.dialed, h.bound, h.order, h.address, h.stale, h.missed⟩

theorem ordered_sweep (h : a.Ordered (a.sockets ++ fds)) :
    (a.sweep writable failed fds).Ordered (a.sweep writable failed fds).sockets := by
  induction fds generalizing a with
  | nil =>
      rw [List.append_nil] at h
      exact h
  | cons fd fds ih => exact ih (ordered_sweepOne h)

theorem ordered_swept (h : a.Ordered a.sockets) :
    (a.swept writable failed).Ordered (a.swept writable failed).sockets :=
  ordered_sweep (ordered_of_same h _ _ _ _)

/-- **The attempts stay in order** over a call. -/
theorem ordered_called (h : a.Ordered a.sockets) (hh : a.Holds own)
    (hd : t.dial.fresh a.handles = true) (hc : Called t a a' r) : a'.Ordered a'.sockets := by
  cases hc with
  | waits => exact h
  | tries hlt =>
      refine ordered_tried h hlt fun fd hdial hfd => ?_
      rw [hdial] at hd
      have hlive : fd ∈ a.handles.live :=
        (Handles.Holds.mem_live_iff hh).mpr (List.mem_append_left _ hfd)
      exact of_decide_eq_true hd hlive
  | gaveUp hle hs => exact h
  | timedOut hle => exact ordered_closeSockets h
  | swept hp hnone => exact ordered_swept h
  | @connected writable failed fd hp hfd =>
      have ho : (a.swept writable failed).Ordered _ := ordered_swept h
      rw [readAddress_of_ordered ho (mem_sockets_swept hfd)]
      exact ordered_closeSockets ho

/-! ## runs of calls -/

/-- On entering CONNECTING. -/
def entering (addresses : List A) (lastAttempt : Nat) : Attempts A :=
  { addresses := addresses, lastAttempt := lastAttempt }

/-- The next call of `connectToAny`, with no stop request: the first has not returned
false, and not moved on to AUTHENTICATING. -/
def turn (timeout : Nat) (p : Attempts A × Attempt) (t : Turn) : Option (Attempts A × Attempt) :=
  if p.2 = .pending ∧ t.dial.fresh p.1.handles then
    let (a, r) := p.1.connectToAny timeout t
    some (if r = .established then a.storeSocket else a, r)
  else none

def Turns (timeout : Nat) (p : Attempts A × Attempt) (t : Turn) (p' : Attempts A × Attempt) :
    Prop :=
  turn timeout p t = some p'

/-- Between two calls, the attempts pending are in order and hold what is open. -/
structure Waiting (addresses : List A) (a : Attempts A) : Prop where
  ordered : a.Ordered a.sockets
  holds : a.Holds []
  socketConnected : a.socketConnected = none
  addresses : a.addresses = addresses

variable {p p' : Attempts A × Attempt} {addresses : List A}

theorem called_of_turns (h : Turns timeout p t p') :
    p.2 = .pending ∧ t.dial.fresh p.1.handles = true ∧
      ∃ a', Called t p.1 a' p'.2 ∧
        p'.1 = if p'.2 = .established then a'.storeSocket else a' := by
  unfold Turns turn at h
  split at h
  · next hg =>
    cases h
    exact ⟨hg.1, hg.2, _, called_of_connectToAny rfl, rfl⟩
  · cases h

theorem waiting_turns (hw : p.2 = .pending → p.1.Waiting addresses) (h : Turns timeout p t p') :
    p'.2 = .pending → p'.1.Waiting addresses := by
  intro hr
  obtain ⟨hpending, hd, a', hc, hp'⟩ := called_of_turns h
  obtain ⟨ho, hh, hn, ha⟩ := hw hpending
  rw [hr, if_neg (by decide)] at hp'
  rw [hp']
  have hnone : a'.socketConnected = none := by
    have hiff := (results_called hn hc).1
    rw [hr] at hiff
    simpa using hiff
  exact ⟨ordered_called ho hh hd hc, holds_called hh hn hd hc, hnone, (frame_called hc).1.trans ha⟩

theorem waiting_of_run {lastAttempt : Nat} {ts : List Turn}
    (h : Run (Turns timeout) (entering addresses lastAttempt, .pending) ts p) :
    p.2 = .pending → p.1.Waiting addresses := by
  refine Run.invariant (I := fun p => p.2 = .pending → p.1.Waiting addresses) (fun _ => ?_)
    (fun _ _ _ hw hstep => waiting_turns hw hstep) h
  refine ⟨⟨?_, Nat.zero_le _, .nil, ?_, fun _ _ => rfl, rfl⟩, Handles.Holds.empty, rfl, rfl⟩
  · exact (List.take_zero ..).symm
  · exact fun _ hfd => (nomatch hfd)

/-- The descriptors that are open once no attempt is pending. -/
theorem live_of_holds {ns : List Nat} (h : a.Holds own) (hs : a.sockets = [])
    (hns : a.socketConnected.toList ++ own = ns) : a.handles.live.Perm ns := by
  have hlive := Handles.Holds.live h
  rwa [hs, hns] at hlive

/-- `connectToAny` returns false. -/
theorem exhausted_spec (hw : p.1.Waiting addresses) (hd : t.dial.fresh p.1.handles = true)
    (hc : Called t p.1 a' .exhausted) :
    a'.dialed = addresses ∧ a'.sockets = [] ∧ a'.handles.live = [] := by
  have ho := ordered_called hw.ordered hw.holds hd hc
  have hh := holds_called hw.holds hw.socketConnected hd hc
  obtain ⟨hiff, hsockets⟩ := results_called hw.socketConnected hc
  have hs := hsockets (by decide)
  have hnone : a'.socketConnected = none := by simpa using hiff
  refine ⟨?_, hs, List.perm_nil.mp (live_of_holds hh hs (by rw [hnone]; rfl))⟩
  have hall : a'.addresses.length ≤ a'.addressCurrent := by
    cases hc with
    | gaveUp hle hs => exact hle
    | timedOut hle => exact hle
  rw [ho.dialed, List.take_of_length_le hall, (frame_called hc).1, hw.addresses]

/-- `connectToAny` has a connected socket. -/
theorem established_spec (hw : p.1.Waiting addresses) (hd : t.dial.fresh p.1.handles = true)
    (hc : Called t p.1 a' .established) :
    ∃ fd writable failed, t.polled = .ready writable failed ∧ a'.socketConnected = some fd ∧
      fd ∈ p.1.sockets ∧ fd ∈ writable ∧ fd ∉ failed ∧
      (∀ k ∈ p.1.sockets, k ∈ writable → k ∉ failed → p.1.attempt fd ≤ p.1.attempt k) ∧
      a'.sockets = [] ∧ a'.handles.live = [fd] := by
  have hh := holds_called hw.holds hw.socketConnected hd hc
  obtain ⟨-, hsockets⟩ := results_called hw.socketConnected hc
  have hs := hsockets (by decide)
  cases hc with
  | @connected writable failed fd hp hfd =>
      have hown : (p.1.swept writable failed).socketConnected.toList ++ [] = [fd] := by
        rw [hfd]
        rfl
      have hlive := live_of_holds hh hs hown
      refine ⟨fd, writable, failed, hp, hfd, ?_⟩
      rw [socketConnected_swept] at hfd
      obtain ⟨hok, before, after, hsplit, hbefore⟩ := List.find?_eq_some_iff_append.mp hfd
      have hok' : fd ∉ failed ∧ fd ∈ writable := by simpa using hok
      refine ⟨List.mem_of_find?_eq_some hfd, hok'.2, hok'.1, ?_, hs, List.perm_singleton.mp hlive⟩
      intro k hk hkw hkf
      have hord := hw.ordered.order
      rw [hsplit] at hk hord
      obtain hk | hk := List.mem_append.mp hk
      · -- an earlier attempt has not connected
        have hnot := hbefore k hk
        simp [hkw, hkf] at hnot
      · obtain hk | hk := List.mem_cons.mp hk
        · rw [hk]
        · exact Nat.le_of_lt (List.rel_of_pairwise_cons (List.pairwise_append.mp hord).2.1 hk)

/-- **Happy Eyeballs.**  After any number of calls from entering CONNECTING on, the
addresses have been attempted in order; `connectToAny` returns false only after the
last of them, with nothing left open; and `m_socket` becomes the earliest attempt
that is writable without an error, the others being closed. -/
theorem first_connected {lastAttempt : Nat} {ts : List Turn}
    (h : Run (Turns timeout) (entering addresses lastAttempt, .pending) ts p)
    (ht : Turns timeout p t p') :
    (p'.1.dialed = addresses.take p'.1.addressCurrent ∧
      p'.1.addressCurrent ≤ addresses.length) ∧
    (p'.2 = .exhausted →
      p'.1.dialed = addresses ∧ p'.1.sockets = [] ∧ p'.1.handles.live = []) ∧
    (p'.2 = .established →
      ∃ fd writable failed, t.polled = .ready writable failed ∧ p'.1.socket = some fd ∧
        fd ∈ p.1.sockets ∧ fd ∈ writable ∧ fd ∉ failed ∧
        (∀ k ∈ p.1.sockets, k ∈ writable → k ∉ failed → p.1.attempt fd ≤ p.1.attempt k) ∧
        p'.1.sockets = [] ∧ p'.1.handles.live = [fd]) := by
  obtain ⟨hpending, hd, a', hc, hp'⟩ := called_of_turns ht
  have hw := waiting_of_run h hpending
  have hstored : p'.1.dialed = a'.dialed ∧ p'.1.addressCurrent = a'.addressCurrent ∧
      p'.1.sockets = a'.sockets ∧ p'.1.handles = a'.handles := by
    rw [hp']
    split <;> exact ⟨rfl, rfl, rfl, rfl⟩
  obtain ⟨hdialed, hcurrent, hsockets, hhandles⟩ := hstored
  rw [hdialed, hcurrent, hsockets, hhandles]
  refine ⟨?_, fun hr => ?_, fun hr => ?_⟩
  · have ho := ordered_called hw.ordered hw.holds hd hc
    have haddresses := (frame_called hc).1.trans hw.addresses
    rw [← haddresses]
    exact ⟨ho.dialed, ho.bound⟩
  · rw [hr] at hc
    exact exhausted_spec hw hd hc
  · rw [hr] at hc hp'
    obtain ⟨fd, writable, failed, hpolled, hfd, hrest⟩ := established_spec hw hd hc
    refine ⟨fd, writable, failed, hpolled, ?_, hrest⟩
    rw [hp', if_pos rfl]
    exact hfd

/-- A run of calls, by evaluation of a test on where it ends. -/
theorem run_of_exec (timeout : Nat) (p : Attempts A × Attempt) (ts : List Turn)
    (test : Attempts A × Attempt → Bool) (h : (exec (turn timeout) p ts).any test = true) :
    ∃ p', Run (Turns timeout) p ts p' ∧ test p' = true :=
  Run.of_exec (fun {_ _ _} h => h) h

/-- An address without a socket, one attempt that fails, and two that connect at
once: the earlier is taken. -/
theorem first_connected_second :
    ∃ p t p', Turns 5000 p t p' ∧ p'.2 = .established ∧ p'.1.socket = some 4 ∧
      p'.1.dialed = [6, 4, 16, 14] ∧ p'.1.handles.live = [4] := by
  obtain ⟨p, hrun, htest⟩ := run_of_exec 5000 (entering [6, 4, 16, 14] 0, .pending)
    [{ dial := .noSocket }, { dial := .pending 3 },
      { dial := .pending 4, idleAt := ms 250, attemptAt := ms 250 },
      { dial := .pending 5, idleAt := ms 500, attemptAt := ms 500 }]
    (fun p => (turn 5000 p { polled := .ready [3, 5, 4] [3] }).any fun p' =>
      p'.2 = .established ∧ p'.1.socket = some 4 ∧ p'.1.addressCurrent = 4)
    (by decide +kernel)
  obtain ⟨p', ht, hp'⟩ := (Option.any_eq_true _ _).mp htest
  obtain ⟨hr, hsocket, hcurrent⟩ := of_decide_eq_true hp'
  obtain ⟨⟨hdialed, -⟩, -, hestablished⟩ := first_connected hrun ht
  obtain ⟨fd, writable, failed, -, hfd, -, -, -, -, -, hlive⟩ := hestablished hr
  rw [hsocket] at hfd
  rw [hcurrent] at hdialed
  cases hfd
  exact ⟨p, _, p', ht, hr, hsocket, hdialed, hlive⟩

end Attempts

end TrueMqtt
