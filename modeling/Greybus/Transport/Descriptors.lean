import Greybus.Transport.Connections
import Greybus.Reasoning.Handles

/-!
# The descriptors of the per-CPort TCP/IP transport

`socket` and `accept` open descriptors; whoever gets one lists it in `fd_list` or closes it again.
The transport runs on one thread here.
-/

namespace Greybus.Tcpip

open Reasoning.Handles Reasoning.Transition

/-! ## The code -/

/-- `fd_list` with the descriptors that the operating system has opened for it. -/
structure Sockets where
  fdList : List FdContext
  -- Insertions so far.
  inserted : Nat
  fds : Pool Int
  deriving DecidableEq, Repr

namespace Sockets

def initial : Sockets := ⟨[], 0, .initial⟩

/-- `close`. -/
def close (s : Sockets) (fd : Int) : Sockets := { s with fds := s.fds.release fd }

/-- A descriptor that `socket` or `accept` returns. -/
def opened (s : Sockets) (fd : Int) : Sockets := { s with fds := s.fds.acquire fd }

/-- What `fd_context_insert` meets: whether `calloc` gives a context and whether
`pthread_mutex_lock` returns 0. -/
structure InsertEnv where
  memory : Bool
  lock : Bool
  deriving DecidableEq, Repr

/-- `fd_context_insert`. -/
def fdContextInsert (s : Sockets) (fd cport : Int) (type : FdContextType) (env : InsertEnv) :
    Bool × Sockets :=
  if fd < 0 ∨ cport < 0 ∨ cportIdMax < cport ∨ type = .any ∨ env.memory = false then (false, s)
  else if !env.lock then (false, s)
  else if s.fdList.any fun c => c.fd = fd then (false, s)
  else
    (true, { s with
      fdList := s.fdList ++ [⟨fd, cport, type, s.inserted⟩], inserted := s.inserted + 1 })

/-- `fd_context_erase_inner` of a listed context: `sys_dlist_remove`, `close` and `free`. -/
def fdContextEraseInner (s : Sockets) (ctx : FdContext) : Sockets :=
  { s with fdList := s.fdList.erase ctx }.close ctx.fd

/-- `fd_context_erase`. -/
def fdContextErase (s : Sockets) (fd : Int) (lock : Bool) : Sockets :=
  if !lock then s
  else
    match s.fdList.find? fun c => c.fd = fd with
    | none => s
    | some ctx => s.fdContextEraseInner ctx

/-- `fd_context_clear`. -/
def fdContextClear (s : Sockets) (lock : Bool) : Sockets :=
  if !lock then s else s.fdList.foldl fdContextEraseInner s

/-- `fd_to_context`. -/
def fdToContext (s : Sockets) (fd : Int) (lock : Bool) : Option FdContext :=
  if !lock then none else fdContextFind s.fdList fd (-1) .any

/-- What `accept_new_connection` meets. -/
structure AcceptEnv where
  accepted : Option Nat
  -- `inet_ntop` does not return NULL.
  ntop : Bool
  insert : InsertEnv
  deriving DecidableEq, Repr

/-- `accept_new_connection`; `accept` never returns a descriptor that is open. -/
def acceptNewConnection (s : Sockets) (ctx : FdContext) (env : AcceptEnv) : Option Sockets :=
  match env.accepted with
  | none => some s
  | some fd =>
    if (fd : Int) ∈ s.fds.opened then none
    else if !env.ntop then some (s.opened fd)
    else
      let r := (s.opened fd).fdContextInsert fd ctx.cport .client env.insert
      some (if r.1 then r.2 else r.2.close fd)

/-- What `handle_client_input` meets: the values that `getMessage` and `greybus_rx_handler` return,
and the lock of `fd_context_erase`. -/
structure InputEnv where
  received : Int
  handled : Int
  lock : Bool
  deriving DecidableEq, Repr

/-- `handle_client_input`. -/
def handleClientInput (s : Sockets) (ctx : FdContext) (env : InputEnv) : Sockets :=
  if env.received ≤ 0 ∨ env.handled ≠ 0 then s.fdContextErase ctx.fd env.lock else s

/-- What `gb_xport_send` meets: whether the message passes the size checks, the locks of
`fd_context_find` and `fd_context_erase`, and what `sendMessage` returns. -/
structure SendEnv where
  sizeOk : Bool
  findLock : Bool
  sent : Int
  eraseLock : Bool
  deriving DecidableEq, Repr

/-- `gb_xport_send`. -/
def gbXportSend (s : Sockets) (cport : Nat) (env : SendEnv) : Sockets :=
  if !env.sizeOk || !env.findLock then s
  else
    match fdContextFind s.fdList (-1) cport .client with
    | none => s
    | some ctx => if env.sent ≠ 0 then s.fdContextErase ctx.fd env.eraseLock else s

/-- What `netsetup` meets for one cport: the descriptor or the error of `socket`, and the error of
the first of `setsockopt`, `bind` and `listen` that fails. -/
structure SetupEnv where
  socket : Except Int Nat
  insert : InsertEnv
  setup : Option Int

/-- The loop of `netsetup` over the cports of `is`; `socket` never returns a descriptor that is
open. -/
def netsetupLoop (env : Nat → SetupEnv) : List Nat → Sockets → Option (Int × Sockets)
  | [], s => some (0, s)
  | i :: is, s =>
    match (env i).socket with
    | .error errno => some (-errno, s)
    | .ok fd =>
      if (fd : Int) ∈ s.fds.opened then none
      else
        let r := (s.opened fd).fdContextInsert fd i .server (env i).insert
        if !r.1 then some (-EINVAL, r.2.close fd)
        else
          match (env i).setup with
          | some errno => some (-errno, r.2)
          | none => netsetupLoop env is r.2

/-- `netsetup`; `inet` says whether IPv6 or IPv4 is configured. -/
def netsetup (inet : Bool) (env : Nat → SetupEnv) (numCports : Nat) (s : Sockets) :
    Option (Int × Sockets) :=
  if !inet then some (-EINVAL, s) else netsetupLoop env (List.range numCports) s

/-- What the service thread meets for a readable descriptor. -/
structure PollEnv where
  lock : Bool
  accept : AcceptEnv
  input : InputEnv
  deriving DecidableEq, Repr

inductive Call where
  | netsetup (inet : Bool) (env : Nat → SetupEnv) (numCports : Nat)
  -- `service_thread` finds the context of a readable descriptor and handles it.
  | pollin (fd : Int) (env : PollEnv)
  | send (cport : Nat) (env : SendEnv)
  | clear (lock : Bool)

def step (s : Sockets) : Call → Option Sockets
  | .netsetup inet env numCports => (s.netsetup inet env numCports).map (·.2)
  | .pollin fd env =>
    match s.fdToContext fd env.lock with
    | none => some s
    | some ctx =>
      match ctx.type with
      | .server => s.acceptNewConnection ctx env.accept
      | .client => some (s.handleClientInput ctx env.input)
      | .any => some s
  | .send cport env => some (s.gbXportSend cport env)
  | .clear lock => some (s.fdContextClear lock)

/-! ## The list -/

theorem fdContextInsert_cases (s : Sockets) (fd cport : Int) (type : FdContextType)
    (env : InsertEnv) :
    s.fdContextInsert fd cport type env = (false, s) ∨
      s.fdContextInsert fd cport type env =
        (true, { s with
          fdList := s.fdList ++ [⟨fd, cport, type, s.inserted⟩], inserted := s.inserted + 1 }) := by
  unfold fdContextInsert
  split
  · exact .inl rfl
  split
  · exact .inl rfl
  split
  · exact .inl rfl
  · exact .inr rfl

theorem fdContextErase_cases (s : Sockets) (fd : Int) (lock : Bool) :
    s.fdContextErase fd lock = s ∨
      ∃ ctx ∈ s.fdList, s.fdContextErase fd lock = s.fdContextEraseInner ctx := by
  unfold fdContextErase
  split
  · exact .inl rfl
  split
  · exact .inl rfl
  next ctx hctx => exact .inr ⟨ctx, List.mem_of_find?_eq_some hctx, rfl⟩

-- What erasing a listed context keeps, clearing keeps: every round takes the head of the list.
theorem fdContextClear_keeps {P : Sockets → Prop} {s : Sockets}
    (herase : ∀ s ctx, P s → ctx ∈ s.fdList → P (s.fdContextEraseInner ctx)) (h : P s)
    (lock : Bool) : P (s.fdContextClear lock) := by
  unfold fdContextClear
  split
  · exact h
  generalize hl : s.fdList = l
  induction l generalizing s with
  | nil => exact h
  | cons ctx l ih =>
    apply ih (herase s ctx h (hl ▸ List.mem_cons_self))
    show s.fdList.erase ctx = l
    rw [hl, List.erase_cons_head]

/-! ## The account -/

/-- The open descriptors are the ones in `fd_list`, each listed once, and none has been closed
twice. -/
def Balanced (s : Sockets) : Prop := Accounts s.fds (s.fdList.map (·.fd))

variable {s : Sockets}

theorem initial_balanced : initial.Balanced := .initial

-- A new descriptor is listed, or the caller has to close it.
theorem Balanced.insert (h : s.Balanced) {fd : Int} (hfd : fd ∉ s.fds.opened) (cport : Int)
    (type : FdContextType) (env : InsertEnv) :
    if ((s.opened fd).fdContextInsert fd cport type env).1 then
      ((s.opened fd).fdContextInsert fd cport type env).2.Balanced
    else (((s.opened fd).fdContextInsert fd cport type env).2.close fd).Balanced := by
  rcases (s.opened fd).fdContextInsert_cases fd cport type env with hins | hins
  · rw [hins]
    exact Accounts.acquire_release h hfd
  · rw [hins]
    unfold Balanced
    simp only [if_true, List.map_append, List.map_singleton]
    exact Accounts.acquire h hfd

theorem erase_map_perm {ctx : FdContext} (hctx : ctx ∈ s.fdList) :
    ((s.fdList.map (·.fd)).erase ctx.fd).Perm ((s.fdList.erase ctx).map (·.fd)) := by
  have hperm := ((List.perm_cons_erase hctx).map (·.fd)).erase ctx.fd
  rwa [List.map_cons, List.erase_cons_head] at hperm

theorem Balanced.eraseInner (h : s.Balanced) {ctx : FdContext} (hctx : ctx ∈ s.fdList) :
    (s.fdContextEraseInner ctx).Balanced := by
  apply Accounts.of_perm (Accounts.release h (List.mem_map_of_mem hctx))
  exact erase_map_perm hctx

theorem Balanced.erase (h : s.Balanced) (fd : Int) (lock : Bool) :
    (s.fdContextErase fd lock).Balanced := by
  rcases s.fdContextErase_cases fd lock with herase | ⟨ctx, hctx, herase⟩
  · rwa [herase]
  · rw [herase]
    exact h.eraseInner hctx

theorem Balanced.clear (h : s.Balanced) (lock : Bool) : (s.fdContextClear lock).Balanced :=
  fdContextClear_keeps (fun _ _ h hctx => h.eraseInner hctx) h lock

theorem Balanced.netsetupLoop {env : Nat → SetupEnv} {is : List Nat} {r : Int × Sockets}
    (h : s.Balanced) (hr : netsetupLoop env is s = some r) : r.2.Balanced := by
  induction is generalizing s with
  | nil =>
    cases hr
    exact h
  | cons i is ih =>
    unfold Sockets.netsetupLoop at hr
    split at hr
    · cases hr
      exact h
    next fd _ =>
      split at hr
      · cases hr
      next hfd =>
        have hinsert := h.insert hfd i .server (env i).insert
        dsimp only at hr
        cases hlisted : ((s.opened fd).fdContextInsert fd i .server (env i).insert).1 with
        | false =>
          rw [hlisted, if_neg (by decide)] at hinsert
          rw [hlisted, if_pos (by decide)] at hr
          cases hr
          exact hinsert
        | true =>
          rw [hlisted, if_pos rfl] at hinsert
          rw [hlisted, if_neg (by decide)] at hr
          split at hr
          · cases hr
            exact hinsert
          · exact ih hinsert hr

/-- `accept_new_connection` closes or lists the descriptor, unless `inet_ntop` fails. -/
theorem Balanced.accept_iff {s' : Sockets} {ctx : FdContext} {env : AcceptEnv} (h : s.Balanced)
    (hs' : s.acceptNewConnection ctx env = some s') :
    s'.Balanced ↔ (env.accepted.isSome → env.ntop = true) := by
  unfold acceptNewConnection at hs'
  split at hs'
  next hnone =>
    cases hs'
    simp [h, hnone]
  next fd hsome =>
    split at hs'
    · cases hs'
    next hfd =>
      split at hs'
      next hntop =>
        cases hs'
        rw [Bool.not_eq_true'] at hntop
        exact iff_of_false (Accounts.not_acquire h) (by simp [hsome, hntop])
      next hntop =>
        cases hs'
        have hinsert := h.insert hfd ctx.cport .client env.insert
        rw [Bool.not_eq_true', Bool.not_eq_false] at hntop
        refine iff_of_true ?_ fun _ => hntop
        split at hinsert
        next hyes => rwa [if_pos hyes]
        next hno => rwa [if_neg hno]

theorem Balanced.input (h : s.Balanced) (ctx : FdContext) (env : InputEnv) :
    (s.handleClientInput ctx env).Balanced := by
  unfold handleClientInput
  split
  · exact h.erase ctx.fd env.lock
  · exact h

theorem Balanced.send (h : s.Balanced) (cport : Nat) (env : SendEnv) :
    (s.gbXportSend cport env).Balanced := by
  unfold gbXportSend
  split
  · exact h
  split
  · exact h
  split
  · exact h.erase _ env.eraseLock
  · exact h

/-! ## Any sequence of calls -/

/-- The call does not accept a connection whose address `inet_ntop` cannot print. -/
def AddressOk (s : Sockets) : Call → Prop
  | .pollin fd env => ∀ ctx, s.fdToContext fd env.lock = some ctx → ctx.type = .server →
      env.accept.accepted.isSome → env.accept.ntop = true
  | _ => True

theorem Balanced.step_iff {s' : Sockets} {c : Call} (h : s.Balanced) (hs' : step s c = some s') :
    s'.Balanced ↔ s.AddressOk c := by
  cases c with
  | netsetup inet env numCports =>
    obtain ⟨r, hr, rfl⟩ := Option.map_eq_some_iff.mp hs'
    refine iff_of_true ?_ trivial
    unfold netsetup at hr
    split at hr
    · cases hr
      exact h
    · exact h.netsetupLoop hr
  | pollin fd env =>
    simp only [step] at hs'
    simp only [AddressOk]
    split at hs'
    next hnone =>
      cases hs'
      simp [h, hnone]
    next ctx hctx =>
      split at hs'
      next hserver =>
        rw [h.accept_iff hs']
        simp [hctx, hserver]
      next hclient =>
        cases hs'
        exact iff_of_true (h.input ctx env.input) (by simp [hctx, hclient])
      next hany =>
        cases hs'
        simp [h, hctx, hany]
  | send cport env =>
    cases hs'
    exact iff_of_true (h.send cport env) trivial
  | clear lock =>
    cases hs'
    exact iff_of_true (h.clear lock) trivial

/-- After every call of any sequence the open descriptors are the listed ones, exactly when no call
accepts a connection whose address `inet_ntop` cannot print. -/
theorem throughout_balanced_iff {calls : List Call} :
    Throughout step Balanced initial calls ↔
      EachStep step (fun s c _ => s.AddressOk c) initial calls :=
  throughout_iff_eachStep (fun _ _ _ h hs' => h.step_iff hs') initial_balanced

/-- One cport, and a client whose address `inet_ntop` cannot print. -/
def leak : List Call :=
  [.netsetup true (fun _ => ⟨.ok 3, ⟨true, true⟩, none⟩) 1,
    .pollin 3 ⟨true, ⟨some 4, false, ⟨true, true⟩⟩, ⟨0, 0, true⟩⟩]

-- The descriptor 4 stays open, and nobody knows it.
theorem throughout_balanced_leak :
    (run step initial leak).map (fun s => (s.fds.opened, s.fdList.map (·.fd))) = some ([3, 4], [3]) ∧
      ¬ Throughout step Balanced initial leak := by
  have hleak : (run step initial leak).map (fun s => (s.fds.opened, s.fdList.map (·.fd)))
      = some ([3, 4], [3]) := by decide
  refine ⟨hleak, fun hall => ?_⟩
  obtain ⟨s, hs, hfds⟩ := Option.map_eq_some_iff.mp hleak
  obtain ⟨hopened, hlisted⟩ := Prod.mk.inj hfds
  have hlen := (hall leak s (List.prefix_refl _) hs).perm.length_eq
  rw [hopened, hlisted] at hlen
  exact absurd hlen (by decide)

end Sockets

end Greybus.Tcpip
