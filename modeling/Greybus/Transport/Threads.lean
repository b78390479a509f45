import Greybus.Transport.Descriptors
import Mathlib.Data.Fintype.Basic

/-!
# The threads of the per-CPort TCP/IP transport

The service thread and the threads that call `gb_xport_send` look contexts up in `fd_list` and go on
using them when the mutex is free again.  One step is what a thread does up to the next place where
another thread can come in between.
-/

namespace Greybus.Tcpip

open Reasoning.Handles Reasoning.Transition

/-! ## The code -/

/-- Where the service thread is. -/
inductive Service where
  -- Before `fd_to_context`.
  | idle
  -- `switch (ctx->type)` comes next.
  | found (ctx : FdContext)
  -- `accept(ctx->fd, ..)` comes next.
  | accepting (ctx : FdContext)
  -- The arguments of `fd_context_insert(fd, ctx->cport, ..)` come next.
  | accepted (ctx : FdContext) (fd : Nat)
  | inserting (ctx : FdContext) (fd : Nat) (cport : Int)
  -- The `LOG_DBG` of `accept_new_connection` comes next.
  | inserted (ctx : FdContext)
  -- `getMessage(ctx->fd, ..)` comes next.
  | receiving (ctx : FdContext)
  -- `greybus_rx_handler(ctx->cport, ..)` comes next.
  | received (ctx : FdContext)
  -- The `LOG_ERR` of `handle_client_input` comes next.
  | refused (ctx : FdContext)
  -- The argument of `fd_context_erase(ctx->fd)` comes next.
  | closing (ctx : FdContext)
  | erasing (fd : Int)
  -- Before `fd_context_clear`.
  | quitting
  | ended
  deriving DecidableEq, Repr

/-- Where a thread is in `gb_xport_send`. -/
inductive Sender where
  | idle
  -- `sendMessage(ctx->fd, ..)` comes next.
  | sending (ctx : FdContext)
  -- The argument of `fd_context_erase(ctx->fd)` comes next.
  | closing (ctx : FdContext)
  | erasing (fd : Int)
  deriving DecidableEq, Repr

/-- What a step meets. -/
structure ThreadEnv where
  -- The readable descriptor, and the cport of a message to send.
  fd : Int
  cport : Nat
  -- `poll` or `prepare_pollfds` fails.
  quit : Bool
  -- What a deleted context is read as.
  freed : FdContext
  lock : Bool
  accept : Sockets.AcceptEnv
  -- The values of `getMessage`, `greybus_rx_handler` and `sendMessage`.
  received : Int
  handled : Int
  sent : Int
  deriving DecidableEq, Repr

/-- `*ctx`. -/
def Sockets.read (s : Sockets) (ctx : FdContext) (env : ThreadEnv) : FdContext :=
  if ctx ∈ s.fdList then ctx else env.freed

/-- One step of `service_thread`. -/
def serviceStep (s : Sockets) (env : ThreadEnv) : Service → Option (Sockets × Service)
  | .idle =>
    if env.quit then some (s, .quitting)
    else
      match s.fdToContext env.fd env.lock with
      | none => some (s, .idle)
      | some ctx => some (s, .found ctx)
  | .found ctx =>
    match (s.read ctx env).type with
    | .server => some (s, .accepting ctx)
    | .client => some (s, .receiving ctx)
    | .any => some (s, .idle)
  | .accepting ctx =>
    match env.accept.accepted with
    | none => some (s, .idle)
    | some fd =>
      if (fd : Int) ∈ s.fds.opened then none
      else if !env.accept.ntop then some (s.opened fd, .idle)
      else some (s.opened fd, .accepted ctx fd)
  | .accepted ctx fd => some (s, .inserting ctx fd (s.read ctx env).cport)
  | .inserting ctx fd cport =>
    let r := s.fdContextInsert fd cport .client env.accept.insert
    some (if r.1 then (r.2, .inserted ctx) else (r.2.close fd, .idle))
  | .inserted _ => some (s, .idle)
  | .receiving ctx => some (s, if env.received ≤ 0 then .closing ctx else .received ctx)
  | .received ctx => some (s, if env.handled = 0 then .idle else .refused ctx)
  | .refused ctx => some (s, .closing ctx)
  | .closing ctx => some (s, .erasing (s.read ctx env).fd)
  | .erasing fd => some (s.fdContextErase fd env.lock, .idle)
  | .quitting => some (s.fdContextClear env.lock, .ended)
  | .ended => none

/-- One step of `gb_xport_send`; a call whose message fails the size checks takes none. -/
def senderStep (s : Sockets) (env : ThreadEnv) : Sender → Sockets × Sender
  | .idle =>
    if !env.lock then (s, .idle)
    else
      match fdContextFind s.fdList (-1) env.cport .client with
      | none => (s, .idle)
      | some ctx => (s, .sending ctx)
  | .sending ctx => (s, if env.sent = 0 then .idle else .closing ctx)
  | .closing ctx => (s, .erasing (s.read ctx env).fd)
  | .erasing fd => (s.fdContextErase fd env.lock, .idle)

/-- The context that the next step dereferences. -/
def Service.derefs : Service → Option FdContext
  | .found ctx | .accepting ctx | .accepted ctx _ | .inserted ctx | .receiving ctx | .received ctx
  | .refused ctx | .closing ctx => some ctx
  | _ => none

def Sender.derefs : Sender → Option FdContext
  | .sending ctx | .closing ctx => some ctx
  | _ => none

/-- The transport with its threads. -/
structure Threads (τ : Type) where
  sockets : Sockets
  service : Service
  sender : τ → Sender
  -- The contexts that were dereferenced when they were no longer in `fd_list`.
  stale : List FdContext

namespace Threads

variable {τ : Type} [DecidableEq τ]

/-- The threads start when `netsetup` has returned. -/
def initial (sockets : Sockets) : Threads τ := ⟨sockets, .idle, fun _ => .idle, []⟩

inductive Action (τ : Type) where
  | service (env : ThreadEnv)
  | sender (t : τ) (env : ThreadEnv)

def stalesOf (s : Threads τ) (ctx : Option FdContext) : List FdContext :=
  s.stale ++ ctx.toList.filter (· ∉ s.sockets.fdList)

def step (s : Threads τ) : Action τ → Option (Threads τ)
  | .service env =>
    (serviceStep s.sockets env s.service).map fun r =>
      { s with sockets := r.1, service := r.2, stale := s.stalesOf s.service.derefs }
  | .sender t env =>
    let r := senderStep s.sockets env (s.sender t)
    some { s with
      sockets := r.1, sender := Function.update s.sender t r.2
      stale := s.stalesOf (s.sender t).derefs }

end Threads

/-! ## Contexts in use -/

/-- The context that the thread has looked up and may still use. -/
def Service.ctx : Service → Option FdContext
  | .found ctx | .accepting ctx | .accepted ctx _ | .inserting ctx _ _ | .inserted ctx
  | .receiving ctx | .received ctx | .refused ctx | .closing ctx => some ctx
  | _ => none

def Sender.ctx : Sender → Option FdContext
  | .sending ctx | .closing ctx => some ctx
  | _ => none

/-- The descriptor that the thread has accepted and not yet listed. -/
def Service.newFd : Service → List Int
  | .accepted _ fd | .inserting _ fd _ => [(fd : Int)]
  | _ => []

/-- The contexts that `fd_context_erase` deletes. -/
def Sockets.erased (s : Sockets) (fd : Int) (lock : Bool) : List FdContext :=
  if !lock then [] else (s.fdList.find? fun c => c.fd = fd).toList

def Service.deletes (s : Sockets) (env : ThreadEnv) : Service → List FdContext
  | .erasing fd => s.erased fd env.lock
  | .quitting => if !env.lock then [] else s.fdList
  | _ => []

def Sender.deletes (s : Sockets) (env : ThreadEnv) : Sender → List FdContext
  | .erasing fd => s.erased fd env.lock
  | _ => []

namespace Threads

variable {τ : Type} [DecidableEq τ]

def deletes (s : Threads τ) : Action τ → List FdContext
  | .service env => s.service.deletes s.sockets env
  | .sender t env => (s.sender t).deletes s.sockets env

/-- A context is only deleted while no thread uses it. -/
def DeletesUnused (s : Threads τ) (a : Action τ) : Prop :=
  ∀ ctx ∈ s.deletes a, s.service.ctx ≠ some ctx ∧ ∀ t, (s.sender t).ctx ≠ some ctx

instance [Fintype τ] (s : Threads τ) (a : Action τ) : Decidable (s.DeletesUnused a) :=
  inferInstanceAs (Decidable (∀ ctx ∈ s.deletes a, _))

end Threads

/-! ## One step -/

namespace Sockets

variable {s : Sockets} {extra : List Int}

/-- The descriptors of `fd_list` and those of `extra` are open, and none has been closed twice. -/
def Covered (s : Sockets) (extra : List Int) : Prop :=
  Covers s.fds (s.fdList.map (·.fd) ++ extra)

theorem Covered.eraseInner (h : s.Covered extra) {ctx : FdContext} (hctx : ctx ∈ s.fdList) :
    (s.fdContextEraseInner ctx).Covered extra := by
  have hmem : ctx.fd ∈ s.fdList.map (·.fd) := List.mem_map_of_mem hctx
  apply Covers.of_perm (Covers.release h (List.mem_append_left extra hmem))
  rw [List.erase_append_left _ hmem]
  exact (erase_map_perm hctx).append_right extra

theorem Covered.erase (h : s.Covered extra) (fd : Int) (lock : Bool) :
    (s.fdContextErase fd lock).Covered extra := by
  rcases s.fdContextErase_cases fd lock with herase | ⟨ctx, hctx, herase⟩
  · rwa [herase]
  · rw [herase]
    exact h.eraseInner hctx

theorem Covered.clear (h : s.Covered extra) (lock : Bool) :
    (s.fdContextClear lock).Covered extra :=
  @fdContextClear_keeps (·.Covered extra) s (fun _ _ h hctx => h.eraseInner hctx) h lock

theorem Covered.insert {fd : Nat} (h : s.Covered [(fd : Int)]) (cport : Int)
    (env : Sockets.InsertEnv) :
    if (s.fdContextInsert fd cport .client env).1 then
      (s.fdContextInsert fd cport .client env).2.Covered []
    else ((s.fdContextInsert fd cport .client env).2.close fd).Covered [] := by
  have hback : (s.close fd).Covered [] := by
    have hclose := Covers.release h (List.mem_append_right _ (List.mem_singleton_self (fd : Int)))
    have hnew : (fd : Int) ∉ s.fdList.map (·.fd) := fun hmem =>
      (List.nodup_append.mp h.nodup).2.2 _ hmem _ (List.mem_singleton_self _) rfl
    rwa [List.erase_append_right _ hnew, List.erase_cons_head] at hclose
  rcases s.fdContextInsert_cases fd cport .client env with hins | hins
  · rw [hins]
    exact hback
  · rw [hins]
    unfold Covered
    simp only [if_true, List.map_append, List.map_singleton, List.append_nil]
    exact h

theorem subset_insert (s : Sockets) (fd cport : Int) (env : Sockets.InsertEnv) :
    s.fdList ⊆ (s.fdContextInsert fd cport .client env).2.fdList := by
  rcases s.fdContextInsert_cases fd cport .client env with hins | hins
  · rw [hins]
    exact List.Subset.refl _
  · rw [hins]
    exact List.subset_append_left _ _

theorem mem_erase {c : FdContext} (hc : c ∈ s.fdList) {fd : Int} {lock : Bool}
    (hkept : c ∉ s.erased fd lock) : c ∈ (s.fdContextErase fd lock).fdList := by
  unfold fdContextErase
  unfold erased at hkept
  split
  · exact hc
  next hlock =>
    rw [if_neg hlock] at hkept
    split
    · exact hc
    next ctx hctx =>
      apply (List.mem_erase_of_ne _).mpr hc
      rintro rfl
      simp [hctx] at hkept

theorem mem_of_fdToContext {fd : Int} {lock : Bool} {ctx : FdContext}
    (h : s.fdToContext fd lock = some ctx) : ctx ∈ s.fdList := by
  unfold fdToContext at h
  split at h
  · cases h
  · exact List.mem_of_find?_eq_some h

end Sockets

/-- What a step of the service thread does: it uses the context it has or a listed one, keeps the
contexts that it does not delete, and its descriptors stay covered. -/
structure ServiceStepped (s : Sockets) (env : ThreadEnv) (pc : Service) (s' : Sockets)
    (pc' : Service) : Prop where
  ctx : ∀ ctx, pc'.ctx = some ctx → pc.ctx = some ctx ∨ ctx ∈ s.fdList ∧ ctx ∉ pc.deletes s env
  kept : ∀ c ∈ s.fdList, c ∉ pc.deletes s env → c ∈ s'.fdList
  covered : s.Covered pc.newFd → s'.Covered pc'.newFd

-- Steps that leave `fd_list` and the descriptors alone.
theorem ServiceStepped.keep {s : Sockets} {env : ThreadEnv} {pc pc' : Service}
    (hctx : pc'.ctx = pc.ctx) (hfd : pc'.newFd = pc.newFd) : ServiceStepped s env pc s pc' :=
  ⟨fun _ hc => .inl (hctx ▸ hc), fun _ hc _ => hc, fun hcov => hfd ▸ hcov⟩

theorem ServiceStepped.leave {s : Sockets} {env : ThreadEnv} {pc pc' : Service}
    (hctx : pc'.ctx = none) (hfd : pc'.newFd = pc.newFd) : ServiceStepped s env pc s pc' :=
  ⟨fun _ hc => absurd hc (by simp [hctx]), fun _ hc _ => hc, fun hcov => hfd ▸ hcov⟩

theorem serviceStep_stepped {s s' : Sockets} {env : ThreadEnv} {pc pc' : Service}
    (h : serviceStep s env pc = some (s', pc')) : ServiceStepped s env pc s' pc' := by
  cases pc with
  | idle =>
    simp only [serviceStep] at h
    split at h
    · cases h
      exact .leave rfl rfl
    split at h
    · cases h
      exact .leave rfl rfl
    next ctx hctx =>
      cases h
      refine ⟨fun c hc => .inr ?_, fun c hc _ => hc, id⟩
      obtain rfl : ctx = c := Option.some.inj hc
      exact ⟨Sockets.mem_of_fdToContext hctx, by simp [Service.deletes]⟩
  | found ctx =>
    simp only [serviceStep] at h
    split at h
    all_goals cases h
    · exact .keep rfl rfl
    · exact .keep rfl rfl
    · exact .leave rfl rfl
  | accepting ctx =>
    simp only [serviceStep] at h
    split at h
    · cases h
      exact .leave rfl rfl
    split at h
    · cases h
    next fd _ hfd =>
      split at h
      all_goals cases h
      · exact ⟨by simp [Service.ctx], fun c hc _ => hc, fun hcov => Covers.leak hcov fd⟩
      · refine ⟨fun c hc => .inl hc, fun c hc _ => hc, fun hcov => ?_⟩
        unfold Sockets.Covered at hcov
        rw [show Service.newFd (.accepting ctx) = [] from rfl, List.append_nil] at hcov
        exact hcov.acquire hfd
  | accepted ctx fd =>
    cases h
    exact .keep rfl rfl
  | inserting ctx fd cport =>
    simp only [serviceStep, Option.some.injEq] at h
    have hsubset := s.subset_insert fd cport env.accept.insert
    split at h
    next hyes =>
      cases h
      refine ⟨fun c hc => .inl hc, fun c hc _ => hsubset hc, fun hcov => ?_⟩
      have hins := hcov.insert cport env.accept.insert
      rwa [if_pos hyes] at hins
    next hno =>
      cases h
      refine ⟨by simp [Service.ctx], fun c hc _ => hsubset hc, fun hcov => ?_⟩
      have hins := hcov.insert cport env.accept.insert
      rwa [if_neg hno] at hins
  | inserted ctx =>
    cases h
    exact .leave rfl rfl
  | receiving ctx =>
    cases h
    split
    · exact .keep rfl rfl
    · exact .keep rfl rfl
  | received ctx =>
    cases h
    split
    · exact .leave rfl rfl
    · exact .keep rfl rfl
  | refused ctx =>
    cases h
    exact .keep rfl rfl
  | closing ctx =>
    cases h
    exact .leave rfl rfl
  | erasing fd =>
    cases h
    exact ⟨by simp [Service.ctx], fun c hc hkept => Sockets.mem_erase hc hkept,
      fun hcov => hcov.erase fd env.lock⟩
  | quitting =>
    cases h
    refine ⟨by simp [Service.ctx], fun c hc hkept => ?_, fun hcov => hcov.clear env.lock⟩
    unfold Service.deletes at hkept
    unfold Sockets.fdContextClear
    split
    · exact hc
    next hlock => exact absurd hc (by rwa [if_neg hlock] at hkept)
  | ended => cases h

/-- What a step of a sender does. -/
structure SenderStepped (s : Sockets) (env : ThreadEnv) (pc : Sender) (s' : Sockets) (pc' : Sender) :
    Prop where
  ctx : ∀ ctx, pc'.ctx = some ctx → pc.ctx = some ctx ∨ ctx ∈ s.fdList ∧ ctx ∉ pc.deletes s env
  kept : ∀ c ∈ s.fdList, c ∉ pc.deletes s env → c ∈ s'.fdList
  covered : ∀ extra, s.Covered extra → s'.Covered extra

theorem SenderStepped.keep {s : Sockets} {env : ThreadEnv} {pc pc' : Sender}
    (hctx : ∀ c, pc'.ctx = some c → pc.ctx = some c) : SenderStepped s env pc s pc' :=
  ⟨fun c hc => .inl (hctx c hc), fun _ hc _ => hc, fun _ => id⟩

theorem senderStep_stepped (s : Sockets) (env : ThreadEnv) (pc : Sender) :
    SenderStepped s env pc (senderStep s env pc).1 (senderStep s env pc).2 := by
  cases pc with
  | idle =>
    simp only [senderStep]
    split
    · exact .keep (by simp [Sender.ctx])
    split
    · exact .keep (by simp [Sender.ctx])
    next ctx hctx =>
      refine ⟨fun c hc => .inr ?_, fun c hc _ => hc, fun _ => id⟩
      obtain rfl : ctx = c := Option.some.inj hc
      exact ⟨List.mem_of_find?_eq_some hctx, by simp [Sender.deletes]⟩
  | sending ctx =>
    simp only [senderStep]
    split
    · exact .keep (by simp [Sender.ctx])
    · exact .keep fun _ => id
  | closing ctx => exact .keep (by simp [senderStep, Sender.ctx])
  | erasing fd =>
    exact ⟨by simp [senderStep, Sender.ctx], fun c hc hkept => Sockets.mem_erase hc hkept,
      fun _ hcov => hcov.erase fd env.lock⟩

/-! ## Any interleaving -/

namespace Threads

variable {τ : Type}

/-- The contexts in use are listed. -/
structure Inv (s : Threads τ) : Prop where
  service : ∀ ctx, s.service.ctx = some ctx → ctx ∈ s.sockets.fdList
  sender : ∀ t ctx, (s.sender t).ctx = some ctx → ctx ∈ s.sockets.fdList
  covered : s.sockets.Covered s.service.newFd
  stale : s.stale = []

-- A listed context is not stale.
theorem Inv.stalesOf_eq {s : Threads τ} (h : s.Inv) {ctx : Option FdContext}
    (hctx : ∀ c, ctx = some c → c ∈ s.sockets.fdList) : s.stalesOf ctx = [] := by
  unfold stalesOf
  rw [h.stale, List.nil_append, List.filter_eq_nil_iff]
  intro c hc
  simpa using hctx c (Option.mem_toList.mp hc)

theorem Inv.service_derefs {s : Threads τ} (h : s.Inv) (c : FdContext)
    (hc : s.service.derefs = some c) : c ∈ s.sockets.fdList := by
  apply h.service
  cases hpc : s.service <;> rw [hpc] at hc <;> first | exact hc | cases hc

theorem Inv.sender_derefs {s : Threads τ} (h : s.Inv) (t : τ) (c : FdContext)
    (hc : (s.sender t).derefs = some c) : c ∈ s.sockets.fdList := by
  apply h.sender t
  cases hpc : s.sender t <;> rw [hpc] at hc <;> exact hc

theorem initial_inv {s : Sockets} (h : s.Balanced) : (initial s : Threads τ).Inv := by
  refine ⟨by simp [initial, Service.ctx], by simp [initial, Sender.ctx], ?_, rfl⟩
  unfold Sockets.Covered
  rw [show (initial s : Threads τ).service.newFd = [] from rfl, List.append_nil]
  exact Accounts.covers h

variable [DecidableEq τ]

theorem Inv.serviceStep {s s' : Threads τ} {env : ThreadEnv} (h : s.Inv)
    (hstep : step s (.service env) = some s') (hunused : s.DeletesUnused (.service env)) :
    s'.Inv := by
  obtain ⟨⟨sockets, pc⟩, hr, rfl⟩ := Option.map_eq_some_iff.mp hstep
  have hspec := serviceStep_stepped hr
  constructor
  case service =>
    intro ctx hctx
    rcases hspec.ctx ctx hctx with hold | ⟨hmem, hkept⟩
    · exact hspec.kept ctx (h.service ctx hold) fun hdel => (hunused ctx hdel).1 hold
    · exact hspec.kept ctx hmem hkept
  case sender =>
    intro t ctx hctx
    exact hspec.kept ctx (h.sender t ctx hctx) fun hdel => (hunused ctx hdel).2 t hctx
  case covered => exact hspec.covered h.covered
  case stale => exact h.stalesOf_eq h.service_derefs

theorem Inv.senderStep {s s' : Threads τ} {t : τ} {env : ThreadEnv} (h : s.Inv)
    (hstep : step s (.sender t env) = some s') (hunused : s.DeletesUnused (.sender t env)) :
    s'.Inv := by
  have hspec := senderStep_stepped s.sockets env (s.sender t)
  cases hstep
  constructor
  case service =>
    intro ctx hctx
    exact hspec.kept ctx (h.service ctx hctx) fun hdel => (hunused ctx hdel).1 hctx
  case sender =>
    intro t' ctx hctx
    by_cases ht : t' = t
    · subst ht
      simp only [Function.update_self] at hctx
      rcases hspec.ctx ctx hctx with hold | ⟨hmem, hkept⟩
      · exact hspec.kept ctx (h.sender t' ctx hold) fun hdel => (hunused ctx hdel).2 t' hold
      · exact hspec.kept ctx hmem hkept
    · simp only [Function.update_of_ne ht] at hctx
      exact hspec.kept ctx (h.sender t' ctx hctx) fun hdel => (hunused ctx hdel).2 t' hctx
  case covered => exact hspec.covered _ h.covered
  case stale => exact h.stalesOf_eq (h.sender_derefs t)

theorem Inv.step {s s' : Threads τ} {a : Action τ} (h : s.Inv) (hstep : step s a = some s')
    (hunused : s.DeletesUnused a) : s'.Inv := by
  cases a with
  | service env => exact h.serviceStep hstep hunused
  | sender t env => exact h.senderStep hstep hunused

/-- When contexts are only deleted while no thread uses them, no thread ever dereferences a context
that is not in `fd_list`, and no descriptor is closed twice. -/
theorem run_stale_eq_nil {inet : Bool} {setup : Nat → Sockets.SetupEnv} {numCports : Nat}
    {sockets : Sockets} (hsetup : Sockets.initial.netsetup inet setup numCports = some (0, sockets))
    {as : List (Action τ)} {s : Threads τ}
    (hunused : EachStep step (fun s a _ => s.DeletesUnused a) (initial sockets) as)
    (hrun : run step (initial sockets) as = some s) :
    s.stale = [] ∧ s.sockets.fds.strays = 0 := by
  have hbalanced : sockets.Balanced := by
    have hcall : Sockets.step Sockets.initial (.netsetup inet setup numCports) = some sockets := by
      simp [Sockets.step, hsetup]
    exact (Sockets.initial_balanced.step_iff hcall).mpr trivial
  have hinv := run_induct_of_eachStep (fun _ _ _ h hstep hq => h.step hstep hq)
    (initial_inv hbalanced) hunused hrun
  exact ⟨hinv.stale, hinv.covered.strays⟩

/-- What the threads meet when everything works and the descriptor `fd` is readable. -/
def envOf (fd : Int) : ThreadEnv :=
  ⟨fd, 0, false, ⟨0, 0, .any, 0⟩, true, ⟨some 4, true, ⟨true, true⟩⟩, 8, 0, 0⟩

/-- A sender whose message the socket does not take. -/
def failing : ThreadEnv := { envOf 4 with sent := -ENOTCONN }

def setupOk (_cport : Nat) : Sockets.SetupEnv := ⟨.ok 3, ⟨true, true⟩, none⟩

/-- What `netsetup` makes for one cport. -/
def oneSocket : Sockets := ⟨[⟨3, 0, .server, 0⟩], 1, ⟨[3], 0⟩⟩

/-- A client connects as descriptor 4. -/
def connect : List (Action Unit) := List.replicate 6 (.service (envOf 3))

/-- A send fails between two requests of the client, and its connection is closed. -/
def failBetween : List (Action Unit) :=
  connect ++ List.replicate 4 (.service (envOf 4)) ++ List.replicate 4 (.sender () failing) ++
    [.service (envOf 4)]

theorem run_stale_eq_nil_failBetween :
    ∃ s, run step (initial oneSocket) failBetween = some s ∧
      s.sockets.fds = ⟨[3], 0⟩ ∧ s.stale = [] ∧ s.sockets.fds.strays = 0 := by
  have hrun : (run step (initial oneSocket) failBetween).map (fun s => s.sockets.fds)
      = some ⟨[3], 0⟩ := by decide
  obtain ⟨s, hs, hfds⟩ := Option.map_eq_some_iff.mp hrun
  have hsetup : Sockets.initial.netsetup true setupOk 1 = some (0, oneSocket) := by decide
  exact ⟨s, hs, hfds, run_stale_eq_nil hsetup (by decide) hs⟩

-- The send fails after the service thread has looked the context up.
theorem run_stale_failInside :
    Sockets.initial.netsetup true setupOk 1 = some (0, oneSocket) ∧
      (run step (initial oneSocket) (connect ++ [.service (envOf 4)] ++
        List.replicate 4 (.sender () failing) ++ [.service (envOf 4)])).map (fun s => s.stale)
      = some [⟨4, 0, .client, 1⟩] :=
  ⟨by decide, by decide⟩

end Threads

end Greybus.Tcpip
