import Greybus.Reasoning.Transition

/-!
# The receive queue of a cport

Three threads share `rx_fifo`, the semaphore `rx_fifo_lock` that counts its entries and the flag
`exit_worker`: the transport's receiver in `greybus_rx_handler`, the worker in
`gb_pending_message_worker`, and the caller of `gb_unregister_driver` and `_gb_register_driver`.
The semaphore also carries the exit token of `gb_unregister_driver`.  Every action below is one
atomic step of one of these threads; a run is any interleaving of them.
-/

namespace Greybus.RxQueue

open Reasoning.Transition

variable {Msg : Type*}

/-- An entry of `rx_fifo`: a received message, or the cport's own `timedout_operation`. -/
inductive Entry (Msg : Type*) where
  | message (m : Msg)
  | timedout
  deriving DecidableEq, Repr

/-- Where `gb_pending_message_worker` is in its loop. -/
inductive Worker (Msg : Type*) where
  -- No thread: before `pthread_create`, or after `pthread_join`.
  | absent
  -- At `sem_wait`.
  | waiting
  -- `sem_wait` has returned 0; the exit test comes next.
  | woken
  -- The exit test did not leave the loop; `sys_dlist_get` comes next.
  | dequeuing
  | processing (e : Entry Msg)
  -- `sys_dlist_get` returned NULL and the worker dereferenced it.
  | nullHead
  -- Out of the loop.
  | exited
  deriving DecidableEq, Repr

/-- Where the thread that registers and unregisters the cport's driver is. -/
inductive Control where
  | idle
  -- `gb_unregister_driver` has set `exit_worker`.
  | stopping
  -- `gb_unregister_driver` has posted its token and is in `pthread_join`.
  | joining
  | joined
  -- `_gb_register_driver` has cleared `exit_worker`.
  | starting
  -- `_gb_register_driver` has created the worker.
  | started
  deriving DecidableEq, Repr

/-- The receive side of a `struct gb_cport_driver`, and the threads that work on it. -/
structure State (Msg : Type*) where
  rxFifo : List (Entry Msg)
  rxFifoLock : Nat
  exitWorker : Bool
  -- `driver` is not NULL.
  registered : Bool
  worker : Worker Msg
  control : Control
  -- Calls of `greybus_rx_handler` that have passed their driver check.
  inFlight : Nat
  -- Exit tokens posted and not consumed.
  exitTokens : Nat
  -- The entries queued so far, oldest first.
  accepted : List (Entry Msg)
  -- The entries processed so far, oldest first.
  processed : List (Entry Msg)
  deriving DecidableEq, Repr

/-- The cport after `gb_init`. -/
def gbInit : State Msg where
  rxFifo := []
  rxFifoLock := 0
  exitWorker := false
  registered := false
  worker := .absent
  control := .idle
  inFlight := 0
  exitTokens := 0
  accepted := []
  processed := []

inductive Action (Msg : Type*) where
  -- `greybus_rx_handler` finds a driver with an `op_handlers` table.
  | rxEnter
  -- `greybus_rx_handler` returns without queueing: a malformed message, a fast handler, or no
  -- memory for the operation.
  | rxReturn
  -- `greybus_rx_handler` appends to `rx_fifo` and posts, with interrupts locked.
  | rxAppend (m : Msg)
  -- `gb_operation_timeout`.
  | operationTimeout
  | semWait
  -- `sem_wait` returns a negative value and the worker loops.
  | semWaitFails
  | exitTest
  | dequeue
  | process
  -- `gb_unregister_driver` passes its checks and sets `exit_worker`.
  | unregister
  | postExit
  | join
  -- `gb_unregister_driver` sets `driver` to NULL.
  | clearDriver
  -- `_gb_register_driver` passes its checks and clears `exit_worker`.
  | register
  | create (ok : Bool)
  -- `_gb_register_driver` stores `driver`.
  | setDriver

/-- `sys_dlist_append` and `sem_post`, with interrupts locked. -/
def State.enqueue (s : State Msg) (e : Entry Msg) : State Msg :=
  { s with
    rxFifo := s.rxFifo ++ [e], rxFifoLock := s.rxFifoLock + 1, accepted := s.accepted ++ [e] }

/-- The worker's exit test. -/
def State.exitTest (s : State Msg) : State Msg :=
  if s.exitWorker && s.rxFifo.isEmpty then
    { s with worker := .exited, exitTokens := s.exitTokens - 1 }
  else { s with worker := .dequeuing }

/-- `sys_dlist_get` and the dereference of its result. -/
def State.dequeue (s : State Msg) : State Msg :=
  match s.rxFifo with
  | [] => { s with worker := .nullHead }
  | e :: rest => { s with rxFifo := rest, worker := .processing e }

/-- `gb_operation_timeout` returns when the marker is *not* linked.  Appending a linked node again
is not defined, so a linked marker ends the run. -/
def State.operationTimeout [DecidableEq Msg] (s : State Msg) : Option (State Msg) :=
  if .timedout ∉ s.rxFifo then some s else none

def step [DecidableEq Msg] (s : State Msg) : Action Msg → Option (State Msg)
  | .rxEnter => if s.registered then some { s with inFlight := s.inFlight + 1 } else none
  | .rxReturn => if 0 < s.inFlight then some { s with inFlight := s.inFlight - 1 } else none
  | .rxAppend m =>
    if 0 < s.inFlight then some ({ s with inFlight := s.inFlight - 1 }.enqueue (.message m))
    else none
  | .operationTimeout => s.operationTimeout
  | .semWait =>
    if s.worker = .waiting ∧ 0 < s.rxFifoLock then
      some { s with worker := .woken, rxFifoLock := s.rxFifoLock - 1 }
    else none
  | .semWaitFails => if s.worker = .waiting then some s else none
  | .exitTest => if s.worker = .woken then some s.exitTest else none
  | .dequeue => if s.worker = .dequeuing then some s.dequeue else none
  | .process =>
    match s.worker with
    | .processing e => some { s with worker := .waiting, processed := s.processed ++ [e] }
    | _ => none
  | .unregister =>
    if s.control = .idle ∧ s.registered then
      some { s with exitWorker := true, control := .stopping }
    else none
  | .postExit =>
    if s.control = .stopping then
      some { s with
        rxFifoLock := s.rxFifoLock + 1, exitTokens := s.exitTokens + 1, control := .joining }
    else none
  | .join =>
    if s.control = .joining ∧ s.worker = .exited then
      some { s with worker := .absent, control := .joined }
    else none
  | .clearDriver =>
    if s.control = .joined then some { s with registered := false, control := .idle } else none
  | .register =>
    if s.control = .idle ∧ !s.registered then
      some { s with exitWorker := false, control := .starting }
    else none
  | .create ok =>
    if s.control = .starting then
      some (if ok then { s with worker := .waiting, control := .started }
        else { s with control := .idle })
    else none
  | .setDriver =>
    if s.control = .started then some { s with registered := true, control := .idle } else none

/-! ## The invariant -/

/-- The worker has taken a unit of `rx_fifo_lock` and neither dequeued nor exited yet. -/
def State.between (s : State Msg) : Nat :=
  match s.worker with
  | .woken | .dequeuing => 1
  | _ => 0

/-- The entry the worker has dequeued and not processed yet. -/
def State.inHand (s : State Msg) : List (Entry Msg) :=
  match s.worker with
  | .processing e => [e]
  | _ => []

/-- The worker thread is in its loop. -/
def Worker.alive : Worker Msg → Bool
  | .waiting | .woken | .dequeuing | .processing _ => true
  | _ => false

/-- How far the controlling thread has come decides whether a worker exists. -/
def ThreadOk (registered : Bool) (worker : Worker Msg) : Control → Prop
  | .idle => worker.alive = registered ∧ (registered = false → worker = .absent)
  | .stopping | .started => worker.alive = true
  | .joining => worker.alive = true ∨ worker = .exited
  | .joined => worker = .absent
  | .starting => worker = .absent ∧ registered = false

-- A step inside the worker's loop does not concern the controlling thread.
theorem ThreadOk.move {registered : Bool} {w w' : Worker Msg} {c : Control}
    (h : ThreadOk registered w c) (hw : w.alive = true) (hw' : w'.alive = true) :
    ThreadOk registered w' c := by
  cases c with
  | idle =>
    refine ⟨by rw [hw', ← h.1, hw], fun hr => ?_⟩
    rw [h.2 hr] at hw
    exact absurd hw (by simp [Worker.alive])
  | stopping | started => exact hw'
  | joining => exact .inl hw'
  | joined => rw [show w = .absent from h] at hw; exact absurd hw (by simp [Worker.alive])
  | starting => rw [h.1] at hw; exact absurd hw (by simp [Worker.alive])

structure Inv (s : State Msg) : Prop where
  count : s.rxFifoLock + s.between = s.rxFifo.length + s.exitTokens
  token : s.exitTokens = if s.control = .joining ∧ s.worker.alive then 1 else 0
  flag : s.control = .stopping ∨ s.control = .joining → s.exitWorker = true
  thread : ThreadOk s.registered s.worker s.control
  ready : s.worker = .dequeuing → s.rxFifo ≠ []
  history : s.accepted = s.processed ++ s.inHand ++ s.rxFifo

theorem Inv.exitTokens_le_one {s : State Msg} (h : Inv s) : s.exitTokens ≤ 1 := by
  rw [h.token]; split <;> omega

theorem Inv.not_nullHead {s : State Msg} (h : Inv s) : s.worker ≠ .nullHead := by
  intro hw
  have ht := h.thread
  cases hc : s.control <;> simp [ThreadOk, hc, hw, Worker.alive] at ht

theorem gbInit_inv : Inv (gbInit : State Msg) where
  count := rfl
  token := rfl
  flag := by simp [gbInit]
  thread := by simp [ThreadOk, gbInit, Worker.alive]
  ready := by simp [gbInit]
  history := rfl

/-! ## What each step preserves -/

-- An arrival adds one entry and one unit of the semaphore, whatever the other threads do.
theorem Inv.enqueue {s : State Msg} (h : Inv s) (e : Entry Msg) : Inv (s.enqueue e) where
  count := by
    have hc := h.count
    simp only [State.enqueue, State.between, List.length_append, List.length_singleton] at hc ⊢
    omega
  token := h.token
  flag := h.flag
  thread := h.thread
  ready := by simp [State.enqueue]
  history := by
    have hh := h.history
    simp only [State.enqueue, State.inHand] at hh ⊢
    rw [hh, List.append_assoc]

-- The count of calls inside `greybus_rx_handler` is no part of the invariant.
theorem Inv.inFlight {s : State Msg} (h : Inv s) (n : Nat) : Inv { s with inFlight := n } :=
  ⟨h.count, h.token, h.flag, h.thread, h.ready, h.history⟩

theorem Inv.semWait {s : State Msg} (h : Inv s) (hw : s.worker = .waiting)
    (hpos : 0 < s.rxFifoLock) :
    Inv { s with worker := .woken, rxFifoLock := s.rxFifoLock - 1 } where
  count := by
    have hc := h.count
    simp only [State.between, hw] at hc ⊢
    omega
  token := by have ht := h.token; simpa only [hw, Worker.alive] using ht
  flag := h.flag
  thread := h.thread.move (by rw [hw]; rfl) rfl
  ready := by simp
  history := by have hh := h.history; simpa only [State.inHand, hw] using hh

-- With the fifo empty the unit the worker took was the exit token, so the flag was set and the
-- worker leaves; otherwise it goes on to a nonempty fifo.
theorem Inv.exitTest {s : State Msg} (h : Inv s) (hw : s.worker = .woken) : Inv s.exitTest := by
  have hc := h.count
  have ht := h.token
  simp only [State.between, hw] at hc
  unfold State.exitTest
  split
  next hexit =>
    simp only [Bool.and_eq_true, List.isEmpty_iff] at hexit
    have htok : s.exitTokens = 1 := by
      have hle := h.exitTokens_le_one
      rw [hexit.2, List.length_nil] at hc
      omega
    have hjoin : s.control = .joining := by
      by_contra hne
      rw [if_neg (fun hj => hne hj.1)] at ht
      omega
    refine ⟨?_, ?_, h.flag, ?_, by simp, ?_⟩
    · simp only [State.between]
      omega
    · simp [Worker.alive, htok]
    · simp [ThreadOk, hjoin]
    · have hh := h.history
      simpa only [State.inHand, hw] using hh
  next hstay =>
    refine ⟨?_, ?_, h.flag, ?_, fun _ hempty => ?_, ?_⟩
    · simpa only [State.between] using hc
    · simpa only [hw, Worker.alive] using ht
    · exact h.thread.move (by rw [hw]; rfl) rfl
    · simp only at hempty
      rw [hempty, List.length_nil] at hc
      have hjoin : s.control = .joining := by
        by_contra hne
        rw [if_neg (fun hj => hne hj.1)] at ht
        omega
      simp [h.flag (.inr hjoin), hempty] at hstay
    · have hh := h.history
      simpa only [State.inHand, hw] using hh

theorem Inv.dequeue {s : State Msg} (h : Inv s) (hw : s.worker = .dequeuing) : Inv s.dequeue := by
  have hc := h.count
  have ht := h.token
  have hh := h.history
  unfold State.dequeue
  split
  next hempty => exact absurd hempty (h.ready hw)
  next e rest hfifo =>
    refine ⟨?_, ?_, h.flag, ?_, by simp, ?_⟩
    · simp only [State.between, hw, hfifo, List.length_cons] at hc ⊢
      omega
    · simpa only [hw, Worker.alive] using ht
    · exact h.thread.move (by rw [hw]; rfl) rfl
    · simp only [State.inHand, hw, hfifo] at hh ⊢
      simpa using hh

theorem Inv.process {s : State Msg} (h : Inv s) {e : Entry Msg} (hw : s.worker = .processing e) :
    Inv { s with worker := .waiting, processed := s.processed ++ [e] } where
  count := by have hc := h.count; simpa only [State.between, hw] using hc
  token := by have ht := h.token; simpa only [hw, Worker.alive] using ht
  flag := h.flag
  thread := h.thread.move (by rw [hw]; rfl) rfl
  ready := by simp
  history := by have hh := h.history; simpa only [State.inHand, hw, List.append_nil] using hh

theorem Inv.unregister {s : State Msg} (h : Inv s) (hidle : s.control = .idle)
    (hreg : s.registered = true) : Inv { s with exitWorker := true, control := .stopping } where
  count := h.count
  token := by have ht := h.token; simpa [hidle] using ht
  flag := by simp
  thread := by
    have ht := h.thread
    rw [hidle] at ht
    exact ht.1.trans hreg
  ready := h.ready
  history := h.history

theorem Inv.postExit {s : State Msg} (h : Inv s) (hc : s.control = .stopping) :
    Inv { s with
      rxFifoLock := s.rxFifoLock + 1, exitTokens := s.exitTokens + 1, control := .joining } where
  count := by
    have hcount := h.count
    simp only [State.between] at hcount ⊢
    omega
  token := by
    have ht := h.token
    have hth := h.thread
    rw [hc] at hth
    simp only [hc, reduceCtorEq, false_and, if_false] at ht
    simp [ht, show s.worker.alive = true from hth]
  flag := fun _ => h.flag (.inl hc)
  thread := by
    have hth := h.thread
    rw [hc] at hth
    exact .inl hth
  ready := h.ready
  history := h.history

theorem Inv.join {s : State Msg} (h : Inv s) (hc : s.control = .joining)
    (hw : s.worker = .exited) : Inv { s with worker := .absent, control := .joined } where
  count := by have hcount := h.count; simpa only [State.between, hw] using hcount
  token := by have ht := h.token; simpa [hc, hw, Worker.alive] using ht
  flag := by simp
  thread := rfl
  ready := by simp
  history := by have hh := h.history; simpa only [State.inHand, hw] using hh

theorem Inv.clearDriver {s : State Msg} (h : Inv s) (hc : s.control = .joined) :
    Inv { s with registered := false, control := .idle } where
  count := h.count
  token := by have ht := h.token; simpa [hc] using ht
  flag := by simp
  thread := by
    have hth := h.thread
    rw [hc] at hth
    rw [show s.worker = .absent from hth]
    exact ⟨rfl, fun _ => rfl⟩
  ready := h.ready
  history := h.history

theorem Inv.register {s : State Msg} (h : Inv s) (hidle : s.control = .idle)
    (hreg : s.registered = false) : Inv { s with exitWorker := false, control := .starting } where
  count := h.count
  token := by have ht := h.token; simpa [hidle] using ht
  flag := by simp
  thread := by
    have hth := h.thread
    rw [hidle] at hth
    exact ⟨hth.2 hreg, hreg⟩
  ready := h.ready
  history := h.history

theorem Inv.createFails {s : State Msg} (h : Inv s) (hc : s.control = .starting) :
    Inv { s with control := .idle } where
  count := h.count
  token := by have ht := h.token; simpa [hc] using ht
  flag := by simp
  thread := by
    have hth := h.thread
    rw [hc] at hth
    obtain ⟨hw, hreg⟩ := hth
    rw [hw, hreg]
    exact ⟨rfl, fun _ => rfl⟩
  ready := h.ready
  history := h.history

theorem Inv.create {s : State Msg} (h : Inv s) (hc : s.control = .starting) :
    Inv { s with worker := .waiting, control := .started } := by
  have hw : s.worker = .absent := by
    have hth := h.thread
    rw [hc] at hth
    exact hth.1
  refine ⟨?_, ?_, by simp, rfl, by simp, ?_⟩
  · have hcount := h.count
    simpa only [State.between, hw] using hcount
  · have ht := h.token
    simpa [hc] using ht
  · have hh := h.history
    simpa only [State.inHand, hw] using hh

theorem Inv.setDriver {s : State Msg} (h : Inv s) (hc : s.control = .started) :
    Inv { s with registered := true, control := .idle } where
  count := h.count
  token := by have ht := h.token; simpa [hc] using ht
  flag := by simp
  thread := by
    have hth := h.thread
    rw [hc] at hth
    exact ⟨hth, by simp⟩
  ready := h.ready
  history := h.history

theorem step_inv [DecidableEq Msg] (s : State Msg) (a : Action Msg) (s' : State Msg) (h : Inv s)
    (hstep : step s a = some s') : Inv s' := by
  cases a with
  | rxEnter | rxReturn =>
    simp only [step, Option.ite_none_right_eq_some, Option.some.injEq] at hstep
    exact hstep.2 ▸ h.inFlight _
  | rxAppend m =>
    simp only [step, Option.ite_none_right_eq_some, Option.some.injEq] at hstep
    exact hstep.2 ▸ (h.inFlight _).enqueue _
  | operationTimeout =>
    simp only [step, State.operationTimeout, Option.ite_none_right_eq_some,
      Option.some.injEq] at hstep
    exact hstep.2 ▸ h
  | semWait =>
    simp only [step, Option.ite_none_right_eq_some, Option.some.injEq] at hstep
    obtain ⟨⟨hw, hpos⟩, rfl⟩ := hstep
    exact h.semWait hw hpos
  | semWaitFails =>
    simp only [step, Option.ite_none_right_eq_some, Option.some.injEq] at hstep
    exact hstep.2 ▸ h
  | exitTest =>
    simp only [step, Option.ite_none_right_eq_some, Option.some.injEq] at hstep
    exact hstep.2 ▸ h.exitTest hstep.1
  | dequeue =>
    simp only [step, Option.ite_none_right_eq_some, Option.some.injEq] at hstep
    exact hstep.2 ▸ h.dequeue hstep.1
  | process =>
    simp only [step] at hstep
    split at hstep
    next e hw =>
      simp only [Option.some.injEq] at hstep
      exact hstep ▸ h.process hw
    next => simp at hstep
  | unregister =>
    simp only [step, Option.ite_none_right_eq_some, Option.some.injEq] at hstep
    obtain ⟨⟨hidle, hreg⟩, rfl⟩ := hstep
    exact h.unregister hidle hreg
  | postExit =>
    simp only [step, Option.ite_none_right_eq_some, Option.some.injEq] at hstep
    exact hstep.2 ▸ h.postExit hstep.1
  | join =>
    simp only [step, Option.ite_none_right_eq_some, Option.some.injEq] at hstep
    obtain ⟨⟨hc, hw⟩, rfl⟩ := hstep
    exact h.join hc hw
  | clearDriver =>
    simp only [step, Option.ite_none_right_eq_some, Option.some.injEq] at hstep
    exact hstep.2 ▸ h.clearDriver hstep.1
  | register =>
    simp only [step, Option.ite_none_right_eq_some, Option.some.injEq, Bool.not_eq_true'] at hstep
    obtain ⟨⟨hidle, hreg⟩, rfl⟩ := hstep
    exact h.register hidle hreg
  | create ok =>
    simp only [step, Option.ite_none_right_eq_some, Option.some.injEq] at hstep
    obtain ⟨hc, rfl⟩ := hstep
    cases ok with
    | true => exact h.create hc
    | false => exact h.createFails hc
  | setDriver =>
    simp only [step, Option.ite_none_right_eq_some, Option.some.injEq] at hstep
    exact hstep.2 ▸ h.setDriver hstep.1

-- The worker leaves its loop at an exit test that sees an empty fifo, and nowhere else.
theorem step_exits [DecidableEq Msg] {s s' : State Msg} {a : Action Msg}
    (hstep : step s a = some s') (hin : s.worker ≠ .exited) (hout : s'.worker = .exited) :
    s.rxFifo = [] := by
  cases a with
  | exitTest =>
    simp only [step, Option.ite_none_right_eq_some, Option.some.injEq, State.exitTest] at hstep
    obtain ⟨-, rfl⟩ := hstep
    split at hout
    next hexit =>
      simp only [Bool.and_eq_true, List.isEmpty_iff] at hexit
      exact hexit.2
    next => simp at hout
  | dequeue =>
    simp only [step, Option.ite_none_right_eq_some, Option.some.injEq, State.dequeue] at hstep
    obtain ⟨-, rfl⟩ := hstep
    split at hout <;> simp at hout
  | process =>
    simp only [step] at hstep
    split at hstep
    next => simp only [Option.some.injEq] at hstep; subst hstep; simp at hout
    next => simp at hstep
  | create ok =>
    simp only [step, Option.ite_none_right_eq_some, Option.some.injEq] at hstep
    obtain ⟨-, rfl⟩ := hstep
    cases ok with
    | true => simp at hout
    | false => exact absurd hout hin
  | rxEnter | rxReturn | rxAppend | operationTimeout | semWait | semWaitFails | unregister
  | postExit | join | clearDriver | register | setDriver =>
    simp only [step, State.operationTimeout, Option.ite_none_right_eq_some,
      Option.some.injEq] at hstep
    obtain ⟨-, rfl⟩ := hstep
    first | exact absurd hout hin | simp at hout

/-! ## Every interleaving -/

/-- On every cport and after every interleaving, `rx_fifo_lock` counts the queued entries and the
exit token, the worker never dereferences a NULL head, what it has processed is the accepted
entries in arrival order, and it leaves its loop only when the fifo is empty. -/
theorem rxFifoLock_counts [DecidableEq Msg] {as : List (Nat × Action Msg)} {g : Nat → State Msg}
    (hrun : run (family step) (fun _ => gbInit) as = some g) (cport : Nat) :
    (g cport).rxFifoLock + (g cport).between = (g cport).rxFifo.length + (g cport).exitTokens ∧
      (g cport).exitTokens ≤ 1 ∧
      (g cport).worker ≠ .nullHead ∧
      (g cport).accepted = (g cport).processed ++ (g cport).inHand ++ (g cport).rxFifo ∧
      ∀ a s', step (g cport) a = some s' → (g cport).worker ≠ .exited → s'.worker = .exited →
        (g cport).rxFifo = [] := by
  obtain ⟨bs, hbs⟩ := run_family hrun cport
  have h : Inv (g cport) := run_induct step_inv gbInit_inv hbs
  exact ⟨h.count, h.exitTokens_le_one, h.not_nullHead, h.history, fun _ _ => step_exits⟩

/-- A message that arrives while `gb_unregister_driver` waits is processed before the worker
exits. -/
def shutdownRun : List (Nat × Action Nat) :=
  [.register, .create true, .setDriver, .rxEnter, .unregister, .postExit, .semWait, .rxAppend 7,
    .exitTest, .dequeue, .process, .semWait, .exitTest, .join, .clearDriver].map (3, ·)

theorem rxFifoLock_counts_shutdown :
    ∃ g : Nat → State Nat, run (family step) (fun _ => gbInit) shutdownRun = some g ∧
      (g 3).processed = [.message 7] ∧
      (g 3).rxFifoLock + (g 3).between = (g 3).rxFifo.length + (g 3).exitTokens := by
  have hsome : (run (family step) (fun _ => gbInit) shutdownRun).isSome := by decide
  refine ⟨(run (family step) (fun _ => gbInit) shutdownRun).get hsome, ?_, rfl, ?_⟩
  · exact (Option.some_get hsome).symm
  · exact (rxFifoLock_counts (Option.some_get hsome).symm 3).1

/-! ## The timeout marker -/

-- Nothing but `greybus_rx_handler` adds to `rx_fifo`.
theorem step_accepted [DecidableEq Msg] {s s' : State Msg} {a : Action Msg}
    (hstep : step s a = some s') :
    s'.accepted = s.accepted ∨ ∃ m, s'.accepted = s.accepted ++ [.message m] := by
  cases a with
  | rxAppend m =>
    simp only [step, Option.ite_none_right_eq_some, Option.some.injEq] at hstep
    right
    exact ⟨m, by rw [← hstep.2]; rfl⟩
  | process =>
    left
    simp only [step] at hstep
    split at hstep
    next => rw [← Option.some.inj hstep]
    next => simp at hstep
  | exitTest =>
    left
    simp only [step, Option.ite_none_right_eq_some, Option.some.injEq] at hstep
    rw [← hstep.2]
    unfold State.exitTest
    split <;> rfl
  | dequeue =>
    left
    simp only [step, Option.ite_none_right_eq_some, Option.some.injEq] at hstep
    rw [← hstep.2]
    unfold State.dequeue
    split <;> rfl
  | create ok =>
    left
    simp only [step, Option.ite_none_right_eq_some, Option.some.injEq] at hstep
    rw [← hstep.2]
    cases ok <;> rfl
  | rxEnter | rxReturn | operationTimeout | semWait | semWaitFails | unregister | postExit | join
  | clearDriver | register | setDriver =>
    left
    simp only [step, State.operationTimeout, Option.ite_none_right_eq_some,
      Option.some.injEq] at hstep
    rw [← hstep.2]

-- The marker starts unlinked, and only a linked marker would get past the test.
theorem timedout_not_mem_accepted [DecidableEq Msg] {as : List (Action Msg)} {s : State Msg}
    (hrun : run step gbInit as = some s) : Entry.timedout ∉ s.accepted := by
  apply run_induct (P := fun s : State Msg => Entry.timedout ∉ s.accepted) _ _ hrun
  · intro s a s' hs hstep
    rcases step_accepted hstep with heq | ⟨m, heq⟩
    · rw [heq]
      exact hs
    · rw [heq, List.mem_append, not_or]
      exact ⟨hs, by simp⟩
  · show Entry.timedout ∉ []
    exact List.not_mem_nil

/-- What `gb_operation_timeout` is for: after a call the marker is queued exactly once, by the call,
with one `sem_post`, if it was not queued before. -/
structure QueuesMarker [DecidableEq Msg] (s s' : State Msg) : Prop where
  once : s'.rxFifo.count .timedout = 1
  queued : .timedout ∉ s.rxFifo →
    s'.rxFifo = s.rxFifo ++ [.timedout] ∧ s'.rxFifoLock = s.rxFifoLock + 1
  unchanged : .timedout ∈ s.rxFifo → s' = s

/-- On every cport and after every interleaving, `gb_operation_timeout` returns without queueing the
marker and without a post; so the worker never meets the marker either. -/
theorem operationTimeout_never_queues [DecidableEq Msg] {as : List (Nat × Action Msg)}
    {g : Nat → State Msg} (hrun : run (family step) (fun _ => gbInit) as = some g) (cport : Nat) :
    step (g cport) .operationTimeout = some (g cport) ∧
      (g cport).rxFifo.count .timedout = 0 ∧
      ¬ QueuesMarker (g cport) (g cport) ∧
      (g cport).worker ≠ .processing .timedout := by
  obtain ⟨bs, hbs⟩ := run_family hrun cport
  have h : Inv (g cport) := run_induct step_inv gbInit_inv hbs
  have hacc := timedout_not_mem_accepted hbs
  rw [h.history, List.mem_append, List.mem_append, not_or, not_or] at hacc
  obtain ⟨⟨-, hhand⟩, hfifo⟩ := hacc
  have hcount : (g cport).rxFifo.count .timedout = 0 := List.count_eq_zero.mpr hfifo
  refine ⟨if_pos hfifo, hcount, fun hq => ?_, fun hw => ?_⟩
  · have honce := hq.once
    omega
  · apply hhand
    unfold State.inHand
    rw [hw]
    exact List.mem_singleton_self _

/-- A message is received and processed, and then the watchdog fires. -/
def timeoutRun : List (Nat × Action Nat) :=
  [.register, .create true, .setDriver, .rxEnter, .rxAppend 7, .semWait, .exitTest, .dequeue,
    .process].map (0, ·)

theorem operationTimeout_never_queues_run :
    ∃ g : Nat → State Nat, run (family step) (fun _ => gbInit) timeoutRun = some g ∧
      (g 0).processed = [.message 7] ∧
      step (g 0) .operationTimeout = some (g 0) := by
  have hsome : (run (family step) (fun _ => gbInit) timeoutRun).isSome := by decide
  refine ⟨(run (family step) (fun _ => gbInit) timeoutRun).get hsome, ?_, rfl, ?_⟩
  · exact (Option.some_get hsome).symm
  · exact (operationTimeout_never_queues (Option.some_get hsome).symm 0).1

/-- The call after `timeoutRun` leaves the marker out of `rx_fifo`. -/
theorem timeoutRun_marker_lost :
    ¬ ∀ (as : List (Nat × Action Nat)) (g : Nat → State Nat) (s' : State Nat) (cport : Nat),
      run (family step) (fun _ => gbInit) as = some g →
      step (g cport) .operationTimeout = some s' → QueuesMarker (g cport) s' := by
  intro hall
  obtain ⟨g, hrun, hstep, hcount⟩ : ∃ g, run (family step) (fun _ => gbInit) timeoutRun = some g ∧
      step (g 0) .operationTimeout = some (g 0) ∧ (g 0).rxFifo.count .timedout = 0 :=
    ⟨(run (family step) (fun _ => gbInit) timeoutRun).get (by decide), (Option.some_get _).symm,
      by decide, by decide⟩
  have honce := (hall timeoutRun g (g 0) 0 hrun hstep).once
  omega

end Greybus.RxQueue
