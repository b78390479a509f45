import Greybus.Reasoning.Refill

/-!
# The receiver of the UART protocol

The callback of the UART driver, which is atomic and comes while the receiver is started, and the
thread that it wakes, one step for every access to what they share.  Starting the receiver always
succeeds and the thread is not stopped.
-/

namespace Greybus.UartReceiver

open Reasoning Reasoning.Transition

/-! ## Buffers -/

/-- `MAX_RX_BUF_NUMBER`. -/
def maxRxBufNumber : Nat := 5

/-- `struct buf_node`. -/
structure BufNode where
  dataSize : UInt16
  dataFlags : UInt8
  buffer : List UInt8
  deriving DecidableEq, Repr

/-- What the driver hands to the callback: the bytes in the receiver's buffer, how many it has
received, and which of `LSR_OE`, `LSR_PE`, `LSR_FE` and `LSR_BI` are set. -/
structure Reception where
  bytes : List UInt8
  length : Int
  overrun : Bool
  parity : Bool
  framing : Bool
  brk : Bool
  deriving DecidableEq, Repr

/-- The `GB_UART_RECV_FLAG_*` for the errors. -/
def Reception.flags (r : Reception) : UInt8 :=
  (if r.overrun then 0x04 else 0) ||| (if r.parity then 0x02 else 0)
    ||| (if r.framing then 0x01 else 0) ||| (if r.brk then 0x08 else 0)

/-- `struct gb_uart_receive_data_request`. -/
structure ReceiveDataRequest where
  size : UInt16
  flags : UInt8
  data : List UInt8
  deriving DecidableEq, Repr

/-- The request that `uart_rx_thread` fills in from a node. -/
def BufNode.request (node : BufNode) : ReceiveDataRequest :=
  ⟨node.dataSize, node.dataFlags, node.buffer.take node.dataSize.toNat⟩

/-- The node that a reception leaves. -/
def Reception.node (r : Reception) : BufNode := ⟨UInt16.ofInt r.length, r.flags, r.bytes⟩

/-! ## The driver's information -/

/-- The steps of `uart_rx_thread`. -/
inductive ThreadPc where
  | semWait
  | getData
  | sendRequest (node : Nat)
  | putBack (node : Nat)
  | testRequire
  | getFree
  | storeRxNode (node : Option Nat)
  | startReceiver (node : Option Nat)
  | clearRequire
  -- The thread has used a NULL node.
  | faulted
  deriving DecidableEq, Repr

/-- What becomes of a request: `gb_operation_create` fails, `gb_operation_send_request` fails, or it
is sent.  Each failure is reported, and the data dropped. -/
inductive Sending where
  | notCreated
  | notSent
  | sent
  deriving DecidableEq, Repr

/-- `struct gb_uart_info` as far as it receives, its nodes by their addresses, the UART driver and
the thread. -/
structure State where
  nodes : Nat → BufNode
  freeQueue : List Nat
  dataQueue : List Nat
  rxNode : Option Nat
  requireNode : Bool
  rxSem : Nat
  -- The node whose buffer the started receiver fills.
  started : Option Nat
  pc : ThreadPc
  -- What has been received, and what the thread has come to with each request, in order.
  receptions : List Reception
  handed : List (ReceiveDataRequest × Sending)

/-- `get_node_from`: the node, and what is left of the queue. -/
def getNodeFrom (queue : List Nat) : Option Nat × List Nat := (queue.head?, queue.tail)

/-- `put_node_back`. -/
def putNodeBack (queue : List Nat) (node : Nat) : List Nat := queue ++ [node]

/-- The driver has stored the bytes in the node that it was started with, and `uart_rx_callback`
stores their size and flags in `rx_node`. -/
def storeReception (r : Reception) (filled rxNode : Nat) (nodes : Nat → BufNode) : Nat → BufNode :=
  let nodes := Function.update nodes filled { nodes filled with buffer := r.bytes }
  Function.update nodes rxNode
    { nodes rxNode with dataSize := UInt16.ofInt r.length, dataFlags := r.flags }

/-- The first part of `uart_rx_callback`: a reception is queued, and the thread woken. -/
def State.received (s : State) (r : Reception) (filled rxNode : Nat) : State :=
  { s with
    nodes := storeReception r filled rxNode s.nodes
    dataQueue := putNodeBack s.dataQueue rxNode
    rxSem := s.rxSem + 1
    started := none
    receptions := s.receptions ++ [r] }

/-- The second part: the receiver is started again, or a node is required. -/
def State.restarted (s : State) : State :=
  match getNodeFrom s.freeQueue with
  | (none, _) => { s with requireNode := true }
  | (some node, queue) => { s with freeQueue := queue, rxNode := some node, started := some node }

/-- `uart_rx_callback`; there is none while the receiver is not started. -/
def uartRxCallback (r : Reception) (s : State) : Option State :=
  s.started.bind fun filled => s.rxNode.map fun rxNode => (s.received r filled rxNode).restarted

/-- The next step of `uart_rx_thread`; `sending` is what becomes of a request that it sends. -/
def uartRxThread (sending : Sending) (s : State) : Option State :=
  match s.pc with
  | .semWait => if 0 < s.rxSem then some { s with rxSem := s.rxSem - 1, pc := .getData } else none
  | .getData =>
    match getNodeFrom s.dataQueue with
    | (none, _) => some { s with pc := .testRequire }
    | (some node, queue) => some { s with dataQueue := queue, pc := .sendRequest node }
  | .sendRequest node =>
    some { s with handed := s.handed ++ [((s.nodes node).request, sending)], pc := .putBack node }
  | .putBack node =>
    some { s with freeQueue := putNodeBack s.freeQueue node, pc := .testRequire }
  | .testRequire => some { s with pc := if s.requireNode then .getFree else .semWait }
  | .getFree =>
    let (node, queue) := getNodeFrom s.freeQueue
    some { s with freeQueue := queue, pc := .storeRxNode node }
  | .storeRxNode node => some { s with rxNode := node, pc := .startReceiver node }
  | .startReceiver none => some { s with pc := .faulted }
  | .startReceiver (some node) => some { s with started := some node, pc := .clearRequire }
  | .clearRequire => some { s with requireNode := false, pc := .semWait }
  | .faulted => none

inductive Action where
  | callback (r : Reception)
  | thread (sending : Sending)
  deriving DecidableEq, Repr

def step (s : State) : Action → Option State
  | .callback r => uartRxCallback r s
  | .thread sending => uartRxThread sending s

/-- What `gb_uart_init` leaves. -/
def initial : State where
  nodes := fun _ => ⟨0, 0, []⟩
  freeQueue := List.range maxRxBufNumber
  dataQueue := []
  rxNode := none
  requireNode := true
  rxSem := 1
  started := none
  pc := .semWait
  receptions := []
  handed := []

/-! ## The pool of buffers -/

def ThreadPc.abs : ThreadPc → Refill.Pc Nat
  | .semWait => .waiting
  | .getData => .woken
  | .sendRequest node => .sending node
  | .putBack node => .requeueing node
  | .testRequire => .testing
  | .getFree => .taking
  | .storeRxNode node => .refilling node
  | .startReceiver node => .refilling node
  | .clearRequire => .clearing
  | .faulted => .clearing

/-- The receiver as a pool of buffers; the current one is that of the started receiver. -/
def State.abs (s : State) : Refill.State Nat ReceiveDataRequest Sending where
  free := s.freeQueue
  data := s.dataQueue
  current := s.started
  request := s.requireNode
  wakeups := s.rxSem
  pc := s.pc.abs
  content := fun node => (s.nodes node).request
  filled := s.receptions.map fun r => r.node.request
  handled := s.handed

/-- `rx_node` is the node that the receiver has been, or is about to be, started with. -/
structure State.Aligned (s : State) : Prop where
  started : ∀ node, s.started = some node → s.rxNode = some node
  starting : ∀ node, s.pc = .startReceiver node → s.rxNode = node

variable {s s' : State} {a : Action} {r : Reception} {sending : Sending}

theorem request_storeReception (nodes : Nat → BufNode) (node : Nat) :
    (fun n => (storeReception r node node nodes n).request)
      = Function.update (fun n => (nodes n).request) node r.node.request := by
  funext n
  unfold storeReception
  by_cases hn : n = node
  · subst hn
    rw [Function.update_self, Function.update_self, Function.update_self]
    rfl
  · rw [Function.update_of_ne hn, Function.update_of_ne hn, Function.update_of_ne hn]

theorem received_abs (node : Nat) :
    (s.received r node node).abs = { s.abs.queue node r.node.request with current := none } := by
  unfold State.abs State.received Refill.State.queue
  rw [request_storeReception]
  simp only [List.map_append, List.map_singleton]
  rfl

theorem restarted_nil (hfree : s.freeQueue = []) :
    s.restarted = { s with requireNode := true } := by
  have hget : getNodeFrom s.freeQueue = (none, []) := by rw [hfree]; rfl
  unfold State.restarted
  rw [hget]

theorem restarted_cons {node : Nat} {queue : List Nat} (hfree : s.freeQueue = node :: queue) :
    s.restarted =
      { s with freeQueue := queue, rxNode := some node, started := some node } := by
  have hget : getNodeFrom s.freeQueue = (some node, queue) := by rw [hfree]; rfl
  unfold State.restarted
  rw [hget]

theorem restarted_abs (hstarted : s.started = none) : s.restarted.abs = s.abs.advance := by
  cases hfree : s.freeQueue with
  | nil =>
    rw [restarted_nil hfree, Refill.State.advance_nil (show s.abs.free = [] from hfree), ← hstarted]
    rfl
  | cons node queue =>
    rw [restarted_cons hfree,
      Refill.State.advance_cons (show s.abs.free = node :: queue from hfree)]
    rfl

theorem restarted_aligned (hs : s.Aligned) (hpc : ∀ node, s.pc ≠ .startReceiver node) :
    s.restarted.Aligned := by
  cases hfree : s.freeQueue with
  | nil =>
    rw [restarted_nil hfree]
    exact ⟨hs.started, hs.starting⟩
  | cons node queue =>
    rw [restarted_cons hfree]
    exact ⟨fun _ hnode => hnode, fun node hnode => absurd hnode (hpc node)⟩

-- The callback fills the current buffer.
theorem uartRxCallback_abs (hs : s.Aligned) (h : uartRxCallback r s = some s') :
    Refill.step s.abs (.fill r.node.request) = some s'.abs := by
  obtain ⟨node, hstarted, hrest⟩ := Option.bind_eq_some_iff.mp h
  obtain ⟨rxNode, hrx, rfl⟩ := Option.map_eq_some_iff.mp hrest
  obtain rfl : node = rxNode := Option.some.inj ((hs.started node hstarted).symm.trans hrx)
  show (s.started.map fun n => (s.abs.queue n r.node.request).advance) = _
  rw [hstarted, restarted_abs rfl, received_abs]
  rfl

-- Every step of the thread is one of the pool's, but for the store to `rx_node`.
theorem uartRxThread_abs {nodes : List Nat} (hinv : Refill.Inv nodes s.abs)
    (h : uartRxThread sending s = some s') :
    Refill.step s.abs (.thread sending) = some s'.abs ∨ s'.abs = s.abs := by
  show s.abs.thread sending = some s'.abs ∨ s'.abs = s.abs
  have hthread {p : ThreadPc} (hp : s.pc = p) : s.abs.pc = p.abs := congrArg ThreadPc.abs hp
  unfold uartRxThread at h
  split at h
  next hpc =>
    split at h
    next hsem =>
      obtain rfl := Option.some.inj h
      rw [Refill.State.thread_waiting (hthread hpc)]
      exact .inl (if_pos hsem)
    next => cases h
  next hpc =>
    left
    cases hdata : s.dataQueue with
    | nil =>
      have hget : getNodeFrom s.dataQueue = (none, []) := by rw [hdata]; rfl
      rw [hget] at h
      obtain rfl := Option.some.inj h
      exact Refill.State.thread_woken_nil (hthread hpc) hdata sending
    | cons node queue =>
      have hget : getNodeFrom s.dataQueue = (some node, queue) := by rw [hdata]; rfl
      rw [hget] at h
      obtain rfl := Option.some.inj h
      exact Refill.State.thread_woken_cons (hthread hpc) hdata sending
  next node hpc =>
    obtain rfl := Option.some.inj h
    exact .inl (Refill.State.thread_sending (hthread hpc) sending)
  next node hpc =>
    obtain rfl := Option.some.inj h
    exact .inl (Refill.State.thread_requeueing (hthread hpc) sending)
  next hpc =>
    obtain rfl := Option.some.inj h
    left
    rw [Refill.State.thread_testing (hthread hpc)]
    show some { s.abs with pc := if s.requireNode then Refill.Pc.taking else .waiting } = _
    by_cases hrequire : s.requireNode = true
    · rw [if_pos hrequire, if_pos hrequire]
      rfl
    · rw [if_neg hrequire, if_neg hrequire]
      rfl
  next hpc =>
    obtain rfl := Option.some.inj h
    exact .inl (Refill.State.thread_taking (hthread hpc) sending)
  next node hpc =>
    obtain rfl := Option.some.inj h
    right
    have hsame : ThreadPc.abs (.startReceiver node) = s.pc.abs := by rw [hpc]; rfl
    unfold State.abs
    rw [hsame]
  next hpc =>
    obtain rfl := Option.some.inj h
    left
    rw [Refill.State.thread_refilling (hthread hpc)]
    -- The receiver is not started, so that a NULL node changes nothing.
    have hstarted : s.started = none :=
      hinv.off (hinv.refilling none (hthread hpc)) (by rw [hthread hpc]; simp [ThreadPc.abs])
    unfold State.abs
    rw [hstarted]
    rfl
  next node hpc =>
    obtain rfl := Option.some.inj h
    exact .inl (Refill.State.thread_refilling (hthread hpc) sending)
  next hpc =>
    obtain rfl := Option.some.inj h
    exact .inl (Refill.State.thread_clearing (hthread hpc) sending)
  next => cases h

/-- `rx_node` and what is started stay, and the thread is neither about to start it nor stopped. -/
structure SameReception (s s' : State) : Prop where
  rxNode : s'.rxNode = s.rxNode
  started : s'.started = s.started
  starting : ∀ node, s'.pc ≠ .startReceiver node
  running : s'.pc ≠ .faulted

-- The thread stores the node, stops at a NULL node, starts the receiver, or does neither.
theorem uartRxThread_cases (h : uartRxThread sending s = some s') :
    (∃ node, s.pc = .storeRxNode node ∧
        s' = { s with rxNode := node, pc := .startReceiver node }) ∨
      s.pc = .startReceiver none ∧ s' = { s with pc := .faulted } ∨
      (∃ node, s.pc = .startReceiver (some node) ∧
        s' = { s with started := some node, pc := .clearRequire }) ∨
      SameReception s s' := by
  unfold uartRxThread at h
  split at h
  next =>
    split at h
    next =>
      obtain rfl := Option.some.inj h
      exact .inr (.inr (.inr ⟨rfl, rfl, fun _ => ThreadPc.noConfusion, ThreadPc.noConfusion⟩))
    next => cases h
  next =>
    split at h
    next =>
      obtain rfl := Option.some.inj h
      exact .inr (.inr (.inr ⟨rfl, rfl, fun _ => ThreadPc.noConfusion, ThreadPc.noConfusion⟩))
    next =>
      obtain rfl := Option.some.inj h
      exact .inr (.inr (.inr ⟨rfl, rfl, fun _ => ThreadPc.noConfusion, ThreadPc.noConfusion⟩))
  next =>
    obtain rfl := Option.some.inj h
    exact .inr (.inr (.inr ⟨rfl, rfl, fun _ => ThreadPc.noConfusion, ThreadPc.noConfusion⟩))
  next =>
    obtain rfl := Option.some.inj h
    exact .inr (.inr (.inr ⟨rfl, rfl, fun _ => ThreadPc.noConfusion, ThreadPc.noConfusion⟩))
  next =>
    obtain rfl := Option.some.inj h
    refine .inr (.inr (.inr ⟨rfl, rfl, fun node hnode => ?_, fun hpc => ?_⟩))
    · cases hrequire : s.requireNode <;> simp [hrequire] at hnode
    · cases hrequire : s.requireNode <;> simp [hrequire] at hpc
  next =>
    obtain rfl := Option.some.inj h
    exact .inr (.inr (.inr ⟨rfl, rfl, fun _ => ThreadPc.noConfusion, ThreadPc.noConfusion⟩))
  next node hpc => exact .inl ⟨node, hpc, (Option.some.inj h).symm⟩
  next hpc => exact .inr (.inl ⟨hpc, (Option.some.inj h).symm⟩)
  next node hpc => exact .inr (.inr (.inl ⟨node, hpc, (Option.some.inj h).symm⟩))
  next =>
    obtain rfl := Option.some.inj h
    exact .inr (.inr (.inr ⟨rfl, rfl, fun _ => ThreadPc.noConfusion, ThreadPc.noConfusion⟩))
  next => cases h

theorem uartRxThread_aligned {nodes : List Nat} (hinv : Refill.Inv nodes s.abs) (hs : s.Aligned)
    (h : uartRxThread sending s = some s') : s'.Aligned := by
  rcases uartRxThread_cases h with ⟨node, hpc, rfl⟩ | ⟨-, rfl⟩ | ⟨node, hpc, rfl⟩ | hsame
  · have habs : s.abs.pc = .refilling node := congrArg ThreadPc.abs hpc
    have hstarted : s.started = none := hinv.off (hinv.refilling node habs) (by simp [habs])
    refine ⟨fun n hn => ?_, fun n hn => ThreadPc.startReceiver.inj hn⟩
    rw [show s.started = some n from hn] at hstarted
    cases hstarted
  · exact ⟨hs.started, fun _ => ThreadPc.noConfusion⟩
  · refine ⟨fun n hn => ?_, fun _ => ThreadPc.noConfusion⟩
    rw [hs.starting (some node) hpc]
    exact hn
  · refine ⟨fun n hn => ?_, fun n hn => absurd hn (hsame.starting n)⟩
    rw [hsame.rxNode]
    exact hs.started n (hsame.started.symm.trans hn)

/-- The pool keeps its invariant, and `rx_node` follows it. -/
structure Safe (s : State) : Prop where
  pool : Refill.Inv (List.range maxRxBufNumber) s.abs
  aligned : s.Aligned

theorem initial_safe : Safe initial := by
  constructor
  · have hpc : initial.abs.pc = .waiting := rfl
    exact ⟨fun _ => rfl, by simp [hpc], by simp [hpc], fun _ _ => rfl, rfl⟩
  · refine ⟨fun _ hnone => ?_, fun _ => ThreadPc.noConfusion⟩
    cases hnone

theorem Safe.callback (hs : Safe s) (h : uartRxCallback r s = some s') : Safe s' := by
  have hfill := uartRxCallback_abs hs.aligned h
  refine ⟨Refill.step_inv List.nodup_range hs.pool hfill, ?_⟩
  obtain ⟨filled, hstarted, hrest⟩ := Option.bind_eq_some_iff.mp h
  obtain ⟨rxNode, hrx, rfl⟩ := Option.map_eq_some_iff.mp hrest
  have hpc := (hs.pool.not_refilling hstarted).2
  apply restarted_aligned
  · refine ⟨fun _ hnone => ?_, hs.aligned.starting⟩
    cases hnone
  · intro node hnode
    exact hpc node (congrArg ThreadPc.abs hnode)

theorem Safe.thread (hs : Safe s) (h : uartRxThread sending s = some s') : Safe s' := by
  refine ⟨?_, uartRxThread_aligned hs.pool hs.aligned h⟩
  rcases uartRxThread_abs hs.pool h with hstep | hsame
  · exact Refill.step_inv List.nodup_range hs.pool hstep
  · rw [hsame]
    exact hs.pool

theorem step_safe (hs : Safe s) (h : step s a = some s') : Safe s' := by
  cases a with
  | callback r => exact hs.callback h
  | thread sending => exact hs.thread h

/-! ## The way of a buffer -/

/-- The nodes in the thread's hands. -/
def State.hand (s : State) : List Nat :=
  match s.pc with
  | .sendRequest node => [node]
  | .putBack node => [node]
  | .storeRxNode node => node.toList
  | .startReceiver node => node.toList
  | _ => []

/-- How often a node is in the queues, the started receiver and the thread's hands. -/
def State.places (s : State) (node : Nat) : Nat :=
  s.freeQueue.count node + s.dataQueue.count node + s.started.toList.count node
    + s.hand.count node

/-- The requests that are still to be made, from the node in the thread's hands and the queue. -/
def State.pending (s : State) : List ReceiveDataRequest :=
  (match s.pc with
    | .sendRequest node => [(s.nodes node).request]
    | _ => []) ++ s.dataQueue.map fun node => (s.nodes node).request

theorem places_abs (s : State) (node : Nat) : s.abs.places node = s.places node := by
  unfold State.places Refill.State.places State.hand Refill.State.hand State.abs
  cases s.pc <;> rfl

theorem pending_abs (s : State) :
    s.abs.unhandled ++ s.abs.data.map s.abs.content = s.pending := by
  unfold State.pending Refill.State.unhandled State.abs
  cases s.pc <;> rfl

/-- Each node is in one place, the receiver is not started twice, and the thread comes to the
requests for all that was received, in order. -/
structure Circulates (s : State) : Prop where
  places : ∀ node < maxRxBufNumber, s.places node = 1
  startedOnce : ∀ node, s.pc = .startReceiver node → s.started = none
  order : s.handed.map Prod.fst ++ s.pending = s.receptions.map fun r => r.node.request

theorem Safe.circulates (hs : Safe s) : Circulates s := by
  refine ⟨fun node hnode => ?_, fun node hpc => ?_, ?_⟩
  · rw [← places_abs, hs.pool.places]
    exact List.count_eq_one_of_mem List.nodup_range (List.mem_range.mpr hnode)
  · have habs : s.abs.pc = .refilling node := congrArg ThreadPc.abs hpc
    exact hs.pool.off (hs.pool.refilling node habs) (by simp [habs])
  · rw [← pending_abs, ← List.append_assoc]
    exact hs.pool.order

/-- However the callback and the thread interleave, each of the nodes is in exactly one place, the
receiver is not started while it is, and each reception comes to one request, in order. -/
theorem throughout_circulates (as : List Action) : Throughout step Circulates initial as :=
  fun _ _ _ hrun => (run_induct (fun _ _ _ => step_safe) initial_safe hrun).circulates

/-- Every reception is sent or still to be sent. -/
def AllSent (s : State) : Prop :=
  (s.handed.filter fun h => h.2 = .sent).map Prod.fst ++ s.pending
    = s.receptions.map fun r => r.node.request

def oneByte : Reception := ⟨[0x41], 1, false, false, false, false⟩

/-- The thread starts the receiver for the first time, and withdraws its request. -/
def firstStart : List Action := List.replicate 7 (.thread .sent)

-- A byte is received, and there is no memory for its request.
theorem throughout_allSent_notCreated :
    ¬ Throughout step AllSent initial
      (firstStart ++ .callback oneByte :: List.replicate 3 (.thread .notCreated)) := by
  intro hall
  have hrun : (run step initial
      (firstStart ++ .callback oneByte :: List.replicate 3 (.thread .notCreated))).map
        (fun s => (s.handed, s.pending, s.receptions))
      = some ([(oneByte.node.request, .notCreated)], [], [oneByte]) := by decide
  obtain ⟨s, hs, hout⟩ := Option.map_eq_some_iff.mp hrun
  have hsent := hall _ s (List.prefix_refl _) hs
  simp only [Prod.mk.injEq] at hout
  obtain ⟨hhanded, hpending, hreceptions⟩ := hout
  unfold AllSent at hsent
  rw [hhanded, hpending, hreceptions] at hsent
  exact absurd hsent (by decide)

/-! ## Reception goes on -/

/-- The receiver is started, or a node is required and the thread is or will be at work, or the
thread is between taking a node and starting the receiver. -/
def Receiving (s : State) : Prop :=
  s.started ≠ none ∨
    (s.requireNode = true ∧ s.pc ≠ .faulted ∧ (0 < s.rxSem ∨ s.pc ≠ .semWait)) ∨
    ∃ node, s.pc = .storeRxNode (some node) ∨ s.pc = .startReceiver (some node)

/-- The callback finds `free_queue` empty while the thread is between putting a node back and its
test, or between starting the receiver and clearing `require_node`. -/
def Starved (s : State) (a : Action) : Prop :=
  (∃ r, a = .callback r) ∧ s.freeQueue = [] ∧ (s.pc = .testRequire ∨ s.pc = .clearRequire)

instance instDecidableStarved : (a : Action) → Decidable (Starved s a)
  | .callback _ =>
    decidable_of_iff (s.freeQueue = [] ∧ (s.pc = .testRequire ∨ s.pc = .clearRequire))
      (by simp [Starved])
  | .thread _ => .isFalse (by simp [Starved])

theorem initial_ready : Refill.Ready initial.abs := by
  have hpc : initial.abs.pc = .waiting := rfl
  exact ⟨fun _ => rfl, fun _ _ => Nat.one_pos, by simp [hpc], by simp [hpc], by simp [hpc],
    by simp [hpc]⟩

theorem restarted_pc (s : State) : s.restarted.pc = s.pc := by
  cases hfree : s.freeQueue with
  | nil => rw [restarted_nil hfree]
  | cons node queue => rw [restarted_cons hfree]

theorem uartRxCallback_pc (h : uartRxCallback r s = some s') : s'.pc = s.pc := by
  obtain ⟨filled, -, hrest⟩ := Option.bind_eq_some_iff.mp h
  obtain ⟨rxNode, -, rfl⟩ := Option.map_eq_some_iff.mp hrest
  exact restarted_pc _

-- Only a NULL node stops the thread.
theorem uartRxThread_faulted (h : uartRxThread sending s = some s') (hpc : s'.pc = .faulted) :
    s.pc = .startReceiver none := by
  rcases uartRxThread_cases h with ⟨node, -, rfl⟩ | ⟨hnull, -⟩ | ⟨node, -, rfl⟩ | hsame
  · cases hpc
  · exact hnull
  · cases hpc
  · exact absurd hpc hsame.running

/-- What a run keeps in which no callback is starved. -/
structure Supplied (s : State) : Prop where
  safe : Safe s
  ready : Refill.Ready s.abs
  running : s.pc ≠ .faulted

theorem Supplied.callback (hs : Supplied s) (hstarved : ¬ Starved s (.callback r))
    (h : uartRxCallback r s = some s') : Supplied s' := by
  have hfill := uartRxCallback_abs hs.safe.aligned h
  have hbad : ¬ Refill.BadFill s.abs (.fill r.node.request : Refill.Action _ Sending) := by
    rintro ⟨-, hfree, hpc⟩
    refine hstarved ⟨⟨r, rfl⟩, hfree, ?_⟩
    rcases hpc with htesting | hclearing
    · left
      cases hpc : s.pc <;> simp [State.abs, ThreadPc.abs, hpc] at htesting ⊢
    · right
      have hrunning := hs.running
      cases hpc : s.pc <;> simp [State.abs, ThreadPc.abs, hpc] at hclearing hrunning ⊢
  refine ⟨hs.safe.callback h, ?_, ?_⟩
  · exact Refill.step_ready hs.safe.pool (by decide) hs.ready hbad hfill
  · rw [uartRxCallback_pc h]
    exact hs.running

theorem Supplied.thread (hs : Supplied s) (h : uartRxThread sending s = some s') : Supplied s' := by
  refine ⟨hs.safe.thread h, ?_, fun hpc => ?_⟩
  · rcases uartRxThread_abs hs.safe.pool h with hstep | hsame
    · have hbad : ¬ Refill.BadFill s.abs (.thread sending) := by
        rintro ⟨⟨v, hv⟩, -⟩
        cases hv
      exact Refill.step_ready hs.safe.pool (by decide) hs.ready hbad hstep
    · rw [hsame]
      exact hs.ready
  · exact hs.ready.refilling (congrArg ThreadPc.abs (uartRxThread_faulted h hpc))

theorem step_supplied (hs : Supplied s) (h : step s a = some s') (hstarved : ¬ Starved s a) :
    Supplied s' := by
  cases a with
  | callback r => exact hs.callback hstarved h
  | thread sending => exact hs.thread h

theorem Supplied.receiving (hs : Supplied s) : Receiving s := by
  by_cases hstarted : s.started = none
  · right
    left
    refine ⟨hs.ready.requested hstarted, hs.running, ?_⟩
    by_cases hpc : s.pc = .semWait
    · left
      exact hs.ready.waiting hstarted (congrArg ThreadPc.abs hpc)
    · exact .inr hpc
  · exact .inl hstarted

/-- While no callback finds `free_queue` empty between the thread's putting a node back and its
test, or between its starting the receiver and clearing `require_node`, reception goes on. -/
theorem throughout_receiving (as : List Action)
    (hstarved : EachStep step (fun s a _ => ¬ Starved s a) initial as) :
    Throughout step Receiving initial as := by
  have hsupplied : Throughout step Supplied initial as :=
    throughout_of_eachStep (fun _ _ _ => step_supplied)
      ⟨initial_safe, initial_ready, ThreadPc.noConfusion⟩ hstarved
  exact hsupplied.mono fun _ => Supplied.receiving

/-- A burst of receptions that uses up the nodes. -/
def burst : List Action := List.replicate maxRxBufNumber (.callback oneByte)

/-- The burst comes while the thread waits, which then sends a node and starts the receiver again. -/
def recovered : List Action := firstStart ++ burst ++ List.replicate 9 (.thread .sent)

theorem throughout_receiving_recovered :
    (run step initial (firstStart ++ burst)).map
        (fun s => (s.started, s.freeQueue, s.requireNode)) = some (none, [], true) ∧
      (run step initial recovered).map
        (fun s => (s.started, s.dataQueue, s.requireNode)) = some (some 0, [1, 2, 3, 4], false) ∧
      Throughout step Receiving initial recovered :=
  ⟨by decide, by decide, throughout_receiving recovered (by decide)⟩

/-! ## Reception is switched off -/

/-- The thread has stopped at a NULL node, or a pool without a current buffer has no request. -/
def SwitchedOff (s : State) : Prop :=
  s.started = none ∧ s.pc = .faulted ∨ Refill.Lost s.abs

theorem SwitchedOff.not_receiving (h : SwitchedOff s) : ¬ Receiving s := by
  rcases h with ⟨hstarted, hpc⟩ | hlost
  · rintro (hon | ⟨-, hrunning, -⟩ | ⟨node, hon | hon⟩)
    · exact hon hstarted
    · exact hrunning hpc
    · rw [hpc] at hon
      cases hon
    · rw [hpc] at hon
      cases hon
  · have hrequire : s.requireNode = false := hlost.request
    rintro (hon | ⟨hon, -⟩ | ⟨node, hon | hon⟩)
    · exact hon hlost.current
    · rw [hrequire] at hon
      cases hon
    · exact hlost.refilling (some node) (congrArg ThreadPc.abs hon)
    · exact hlost.refilling (some node) (congrArg ThreadPc.abs hon)

theorem step_switchedOff (hs : Safe s) (hoff : SwitchedOff s) (h : step s a = some s') :
    SwitchedOff s' := by
  have hstarted : s.started = none := by
    rcases hoff with ⟨hstarted, -⟩ | hlost
    · exact hstarted
    · exact hlost.current
  cases a with
  | callback r =>
    obtain ⟨node, hnode, -⟩ := Option.bind_eq_some_iff.mp h
    rw [hstarted] at hnode
    cases hnode
  | thread sending =>
    rcases hoff with ⟨-, hpc⟩ | hlost
    · replace h : uartRxThread sending s = some s' := h
      unfold uartRxThread at h
      rw [hpc] at h
      cases h
    · right
      rcases uartRxThread_abs hs.pool h with hstep | hsame
      · exact Refill.step_lost hlost hstep
      · rw [hsame]
        exact hlost

-- A callback that is starved switches the reception off for good, within four steps of the thread.
theorem switchedOff_of_starved (hs : Safe s) (hstarved : Starved s a) (h : step s a = some s')
    (sending : Sending) :
    ∃ k t, run step s' (List.replicate k (.thread sending)) = some t ∧
      ∀ as u, run step t as = some u → SwitchedOff u := by
  obtain ⟨⟨r, rfl⟩, hfree, hpc⟩ := hstarved
  have hsafe : Safe s' := step_safe hs h
  obtain ⟨filled, -, hrest⟩ := Option.bind_eq_some_iff.mp h
  obtain ⟨rxNode, -, rfl⟩ := Option.map_eq_some_iff.mp hrest
  have hnil : (s.received r filled rxNode).freeQueue = [] := hfree
  obtain ⟨k, t, hrun, hoff⟩ : ∃ k t,
      run step (s.received r filled rxNode).restarted (List.replicate k (.thread sending)) = some t ∧
        SwitchedOff t := by
    rw [restarted_nil hnil]
    rcases hpc with hpc | hpc
    · refine ⟨4, { s.received r filled rxNode with
        requireNode := true, rxNode := none, pc := .faulted }, ?_, .inl ⟨rfl, rfl⟩⟩
      simp [run, step, uartRxThread, getNodeFrom, State.received, List.replicate, hpc, hfree]
    · refine ⟨1, { s.received r filled rxNode with requireNode := false, pc := .semWait }, ?_,
        .inr ⟨rfl, rfl, by simp [State.abs, ThreadPc.abs], by simp [State.abs, ThreadPc.abs]⟩⟩
      simp [run, step, uartRxThread, State.received, List.replicate, hpc]
  refine ⟨k, t, hrun, fun as u hmore => ?_⟩
  have hsafe' : Safe t := run_induct (fun _ _ _ => step_safe) hsafe hrun
  have hboth : Safe u ∧ SwitchedOff u :=
    run_induct (P := fun s => Safe s ∧ SwitchedOff s)
      (fun _ _ _ hs hstep => ⟨step_safe hs.1 hstep, step_switchedOff hs.1 hs.2 hstep⟩)
      ⟨hsafe', hoff⟩ hmore
  exact hboth.2

-- The burst comes before `require_node` is cleared, and the receiver is never started again.  Where
-- one comes before the test, the thread takes a NULL node.
theorem throughout_receiving_burst :
    (run step initial (List.replicate 6 (.thread .sent) ++ burst ++ [.thread .sent])).map
        (fun s => (s.started, s.requireNode, s.pc)) = some (none, false, .semWait) ∧
      (run step initial (firstStart ++ .callback oneByte :: List.replicate 4 (.thread .sent) ++ burst
        ++ List.replicate 4 (.thread .sent))).map (fun s => (s.started, s.pc))
          = some (none, .faulted) ∧
      ¬ Throughout step Receiving initial
        (List.replicate 6 (.thread .sent) ++ burst ++ [.thread .sent]) := by
  have hrun : (run step initial (List.replicate 6 (.thread .sent) ++ burst ++ [.thread .sent])).map
      (fun s => (s.started, s.requireNode, s.pc)) = some (none, false, .semWait) := by decide
  refine ⟨hrun, by decide, fun hall => ?_⟩
  obtain ⟨s, hs, hout⟩ := Option.map_eq_some_iff.mp hrun
  simp only [Prod.mk.injEq] at hout
  obtain ⟨hstarted, hrequire, hpc⟩ := hout
  rcases hall _ s (List.prefix_refl _) hs with hon | ⟨hon, -⟩ | ⟨node, hon | hon⟩
  · exact hon hstarted
  · rw [hrequire] at hon
    cases hon
  · rw [hpc] at hon
    cases hon
  · rw [hpc] at hon
    cases hon

end Greybus.UartReceiver
