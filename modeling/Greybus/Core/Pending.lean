import Greybus.Core.Operation
import Greybus.Reasoning.RefCount
import Greybus.Reasoning.Transition

/-!
# Outgoing requests

An operation that is sent with `need_response` waits in the `tx_fifo` of its cport, until a response
with its id arrives, it times out, or its cport is unregistered.  Operations are reference counted:
the creator, the `tx_fifo`, the worker and the request that a response answers each hold one
reference.
-/

namespace Greybus

open Reasoning.RefCount Reasoning.Transition

/-! ## The state -/

/-- What is allocated and freed with an operation. -/
inductive Resource where
  | operation (q : OpRef)
  | requestBuffer (q : OpRef)
  | responseBuffer (q : OpRef)
  deriving DecidableEq, Repr

/-- What has happened, as far as it cannot be read off the state. -/
inductive Event where
  | alloc (r : Resource)
  | free (r : Resource)
  -- `gb_operation_send_request` has given the request an id.
  | assigned (q : OpRef) (id : UInt16)
  -- The callback of an operation has been called.
  | called (q : OpRef) (cb : Callback)
  deriving DecidableEq, Repr

/-- The operations on the heap and the global variables that point to them.  The latest event comes
first in the trace. -/
structure Operations where
  cportCount : Nat
  requestId : UInt32
  txFifo : Nat → List OpRef
  exitWorker : Nat → Bool
  heap : OpRef → Option Operation
  next : OpRef
  trace : List Event

/-- After `gb_init`. -/
def Operations.gbInit (cportCount : Nat) : Operations where
  cportCount := cportCount
  requestId := 0
  txFifo _ := []
  exitWorker _ := false
  heap _ := none
  next := 0
  trace := []

namespace Operations

def emit (s : Operations) (e : Event) : Operations := { s with trace := e :: s.trace }

def setOp (s : Operations) (q : OpRef) (op : Operation) : Operations :=
  { s with heap := Function.update s.heap q (some op) }

def setTxFifo (s : Operations) (cport : Nat) (ops : List OpRef) : Operations :=
  { s with txFifo := Function.update s.txFifo cport ops }

theorem setTxFifo_txFifo (s : Operations) (cport : Nat) (ops : List OpRef) :
    (s.setTxFifo cport ops).txFifo = Function.update s.txFifo cport ops := rfl

/-- `sys_dlist_append` on a `tx_fifo`. -/
def appendTx (s : Operations) (cport : Nat) (q : OpRef) : Operations :=
  s.setTxFifo cport (s.txFifo cport ++ [q])

/-- `sys_dlist_remove` from a `tx_fifo`. -/
def removeTx (s : Operations) (cport : Nat) (q : OpRef) : Operations :=
  s.setTxFifo cport ((s.txFifo cport).erase q)

/-! ## Creation and reference counts -/

/-- An operation and its request buffer are allocated. -/
def addOperation (s : Operations) (op : Operation) : Operations :=
  { s with
    heap := Function.update s.heap s.next (some op)
    next := s.next + 1
    trace := .alloc (.requestBuffer s.next) :: .alloc (.operation s.next) :: s.trace }

def gbOperationCreate (s : Operations) (mallocOk allocBufOk : Bool) (cport : Nat) (type : UInt8)
    (reqSize : Nat) : Option OpRef × Operations :=
  if s.cportCount ≤ cport then (none, s)
  else if !mallocOk then (none, s)
  else if !allocBufOk then (none, s)
  else (some s.next, s.addOperation (.fresh cport (.request type reqSize)))

/-- `gb_rx_create_operation` without `CONFIG_UNIPRO_ZERO_COPY`: a copy of the received message. -/
def gbRxCreateOperation (s : Operations) (mallocOk allocBufOk : Bool) (cport : Nat)
    (data : Message) : Option OpRef × Operations :=
  match s.gbOperationCreate mallocOk allocBufOk cport 0 data.payload.length with
  | (none, s) => (none, s)
  | (some q, s) => (some q, s.setOp q (.fresh cport data))

def gbOperationRef (s : Operations) (q : OpRef) : Option Operations :=
  (s.heap q).map fun op => s.setOp q { op with refCount := op.refCount + 1 }

/-- `gb_operation_unref` on the heap, with what it frees in order; at most `fuel` nested calls. -/
def unrefHeap : Nat → (OpRef → Option Operation) → OpRef →
    Option ((OpRef → Option Operation) × List Resource)
  | 0, _, _ => none
  | fuel + 1, heap, q =>
    (heap q).bind fun op =>
    let heap := Function.update heap q (some { op with refCount := op.refCount - 1 })
    if op.refCount - 1 ≠ 0 then some (heap, [])
    else
      let buffers :=
        .requestBuffer q :: (if op.responseBuffer.isSome then [.responseBuffer q] else [])
      match op.response with
      | none => some (Function.update heap q none, buffers ++ [.operation q])
      | some r =>
        (unrefHeap fuel heap r).map fun res =>
        (Function.update res.1 q none, buffers ++ res.2 ++ [.operation q])

/-- `gb_operation_unref`; every nested call frees an operation, so that there are at most as many of
them as operations. -/
def gbOperationUnref (s : Operations) (q : OpRef) : Option Operations :=
  (unrefHeap (s.next + 1) s.heap q).map fun res =>
  { s with heap := res.1, trace := (res.2.map Event.free).reverse ++ s.trace }

def gbOperationDestroy (s : Operations) (q : OpRef) : Option Operations := s.gbOperationUnref q

def gbOperationAllocResponse (s : Operations) (allocBufOk : Bool) (q : OpRef) (size : Nat) :
    Option Operations :=
  (s.heap q).map fun op =>
  if allocBufOk then
    (s.setOp q { op with responseBuffer := some (.response op.requestBuffer.hdr size) }).emit
      (.alloc (.responseBuffer q))
  else s.setOp q { op with responseBuffer := none }

/-! ## Sending -/

/-- The id that `gb_operation_send_request` takes from `request_id`, and the counter after it. -/
def takeRequestId (requestId : UInt32) : UInt16 × UInt32 :=
  if requestId.toUInt16 = 0 then ((requestId + 1).toUInt16, requestId + 2)
  else (requestId.toUInt16, requestId + 1)

/-- The operation is linked into the `tx_fifo` of its cport. -/
def isPending (s : Operations) (q : OpRef) : Bool :=
  (s.heap q).any fun op => q ∈ s.txFifo op.cport

/-- What `gb_operation_send_request` does for a request that needs a response before it calls the
transport. -/
def queueRequest (s : Operations) (q : OpRef) (op : Operation) (callback : Option Callback)
    (now : Timespec) : Operations :=
  let id := takeRequestId s.requestId
  let hdr := { op.requestBuffer.hdr with id := id.1 }
  let s := { s with requestId := id.2 }.emit (.assigned q id.1)
  let s := s.setOp q { op with
    requestBuffer := { op.requestBuffer with hdr }
    time := now
    callback
    refCount := op.refCount + 1 }
  s.appendTx op.cport q

/-- `gb_operation_send_request`, where `now` is what `clock_gettime` stores and `sendRet` what the
transport returns.  Appending an operation that is linked already ruins the list, and is `none`. -/
def gbOperationSendRequest (s : Operations) (q : OpRef) (callback : Option Callback)
    (needResponse : Bool) (now : Timespec) (sendRet : Int) : Option (Int × Operations) :=
  (s.heap q).bind fun op =>
  if s.exitWorker op.cport then some (-ENETDOWN, s)
  else if needResponse then
    if s.isPending q then none
    else
      let s := s.queueRequest q op callback now
      if sendRet ≠ 0 then
        ((s.removeTx op.cport q).gbOperationUnref q).map fun s => (sendRet, s)
      else some (sendRet, s)
  else
    let hdr := { op.requestBuffer.hdr with id := 0 }
    some (sendRet, s.setOp q { op with requestBuffer := { op.requestBuffer with hdr } })

/-- `gb_operation_send_request_sync` up to its `sem_wait`. -/
def gbOperationSendRequestSync (s : Operations) (q : OpRef) (now : Timespec) (sendRet : Int) :
    Option (Int × Operations) :=
  (s.heap q).bind fun op =>
  (s.setOp q { op with syncSem := 0 }).gbOperationSendRequest q (some .sync) true now sendRet

/-! ## Completion -/

/-- The call of `operation->callback`, if it is not NULL.  `gb_operation_callback_sync` posts
`sync_sem`; what another callback does are calls of their own. -/
def runCallback (s : Operations) (q : OpRef) : Option Operations :=
  (s.heap q).map fun op =>
  match op.callback with
  | none => s
  | some cb =>
    let s := if cb = .sync then s.setOp q { op with syncSem := op.syncSem + 1 } else s
    s.emit (.called q cb)

/-- The search of `gb_process_response`: the first pending operation with this id. -/
def findPending (s : Operations) (id : UInt16) : List OpRef → Option (Option OpRef)
  | [] => some none
  | q :: ops =>
    (s.heap q).bind fun op =>
    if op.requestBuffer.hdr.id ≠ id then s.findPending id ops else some (some q)

/-- The id of an operation's request. -/
def idOf (s : Operations) (q : OpRef) : Option UInt16 :=
  (s.heap q).map fun op => op.requestBuffer.hdr.id

/-- The response that is attached to an operation. -/
def responseOf (s : Operations) (q : OpRef) : Option OpRef := (s.heap q).bind Operation.response

/-- `op->response = operation`. -/
def attach (s : Operations) (q r : OpRef) : Option Operations :=
  (s.heap q).map fun op => s.setOp q { op with response := some r }

/-- `gb_process_response` on the response `r` up to the closing `gb_operation_unref`, with the
operation that it completes. -/
def gbProcessResponse (s : Operations) (r : OpRef) : Option (Option OpRef × Operations) :=
  (s.heap r).bind fun operation =>
  (s.findPending operation.requestBuffer.hdr.id (s.txFifo operation.cport)).bind fun found =>
  match found with
  | none => some (none, s)
  | some q =>
    ((s.removeTx operation.cport q).gbOperationRef r).bind fun s =>
    (s.attach q r).bind fun s =>
    (s.runCallback q).map fun s => (some q, s)

/-- The part of `gb_pending_message_worker` that tells responses from requests; a request leaves the
outgoing operations alone. -/
def processMessage (s : Operations) (r : OpRef) : Option (Option OpRef × Operations) :=
  (s.heap r).bind fun operation =>
  if operation.requestBuffer.hdr.type &&& responseFlag ≠ 0 then s.gbProcessResponse r
  else some (none, s)

def timeoutInMs : Int := 1000

def oneSecInMsec : Int := 1000

def oneMsecInNsec : Int := 1000000

/-- `gb_operation_has_timedout`, where `currentTime` is what `clock_gettime` stores. -/
def gbOperationHasTimedout (operation : Operation) (currentTime : Timespec) : Bool :=
  let timeoutTime : Timespec :=
    { sec := operation.time.sec + timeoutInMs / oneSecInMsec
      nsec := operation.time.nsec + timeoutInMs % oneSecInMsec * oneMsecInNsec }
  if currentTime.sec > timeoutTime.sec then true
  else if currentTime.sec < timeoutTime.sec then false
  else currentTime.nsec > timeoutTime.nsec

/-- One round of the loop in `gb_clean_timedout_operation` up to its closing `gb_operation_unref`,
and whether the operation has timed out. -/
def cleanTimedoutRound (s : Operations) (cport : Nat) (q : OpRef) (currentTime : Timespec) :
    Option (Bool × Operations) :=
  (s.heap q).bind fun op =>
  if !gbOperationHasTimedout op currentTime then some (false, s)
  else ((s.removeTx cport q).runCallback q).map fun s => (true, s)

/-- The rounds of the loop in `gb_flush_tx_fifo` on these operations. -/
def flushRounds (cport : Nat) : List OpRef → Operations → Option Operations
  | [], s => some s
  | q :: ops, s => ((s.removeTx cport q).gbOperationUnref q).bind fun s => flushRounds cport ops s

def gbFlushTxFifo (s : Operations) (cport : Nat) : Option Operations :=
  flushRounds cport (s.txFifo cport) s

end Operations

/-! ## Runs -/

/-- The operations, and the references that other code holds to them. -/
structure World extends Operations where
  -- Created, and not destroyed by the creator.
  owned : List OpRef
  -- Received, and waiting for the worker.
  received : List OpRef
  -- Taken by the worker, and not destroyed by it.
  processing : List OpRef
  -- Removed from a `tx_fifo` by a function that is about to drop its reference.
  completing : List OpRef
  -- Attached to a request that has been sent again and answered again since.
  leaked : List OpRef

def World.initial (cportCount : Nat) : World :=
  ⟨.gbInit cportCount, [], [], [], [], []⟩

inductive Call where
  -- `gb_operation_create`.
  | create (mallocOk allocBufOk : Bool) (cport : Nat) (type : UInt8) (reqSize : Nat)
  -- `gb_operation_send_request`.
  | send (q : OpRef) (callback : Option Callback) (needResponse : Bool) (now : Timespec)
      (sendRet : Int)
  -- `gb_operation_send_request_sync`.
  | sendSync (q : OpRef) (now : Timespec) (sendRet : Int)
  -- `gb_operation_destroy` by the creator.
  | destroy (q : OpRef)
  -- `greybus_rx_handler` receives a message.
  | receive (mallocOk allocBufOk : Bool) (cport : Nat) (data : Message)
  -- The worker processes a received message.
  | process (r : OpRef)
  -- `gb_operation_alloc_response` by a request handler.
  | allocResponse (allocBufOk : Bool) (r : OpRef) (size : Nat)
  -- `gb_operation_destroy` by the worker.
  | finish (r : OpRef)
  -- The worker cleans timed out operations and comes to this one.
  | expire (cport : Nat) (q : OpRef) (currentTime : Timespec)
  -- The `gb_operation_unref` that closes a completion.
  | release (q : OpRef)
  -- `gb_unregister_driver` sets `exit_worker`.
  | stop (cport : Nat)
  -- `gb_unregister_driver` calls `gb_flush_tx_fifo`.
  | flush (cport : Nat)
  -- `_gb_register_driver` clears `exit_worker`.
  | start (cport : Nat)
  deriving DecidableEq, Repr

namespace World

/-- Who calls holds a reference; an operation is not sent while it waits for its response, and a
handler allocates its response once. -/
def allowed (w : World) : Call → Bool
  | .create .. => true
  | .send q _ needResponse _ _ => q ∈ w.owned && !(needResponse && w.isPending q)
  | .sendSync q _ _ => q ∈ w.owned && !w.isPending q
  | .destroy q => q ∈ w.owned
  | .receive .. => true
  | .process r => r ∈ w.received
  | .allocResponse _ r _ => r ∈ w.processing && (w.heap r).all fun op => op.responseBuffer.isNone
  | .finish r => r ∈ w.processing
  | .expire cport q _ => q ∈ w.txFifo cport
  | .release q => q ∈ w.completing
  | .stop _ => true
  | .flush cport => w.exitWorker cport
  | .start _ => true

/-- What a call does; `none` when it touches an operation that has been freed. -/
def exec (w : World) : Call → Option World
  | .create mallocOk allocBufOk cport type reqSize =>
    let res := w.gbOperationCreate mallocOk allocBufOk cport type reqSize
    some { w with toOperations := res.2, owned := res.1.toList ++ w.owned }
  | .send q callback needResponse now sendRet =>
    (w.gbOperationSendRequest q callback needResponse now sendRet).map fun res =>
    { w with toOperations := res.2 }
  | .sendSync q now sendRet =>
    (w.gbOperationSendRequestSync q now sendRet).map fun res => { w with toOperations := res.2 }
  | .destroy q =>
    (w.gbOperationDestroy q).map fun s => { w with toOperations := s, owned := w.owned.erase q }
  | .receive mallocOk allocBufOk cport data =>
    let res := w.gbRxCreateOperation mallocOk allocBufOk cport data
    some { w with toOperations := res.2, received := res.1.toList ++ w.received }
  | .process r =>
    (w.processMessage r).map fun res =>
    { w with
      toOperations := res.2
      received := w.received.erase r
      processing := r :: w.processing
      completing := res.1.toList ++ w.completing
      leaked := (res.1.bind w.responseOf).toList ++ w.leaked }
  | .allocResponse allocBufOk r size =>
    (w.gbOperationAllocResponse allocBufOk r size).map fun s => { w with toOperations := s }
  | .finish r =>
    (w.gbOperationDestroy r).map fun s =>
    { w with toOperations := s, processing := w.processing.erase r }
  | .expire cport q currentTime =>
    (w.cleanTimedoutRound cport q currentTime).map fun res =>
    { w with
      toOperations := res.2
      completing := if res.1 then q :: w.completing else w.completing }
  | .release q =>
    (w.gbOperationUnref q).map fun s =>
    { w with toOperations := s, completing := w.completing.erase q }
  | .stop cport => some { w with exitWorker := Function.update w.exitWorker cport true }
  | .flush cport => (w.gbFlushTxFifo cport).map fun s => { w with toOperations := s }
  | .start cport => some { w with exitWorker := Function.update w.exitWorker cport false }

def step (w : World) (a : Call) : Option World := if w.allowed a then w.exec a else none

end World

end Greybus
