import Greybus.Core.Receive
import Greybus.Core.Response

/-!
# From a message to the receive queue

`greybus_rx_handler`, `gb_rx_create_operation` and `gb_operation_create` over the bytes that the
transport hands in.  A byte that is not there must not be read.
-/

namespace Greybus

open Reasoning.Memory

/-- An operation in `rx_fifo`: its cport, and the bytes of its request buffer. -/
structure RxOperation where
  cport : Nat
  requestBuffer : List UInt8
  deriving DecidableEq, Repr

/-- `gb_operation_get_request_payload_size`. -/
def RxOperation.payloadSize (op : RxOperation) : Nat :=
  if msgSize op.requestBuffer < sizeofHdr then 0 else msgSize op.requestBuffer - sizeofHdr

/-- What the two allocations of `gb_operation_create` give. -/
structure RxMemory where
  malloc : Bool
  allocBuf : Bool
  deriving DecidableEq, Repr

/-- `gb_operation_create`; `req_size` has 32 bits. -/
def gbOperationCreateBytes (core : Core) (memory : RxMemory) (cport : Nat) (type : UInt8)
    (reqSize : Nat) : Option RxOperation :=
  if core.cportCount ≤ cport then none
  else if !memory.malloc then none
  else if !memory.allocBuf then none
  else some ⟨cport, (Message.request type (reqSize % 2 ^ 32)).bytes⟩

/-- `memcpy` to the front of a buffer; `none` if it leaves the buffer or the data. -/
def memcpyFront (buffer : List UInt8) (data : Mem) (size : Nat) : Option (List UInt8) :=
  if buffer.length < size then none else (loadN data 0 size).map (· ++ buffer.drop size)

/-- `gb_rx_create_operation`; the inner `none` is its NULL. -/
def gbRxCreateOperationBytes (core : Core) (memory : RxMemory) (cport : Nat) (data : Mem)
    (size : Nat) : Option (Option RxOperation) :=
  match gbOperationCreateBytes core memory cport 0 (size - sizeofHdr) with
  | none => some none
  | some op =>
    (memcpyFront op.requestBuffer data size).map fun buffer =>
      some { op with requestBuffer := buffer }

/-- What `greybus_rx_handler` changes: the `rx_fifo` of the cports, and the tape. -/
structure RxState (σ : Type*) where
  rxFifo : Nat → List RxOperation
  tape : Tape σ

variable {σ : Type*}

/-- `sys_dlist_append`. -/
def RxState.append (s : RxState σ) (cport : Nat) (op : RxOperation) : RxState σ :=
  { s with rxFifo := Function.update s.rxFifo cport (s.rxFifo cport ++ [op]) }

/-- An open tape gets the message. -/
def RxState.record (s : RxState σ) (cport : Nat) (data : Mem) (size : Nat) : Option (RxState σ) :=
  if s.tape.mechanism.isSome ∧ 0 ≤ s.tape.fd then
    (loadN data 0 size).map fun msg => { s with tape := s.tape.record ⟨cport, msg⟩ }
  else some s

/-- `greybus_rx_handler` from `find_operation_handler` on. -/
def rxDispatchBytes (core : Core) (memory : RxMemory) (cport : Nat) (data : Mem) (hdrSize : Nat)
    (s : RxState σ) : Option (Int × RxState σ) :=
  (data 4).bind fun type =>
    (findOperationHandler core type cport).bind fun
      | some ⟨_, .fastHandler⟩ => some (0, s)
      | _ =>
        (gbRxCreateOperationBytes core memory cport data hdrSize).map fun
          | none => (-ENOMEM, s)
          | some op => (0, s.append cport op)

/-- `greybus_rx_handler` on `size` bytes at `data`. -/
def greybusRxHandlerBytes (core : Core) (memory : RxMemory) (cport : Nat) (data : Option Mem)
    (size : Nat) (s : RxState σ) : Option (Int × RxState σ) :=
  match data with
  | none => some (-EINVAL, s)
  | some data =>
    if core.cportCount ≤ cport then some (-EINVAL, s)
    else if !core.hasHandlers cport then some (0, s)
    else if size < sizeofHdr then some (-EINVAL, s)
    else
      (load16 data 0).bind fun hdrSize =>
        if size < hdrSize ∨ hdrSize < sizeofHdr then some (-EINVAL, s)
        else (s.record cport data size).bind fun s => rxDispatchBytes core memory cport data hdrSize s

/-- What becomes of the queues. -/
def RxState.receive (s : RxState σ) (cport : Nat) : Receipt → RxState σ
  | .queued request => s.append cport ⟨cport, request⟩
  | _ => s

/-! ## The copy -/

section Copy

variable {core : Core} {memory : RxMemory} {cport hdrSize : Nat} {data : Mem} {msg : List UInt8}
  {s : RxState σ}

theorem Message.length_bytes (m : Message) : m.bytes.length = m.payload.length + sizeofHdr := by
  rw [Message.bytes, List.length_append, Nat.add_comm]
  rfl

-- The buffer is exactly as long as what is copied.
theorem gbRxCreateOperationBytes_eq (hcport : cport < core.cportCount) (hheld : Holds data 0 msg)
    (hlow : sizeofHdr ≤ hdrSize) (hhigh : hdrSize ≤ msg.length) (hsize : hdrSize < 2 ^ 16) :
    gbRxCreateOperationBytes core memory cport data hdrSize =
      some (if memory.malloc && memory.allocBuf then some ⟨cport, msg.take hdrSize⟩ else none) := by
  rw [gbRxCreateOperationBytes, gbOperationCreateBytes, if_neg (Nat.not_le.mpr hcport)]
  cases memory.malloc with
  | false => rfl
  | true =>
    cases memory.allocBuf with
    | false => rfl
    | true =>
      have hlength : (Message.request 0 ((hdrSize - sizeofHdr) % 2 ^ 32)).bytes.length
          = hdrSize := by
        rw [Message.length_bytes, Message.request, List.length_replicate]
        simp only [sizeofHdr] at hlow ⊢
        omega
      simp only [Bool.not_true, Bool.false_eq_true, if_false, Bool.and_self, if_true]
      rw [memcpyFront, if_neg (by omega), hheld.loadN_take hhigh,
        List.drop_of_length_le (Nat.le_of_eq hlength)]
      simp

-- A record has the bytes that the message has.
theorem RxState.record_eq (hheld : Holds data 0 msg) :
    s.record cport data msg.length = some { s with tape := s.tape.record ⟨cport, msg⟩ } := by
  rw [RxState.record, Tape.record]
  cases hmechanism : s.tape.mechanism with
  | none => rfl
  | some T =>
    by_cases hfd : s.tape.fd < 0
    · rw [if_neg fun h => absurd h.2 (by omega)]
      simp only [if_pos hfd]
    · rw [if_pos ⟨rfl, by omega⟩, hheld.loadN, Option.map_some, Tape.record, hmechanism]

theorem rxDispatchBytes_eq (hcport : cport < core.cportCount) (hheld : Holds data 0 msg)
    (hlow : sizeofHdr ≤ msgSize msg) (hhigh : msgSize msg ≤ msg.length) :
    rxDispatchBytes core memory cport data (msgSize msg) s =
      (rxDispatch core (memory.malloc && memory.allocBuf) ⟨cport, msg⟩).map fun receipt =>
        (receipt.ret, s.receive cport receipt) := by
  have htype : data 4 = some (msg.getD 4 0) := by
    have hload := hheld.load8 (i := 4) (by simp only [sizeofHdr] at hlow; omega)
    rwa [Nat.zero_add] at hload
  rw [rxDispatchBytes, rxDispatch, htype, Option.bind_some, Option.map_map]
  cases findOperationHandler core (msg.getD 4 0) cport with
  | none => rfl
  | some found =>
    have hcreate := @gbRxCreateOperationBytes_eq core memory cport (msgSize msg) data msg hcport
      hheld hlow hhigh (le16_lt _ _)
    rw [Option.bind_some, Option.map_some, hcreate]
    cases memory.malloc && memory.allocBuf <;> rcases found with _ | ⟨type, _ | _⟩ <;> rfl

end Copy

/-- Over the bytes of a message, whatever lies behind them, `greybus_rx_handler` does what it does
with the message. -/
theorem greybusRxHandlerBytes_eq (core : Core) (memory : RxMemory) (cport : Nat) (msg : List UInt8)
    (after : Nat → Option UInt8) (s : RxState σ) :
    greybusRxHandlerBytes core memory cport (some (ofBuffer msg after)) msg.length s =
      (greybusRxHandler core (memory.malloc && memory.allocBuf) cport (some msg) s.tape).map
        fun r => (r.1.ret, { s with tape := r.2 }.receive cport r.1) := by
  have hheld := holds_ofBuffer msg after
  rw [greybusRxHandlerBytes, greybusRxHandler, rxCheck]
  by_cases hcport : core.cportCount ≤ cport
  · rw [if_pos hcport, if_pos hcport]
    rfl
  rw [if_neg hcport, if_neg hcport]
  by_cases hhandlers : (!core.hasHandlers cport) = true
  · rw [if_pos hhandlers, if_pos hhandlers]
    rfl
  rw [if_neg hhandlers, if_neg hhandlers]
  by_cases hshort : msg.length < sizeofHdr
  · rw [if_pos hshort, if_pos hshort]
    rfl
  have hload : load16 (ofBuffer msg after) 0 = some (msgSize msg) := by
    have hload := hheld.load16 (i := 0) (by simp only [sizeofHdr] at hshort; omega)
    rwa [Nat.zero_add] at hload
  rw [if_neg hshort, if_neg hshort, hload, Option.bind_some]
  by_cases hsize : msg.length < msgSize msg ∨ msgSize msg < sizeofHdr
  · rw [if_pos hsize, if_pos hsize]
    rfl
  rw [if_neg hsize, if_neg hsize, RxState.record_eq hheld, Option.bind_some,
    rxDispatchBytes_eq (Nat.not_le.mp hcport) hheld (by omega) (by omega), Option.map_map]
  rfl

/-! ## What is enqueued -/

/-- There is a message for a cport of the core, as long as its header says at least. -/
def RxAccepted (core : Core) (cport : Nat) (data : Option (List UInt8)) : Prop :=
  cport < core.cportCount ∧ ∃ msg, data = some msg ∧ sizeofHdr ≤ msg.length ∧
    sizeofHdr ≤ msgSize msg ∧ msgSize msg ≤ msg.length

/-- The operation joins the `rx_fifo` of the cport, and nothing else happens to the queues. -/
def RxState.Enqueued (s s' : RxState σ) (cport : Nat) (op : RxOperation) : Prop :=
  s'.rxFifo = Function.update s.rxFifo cport (s.rxFifo cport ++ [op])

/-- The driver of the cport has a table of handlers, and none for a message of this type is a fast
one. -/
def Core.QueuesType (core : Core) (cport : Nat) (type : UInt8) : Prop :=
  ∃ d tab, (core.gCport cport).driver = some d ∧ (core.drivers d).opHandlers = some tab ∧
    ∀ h ∈ tab, h.type = type → h.fn ≠ .fastHandler

section Enqueued

variable {core : Core} {cport : Nat} {data : Option (List UInt8)} {msg : List UInt8}
  {s s' : RxState σ} {op op' : RxOperation}

theorem RxState.Enqueued.inj (h : s.Enqueued s' cport op) (h' : s.Enqueued s' cport op') :
    op = op' := by
  have hqueue := congrFun (h.symm.trans h') cport
  rw [Function.update_self, Function.update_self] at hqueue
  exact List.singleton_inj.mp (List.append_cancel_left hqueue)

theorem RxState.not_enqueued_of_eq (h : s'.rxFifo = s.rxFifo) : ¬ s.Enqueued s' cport op := by
  intro henqueued
  have hlength := congrArg (fun fifo => (fifo cport).length) (h.symm.trans henqueued)
  simp at hlength

theorem Core.QueuesType.hasHandlers {type : UInt8} (h : core.QueuesType cport type) :
    core.hasHandlers cport = true := by
  obtain ⟨d, tab, hd, htab, -⟩ := h
  simp [Core.hasHandlers, hd, htab]

-- An accepted message is queued up to the size in its header.
theorem rxDispatch_queued (hqueues : core.QueuesType cport (msg.getD 4 0)) :
    rxDispatch core true ⟨cport, msg⟩ = some (.queued (msg.take (msgSize msg))) := by
  obtain ⟨d, tab, hd, htab, hslow⟩ := hqueues
  obtain ⟨res, hres, hfound⟩ := findOperationHandler_found hd htab (msg.getD 4 0)
  rw [rxDispatch, hres, Option.map_some]
  rcases res with _ | ⟨type, fn⟩
  · rfl
  · obtain ⟨hmem, htype⟩ := hfound _ rfl
    cases fn with
    | handler f => rfl
    | fastHandler => exact absurd rfl (hslow _ hmem htype)

theorem RxAccepted.of_ok {call : RxCall} (h : rxCheck core cport data = .ok call) :
    RxAccepted core cport data := by
  obtain ⟨-, hdata, hcport, hlow, hhigh⟩ := rxCheck_ok h
  exact ⟨hcport, call.msg, hdata, hlow.trans hhigh, hlow, hhigh⟩

theorem RxAccepted.rxCheck_eq (h : RxAccepted core cport (some msg))
    (hhandlers : core.hasHandlers cport = true) :
    rxCheck core cport (some msg) = .ok ⟨cport, msg⟩ := by
  obtain ⟨hcport, msg', hmsg, hlength, hlow, hhigh⟩ := h
  obtain rfl := Option.some.inj hmsg
  rw [rxCheck, if_neg (Nat.not_le.mpr hcport), hhandlers, Bool.not_true,
    if_neg Bool.false_ne_true, if_neg (Nat.not_lt.mpr hlength), if_neg (by omega)]

-- A message that is not accepted leaves everything as it is.
theorem greybusRxHandler_of_not_accepted {memory : Bool} {tape : Tape σ}
    (h : ¬ RxAccepted core cport data) :
    ∃ ret, greybusRxHandler core memory cport data tape = some (.refused ret, tape) := by
  rw [greybusRxHandler]
  cases hcheck : rxCheck core cport data with
  | error ret => exact ⟨ret, rfl⟩
  | ok call => exact absurd (.of_ok hcheck) h

end Enqueued

/-- With memory for the operation and a driver whose handlers for the message are not fast,
`greybus_rx_handler` enqueues one operation exactly if there is a message for a cport of the core
that is at least as long as its header says, whatever lies behind the message.  The operation has
the bytes that the header counts. -/
theorem greybusRxHandlerBytes_enqueues {core : Core} {cport size : Nat}
    {data : Option (List UInt8)} (hsize : ∀ msg, data = some msg → size = msg.length)
    (hqueues : ∀ msg, data = some msg → cport < core.cportCount →
      core.QueuesType cport (msg.getD 4 0))
    (after : Nat → Option UInt8) (s : RxState σ) :
    ∃ ret s', greybusRxHandlerBytes core ⟨true, true⟩ cport (data.map (ofBuffer · after)) size s
        = some (ret, s') ∧
      ((∃ op, s.Enqueued s' cport op) ↔ RxAccepted core cport data) ∧
      (∀ op, s.Enqueued s' cport op → op.cport = cport ∧ ∃ msg, data = some msg ∧
        op.requestBuffer = msg.take (msgSize msg) ∧ op.payloadSize = msgSize msg - sizeofHdr) ∧
      (¬ RxAccepted core cport data → s'.rxFifo = s.rxFifo) := by
  cases data with
  | none =>
    have hnone : ¬ RxAccepted core cport none := by
      rintro ⟨-, msg, hmsg, -⟩
      cases hmsg
    have hsame := fun op => @RxState.not_enqueued_of_eq σ cport s s op rfl
    exact ⟨_, s, rfl, iff_of_false (fun ⟨op, h⟩ => hsame op h) hnone,
      fun op h => absurd h (hsame op), fun _ => rfl⟩
  | some msg =>
    obtain rfl := hsize msg rfl
    have hrun := greybusRxHandlerBytes_eq core ⟨true, true⟩ cport msg after s
    rw [Option.map_some, hrun]
    by_cases haccepted : RxAccepted core cport (some msg)
    · have hqueue := hqueues msg rfl haccepted.1
      rw [greybusRxHandler, haccepted.rxCheck_eq hqueue.hasHandlers]
      simp only [Bool.and_self, rxDispatch_queued hqueue, Option.map_some]
      refine ⟨_, _, rfl, iff_of_true ⟨_, rfl⟩ haccepted, fun op h => ?_,
        fun h => absurd haccepted h⟩
      obtain rfl := h.inj rfl
      obtain ⟨-, msg', hmsg, hlength, hlow, hhigh⟩ := haccepted
      obtain rfl := Option.some.inj hmsg
      refine ⟨rfl, msg, rfl, rfl, ?_⟩
      have htwo : 2 ≤ msgSize msg := le_trans (by decide) hlow
      rw [RxOperation.payloadSize, msgSize_take htwo hhigh, if_neg (Nat.not_lt.mpr hlow)]
    · obtain ⟨ret, hret⟩ := @greybusRxHandler_of_not_accepted σ core cport (some msg) true s.tape
        haccepted
      simp only [Bool.and_self, hret, Option.map_some]
      have hsame := fun op => @RxState.not_enqueued_of_eq σ cport s s op rfl
      exact ⟨_, s, rfl, iff_of_false (fun ⟨op, h⟩ => hsame op h) haccepted,
        fun op h => absurd h (hsame op), fun _ => rfl⟩

/-- Empty queues and no tape. -/
def idleRxState : RxState Unit := ⟨fun _ => [], ⟨none, -1, ()⟩⟩

/-- A version request with a byte behind it. -/
def trailingByte : List UInt8 := [8, 0, 1, 0, 1, 0, 0, 0, 0xaa]

theorem oneHandlerCore_queues (cport : Nat) :
    (oneHandlerCore versionHandler).QueuesType cport 1 := by
  refine ⟨0, [versionHandler], rfl, rfl, fun h hmem _ hfast => ?_⟩
  obtain rfl := List.mem_singleton.mp hmem
  cases hfast

theorem greybusRxHandlerBytes_enqueues_trailing :
    ∃ ret s' op, greybusRxHandlerBytes (oneHandlerCore versionHandler) ⟨true, true⟩ 0
        (some (ofBuffer trailingByte fun _ => none)) 9 idleRxState = some (ret, s') ∧
      idleRxState.Enqueued s' 0 op ∧ op.requestBuffer = [8, 0, 1, 0, 1, 0, 0, 0] ∧
      op.payloadSize = 0 := by
  have haccepted : RxAccepted (oneHandlerCore versionHandler) 0 (some trailingByte) :=
    ⟨by decide, trailingByte, rfl, by decide⟩
  have hsize : ∀ msg, some trailingByte = some msg → 9 = msg.length := by
    rintro msg hmsg
    cases hmsg
    rfl
  have hqueues : ∀ msg, some trailingByte = some msg → 0 < (oneHandlerCore versionHandler).cportCount
      → (oneHandlerCore versionHandler).QueuesType 0 (msg.getD 4 0) := by
    rintro msg hmsg -
    cases hmsg
    exact oneHandlerCore_queues 0
  obtain ⟨ret, s', hrun, hqueued, hop, -⟩ :=
    greybusRxHandlerBytes_enqueues hsize hqueues (fun _ => none) idleRxState
  obtain ⟨op, henqueued⟩ := hqueued.mpr haccepted
  obtain ⟨-, msg, hmsg, hbytes, hpayload⟩ := hop op henqueued
  cases hmsg
  exact ⟨ret, s', op, hrun, henqueued, hbytes, hpayload⟩

end Greybus
