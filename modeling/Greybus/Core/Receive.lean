import Greybus.Core.Driver
import Greybus.Transport.Message

/-!
# Receiving a message

`greybus_rx_handler`: its checks, the record that it leaves on the tape, and the handler or queue
that gets the message.
-/

namespace Greybus

/-! ## The tape -/

inductive TapeMode where
  | rdonly
  | wronly
  deriving DecidableEq, Repr

/-- `struct gb_tape_mechanism`; its functions change a world `σ` of their own.  A read gives the
value it returns and the bytes it stores. -/
structure TapeMechanism (σ : Type*) where
  tapeOpen : String → TapeMode → σ → Int × σ
  tapeClose : Int → σ → σ
  tapeWrite : Int → List UInt8 → σ → Int × σ
  tapeRead : Int → Nat → σ → Int × List UInt8 × σ

/-- `gb_tape` and `gb_tape_fd`, with the world of the mechanism. -/
structure Tape (σ : Type*) where
  mechanism : Option (TapeMechanism σ)
  fd : Int
  world : σ

/-- `sizeof(struct gb_tape_record_header)`. -/
def sizeofRecordHeader : Nat := 4

/-- `struct gb_tape_record_header`: both fields have 16 bits. -/
def recordHeader (size cport : Nat) : List UInt8 :=
  le16Bytes (UInt16.ofNat size) ++ le16Bytes (UInt16.ofNat cport)

/-- What `greybus_rx_handler` writes for a message while a tape is open. -/
def Tape.record {σ : Type*} (tape : Tape σ) (call : RxCall) : Tape σ :=
  match tape.mechanism with
  | none => tape
  | some T =>
    if tape.fd < 0 then tape
    else
      let world := (T.tapeWrite tape.fd (recordHeader call.msg.length call.cport) tape.world).2
      { tape with world := (T.tapeWrite tape.fd call.msg world).2 }

/-! ## The handler -/

/-- Whether the cport has a driver with a table of handlers. -/
def Core.hasHandlers (core : Core) (cport : Nat) : Bool :=
  match (core.gCport cport).driver with
  | none => false
  | some d => (core.drivers d).opHandlers.isSome

/-- The checks of `greybus_rx_handler`: the value it returns at once, or the message. -/
def rxCheck (core : Core) (cport : Nat) (data : Option (List UInt8)) : Except Int RxCall :=
  match data with
  | none => .error (-EINVAL)
  | some msg =>
    if core.cportCount ≤ cport then .error (-EINVAL)
    else if !core.hasHandlers cport then .error 0
    else if msg.length < sizeofHdr then .error (-EINVAL)
    else if msg.length < msgSize msg ∨ msgSize msg < sizeofHdr then .error (-EINVAL)
    else .ok ⟨cport, msg⟩

/-- What becomes of a message. -/
inductive Receipt where
  | refused (ret : Int)
  -- `fast_handler` gets the message.
  | fast
  -- There is no memory for the operation.
  | dropped
  -- An operation with these bytes as its request joins `rx_fifo`.
  | queued (request : List UInt8)
  deriving DecidableEq, Repr

/-- What `greybus_rx_handler` returns. -/
def Receipt.ret : Receipt → Int
  | .refused ret => ret
  | .fast => 0
  | .dropped => -ENOMEM
  | .queued _ => 0

/-- `greybus_rx_handler` from `find_operation_handler` on; `memory` says whether
`gb_rx_create_operation` succeeds. -/
def rxDispatch (core : Core) (memory : Bool) (call : RxCall) : Option Receipt :=
  (findOperationHandler core (call.msg.getD 4 0) call.cport).map fun
    | some ⟨_, .fastHandler⟩ => .fast
    | _ => if memory then .queued (call.msg.take (msgSize call.msg)) else .dropped

/-- `greybus_rx_handler`; the size is the length of `data`.  The log of the loopback protocol and
the time of reception are left out. -/
def greybusRxHandler {σ : Type*} (core : Core) (memory : Bool) (cport : Nat)
    (data : Option (List UInt8)) (tape : Tape σ) : Option (Receipt × Tape σ) :=
  match rxCheck core cport data with
  | .error ret => some (.refused ret, tape)
  | .ok call => (rxDispatch core memory call).map fun receipt => (receipt, tape.record call)

/-! ## What is received -/

variable {core : Core} {cport : Nat} {data : Option (List UInt8)} {call : RxCall}

/-- What passes the checks: a message for a cport of the core, as long as its header says at
least. -/
theorem rxCheck_ok (h : rxCheck core cport data = .ok call) :
    call.cport = cport ∧ data = some call.msg ∧ cport < core.cportCount ∧
      sizeofHdr ≤ msgSize call.msg ∧ msgSize call.msg ≤ call.msg.length := by
  unfold rxCheck at h
  split at h
  next => cases h
  next msg =>
    split at h
    next => cases h
    next hcport =>
      split at h
      next => cases h
      split at h
      next => cases h
      split at h
      next => cases h
      next hsize =>
        have hbounds : sizeofHdr ≤ msgSize msg ∧ msgSize msg ≤ msg.length := by omega
        obtain rfl := Except.ok.inj h
        exact ⟨rfl, rfl, Nat.not_le.mp hcport, hbounds.1, hbounds.2⟩

variable {σ : Type*}

/-- What a call of `greybus_rx_handler` does to the tape. -/
def Tape.rx (tape : Tape σ) (core : Core) (cport : Nat) (data : Option (List UInt8)) : Tape σ :=
  match rxCheck core cport data with
  | .error _ => tape
  | .ok call => tape.record call

theorem greybusRxHandler_tape {memory : Bool} {tape tape' : Tape σ} {receipt : Receipt}
    (h : greybusRxHandler core memory cport data tape = some (receipt, tape')) :
    tape' = tape.rx core cport data := by
  unfold greybusRxHandler at h
  unfold Tape.rx
  split at h
  next ret herror =>
    exact (congrArg Prod.snd (Option.some.inj h)).symm
  next call hok =>
    obtain ⟨receipt', -, heq⟩ := Option.map_eq_some_iff.mp h
    exact (congrArg Prod.snd heq).symm

-- Without a tape to write to, a call leaves no record.
theorem rx_of_neg {tape : Tape σ} (hfd : tape.fd < 0) (core : Core) (cport : Nat)
    (data : Option (List UInt8)) : tape.rx core cport data = tape := by
  unfold Tape.rx
  split
  next => rfl
  next call =>
    unfold Tape.record
    split
    next => rfl
    next => rw [if_pos hfd]

end Greybus
