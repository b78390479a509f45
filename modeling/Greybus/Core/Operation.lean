import Greybus.Basic

/-!
# Operations

`struct gb_operation`.  Pointers into the heap are references: an operation, a bundle and a driver
are named by the order in which they were allocated.
-/

namespace Greybus

/-- A `struct gb_operation *`. -/
abbrev OpRef := Nat

/-- A `struct gb_bundle *`. -/
abbrev BundleRef := Nat

/-- A `struct gb_driver *`. -/
abbrev DriverRef := Nat

structure Timespec where
  sec : Int
  nsec : Int
  deriving DecidableEq, Repr

/-- A completion callback: the one of `gb_operation_send_request_sync`, which posts `sync_sem`, or
one of the callers' own. -/
inductive Callback where
  | sync
  | user (cb : Nat)
  deriving DecidableEq, Repr

/-- `struct gb_operation`. -/
structure Operation where
  cport : Nat
  hasResponded : Bool
  refCount : Int
  time : Timespec
  requestBuffer : Message
  responseBuffer : Option Message
  callback : Option Callback
  syncSem : Nat
  response : Option OpRef
  bundle : Option BundleRef
  deriving DecidableEq, Repr

/-- An operation as `_gb_operation_create` zeroes it, with its request buffer. -/
def Operation.fresh (cport : Nat) (request : Message) : Operation where
  cport := cport
  hasResponded := false
  refCount := 1
  time := ⟨0, 0⟩
  requestBuffer := request
  responseBuffer := none
  callback := none
  syncSem := 0
  response := none
  bundle := none

/-- The size field of a message with `n` payload bytes: `size + sizeof(*hdr)`, cut to 16 bits. -/
def hdrSize (n : Nat) : UInt16 := UInt16.ofNat (n + sizeofHdr)

/-- `gb_operation_get_request_payload_size`. -/
def Message.payloadSize (request : Message) : Nat := request.hdr.size.toNat - sizeofHdr

/-- The request buffer that `gb_operation_create` fills in. -/
def Message.request (type : UInt8) (reqSize : Nat) : Message where
  hdr := { size := hdrSize reqSize, id := 0, type := type, result := 0, pad := 0 }
  payload := List.replicate reqSize 0

/-- The response buffer that `gb_operation_alloc_response` fills in for the request `req`. -/
def Message.response (req : OperationHdr) (size : Nat) : Message where
  hdr := { size := hdrSize size, id := req.id, type := responseFlag ||| req.type, result := 0,
           pad := 0 }
  payload := List.replicate size 0

end Greybus
