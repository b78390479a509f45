import Mathlib.Init

/-!
# Messages and error codes

`struct gb_operation_hdr` with its constants.  The header's 16-bit fields hold the values the CPU
sees; on the little-endian targets `sys_le16_to_cpu` changes nothing.
-/

namespace Greybus

def EINTR : Int := 4
def EIO : Int := 5
def ENXIO : Int := 6
def EBADF : Int := 9
def ENOMEM : Int := 12
def EBUSY : Int := 16
def EEXIST : Int := 17
def ENODEV : Int := 19
def EINVAL : Int := 22
def EPROTO : Int := 71
def ENOSYS : Int := 88
def ENETDOWN : Int := 115
def ETIMEDOUT : Int := 116
def ENOTCONN : Int := 128
def ENOTSUP : Int := 134
def EOVERFLOW : Int := 139

/-- `GB_PING_TYPE`. -/
def pingType : UInt8 := 0x00

/-- `GB_INVALID_TYPE`. -/
def invalidType : UInt8 := 0x7f

/-- `GB_TYPE_RESPONSE_FLAG`. -/
def responseFlag : UInt8 := 0x80

/-- `enum gb_operation_result`. -/
inductive OperationResult where
  | success | interrupted | timeout | noMemory | protocolBad | overflow | invalid | retry
  | nonexistent | unknownError | internal
  deriving DecidableEq, Repr

def OperationResult.code : OperationResult → UInt8
  | .success => 0x00
  | .interrupted => 0x01
  | .timeout => 0x02
  | .noMemory => 0x03
  | .protocolBad => 0x04
  | .overflow => 0x05
  | .invalid => 0x06
  | .retry => 0x07
  | .nonexistent => 0x08
  | .unknownError => 0xfe
  | .internal => 0xff

/-- `struct gb_operation_hdr`. -/
structure OperationHdr where
  size : UInt16
  id : UInt16
  type : UInt8
  result : UInt8
  pad : UInt16
  deriving DecidableEq, Repr

/-- `sizeof(struct gb_operation_hdr)`. -/
def sizeofHdr : Nat := 8

/-- `GB_MTU`. -/
def gbMtu : Nat := 2048

/-- `GB_MAX_PAYLOAD_SIZE`. -/
def gbMaxPayloadSize : Nat := gbMtu - sizeofHdr

/-- A message buffer: the header and the bytes that follow it. -/
structure Message where
  hdr : OperationHdr
  payload : List UInt8
  deriving DecidableEq, Repr

end Greybus
