import Greybus.Core.ResponseSize
import Greybus.Reasoning.Memory
import Mathlib.Algebra.BigOperators.Group.List.Basic

/-!
# Handlers whose response is as long as the request asks

The transfers of I2C, SPI and loopback, and the manifest of the control protocol.  A response is as
long as the sum of the request's length fields, or as the manifest.
-/

namespace Greybus

open Reasoning.Memory

/-! ## Error codes -/

/-- `gb_errno_to_op_result`. -/
def gbErrnoToOpResult (err : Int) : OperationResult :=
  if err = 0 then .success
  else if err = ENOMEM ∨ err = -ENOMEM then .noMemory
  else if err = EINTR ∨ err = -EINTR then .interrupted
  else if err = ETIMEDOUT ∨ err = -ETIMEDOUT then .timeout
  else if err = EPROTO ∨ err = -EPROTO ∨ err = ENOSYS ∨ err = -ENOSYS then .protocolBad
  else if err = EINVAL ∨ err = -EINVAL then .invalid
  else if err = EOVERFLOW ∨ err = -EOVERFLOW then .overflow
  else if err = ENODEV ∨ err = -ENODEV ∨ err = ENXIO ∨ err = - ENXIO then .nonexistent
  else if err = EBUSY ∨ err = -EBUSY then .retry
  else .unknownError

theorem OperationResult.code_eq_success (result : OperationResult) :
    result.code = OperationResult.success.code ↔ result = .success := by
  cases result <;> decide

theorem ite_ne_of_ne {α : Type*} {p : Prop} [Decidable p] {a b c : α} (ha : a ≠ c) (hb : b ≠ c) :
    (if p then a else b) ≠ c := by
  split
  next => exact ha
  next => exact hb

theorem gbErrnoToOpResult_eq_success (err : Int) :
    (gbErrnoToOpResult err).code = OperationResult.success.code ↔ err = 0 := by
  rw [OperationResult.code_eq_success]
  unfold gbErrnoToOpResult
  split
  next h => exact iff_of_true rfl h
  next h =>
    apply iff_of_false _ h
    -- No code but 0 is a success.
    repeat' apply ite_ne_of_ne
    all_goals decide

/-! ## The request's payload -/

/-- The byte that a handler finds at an offset of the payload; `after` is what lies behind the
request's buffer. -/
def Message.payloadByte (request : Message) (after : Nat → UInt8) (i : Nat) : UInt8 :=
  request.payload[i]?.getD (after (i - request.payload.length))

def u16At (bytes : Nat → UInt8) (i : Nat) : Nat := le16 (bytes i) (bytes (i + 1))

def u32At (bytes : Nat → UInt8) (i : Nat) : Nat := u16At bytes i + 2 ^ 16 * u16At bytes (i + 2)

def bytes16 (n : Nat) : List UInt8 := [UInt8.ofNat n, UInt8.ofNat (n / 256)]

def bytes32 (n : Nat) : List UInt8 := bytes16 n ++ bytes16 (n / 2 ^ 16)

theorem le16_bytes16 (n : Nat) : le16 (UInt8.ofNat n) (UInt8.ofNat (n / 256)) = n % 2 ^ 16 := by
  simp only [le16, UInt8.toNat_ofNat']
  omega

/-! ## I2C -/

/-- `struct gb_i2c_transfer_desc`. -/
structure I2cTransferDesc where
  addr : Nat
  flags : Nat
  size : Nat
  deriving DecidableEq, Repr

/-- `request->desc[i]`. -/
def i2cDesc (bytes : Nat → UInt8) (i : Nat) : I2cTransferDesc where
  addr := u16At bytes (2 + 6 * i)
  flags := u16At bytes (2 + 6 * i + 2)
  size := u16At bytes (2 + 6 * i + 4)

/-- `GB_I2C_M_RD` is set. -/
def I2cTransferDesc.readOp (d : I2cTransferDesc) : Bool := d.flags &&& 0x0001 ≠ 0

/-- `struct i2c_msg`; the buffer is an offset in the response's data when it is read into, and else
in the request's payload. -/
structure I2cMsg where
  read : Bool
  len : Nat
  buf : Nat
  deriving DecidableEq, Repr

/-- What the handler meets: whether `malloc` gives memory for the messages, and what `i2c_transfer`
returns for them and stores into the response. -/
structure I2cBus where
  mallocOk : Bool
  i2cTransfer : List I2cMsg → Nat → Int × List UInt8

/-- The second loop of `gb_i2c_protocol_transfer`; `none` when it leaves with `-EINVAL`. -/
def i2cMessages (desc : Nat → I2cTransferDesc) (addr : Nat) :
    List Nat → Nat → Nat → Option (List I2cMsg)
  | [], _, _ => some []
  | i :: is, readCount, writeData =>
    let d := desc i
    if d.addr ≠ addr then none
    else if d.readOp then
      (i2cMessages desc addr is (readCount + d.size) writeData).map (⟨true, d.size, readCount⟩ :: ·)
    else
      (i2cMessages desc addr is readCount (writeData + d.size)).map (⟨false, d.size, writeData⟩ :: ·)

/-- The messages of a request with `opCount` descriptors, and the address they are for. -/
def i2cRequests (bytes : Nat → UInt8) (opCount : Nat) : Option (List I2cMsg) × Nat :=
  let addr := if opCount > 0 then (i2cDesc bytes 0).addr else 2 ^ 16 - 1
  (i2cMessages (i2cDesc bytes) addr (List.range opCount) 0 (2 + 6 * opCount), addr)

/-- `gb_i2c_protocol_transfer` after the response has been allocated. -/
def i2cTransfer (bus : I2cBus) (bytes : Nat → UInt8) (opCount : Nat) : HandlerProg :=
  if !bus.mallocOk then .done OperationResult.noMemory.code
  else
    match i2cRequests bytes opCount with
    | (none, _) => .done (gbErrnoToOpResult (-EINVAL)).code
    | (some msgs, addr) =>
      let r := bus.i2cTransfer msgs addr
      .fillResponse r.2 (.done (gbErrnoToOpResult r.1).code)

/-- `gb_i2c_protocol_transfer`. -/
def gbI2cProtocolTransfer (bus : I2cBus) (after : Nat → UInt8) (operation : Operation) :
    HandlerProg :=
  let reqSize := operation.requestBuffer.payloadSize
  let bytes := operation.requestBuffer.payloadByte after
  if reqSize < 2 then .done OperationResult.invalid.code
  else
    let opCount := u16At bytes 0
    if reqSize < 2 + opCount * 6 then .done OperationResult.invalid.code
    else
      let size := (List.range opCount).foldl (fun size i =>
        if (i2cDesc bytes i).readOp then (size + (i2cDesc bytes i).size) % 2 ^ 32 else size) 0
      .allocResponse size fun ok =>
        if !ok then .done OperationResult.noMemory.code else i2cTransfer bus bytes opCount

/-! ## SPI -/

/-- `struct gb_spi_transfer_desc` without the delay, which is not used. -/
structure SpiTransferDesc where
  speedHz : Nat
  len : Nat
  csChange : UInt8
  bitsPerWord : UInt8
  rdwr : UInt8
  deriving DecidableEq, Repr

/-- `request->transfers[i]`. -/
def spiDesc (bytes : Nat → UInt8) (i : Nat) : SpiTransferDesc where
  speedHz := u32At bytes (4 + 13 * i)
  len := u32At bytes (4 + 13 * i + 4)
  csChange := bytes (4 + 13 * i + 10)
  bitsPerWord := bytes (4 + 13 * i + 11)
  rdwr := bytes (4 + 13 * i + 12)

/-- `GB_SPI_XFER_READ` is set. -/
def SpiTransferDesc.reads (d : SpiTransferDesc) : Bool := d.rdwr &&& 0x01 ≠ 0

/-- The first loop of `gb_spi_protocol_transfer`: `read_data_size`, or `none` when it returns
`GB_OP_INVALID`. -/
def spiReadDataSize (desc : Nat → SpiTransferDesc) (bitsPerWord : UInt8) :
    List Nat → Nat → Option Nat
  | [], size => some size
  | i :: is, size =>
    let d := desc i
    if d.reads ∧ d.len = 0 then none
    else
      let size := if d.reads then (size + d.len) % 2 ^ 32 else size
      if d.bitsPerWord ≠ bitsPerWord then none
      else if d.csChange ≠ 0 then none
      else spiReadDataSize desc bitsPerWord is size

/-- `tx_buf[i]` and `rx_buf[i]`, as offsets in the request's payload and in the response's data with
their lengths. -/
structure SpiBufs where
  tx : Option (Nat × Nat)
  rx : Option (Nat × Nat)
  deriving DecidableEq, Repr

/-- What `request_to_spi_config` reads of the request. -/
structure SpiConfig where
  frequency : Nat
  chipSelect : UInt8
  mode : UInt8
  bitsPerWord : UInt8
  deriving DecidableEq, Repr

/-- What the handler meets: whether `malloc` gives memory for the buffer descriptors, whether the
bus has a Greybus device, what `spi_transceive` returns and stores into the response, and with which
result the handler ends if it comes back from a store through the NULL `rx_buf_set`. -/
structure SpiBus where
  mallocOk : Bool
  gbSpidev : Bool
  spiTransceive : SpiConfig → List SpiBufs → Int × List UInt8
  nullStore : UInt8

/-- The second loop of `gb_spi_protocol_transfer`; without data to read there is no `rx_buf_set`. -/
def spiBuffers (bus : SpiBus) (desc : Nat → SpiTransferDesc) (hasRxBufSet : Bool) :
    List Nat → Nat → Nat → Except UInt8 (List SpiBufs)
  | [], _, _ => .ok []
  | i :: is, writeData, readData =>
    let d := desc i
    if d.rdwr = 0x02 then
      (spiBuffers bus desc hasRxBufSet is (writeData + d.len) readData).map
        (⟨some (writeData, d.len), none⟩ :: ·)
    else if d.rdwr = 0x01 then
      if !hasRxBufSet then .error bus.nullStore
      else
        (spiBuffers bus desc hasRxBufSet is writeData (readData + d.len)).map
          (⟨none, some (readData, d.len)⟩ :: ·)
    else if d.rdwr = 0x03 then
      if !hasRxBufSet then .error bus.nullStore
      else
        (spiBuffers bus desc hasRxBufSet is (writeData + d.len) (readData + d.len)).map
          (⟨some (writeData, d.len), some (readData, d.len)⟩ :: ·)
    else .error OperationResult.invalid.code

/-- The buffers of a request with `opCount` descriptors. -/
def spiRequests (bus : SpiBus) (bytes : Nat → UInt8) (opCount readDataSize : Nat) :
    Except UInt8 (List SpiBufs) :=
  spiBuffers bus (spiDesc bytes) (readDataSize > 0) (List.range opCount) (4 + 13 * opCount) 0

/-- The configuration that `request_to_spi_config` makes of the request. -/
def spiConfig (bytes : Nat → UInt8) : SpiConfig :=
  ⟨(spiDesc bytes 0).speedHz, bytes 0, bytes 1, (spiDesc bytes 0).bitsPerWord⟩

/-- `gb_spi_protocol_transfer` after the response has been allocated. -/
def spiTransfer (bus : SpiBus) (bytes : Nat → UInt8) (opCount readDataSize : Nat) : HandlerProg :=
  match spiRequests bus bytes opCount readDataSize with
  | .error code => .done code
  | .ok bufs =>
    if !bus.gbSpidev then .done (gbErrnoToOpResult ENODEV).code
    else
      let r := bus.spiTransceive (spiConfig bytes) bufs
      .fillResponse r.2 (.done (gbErrnoToOpResult (-r.1)).code)

/-- `gb_spi_protocol_transfer`.  The descriptors are read before the size of the request is compared
with their number. -/
def gbSpiProtocolTransfer (bus : SpiBus) (after : Nat → UInt8) (operation : Operation) :
    HandlerProg :=
  let requestSize := operation.requestBuffer.payloadSize
  let bytes := operation.requestBuffer.payloadByte after
  if requestSize < 4 then .done OperationResult.invalid.code
  else
    let opCount := u16At bytes 2
    if opCount = 0 then .done OperationResult.success.code
    else
      match spiReadDataSize (spiDesc bytes) (spiDesc bytes 0).bitsPerWord (List.range opCount) 0 with
      | none => .done OperationResult.invalid.code
      | some readDataSize =>
        if !bus.mallocOk then .done OperationResult.noMemory.code
        else if requestSize < 4 + opCount * 13 then .done OperationResult.invalid.code
        else
          .allocResponse readDataSize fun ok =>
            if !ok then .done OperationResult.noMemory.code
            else spiTransfer bus bytes opCount readDataSize

/-! ## Loopback and control -/

/-- `gb_loopback_transfer_req_cb`. -/
def gbLoopbackTransferReqCb (after : Nat → UInt8) (operation : Operation) : HandlerProg :=
  let bytes := operation.requestBuffer.payloadByte after
  if operation.requestBuffer.payloadSize < 12 then .done OperationResult.invalid.code
  else
    let requestLength := u32At bytes 0
    .allocResponse ((12 + requestLength) % 2 ^ 32) fun ok =>
      if !ok then .done OperationResult.noMemory.code
      else
        -- `response->len` and, behind the two reserved fields, `response->data`
        .fillResponse ((List.range 4).map bytes ++ List.replicate 8 0 ++
          (List.range requestLength).map fun i => bytes (12 + i))
        (.done OperationResult.success.code)

/-- `get_manifest_size`. -/
def getManifestSize (blob : Option (List UInt8)) : Nat :=
  match blob with
  | none => 0
  | some mh => le16 (mh.getD 0 0) (mh.getD 1 0)

/-- `gb_control_get_manifest`, where `blob` is what `get_manifest_blob` returns. -/
def gbControlGetManifest (blob : Option (List UInt8)) (_operation : Operation) : HandlerProg :=
  .allocResponse (getManifestSize blob) fun ok =>
    if !ok then .done OperationResult.noMemory.code
    else
      match blob with
      | none => .done OperationResult.invalid.code
      | some mh =>
        .fillResponse (mh.take (getManifestSize blob)) (.done OperationResult.success.code)

/-! ## What a request asks for -/

/-- The sum of the lengths of the descriptors that read. -/
def readTotal (reads : Nat → Bool) (len : Nat → Nat) (is : List Nat) : Nat :=
  ((is.filter reads).map len).sum

theorem readTotal_cons (reads : Nat → Bool) (len : Nat → Nat) (i : Nat) (is : List Nat) :
    readTotal reads len (i :: is) = (if reads i then len i else 0) + readTotal reads len is := by
  unfold readTotal
  cases h : reads i <;> simp [h]

theorem foldl_readTotal (reads : Nat → Bool) (len : Nat → Nat) (is : List Nat) {size : Nat}
    (hsize : size < 2 ^ 32) :
    is.foldl (fun size i => if reads i then (size + len i) % 2 ^ 32 else size) size
      = (size + readTotal reads len is) % 2 ^ 32 := by
  induction is generalizing size with
  | nil => exact (Nat.mod_eq_of_lt hsize).symm
  | cons i is ih =>
    rw [List.foldl_cons, readTotal_cons]
    cases h : reads i with
    | false =>
      rw [if_neg (by simp), if_neg (by simp), ih hsize, Nat.zero_add]
    | true =>
      rw [if_pos rfl, if_pos rfl, ih (Nat.mod_lt _ (by decide))]
      omega

-- The loop of the SPI handler adds up the same lengths, as far as it comes.
theorem spiReadDataSize_eq {desc : Nat → SpiTransferDesc} {bitsPerWord : UInt8} {is : List Nat}
    {size r : Nat} (hsize : size < 2 ^ 32) (h : spiReadDataSize desc bitsPerWord is size = some r) :
    r = (size + readTotal (fun i => (desc i).reads) (fun i => (desc i).len) is) % 2 ^ 32 := by
  induction is generalizing size with
  | nil =>
    cases h
    exact (Nat.mod_eq_of_lt hsize).symm
  | cons i is ih =>
    simp only [spiReadDataSize, Option.ite_none_left_eq_some] at h
    obtain ⟨-, -, -, hrest⟩ := h
    rw [readTotal_cons]
    cases hreads : (desc i).reads with
    | false =>
      simp only [hreads, Bool.false_eq_true, if_false] at hrest ⊢
      rw [ih hsize hrest, Nat.zero_add]
    | true =>
      simp only [hreads, if_true] at hrest ⊢
      rw [ih (Nat.mod_lt _ (by decide)) hrest]
      omega

/-- A handler with what it meets. -/
inductive Transfer where
  | i2c (bus : I2cBus) (after : Nat → UInt8)
  | spi (bus : SpiBus) (after : Nat → UInt8)
  | loopback (after : Nat → UInt8)
  | manifest (blob : Option (List UInt8))

namespace Transfer

def handler : Transfer → Operation → HandlerProg
  | i2c bus after => gbI2cProtocolTransfer bus after
  | spi bus after => gbSpiProtocolTransfer bus after
  | loopback after => gbLoopbackTransferReqCb after
  | manifest blob => gbControlGetManifest blob

/-- The payload that the response to a request needs, unless the request is refused or has nothing
to do. -/
def need (t : Transfer) (request : Message) : Option Nat :=
  match t with
  | i2c _ after =>
    let bytes := request.payloadByte after
    if request.payloadSize < 2 ∨ request.payloadSize < 2 + u16At bytes 0 * 6 then none
    else some (readTotal (fun i => (i2cDesc bytes i).readOp) (fun i => (i2cDesc bytes i).size)
      (List.range (u16At bytes 0)))
  | spi bus after =>
    let bytes := request.payloadByte after
    let opCount := u16At bytes 2
    if request.payloadSize < 4 ∨ opCount = 0 ∨
        spiReadDataSize (spiDesc bytes) (spiDesc bytes 0).bitsPerWord (List.range opCount) 0 = none ∨
        bus.mallocOk = false ∨ request.payloadSize < 4 + opCount * 13 then none
    else some (readTotal (fun i => (spiDesc bytes i).reads) (fun i => (spiDesc bytes i).len)
      (List.range opCount))
  | loopback after =>
    if request.payloadSize < 12 then none else some (12 + u32At (request.payloadByte after) 0)
  | manifest blob => some (getManifestSize blob)

/-- Something goes wrong after there is a response: I2C has no memory for its messages, descriptors
with different addresses or an error on the bus; SPI has a descriptor that neither reads nor writes,
no Greybus device or an error on the bus; there is no manifest. -/
def fails (t : Transfer) (request : Message) : Bool :=
  match t with
  | i2c bus after =>
    let bytes := request.payloadByte after
    !bus.mallocOk ||
      match i2cRequests bytes (u16At bytes 0) with
      | (none, _) => true
      | (some msgs, addr) => (bus.i2cTransfer msgs addr).1 ≠ 0
  | spi bus after =>
    let bytes := request.payloadByte after
    let opCount := u16At bytes 2
    let readDataSize := readTotal (fun i => (spiDesc bytes i).reads)
      (fun i => (spiDesc bytes i).len) (List.range opCount) % 2 ^ 32
    match spiRequests bus bytes opCount readDataSize with
    | .error code => code ≠ OperationResult.success.code
    | .ok bufs => !bus.gbSpidev || (bus.spiTransceive (spiConfig bytes) bufs).1 ≠ 0
  | loopback _ => false
  | manifest blob => blob.isNone

-- What the code behind the allocation ends with, as `fails` tells it.
theorem i2cTransfer_ends (bus : I2cBus) (after : Nat → UInt8) (request : Message) :
    ∃ result, (i2cTransfer bus (request.payloadByte after)
        (u16At (request.payloadByte after) 0)).Ends result ∧
      (result = OperationResult.success.code ↔ (i2c bus after).fails request = false) := by
  simp only [i2cTransfer, fails]
  cases bus.mallocOk with
  | false => exact ⟨_, .done, by simp [OperationResult.code]⟩
  | true =>
    rcases i2cRequests (request.payloadByte after) _ with ⟨_ | msgs, addr⟩
    · exact ⟨_, .done, by simp [gbErrnoToOpResult_eq_success, EINVAL]⟩
    · exact ⟨_, .fillResponse .done, by simp [gbErrnoToOpResult_eq_success]⟩

theorem i2c_asks (bus : I2cBus) (after : Nat → UInt8) (op : Operation) :
    (gbI2cProtocolTransfer bus after op).Asks ((i2c bus after).need op.requestBuffer)
      ((i2c bus after).fails op.requestBuffer) := by
  simp only [gbI2cProtocolTransfer, need]
  by_cases hhdr : op.requestBuffer.payloadSize < 2
  · simp only [hhdr, if_true, true_or]
    exact .nothing .done
  simp only [hhdr, if_false, false_or]
  split
  next => exact .nothing .done
  next =>
    rw [foldl_readTotal _ _ _ (by decide), Nat.zero_add]
    obtain ⟨result, hends, hresult⟩ := i2cTransfer_ends bus after op.requestBuffer
    exact .buffer .done (by decide) hends hresult

theorem spiTransfer_ends (bus : SpiBus) (after : Nat → UInt8) (request : Message)
    {readDataSize : Nat}
    (hsize : readDataSize = readTotal (fun i => (spiDesc (request.payloadByte after) i).reads)
      (fun i => (spiDesc (request.payloadByte after) i).len)
      (List.range (u16At (request.payloadByte after) 2)) % 2 ^ 32) :
    ∃ result, (spiTransfer bus (request.payloadByte after)
        (u16At (request.payloadByte after) 2) readDataSize).Ends result ∧
      (result = OperationResult.success.code ↔ (spi bus after).fails request = false) := by
  simp only [spiTransfer, fails, ← hsize]
  rcases spiRequests bus (request.payloadByte after) _ readDataSize with code | bufs
  · exact ⟨code, .done, by simp⟩
  · cases bus.gbSpidev with
    | false => exact ⟨_, .done, by simp [gbErrnoToOpResult_eq_success, ENODEV]⟩
    | true => exact ⟨_, .fillResponse .done, by simp [gbErrnoToOpResult_eq_success]⟩

theorem spi_asks (bus : SpiBus) (after : Nat → UInt8) (op : Operation) :
    (gbSpiProtocolTransfer bus after op).Asks ((spi bus after).need op.requestBuffer)
      ((spi bus after).fails op.requestBuffer) := by
  simp only [gbSpiProtocolTransfer, need]
  by_cases hhdr : op.requestBuffer.payloadSize < 4
  · simp only [hhdr, if_true, true_or]
    exact .nothing .done
  by_cases hcount : u16At (op.requestBuffer.payloadByte after) 2 = 0
  · simp only [hhdr, hcount, if_true, if_false, true_or, or_true]
    exact .nothing .done
  simp only [hhdr, hcount, if_false, false_or]
  cases hread : spiReadDataSize (spiDesc (op.requestBuffer.payloadByte after))
      (spiDesc (op.requestBuffer.payloadByte after) 0).bitsPerWord
      (List.range (u16At (op.requestBuffer.payloadByte after) 2)) 0 with
  | none =>
    simp only [true_or, if_true]
    exact .nothing .done
  | some readDataSize =>
    have hsize := spiReadDataSize_eq (by decide) hread
    rw [Nat.zero_add] at hsize
    cases hmalloc : bus.mallocOk with
    | false =>
      simp only [Bool.not_false, if_true, true_or, or_true]
      exact .nothing .done
    | true =>
      simp only [reduceCtorEq, false_or, Bool.not_true, Bool.false_eq_true, if_false,
        Bool.true_eq_false]
      split
      next => exact .nothing .done
      next =>
        obtain ⟨result, hends, hresult⟩ := spiTransfer_ends bus after op.requestBuffer hsize
        subst hsize
        exact .buffer .done (by decide) hends hresult

theorem loopback_asks (after : Nat → UInt8) (op : Operation) :
    (gbLoopbackTransferReqCb after op).Asks ((loopback after).need op.requestBuffer)
      ((loopback after).fails op.requestBuffer) := by
  simp only [gbLoopbackTransferReqCb, need, fails]
  split
  next => exact .nothing .done
  next => exact .buffer .done (by decide) (.fillResponse .done) (by decide)

theorem manifest_asks (blob : Option (List UInt8)) (op : Operation) :
    (gbControlGetManifest blob op).Asks ((manifest blob).need op.requestBuffer)
      ((manifest blob).fails op.requestBuffer) := by
  have hsize : getManifestSize blob < 2 ^ 32 := by
    cases blob with
    | none => decide
    | some mh => exact lt_trans (le16_lt _ _) (by decide)
  unfold gbControlGetManifest
  cases blob with
  | none => exact .of_lt hsize .done (by decide) .done (by simp [fails, OperationResult.code])
  | some mh => exact .of_lt hsize .done (by decide) (.fillResponse .done) (by simp [fails])

theorem handler_asks (t : Transfer) (op : Operation) :
    (t.handler op).Asks (t.need op.requestBuffer) (t.fails op.requestBuffer) := by
  cases t with
  | i2c bus after => exact i2c_asks bus after op
  | spi bus after => exact spi_asks bus after op
  | loopback after => exact loopback_asks after op
  | manifest blob => exact manifest_asks blob op

/-- A request to one of the four handlers is answered with at most `GB_MTU` bytes, and with an error
if the response would need more, exactly when nothing is sent, or there is no response buffer, or
the payload that the response needs is small enough, or it is not but 16 bits of its size are and
the transfer goes wrong. -/
theorem answeredWithin_transfer_iff (t : Transfer) {core : Core} {tr : Transport} {cport : Nat}
    {request : Message} {h : OperationHandler} (hping : request.hdr.type ≠ pingType)
    (hfind : findOperationHandler core request.hdr.type cport = some (some h))
    (hfn : h.fn = .handler t.handler) :
    AnsweredWithin core tr cport request (t.need request) ↔
      request.hdr.id = 0 ∨ (core.gCport cport).exitWorker = true ∨ tr.allocBuf 0 = false ∨
        ∀ n, t.need request = some n → n ≤ gbMaxPayloadSize ∨
          (n + sizeofHdr) % 2 ^ 16 ≤ gbMtu ∧ t.fails request = true :=
  answeredWithin_iff hping hfind hfn fun op hop => hop ▸ t.handler_asks op

end Transfer

/-- A request with id 1 and this payload. -/
def requestOf (type : UInt8) (payload : List UInt8) : Message where
  hdr := { size := hdrSize payload.length, id := 1, type := type, result := 0, pad := 0 }
  payload := payload

/-- A bus on which everything works. -/
def idleI2cBus : I2cBus := ⟨true, fun _ _ => (0, [])⟩

/-- An I2C transfer of one descriptor that reads `size` bytes. -/
def i2cRead (size : UInt16) : Message :=
  requestOf 5 [1, 0, 0x50, 0, 1, 0, UInt8.ofNat size.toNat, UInt8.ofNat (size.toNat / 256)]

def i2cHandler : OperationHandler := ⟨5, .handler (Transfer.i2c idleI2cBus fun _ => 0).handler⟩

theorem answeredWithin_transfer_iff_i2cRead :
    (Transfer.i2c idleI2cBus fun _ => 0).need (i2cRead 16) = some 16 ∧
      AnsweredWithin (oneHandlerCore i2cHandler) reliableTransport 0 (i2cRead 16)
        ((Transfer.i2c idleI2cBus fun _ => 0).need (i2cRead 16)) := by
  have hneed : (Transfer.i2c idleI2cBus fun _ => 0).need (i2cRead 16) = some 16 := by decide
  refine ⟨hneed, (Transfer.answeredWithin_transfer_iff _ (by decide)
    (show findOperationHandler (oneHandlerCore i2cHandler) 5 0 = some (some i2cHandler) from rfl)
    rfl).mpr (.inr (.inr (.inr fun n hn => .inl ?_)))⟩
  rw [hneed, Option.some.injEq] at hn
  exact hn ▸ by decide

-- A request of 16 bytes is answered with a message of 2049 bytes.
theorem answeredWithin_transfer_large :
    (i2cRead 2041).hdr.size = 16 ∧
      ¬ AnsweredWithin (oneHandlerCore i2cHandler) reliableTransport 0 (i2cRead 2041)
        ((Transfer.i2c idleI2cBus fun _ => 0).need (i2cRead 2041)) := by
  have hlen : (gbProcessRequest (oneHandlerCore i2cHandler) reliableTransport
      (.start (.fresh 0 (i2cRead 2041)))).map (fun p => p.sends.map (·.len)) = some [2049] := by
    decide
  refine ⟨by decide, fun hwithin => ?_⟩
  obtain ⟨p', hp', hlens⟩ := Option.map_eq_some_iff.mp hlen
  obtain ⟨sent, hsent, hsize⟩ := List.mem_map.mp (show 2049 ∈ p'.sends.map (·.len) by simp [hlens])
  have hle := (hwithin p' hp' sent hsent).1
  rw [hsize] at hle
  exact absurd hle (by decide)

end Greybus
