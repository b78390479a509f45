import Greybus.Protocols.Transfers

/-!
# The SDIO protocol

`gb_sdio_protocol_get_capabilities` cuts what the controller can do down to what a response holds.
`gb_sdio_protocol_transfer` hands the blocks of a request, or of its response, to the driver.
-/

namespace Greybus

open Reasoning.Memory

/-! ## Capabilities -/

/-- `scale_max_sd_block_length`. -/
def scaleMaxSdBlockLength (value : Nat) : Nat :=
  if value < 512 then 0 else if value < 1024 then 512 else if value < 2048 then 1024 else 2048

/-- `struct sdio_cap`. -/
structure SdioCap where
  caps : Nat
  ocr : Nat
  fMin : Nat
  fMax : Nat
  maxBlkCount : Nat
  maxBlkSize : Nat
  deriving DecidableEq, Repr

/-- The restriction to `max_data_size`. -/
def SdioCap.restrict (cap : SdioCap) (maxDataSize : Nat) : SdioCap :=
  if cap.maxBlkCount * cap.maxBlkSize > maxDataSize then
    if cap.maxBlkSize > maxDataSize then { cap with maxBlkSize := maxDataSize }
    else { cap with maxBlkCount := maxDataSize / cap.maxBlkSize }
  else cap

/-- `struct gb_sdio_get_capabilities_response`. -/
def SdioCap.bytes (cap : SdioCap) : List UInt8 :=
  bytes32 cap.caps ++ bytes32 cap.ocr ++ bytes32 cap.fMin ++ bytes32 cap.fMax ++
    bytes16 cap.maxBlkCount ++ bytes16 cap.maxBlkSize

/-- `sizeof(struct gb_sdio_transfer_response)`. -/
def sizeofSdioTransferResponse : Nat := 4

/-- `gb_sdio_protocol_get_capabilities`, where `device` is what `device_sdio_get_capabilities`
returns and stores. -/
def gbSdioProtocolGetCapabilities (device : Int × SdioCap) (_operation : Operation) : HandlerProg :=
  if device.1 ≠ 0 then .done (gbErrnoToOpResult device.1).code
  else
    .allocResponse 20 fun ok =>
      if !ok then .done OperationResult.noMemory.code
      else
        let maxDataSize := scaleMaxSdBlockLength (gbMaxPayloadSize - sizeofSdioTransferResponse)
        if maxDataSize = 0 then .done OperationResult.invalid.code
        else
          .fillResponse (device.2.restrict maxDataSize).bytes (.done OperationResult.success.code)

/-- A transfer response has room for so many blocks of this size; neither is more than the
controller's, and neither has become 0. -/
structure SdioCapWithin (cap : SdioCap) (count size : Nat) : Prop where
  fits : count * size + sizeofSdioTransferResponse ≤ gbMaxPayloadSize
  count_le : count ≤ cap.maxBlkCount
  size_le : size ≤ cap.maxBlkSize
  count_ne : cap.maxBlkCount ≠ 0 → count ≠ 0
  size_ne : cap.maxBlkSize ≠ 0 → size ≠ 0

theorem SdioCap.response_blocks {cap : SdioCap} {response : Message}
    (h : response.payload = cap.bytes) :
    u16At (response.payloadByte fun _ => 0) 16 = cap.maxBlkCount % 2 ^ 16 ∧
      u16At (response.payloadByte fun _ => 0) 18 = cap.maxBlkSize % 2 ^ 16 := by
  rw [← le16_bytes16, ← le16_bytes16]
  simp [u16At, Message.payloadByte, h, SdioCap.bytes, bytes32, bytes16]

-- What is left of the block count and size, in each region of the two.
theorem SdioCap.restrict_blocks (cap : SdioCap) (maxDataSize : Nat) :
    cap.maxBlkCount * cap.maxBlkSize ≤ maxDataSize ∧ cap.restrict maxDataSize = cap ∨
    maxDataSize < cap.maxBlkCount * cap.maxBlkSize ∧ maxDataSize < cap.maxBlkSize ∧
      cap.restrict maxDataSize = { cap with maxBlkSize := maxDataSize } ∨
    maxDataSize < cap.maxBlkCount * cap.maxBlkSize ∧ cap.maxBlkSize ≤ maxDataSize ∧
      cap.restrict maxDataSize = { cap with maxBlkCount := maxDataSize / cap.maxBlkSize } := by
  rw [SdioCap.restrict]
  by_cases hproduct : cap.maxBlkCount * cap.maxBlkSize > maxDataSize
  · rw [if_pos hproduct]
    by_cases hsize : cap.maxBlkSize > maxDataSize
    · exact .inr (.inl ⟨hproduct, hsize, if_pos hsize⟩)
    · exact .inr (.inr ⟨hproduct, Nat.not_lt.mp hsize, if_neg hsize⟩)
  · exact .inl ⟨Nat.not_lt.mp hproduct, if_neg hproduct⟩

section Restrict

variable {cap : SdioCap}

-- Neither is changed: one is 0, or both are small.
theorem SdioCap.within_of_small (hproduct : cap.maxBlkCount * cap.maxBlkSize ≤ 1024) :
    SdioCapWithin cap (cap.maxBlkCount % 2 ^ 16) (cap.maxBlkSize % 2 ^ 16) ↔
      (cap.maxBlkSize = 0 → cap.maxBlkCount = 0 ∨ cap.maxBlkCount % 2 ^ 16 ≠ 0) ∧
      (1024 < cap.maxBlkSize → cap.maxBlkCount = 0 ∧ cap.maxBlkSize % 2 ^ 16 ≠ 0 ∨
        cap.maxBlkCount % 2 ^ 16 = 1) := by
  have hcount : cap.maxBlkCount = 0 ∨ cap.maxBlkSize ≤ 1024 := by
    refine (Nat.eq_zero_or_pos _).imp_right fun hpos => ?_
    exact (Nat.le_mul_of_pos_left _ hpos).trans hproduct
  have hsize : cap.maxBlkSize = 0 ∨ cap.maxBlkCount ≤ 1024 := by
    refine (Nat.eq_zero_or_pos _).imp_right fun hpos => ?_
    exact (Nat.le_mul_of_pos_right _ hpos).trans hproduct
  constructor
  · rintro ⟨-, -, -, hcount_ne, hsize_ne⟩
    omega
  · rintro ⟨hcount_ne, hsize_ne⟩
    refine ⟨?_, Nat.mod_le _ _, Nat.mod_le _ _, by omega, by omega⟩
    have hle := Nat.mul_le_mul (Nat.mod_le cap.maxBlkCount (2 ^ 16))
      (Nat.mod_le cap.maxBlkSize (2 ^ 16))
    exact Nat.le_trans (Nat.add_le_add_right (hle.trans hproduct) _) (by decide)

-- The size is cut to 1024, so that only one block has room.
theorem SdioCap.within_of_large (hproduct : 1024 < cap.maxBlkCount * cap.maxBlkSize)
    (hlarge : 1024 < cap.maxBlkSize) :
    SdioCapWithin cap (cap.maxBlkCount % 2 ^ 16) (1024 % 2 ^ 16) ↔
      cap.maxBlkCount % 2 ^ 16 = 1 := by
  have hpos : cap.maxBlkCount ≠ 0 := by
    rintro hzero
    rw [hzero, Nat.zero_mul] at hproduct
    omega
  constructor
  · rintro ⟨hfits, -, -, hcount_ne, -⟩
    have hmax : cap.maxBlkCount % 2 ^ 16 * 1024 + 4 ≤ 2040 := hfits
    have hne := hcount_ne hpos
    omega
  · intro hone
    rw [hone]
    exact ⟨by decide, by omega, by omega, fun _ => by decide, fun _ => by decide⟩

-- The count is cut to what has room.
theorem SdioCap.within_of_many (hproduct : 1024 < cap.maxBlkCount * cap.maxBlkSize)
    (hsmall : cap.maxBlkSize ≤ 1024) :
    SdioCapWithin cap (1024 / cap.maxBlkSize % 2 ^ 16) (cap.maxBlkSize % 2 ^ 16) := by
  have hpos : 0 < cap.maxBlkSize := by
    refine Nat.pos_of_ne_zero fun hzero => ?_
    rw [hzero, Nat.mul_zero] at hproduct
    omega
  have hone : 1 ≤ 1024 / cap.maxBlkSize := Nat.div_pos hsmall hpos
  have hlt : 1024 / cap.maxBlkSize < cap.maxBlkCount := (Nat.div_lt_iff_lt_mul hpos).mpr hproduct
  have hle : 1024 / cap.maxBlkSize ≤ 1024 := Nat.div_le_self _ _
  rw [Nat.mod_eq_of_lt (show 1024 / cap.maxBlkSize < 2 ^ 16 by omega),
    Nat.mod_eq_of_lt (show cap.maxBlkSize < 2 ^ 16 by omega)]
  refine ⟨?_, by omega, Nat.le_refl _, fun _ => by omega, fun h => h⟩
  exact Nat.le_trans (Nat.add_le_add_right (Nat.div_mul_le_self 1024 _) _) (by decide)

end Restrict

/-- The block count and size of a response keep a transfer within `GB_MAX_PAYLOAD_SIZE`, are no more
than the controller's and are 0 only where these are, exactly if the controller's size is at most
1024 or its count at most 1, and a value that stands alone does not lose its bits in 16. -/
theorem sdioCapWithin_iff (cap : SdioCap) {tr : Transport} {p : Processing}
    (halloc : tr.allocBuf p.allocs = true) :
    (∃ response, ((gbSdioProtocolGetCapabilities (0, cap) p.operation).run tr
        p).2.operation.responseBuffer = some response ∧
      SdioCapWithin cap (u16At (response.payloadByte fun _ => 0) 16)
        (u16At (response.payloadByte fun _ => 0) 18)) ↔
      (cap.maxBlkSize = 0 → cap.maxBlkCount = 0 ∨ cap.maxBlkCount % 2 ^ 16 ≠ 0) ∧
      (1024 < cap.maxBlkSize → cap.maxBlkCount = 0 ∧ cap.maxBlkSize % 2 ^ 16 ≠ 0 ∨
        cap.maxBlkCount % 2 ^ 16 = 1) := by
  obtain ⟨response, hpayload, hbuf⟩ := fillResponse_allocResponse halloc (cap.restrict 1024).bytes
  obtain ⟨hcount, hsize⟩ := SdioCap.response_blocks hpayload
  have hrun : ((gbSdioProtocolGetCapabilities (0, cap) p.operation).run tr
      p).2.operation.responseBuffer = some response := by
    rw [gbSdioProtocolGetCapabilities, if_neg (not_not.mpr rfl), HandlerProg.run_allocResponse,
      halloc]
    exact hbuf
  rw [hrun]
  simp only [Option.some.injEq, exists_eq_left', hcount, hsize]
  obtain ⟨hproduct, hrestrict⟩ | ⟨hproduct, hlarge, hrestrict⟩ | ⟨hproduct, hsmall, hrestrict⟩ :=
    cap.restrict_blocks 1024
  · rw [hrestrict]
    exact SdioCap.within_of_small hproduct
  · rw [hrestrict]
    have hpos : cap.maxBlkCount ≠ 0 := by
      intro hzero
      rw [hzero, Nat.zero_mul] at hproduct
      omega
    refine (SdioCap.within_of_large hproduct hlarge).trans ?_
    omega
  · rw [hrestrict]
    refine iff_of_true (SdioCap.within_of_many hproduct hsmall) ⟨fun hzero => ?_, fun h => ?_⟩
    · rw [hzero, Nat.mul_zero] at hproduct
      omega
    · omega

/-- A controller with this block count and size. -/
def sdioController (maxBlkCount maxBlkSize : Nat) : SdioCap := ⟨0, 0, 0, 0, maxBlkCount, maxBlkSize⟩

/-- A request for the capabilities. -/
def sdioProcessing : Processing := .start (.fresh 0 (requestOf 2 []))

theorem sdioCapWithin_iff_small :
    ∃ response, ((gbSdioProtocolGetCapabilities (0, sdioController 8 512)
        sdioProcessing.operation).run reliableTransport sdioProcessing).2.operation.responseBuffer
          = some response ∧
      SdioCapWithin (sdioController 8 512) (u16At (response.payloadByte fun _ => 0) 16)
        (u16At (response.payloadByte fun _ => 0) 18) :=
  (sdioCapWithin_iff (sdioController 8 512) rfl).mpr
    ⟨fun h => absurd h (by decide), fun h => absurd h (by decide)⟩

-- Two blocks of 2048 bytes become two blocks of 1024, which a response has no room for.
theorem sdioCap_exceeds :
    ((gbSdioProtocolGetCapabilities (0, sdioController 2 2048) sdioProcessing.operation).run
      reliableTransport sdioProcessing).2.operation.responseBuffer.map (·.payload.drop 16)
        = some [2, 0, 0, 4] ∧
    ¬ SdioCapWithin (sdioController 2 2048) 2 1024 ∧
    ¬ ∃ response, ((gbSdioProtocolGetCapabilities (0, sdioController 2 2048)
        sdioProcessing.operation).run reliableTransport sdioProcessing).2.operation.responseBuffer
          = some response ∧
      SdioCapWithin (sdioController 2 2048) (u16At (response.payloadByte fun _ => 0) 16)
        (u16At (response.payloadByte fun _ => 0) 18) := by
  have hexceeds : ¬ SdioCapWithin (sdioController 2 2048) 2 1024 :=
    fun h => absurd h.fits (by decide)
  refine ⟨by decide, hexceeds, ?_⟩
  rintro ⟨response, hresponse, hwithin⟩
  cases hresponse
  exact hexceeds hwithin

/-! ## Transfers -/

/-- Where `transfer.data` points: behind the header of the request, or to the data of a response for
which `gb_operation_alloc_response` was asked for `size` bytes. -/
inductive SdioData where
  | request (offset : Nat)
  | response (size : Nat)
  deriving DecidableEq, Repr

/-- `struct sdio_transfer`. -/
structure SdioTransfer where
  blocks : Nat
  blksz : Nat
  data : SdioData
  deriving DecidableEq, Repr

/-- What the handler meets: whether there is memory for a response, what the two calls of the driver
return and leave in `transfer`, the bytes that are read, and what the machine makes of a product
that is no `int`. -/
structure SdioEnv where
  allocResponse : Bool
  deviceSdioWrite : SdioTransfer → Int × SdioTransfer
  deviceSdioRead : SdioTransfer → Int × SdioTransfer × List UInt8
  overflow : Int

/-- What `gb_sdio_protocol_transfer` leaves behind. -/
structure SdioHandled where
  calls : List SdioTransfer
  result : UInt8
  response : Option (List UInt8)
  deriving DecidableEq, Repr

/-- The handler returns before the driver is called. -/
def sdioRefuse (result : OperationResult) : SdioHandled := ⟨[], result.code, none⟩

/-- `transfer.blocks * transfer.blksz`, an `int`. -/
def SdioEnv.product (env : SdioEnv) (blocks blksz : Nat) : Int :=
  if blocks * blksz < 2 ^ 31 then blocks * blksz else env.overflow

/-- The number of blocks and their size, at the front of a response. -/
def SdioTransfer.bytes (transfer : SdioTransfer) : List UInt8 :=
  bytes16 transfer.blocks ++ bytes16 transfer.blksz

/-- The branch of `GB_SDIO_DATA_WRITE`; `request->data` is the address behind the header and never
NULL. -/
def sdioWrite (env : SdioEnv) (blocks blksz : Nat) : SdioHandled :=
  let transfer := ⟨blocks, blksz, .request 5⟩
  let r := env.deviceSdioWrite transfer
  if r.1 ≠ 0 then ⟨[transfer], (gbErrnoToOpResult r.1).code, none⟩
  else if !env.allocResponse then ⟨[transfer], OperationResult.noMemory.code, none⟩
  else ⟨[transfer], OperationResult.success.code, some r.2.bytes⟩

/-- The branch of `GB_SDIO_DATA_READ`; `size_t` has 32 bits. -/
def sdioRead (env : SdioEnv) (blocks blksz : Nat) : SdioHandled :=
  let size := ((sizeofSdioTransferResponse + env.product blocks blksz) % 2 ^ 32).toNat
  if !env.allocResponse then sdioRefuse .noMemory
  else
    let transfer := ⟨blocks, blksz, .response size⟩
    let r := env.deviceSdioRead transfer
    if r.1 ≠ 0 then ⟨[transfer], (gbErrnoToOpResult r.1).code, some ([0, 0, 0, 0] ++ r.2.2)⟩
    else ⟨[transfer], OperationResult.success.code, some (r.2.1.bytes ++ r.2.2)⟩

/-- `gb_sdio_protocol_transfer`. -/
def gbSdioProtocolTransfer (env : SdioEnv) (after : Nat → UInt8) (operation : Operation) :
    SdioHandled :=
  let bytes := operation.requestBuffer.payloadByte after
  if operation.requestBuffer.payloadSize < 5 then sdioRefuse .invalid
  else
    let blocks := u16At bytes 1
    let blksz := u16At bytes 3
    if bytes 0 &&& 0x01 ≠ 0 then sdioWrite env blocks blksz
    else if bytes 0 &&& 0x02 ≠ 0 then sdioRead env blocks blksz
    else sdioRefuse .invalid

/-- There are so many bytes where the driver is sent: in the request's payload behind its header, or
in the data of the response. -/
def SdioData.Holds (requestSize len : Nat) : SdioData → Prop
  | .request offset => offset = 5 ∧ offset + len ≤ requestSize
  | .response size => len ≤ size - sizeofSdioTransferResponse

/-- The driver is handed all the blocks of the request, and a write of blocks that the request does
not have is refused. -/
structure SdioBuffered (bytes : Nat → UInt8) (requestSize : Nat) (handled : SdioHandled) : Prop where
  handed : ∀ transfer ∈ handled.calls,
    transfer.data.Holds requestSize (u16At bytes 1 * u16At bytes 3)
  refused : bytes 0 &&& 0x01 ≠ 0 → requestSize < 5 + u16At bytes 1 * u16At bytes 3 →
    handled.result = OperationResult.invalid.code

theorem sdioWrite_calls (env : SdioEnv) (blocks blksz : Nat) :
    (sdioWrite env blocks blksz).calls = [⟨blocks, blksz, .request 5⟩] := by
  unfold sdioWrite
  dsimp only
  split
  next => rfl
  next => split <;> rfl

theorem sdioRead_calls (env : SdioEnv) (blocks blksz : Nat) :
    (sdioRead env blocks blksz).calls =
      if env.allocResponse then
        [⟨blocks, blksz,
          .response ((sizeofSdioTransferResponse + env.product blocks blksz) % 2 ^ 32).toNat⟩]
      else [] := by
  unfold sdioRead
  dsimp only
  cases env.allocResponse with
  | false => rfl
  | true =>
    simp only [Bool.not_true, Bool.false_eq_true, if_false, if_true]
    split <;> rfl

section Buffered

variable {env : SdioEnv} {bytes : Nat → UInt8} {requestSize : Nat}

theorem sdioWrite_buffered_iff :
    SdioBuffered bytes requestSize (sdioWrite env (u16At bytes 1) (u16At bytes 3)) ↔
      5 + u16At bytes 1 * u16At bytes 3 ≤ requestSize := by
  constructor
  · intro h
    have hheld := h.handed ⟨u16At bytes 1, u16At bytes 3, .request 5⟩
      (by rw [sdioWrite_calls]; exact List.mem_cons_self)
    exact hheld.2
  · intro hfits
    refine ⟨?_, fun _ hshort => absurd hfits (Nat.not_le.mpr hshort)⟩
    rw [sdioWrite_calls]
    exact List.forall_mem_singleton.mpr ⟨rfl, hfits⟩

-- A product that is an `int` is allocated in full; another may become anything.
theorem sdioRead_buffered_iff (hread : bytes 0 &&& 0x01 = 0) :
    (∀ overflow, SdioBuffered bytes requestSize
        (sdioRead { env with overflow := overflow } (u16At bytes 1) (u16At bytes 3))) ↔
      env.allocResponse = false ∨ u16At bytes 1 * u16At bytes 3 < 2 ^ 31 := by
  have hbuffered : ∀ overflow, SdioBuffered bytes requestSize
      (sdioRead { env with overflow := overflow } (u16At bytes 1) (u16At bytes 3)) ↔
        (env.allocResponse = true → u16At bytes 1 * u16At bytes 3
          ≤ ((sizeofSdioTransferResponse + SdioEnv.product { env with overflow := overflow }
              (u16At bytes 1) (u16At bytes 3)) % 2 ^ 32).toNat - sizeofSdioTransferResponse) := by
    intro overflow
    have hcalls := sdioRead_calls { env with overflow := overflow } (u16At bytes 1) (u16At bytes 3)
    constructor
    · intro h halloc
      have hhanded := h.handed
      rw [hcalls, if_pos halloc] at hhanded
      exact hhanded _ List.mem_cons_self
    · intro h
      refine ⟨?_, fun hwrite => absurd hread hwrite⟩
      rw [hcalls]
      split
      next halloc => exact List.forall_mem_singleton.mpr (h halloc)
      next => exact List.forall_mem_nil _
  simp only [hbuffered]
  cases env.allocResponse with
  | false => exact iff_of_true (fun _ h => absurd h Bool.false_ne_true) (.inl rfl)
  | true =>
    rw [or_iff_right Bool.true_eq_false.mp]
    simp only [true_imp_iff, SdioEnv.product]
    by_cases hproduct : u16At bytes 1 * u16At bytes 3 < 2 ^ 31
    · refine iff_of_true (fun _ => ?_) hproduct
      rw [if_pos hproduct]
      simp only [sizeofSdioTransferResponse]
      omega
    · refine iff_of_false (fun h => ?_) hproduct
      have hzero := h 0
      rw [if_neg hproduct] at hzero
      simp only [sizeofSdioTransferResponse] at hzero
      omega

end Buffered

/-- Whatever becomes of a product that is no `int`, an SDIO transfer hands the driver all the blocks
of its request, and refuses a write that has fewer, exactly if the request is too short for its
fixed fields, or a write has all its blocks, or a transfer that does not write reads nothing, gets no
memory or has blocks whose sizes make up an `int`. -/
theorem sdioBuffered_iff (env : SdioEnv) (after : Nat → UInt8) (operation : Operation) :
    let bytes := operation.requestBuffer.payloadByte after
    let requestSize := operation.requestBuffer.payloadSize
    (∀ overflow, SdioBuffered bytes requestSize
        (gbSdioProtocolTransfer { env with overflow := overflow } after operation)) ↔
      requestSize < 5 ∨
      bytes 0 &&& 0x01 ≠ 0 ∧ 5 + u16At bytes 1 * u16At bytes 3 ≤ requestSize ∨
      bytes 0 &&& 0x01 = 0 ∧ (bytes 0 &&& 0x02 = 0 ∨ env.allocResponse = false ∨
        u16At bytes 1 * u16At bytes 3 < 2 ^ 31) := by
  intro bytes requestSize
  have hrefuse : SdioBuffered bytes requestSize (sdioRefuse .invalid) :=
    ⟨List.forall_mem_nil _, fun _ _ => rfl⟩
  have hrun : ∀ overflow, gbSdioProtocolTransfer { env with overflow := overflow } after operation =
      if requestSize < 5 then sdioRefuse .invalid
      else if bytes 0 &&& 0x01 ≠ 0 then sdioWrite _ (u16At bytes 1) (u16At bytes 3)
      else if bytes 0 &&& 0x02 ≠ 0 then sdioRead _ (u16At bytes 1) (u16At bytes 3)
      else sdioRefuse .invalid := fun _ => rfl
  simp only [hrun]
  by_cases hhdr : requestSize < 5
  · refine iff_of_true (fun _ => ?_) (.inl hhdr)
    rw [if_pos hhdr]
    exact hrefuse
  simp only [if_neg hhdr, or_iff_right hhdr]
  by_cases hwrite : bytes 0 &&& 0x01 = 0
  · simp only [if_neg (not_not.mpr hwrite), and_iff_right hwrite]
    rw [or_iff_right fun h => h.1 hwrite]
    by_cases hread : bytes 0 &&& 0x02 = 0
    · simp only [if_neg (not_not.mpr hread)]
      exact iff_of_true (fun _ => hrefuse) (.inl hread)
    · simp only [if_pos hread, or_iff_right hread]
      exact sdioRead_buffered_iff hwrite
  · simp only [if_pos hwrite, and_iff_right hwrite]
    rw [or_iff_left fun h => hwrite h.1]
    simp only [sdioWrite_buffered_iff, forall_const]

/-- A transfer with these flags of blocks of this size, carrying no data. -/
def sdioRequest (flags : UInt8) (blocks blksz : Nat) : Message :=
  requestOf 5 ([flags] ++ bytes16 blocks ++ bytes16 blksz)

/-- A driver that does what it is asked for. -/
def idleSdioEnv : SdioEnv := ⟨true, fun t => (0, t), fun t => (0, t, []), 0⟩

-- A write of one block of 512 bytes that carries none; the driver is sent beyond the request.
theorem sdioWrite_unbuffered :
    (sdioRequest 1 1 512).payloadSize = 5 ∧
    gbSdioProtocolTransfer idleSdioEnv (fun _ => 0) (.fresh 0 (sdioRequest 1 1 512))
      = ⟨[⟨1, 512, .request 5⟩], OperationResult.success.code, some [1, 0, 0, 2]⟩ ∧
    ¬ SdioBuffered ((sdioRequest 1 1 512).payloadByte fun _ => 0) (sdioRequest 1 1 512).payloadSize
      (gbSdioProtocolTransfer idleSdioEnv (fun _ => 0) (.fresh 0 (sdioRequest 1 1 512))) := by
  have hrun : gbSdioProtocolTransfer idleSdioEnv (fun _ => 0) (.fresh 0 (sdioRequest 1 1 512))
      = ⟨[⟨1, 512, .request 5⟩], OperationResult.success.code, some [1, 0, 0, 2]⟩ := by decide
  refine ⟨by decide, hrun, fun h => ?_⟩
  have hresult := h.refused (by decide) (by decide)
  rw [hrun] at hresult
  exact absurd hresult (by decide)

end Greybus
