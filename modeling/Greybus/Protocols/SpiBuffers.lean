import Greybus.Protocols.Transfers
import Greybus.Reasoning.Slices

/-!
# The descriptors and buffers of an SPI transfer

What `gb_spi_protocol_transfer` reads of a request, and the buffers that it passes to
`spi_transceive`.  The descriptors are looked at before the size of the request is compared with
their number, and what they announce to be written is compared with nothing.
-/

namespace Greybus

open Reasoning.Memory Reasoning.Slices

/-! ## What is read of the descriptors -/

/-- A field of `request->transfers[i]`. -/
def spiField (i offset len : Nat) : Slice := ⟨4 + 13 * i + offset, len⟩

/-- What the first loop of `gb_spi_protocol_transfer` reads. -/
def spiScanned (desc : Nat → SpiTransferDesc) (bitsPerWord : UInt8) : List Nat → List Slice
  | [] => []
  | i :: is =>
    let d := desc i
    spiField i 12 1 :: (if d.reads then [spiField i 4 4] else []) ++
      if d.reads ∧ d.len = 0 then []
      else
        spiField i 11 1 ::
          if d.bitsPerWord ≠ bitsPerWord then []
          else
            spiField i 10 1 ::
              if d.csChange ≠ 0 then [] else spiScanned desc bitsPerWord is

/-- What the second loop reads. -/
def spiLaidOut (desc : Nat → SpiTransferDesc) (hasRxBufSet : Bool) : List Nat → List Slice
  | [] => []
  | i :: is =>
    let d := desc i
    spiField i 12 1 ::
      if d.rdwr = 0x02 ∨ ((d.rdwr = 0x01 ∨ d.rdwr = 0x03) ∧ hasRxBufSet) then
        spiField i 4 4 :: spiLaidOut desc hasRxBufSet is
      -- The length is read before the store through the NULL `rx_buf_set`.
      else if d.rdwr = 0x01 ∨ d.rdwr = 0x03 then [spiField i 4 4]
      else []

/-- `gb_spi_protocol_transfer` ends with a result, or calls `spi_transceive` with so many bytes of
response data allocated. -/
inductive SpiOutcome where
  | ends (result : UInt8)
  | transceives (allocated : Nat) (config : SpiConfig) (bufs : List SpiBufs)
  deriving DecidableEq, Repr

/-- What `gb_spi_protocol_transfer` reads of the descriptors, and how far it comes; `memory` says
whether there is a response. -/
def spiOutcome (bus : SpiBus) (memory : Bool) (after : Nat → UInt8) (request : Message) :
    List Slice × SpiOutcome :=
  let requestSize := request.payloadSize
  let bytes := request.payloadByte after
  if requestSize < 4 then ([], .ends OperationResult.invalid.code)
  else
    let opCount := u16At bytes 2
    if opCount = 0 then ([], .ends OperationResult.success.code)
    else
      let bitsPerWord := (spiDesc bytes 0).bitsPerWord
      let read := spiField 0 11 1 :: spiScanned (spiDesc bytes) bitsPerWord (List.range opCount)
      match spiReadDataSize (spiDesc bytes) bitsPerWord (List.range opCount) 0 with
      | none => (read, .ends OperationResult.invalid.code)
      | some readDataSize =>
        if !bus.mallocOk then (read, .ends OperationResult.noMemory.code)
        else if requestSize < 4 + opCount * 13 then (read, .ends OperationResult.invalid.code)
        else if !memory then (read, .ends OperationResult.noMemory.code)
        else
          let read := read ++ spiLaidOut (spiDesc bytes) (readDataSize > 0) (List.range opCount)
          match spiRequests bus bytes opCount readDataSize with
          | .error code => (read, .ends code)
          | .ok bufs =>
            let read := read ++ [spiField 0 0 4]
            if !bus.gbSpidev then (read, .ends (gbErrnoToOpResult ENODEV).code)
            else (read, .transceives readDataSize (spiConfig bytes) bufs)

/-- What the handler returns. -/
def SpiOutcome.result (bus : SpiBus) : SpiOutcome → UInt8
  | .ends result => result
  | .transceives _ config bufs => (gbErrnoToOpResult (-(bus.spiTransceive config bufs).1)).code

theorem gbSpiProtocolTransfer_result (bus : SpiBus) (after : Nat → UInt8) (tr : Transport)
    (op : Operation) (p : Processing) :
    ((gbSpiProtocolTransfer bus after op).run tr p).1
      = (spiOutcome bus (tr.allocBuf p.allocs) after op.requestBuffer).2.result bus := by
  unfold gbSpiProtocolTransfer spiOutcome
  by_cases hhdr : op.requestBuffer.payloadSize < 4
  · simp only [if_pos hhdr]
    rfl
  by_cases hcount : u16At (op.requestBuffer.payloadByte after) 2 = 0
  · simp only [if_neg hhdr, if_pos hcount]
    rfl
  simp only [if_neg hhdr, if_neg hcount]
  cases spiReadDataSize (spiDesc (op.requestBuffer.payloadByte after))
      (spiDesc (op.requestBuffer.payloadByte after) 0).bitsPerWord
      (List.range (u16At (op.requestBuffer.payloadByte after) 2)) 0 with
  | none => rfl
  | some readDataSize =>
    cases hmalloc : bus.mallocOk with
    | false => rfl
    | true =>
      simp only [Bool.not_true, Bool.false_eq_true, if_false]
      split
      next => rfl
      next =>
        rw [HandlerProg.run_allocResponse]
        cases tr.allocBuf p.allocs with
        | false => rfl
        | true =>
          simp only [Bool.not_true, Bool.false_eq_true, if_false, spiTransfer]
          cases spiRequests bus (op.requestBuffer.payloadByte after) _ readDataSize with
          | error code => rfl
          | ok bufs => cases bus.gbSpidev <;> rfl

/-! ## The first loop -/

/-- The first loop refuses the request at this descriptor. -/
def SpiTransferDesc.Refused (d : SpiTransferDesc) (bitsPerWord : UInt8) : Prop :=
  d.reads = true ∧ d.len = 0 ∨ d.bitsPerWord ≠ bitsPerWord ∨ d.csChange ≠ 0

section FirstLoop

variable {desc : Nat → SpiTransferDesc} {bitsPerWord : UInt8} {is : List Nat} {size bound : Nat}

theorem spiReadDataSize_eq_none :
    spiReadDataSize desc bitsPerWord is size = none ↔
      ∃ i ∈ is, (desc i).Refused bitsPerWord := by
  induction is generalizing size with
  | nil => simp [spiReadDataSize]
  | cons i is ih =>
    rw [spiReadDataSize, List.exists_mem_cons_iff, SpiTransferDesc.Refused]
    by_cases hlen : (desc i).reads = true ∧ (desc i).len = 0
    · simp [hlen]
    by_cases hbits : (desc i).bitsPerWord ≠ bitsPerWord
    · simp [hlen, hbits]
    by_cases hcs : (desc i).csChange ≠ 0
    · simp [hlen, hbits, hcs]
    simp only [hlen, hbits, hcs, if_false, false_or, ih]

theorem spiField_inside {i offset len : Nat} (h : 4 + 13 * (i + 1) ≤ bound)
    (hfield : offset + len ≤ 13) : (spiField i offset len).stop ≤ bound := by
  show 4 + 13 * i + offset + len ≤ bound
  omega

-- The last field of a descriptor is the first that is read.
theorem spiScanned_cons_inside (i : Nat) :
    (∀ s ∈ spiScanned desc bitsPerWord (i :: is), s.stop ≤ bound) ↔
      4 + 13 * (i + 1) ≤ bound ∧ ((desc i).Refused bitsPerWord ∨
        ∀ s ∈ spiScanned desc bitsPerWord is, s.stop ≤ bound) := by
  have hlast : (spiField i 12 1).stop = 4 + 13 * (i + 1) := by
    show 4 + 13 * i + 12 + 1 = _
    omega
  rw [spiScanned, List.cons_append, List.forall_mem_cons, List.forall_mem_append, hlast]
  refine and_congr_right fun hinside => ?_
  have hlenField : ∀ s ∈ (if (desc i).reads = true then [spiField i 4 4] else []),
      s.stop ≤ bound := by
    intro s hs
    split at hs
    next => exact List.mem_singleton.mp hs ▸ spiField_inside hinside (by decide)
    next => cases hs
  rw [and_iff_right hlenField]
  by_cases hlen : (desc i).reads = true ∧ (desc i).len = 0
  · rw [if_pos hlen]
    exact iff_of_true (List.forall_mem_nil _) (.inl (.inl hlen))
  rw [if_neg hlen, List.forall_mem_cons, and_iff_right (spiField_inside hinside (by decide))]
  by_cases hbits : (desc i).bitsPerWord ≠ bitsPerWord
  · rw [if_pos hbits]
    exact iff_of_true (List.forall_mem_nil _) (.inl (.inr (.inl hbits)))
  rw [if_neg hbits, List.forall_mem_cons, and_iff_right (spiField_inside hinside (by decide))]
  by_cases hcs : (desc i).csChange ≠ 0
  · rw [if_pos hcs]
    exact iff_of_true (List.forall_mem_nil _) (.inl (.inr (.inr hcs)))
  rw [if_neg hcs, or_iff_right]
  rintro (h | h | h)
  · exact hlen h
  · exact hbits h
  · exact hcs h

-- The loop stays inside if all the descriptors are, or if it stops at one that is.
theorem spiScanned_inside {a k : Nat} :
    (∀ s ∈ spiScanned desc bitsPerWord (List.range' a k), s.stop ≤ bound) ↔
      (k = 0 ∨ 4 + 13 * (a + k) ≤ bound) ∨
        ∃ i, a ≤ i ∧ i < a + k ∧ 4 + 13 * (i + 1) ≤ bound ∧ (desc i).Refused bitsPerWord := by
  induction k generalizing a with
  | zero => exact iff_of_true (List.forall_mem_nil _) (.inl (.inl rfl))
  | succ k ih =>
    rw [List.range'_succ, spiScanned_cons_inside, ih]
    constructor
    · rintro ⟨hinside, hrefused | (rfl | hall) | ⟨i, hi, hlt, hin, hrefused⟩⟩
      · exact .inr ⟨a, Nat.le_refl _, by omega, hinside, hrefused⟩
      · exact .inl (.inr hinside)
      · exact .inl (.inr (by omega))
      · exact .inr ⟨i, by omega, by omega, hin, hrefused⟩
    · rintro ((hzero | hall) | ⟨i, hi, hlt, hin, hrefused⟩)
      · cases hzero
      · exact ⟨by omega, .inr (.inl (.inr (by omega)))⟩
      · refine ⟨by omega, ?_⟩
        by_cases hia : i = a
        · exact .inl (hia ▸ hrefused)
        · exact .inr (.inr ⟨i, by omega, by omega, hin, hrefused⟩)

end FirstLoop

/-! ## The second loop -/

/-- The transmit buffers, in the request's payload. -/
def spiTxBuffers (bufs : List SpiBufs) : List Slice :=
  bufs.filterMap fun b => b.tx.map fun (start, len) => ⟨start, len⟩

/-- `GB_SPI_XFER_WRITE` is set. -/
def SpiTransferDesc.writes (d : SpiTransferDesc) : Bool := d.rdwr &&& 0x02 ≠ 0

/-- The second loop has a case for the descriptor. -/
def SpiTransferDesc.Valid (d : SpiTransferDesc) : Prop :=
  d.rdwr = 0x02 ∨ d.rdwr = 0x01 ∨ d.rdwr = 0x03

/-- What the second loop stores at the descriptor's index. -/
def SpiTransferDesc.bufs (d : SpiTransferDesc) (writeData readData : Nat) : SpiBufs where
  tx := if d.writes then some (writeData, d.len) else none
  rx := if d.reads then some (readData, d.len) else none

section SecondLoop

variable {desc : Nat → SpiTransferDesc} {hasRxBufSet : Bool} {is : List Nat}
  {writeData readData bound : Nat} {bus : SpiBus} {bufs : List SpiBufs}

theorem spiLaidOut_inside (h : ∀ i ∈ is, 4 + 13 * (i + 1) ≤ bound) :
    ∀ s ∈ spiLaidOut desc hasRxBufSet is, s.stop ≤ bound := by
  induction is with
  | nil => exact List.forall_mem_nil _
  | cons i is ih =>
    obtain ⟨hi, his⟩ := List.forall_mem_cons.mp h
    have hlen : (spiField i 4 4).stop ≤ bound := spiField_inside hi (by decide)
    rw [spiLaidOut, List.forall_mem_cons]
    refine ⟨spiField_inside hi (by decide), ?_⟩
    split
    next => exact List.forall_mem_cons.mpr ⟨hlen, ih his⟩
    next =>
      split
      next => exact List.forall_mem_singleton.mpr hlen
      next => exact List.forall_mem_nil _

theorem except_map_eq_ok {ε α β : Type*} {x : Except ε α} {f : α → β} {b : β} :
    x.map f = .ok b ↔ ∃ a, x = .ok a ∧ f a = b := by
  cases x <;> simp [Except.map]

theorem except_map_eq_error {ε α β : Type*} {x : Except ε α} {f : α → β} {e : ε} :
    x.map f = .error e ↔ x = .error e := by
  cases x <;> simp [Except.map]

-- Every case of the second loop does what the flags say.
theorem spiBuffers_cons_eq_ok {i : Nat} :
    spiBuffers bus desc hasRxBufSet (i :: is) writeData readData = .ok bufs ↔
      (desc i).Valid ∧ ((desc i).reads = true → hasRxBufSet = true) ∧ ∃ rest,
        spiBuffers bus desc hasRxBufSet is (writeData + if (desc i).writes then (desc i).len else 0)
          (readData + if (desc i).reads then (desc i).len else 0) = .ok rest ∧
        (desc i).bufs writeData readData :: rest = bufs := by
  rw [spiBuffers, SpiTransferDesc.Valid, SpiTransferDesc.bufs]
  by_cases hwrite : (desc i).rdwr = 0x02
  · have hflags : (desc i).writes = true ∧ (desc i).reads = false := by
      rw [SpiTransferDesc.writes, SpiTransferDesc.reads, hwrite]
      decide
    simp [hwrite, hflags, except_map_eq_ok]
  by_cases hread : (desc i).rdwr = 0x01
  · have hflags : (desc i).writes = false ∧ (desc i).reads = true := by
      rw [SpiTransferDesc.writes, SpiTransferDesc.reads, hread]
      decide
    cases hasRxBufSet <;> simp [hread, hflags, except_map_eq_ok]
  by_cases hboth : (desc i).rdwr = 0x03
  · have hflags : (desc i).writes = true ∧ (desc i).reads = true := by
      rw [SpiTransferDesc.writes, SpiTransferDesc.reads, hboth]
      decide
    cases hasRxBufSet <;> simp [hboth, hflags, except_map_eq_ok]
  · simp [hwrite, hread, hboth]

-- Each transmit buffer begins behind the last.
theorem spiBuffers_tiles (h : spiBuffers bus desc hasRxBufSet is writeData readData = .ok bufs) :
    Tiles writeData (spiTxBuffers bufs)
      (writeData + readTotal (fun i => (desc i).writes) (fun i => (desc i).len) is) := by
  induction is generalizing writeData readData bufs with
  | nil =>
    cases h
    exact .nil _
  | cons i is ih =>
    obtain ⟨-, -, rest, hrest, rfl⟩ := spiBuffers_cons_eq_ok.mp h
    have htiles := ih hrest
    rw [readTotal_cons, ← Nat.add_assoc]
    cases hwrites : (desc i).writes with
    | true =>
      rw [hwrites, if_pos rfl] at htiles
      rw [if_pos rfl, spiTxBuffers, SpiTransferDesc.bufs, hwrites]
      exact .cons htiles
    | false =>
      rw [hwrites] at htiles
      rw [spiTxBuffers, SpiTransferDesc.bufs, hwrites]
      exact htiles

/-- The second loop comes to a descriptor that it has no case for, and has not stored through the
NULL `rx_buf_set` before. -/
def ReachesInvalid (desc : Nat → SpiTransferDesc) (hasRxBufSet : Bool) (first count : Nat) : Prop :=
  ∃ i, first ≤ i ∧ i < first + count ∧ ¬ (desc i).Valid ∧
    (hasRxBufSet = true ∨ ∀ j, first ≤ j → j < i → (desc j).rdwr = 0x02)

theorem reachesInvalid_succ {first count : Nat} (hvalid : (desc first).Valid)
    (hset : hasRxBufSet = true ∨ (desc first).rdwr = 0x02) :
    ReachesInvalid desc hasRxBufSet first (count + 1) ↔
      ReachesInvalid desc hasRxBufSet (first + 1) count := by
  constructor
  · rintro ⟨i, hfirst, hlt, hinvalid, hbefore⟩
    have hne : i ≠ first := fun h => hinvalid (h ▸ hvalid)
    exact ⟨i, by omega, by omega, hinvalid, hbefore.imp_right fun h j hj => h j (by omega)⟩
  · rintro ⟨i, hfirst, hlt, hinvalid, hbefore⟩
    refine ⟨i, by omega, by omega, hinvalid, ?_⟩
    rcases hset with hset | hwrite
    · exact .inl hset
    refine hbefore.imp_right fun h j hj hji => ?_
    by_cases hj' : j = first
    · exact hj' ▸ hwrite
    · exact h j (by omega) hji

-- Whatever comes of a store through NULL, the second loop refuses the request.
theorem spiBuffers_eq_invalid {first count : Nat} :
    (∀ code, spiBuffers { bus with nullStore := code } desc hasRxBufSet
        (List.range' first count) writeData readData = .error OperationResult.invalid.code) ↔
      ReachesInvalid desc hasRxBufSet first count := by
  induction count generalizing first writeData readData with
  | zero =>
    refine iff_of_false (fun h => ?_) ?_
    · cases h 0
    · rintro ⟨i, hfirst, hlt, -⟩
      omega
  | succ count ih =>
    simp only [List.range'_succ, spiBuffers]
    by_cases hwrite : (desc first).rdwr = 0x02
    · rw [reachesInvalid_succ (.inl hwrite) (.inr hwrite)]
      simp only [if_pos hwrite, except_map_eq_error, ih]
    simp only [if_neg hwrite]
    -- Both kinds of reading store through `rx_buf_set`.
    have hstore : ∀ {b : SpiBufs} {w r : Nat}, (desc first).Valid →
        ((∀ code, (if (!hasRxBufSet) = true then Except.error code
          else (spiBuffers { bus with nullStore := code } desc hasRxBufSet
            (List.range' (first + 1) count) w r).map (b :: ·)) =
              .error OperationResult.invalid.code) ↔
          ReachesInvalid desc hasRxBufSet first (count + 1)) := by
      intro b w r hvalid
      cases hset : hasRxBufSet with
      | true =>
        rw [reachesInvalid_succ hvalid (.inl rfl)]
        rw [hset] at ih
        simp only [Bool.not_true, Bool.false_eq_true, if_false, except_map_eq_error, ih]
      | false =>
        simp only [Bool.not_false, if_true]
        refine iff_of_false (fun h => ?_) ?_
        · cases h 0
        · rintro ⟨i, hfirst, -, hinvalid, hbefore⟩
          have hne : i ≠ first := fun h => hinvalid (h ▸ hvalid)
          rcases hbefore with h | hbefore
          · cases h
          · exact hwrite (hbefore first (Nat.le_refl _) (by omega))
    by_cases hread : (desc first).rdwr = 0x01
    · simp only [if_pos hread]
      exact hstore (.inr (.inl hread))
    simp only [if_neg hread]
    by_cases hboth : (desc first).rdwr = 0x03
    · simp only [if_pos hboth]
      exact hstore (.inr (.inr hboth))
    simp only [if_neg hboth]
    refine iff_of_true (fun _ => trivial) ⟨first, Nat.le_refl _, by omega, ?_, .inr ?_⟩
    · rintro (h | h | h)
      · exact hwrite h
      · exact hread h
      · exact hboth h
    · intro j hj hlt
      omega

end SecondLoop

/-! ## The whole handler -/

section Handler

variable {bus : SpiBus} {memory : Bool} {after : Nat → UInt8} {request : Message}

theorem spiOutcome_of_short (h : request.payloadSize < 4) :
    spiOutcome bus memory after request = ([], .ends OperationResult.invalid.code) := by
  rw [spiOutcome, if_pos h]

theorem spiOutcome_of_empty (h : ¬ request.payloadSize < 4)
    (hcount : u16At (request.payloadByte after) 2 = 0) :
    spiOutcome bus memory after request = ([], .ends OperationResult.success.code) := by
  rw [spiOutcome, if_neg h, if_pos hcount]

/-- What is read of the descriptors before anything else is decided. -/
def spiScannedFirst (bytes : Nat → UInt8) : List Slice :=
  spiField 0 11 1 ::
    spiScanned (spiDesc bytes) (spiDesc bytes 0).bitsPerWord (List.range (u16At bytes 2))

theorem spiOutcome_of_refused (h : ¬ request.payloadSize < 4)
    (hcount : u16At (request.payloadByte after) 2 ≠ 0)
    (hrefused : ∃ i < u16At (request.payloadByte after) 2,
      (spiDesc (request.payloadByte after) i).Refused
        (spiDesc (request.payloadByte after) 0).bitsPerWord) :
    spiOutcome bus memory after request
      = (spiScannedFirst (request.payloadByte after), .ends OperationResult.invalid.code) := by
  have hnone : spiReadDataSize (spiDesc (request.payloadByte after))
      (spiDesc (request.payloadByte after) 0).bitsPerWord
      (List.range (u16At (request.payloadByte after) 2)) 0 = none := by
    simpa only [spiReadDataSize_eq_none, List.mem_range] using hrefused
  rw [spiOutcome, if_neg h, if_neg hcount]
  simp only [hnone]
  rfl

-- Nothing that is read is read later.
theorem spiOutcome_scans (h : ¬ request.payloadSize < 4)
    (hcount : u16At (request.payloadByte after) 2 ≠ 0) {s : Slice}
    (hs : s ∈ spiScannedFirst (request.payloadByte after)) :
    s ∈ (spiOutcome bus memory after request).1 := by
  rw [spiOutcome, if_neg h, if_neg hcount]
  dsimp only
  split
  next => exact hs
  next =>
    split
    next => exact hs
    split
    next => exact hs
    split
    next => exact hs
    split
    next => exact List.mem_append_left _ hs
    next =>
      split <;> exact List.mem_append_left _ (List.mem_append_left _ hs)

-- The handler with all the descriptors inside and none refused.
theorem spiOutcome_of_accepted (hcount : u16At (request.payloadByte after) 2 ≠ 0)
    (hdescs : 4 + 13 * u16At (request.payloadByte after) 2 ≤ request.payloadSize)
    {size : Nat} (hsize : spiReadDataSize (spiDesc (request.payloadByte after))
      (spiDesc (request.payloadByte after) 0).bitsPerWord
      (List.range (u16At (request.payloadByte after) 2)) 0 = some size) :
    (spiOutcome bus memory after request).2 =
      if !bus.mallocOk then .ends OperationResult.noMemory.code
      else if !memory then .ends OperationResult.noMemory.code
      else
        match spiRequests bus (request.payloadByte after)
          (u16At (request.payloadByte after) 2) size with
        | .error code => .ends code
        | .ok bufs =>
          if !bus.gbSpidev then .ends (gbErrnoToOpResult ENODEV).code
          else .transceives size (spiConfig (request.payloadByte after)) bufs := by
  rw [spiOutcome, if_neg (by omega), if_neg hcount]
  simp only [hsize]
  rw [apply_ite Prod.snd]
  refine if_congr Iff.rfl rfl ?_
  rw [if_neg (by omega), apply_ite Prod.snd]
  refine if_congr Iff.rfl rfl ?_
  split
  next => rfl
  next => rw [apply_ite Prod.snd]

-- The first loop stays inside the payload, unless it comes to a descriptor that is not.
theorem spiScannedFirst_inside {bytes : Nat → UInt8} {requestSize : Nat}
    (hcount : u16At bytes 2 ≠ 0) :
    (∀ s ∈ spiScannedFirst bytes, s.stop ≤ requestSize) ↔
      4 + 13 * u16At bytes 2 ≤ requestSize ∨ ∃ i < u16At bytes 2,
        4 + 13 * (i + 1) ≤ requestSize ∧
          (spiDesc bytes i).Refused (spiDesc bytes 0).bitsPerWord := by
  have hfirst : (spiField 0 11 1).stop = 16 := rfl
  rw [spiScannedFirst, List.forall_mem_cons, List.range_eq_range', spiScanned_inside, hfirst]
  simp only [Nat.zero_add, Nat.zero_le, true_and, hcount, false_or]
  refine and_iff_right_of_imp ?_
  rintro (h | ⟨i, -, h, -⟩) <;> omega

theorem spiOutcome_inside
    (hdescs : 4 + 13 * u16At (request.payloadByte after) 2 ≤ request.payloadSize) :
    ∀ s ∈ (spiOutcome bus memory after request).1, s.stop ≤ request.payloadSize := by
  have hhdr : ¬ request.payloadSize < 4 := by omega
  by_cases hcount : u16At (request.payloadByte after) 2 = 0
  · rw [spiOutcome_of_empty hhdr hcount]
    exact List.forall_mem_nil _
  have hscanned : ∀ s ∈ spiScannedFirst (request.payloadByte after),
      s.stop ≤ request.payloadSize :=
    (spiScannedFirst_inside hcount).mpr (.inl hdescs)
  have hlaid : ∀ hasRxBufSet, ∀ s ∈ spiLaidOut (spiDesc (request.payloadByte after)) hasRxBufSet
      (List.range (u16At (request.payloadByte after) 2)), s.stop ≤ request.payloadSize := by
    intro hasRxBufSet
    refine spiLaidOut_inside fun i hi => ?_
    have hlt := List.mem_range.mp hi
    omega
  rw [spiOutcome, if_neg hhdr, if_neg hcount]
  dsimp only
  split
  next => exact hscanned
  next size _ =>
    have hboth := List.forall_mem_append.mpr ⟨hscanned, hlaid (decide (size > 0))⟩
    have hspeed : ∀ s ∈ [spiField 0 0 4], s.stop ≤ request.payloadSize :=
      List.forall_mem_singleton.mpr (spiField_inside (by omega) (by decide))
    split
    next => exact hscanned
    split
    next => exact hscanned
    split
    next => exact hscanned
    split
    next => exact hboth
    next => split <;> exact List.forall_mem_append.mpr ⟨hboth, hspeed⟩

/-! ## What is announced -/

/-- What the first `count` descriptors announce to be written. -/
def spiWriteTotal (bytes : Nat → UInt8) (count : Nat) : Nat :=
  readTotal (fun i => (spiDesc bytes i).writes) (fun i => (spiDesc bytes i).len) (List.range count)

/-- What the first `count` descriptors read. -/
def spiReadTotal (bytes : Nat → UInt8) (count : Nat) : Nat :=
  readTotal (fun i => (spiDesc bytes i).reads) (fun i => (spiDesc bytes i).len) (List.range count)

/-- Descriptors are read inside the payload, what is written is cut off the payload behind them, and
a request that carries less than it announces is refused. -/
def SpiBounded (bytes : Nat → UInt8) (requestSize : Nat) (run : List Slice × SpiOutcome) : Prop :=
  (∀ s ∈ run.1, s.stop ≤ requestSize) ∧
  (∀ allocated config bufs, run.2 = .transceives allocated config bufs →
    Packed (4 + 13 * u16At bytes 2) (spiTxBuffers bufs) requestSize) ∧
  (requestSize < 4 + 13 * u16At bytes 2 + spiWriteTotal bytes (u16At bytes 2) →
    run.2 = .ends OperationResult.invalid.code)

theorem SpiBounded.of_invalid {bytes : Nat → UInt8} {requestSize : Nat} {read : List Slice}
    (hread : ∀ s ∈ read, s.stop ≤ requestSize) :
    SpiBounded bytes requestSize (read, .ends OperationResult.invalid.code) := by
  refine ⟨hread, ?_, fun _ => rfl⟩
  intro allocated config bufs h
  cases h

-- Nothing is announced, so that no request is too short.
theorem SpiBounded.of_empty {bytes : Nat → UInt8} {requestSize : Nat} (h : ¬ requestSize < 4)
    (hcount : u16At bytes 2 = 0) :
    SpiBounded bytes requestSize ([], .ends OperationResult.success.code) := by
  refine ⟨List.forall_mem_nil _, ?_, fun hshort => ?_⟩
  · intro allocated config bufs hends
    cases hends
  · rw [hcount] at hshort
    exact absurd hshort h

-- The second loop refuses a request, whatever a store through NULL does.
theorem spiRequests_eq_invalid {bytes : Nat → UInt8} {opCount size : Nat} :
    (∀ code, spiRequests { bus with nullStore := code } bytes opCount size
        = .error OperationResult.invalid.code) ↔
      ∃ i < opCount, ¬ (spiDesc bytes i).Valid ∧
        (0 < size ∨ ∀ j < i, (spiDesc bytes j).rdwr = 0x02) := by
  simp only [spiRequests, List.range_eq_range', spiBuffers_eq_invalid, ReachesInvalid,
    Nat.zero_add, Nat.zero_le, true_and, true_imp_iff, decide_eq_true_eq, gt_iff_lt]

-- The driver is called with the buffers that the second loop has set up.
theorem spiRequests_of_transceives {allocated : Nat} {config : SpiConfig} {bufs : List SpiBufs}
    (h : (spiOutcome bus memory after request).2 = .transceives allocated config bufs) :
    spiRequests bus (request.payloadByte after) (u16At (request.payloadByte after) 2) allocated
      = .ok bufs := by
  rw [spiOutcome] at h
  split at h
  next => cases h
  dsimp only at h
  split at h
  next => cases h
  split at h
  next => cases h
  split at h
  next => cases h
  split at h
  next => cases h
  split at h
  next => cases h
  split at h
  next => cases h
  next hrequests =>
    split at h
    next => cases h
    next =>
      cases h
      exact hrequests

section Accepted

variable {size : Nat} (hcount : u16At (request.payloadByte after) 2 ≠ 0)
  (hdescs : 4 + 13 * u16At (request.payloadByte after) 2 ≤ request.payloadSize)
  (hsize : spiReadDataSize (spiDesc (request.payloadByte after))
    (spiDesc (request.payloadByte after) 0).bitsPerWord
    (List.range (u16At (request.payloadByte after) 2)) 0 = some size)

include hcount hdescs hsize

theorem spiOutcome_eq_invalid :
    (spiOutcome bus memory after request).2 = .ends OperationResult.invalid.code ↔
      bus.mallocOk = true ∧ memory = true ∧
        spiRequests bus (request.payloadByte after) (u16At (request.payloadByte after) 2) size
          = .error OperationResult.invalid.code := by
  rw [spiOutcome_of_accepted hcount hdescs hsize]
  cases bus.mallocOk with
  | false => simp [OperationResult.code]
  | true =>
    cases memory with
    | false => simp [OperationResult.code]
    | true =>
      cases spiRequests bus (request.payloadByte after) _ size with
      | error code => simp
      | ok bufs =>
        refine iff_of_false (fun h => ?_) (by simp)
        cases hspidev : bus.gbSpidev with
        | false =>
          rw [hspidev] at h
          exact absurd (SpiOutcome.ends.inj h) (by decide)
        | true =>
          rw [hspidev] at h
          cases h

-- A request that the first loop lets pass.
theorem spiBounded_accepted_iff :
    (∀ code, SpiBounded (request.payloadByte after) request.payloadSize
        (spiOutcome { bus with nullStore := code } memory after request)) ↔
      4 + 13 * u16At (request.payloadByte after) 2 + spiWriteTotal (request.payloadByte after)
        (u16At (request.payloadByte after) 2) ≤ request.payloadSize ∨
      bus.mallocOk = true ∧ memory = true ∧ ∃ i < u16At (request.payloadByte after) 2,
        ¬ (spiDesc (request.payloadByte after) i).Valid ∧
          (0 < size ∨ ∀ j < i, (spiDesc (request.payloadByte after) j).rdwr = 0x02) := by
  have hinvalid : (∀ code, (spiOutcome { bus with nullStore := code } memory after request).2
      = .ends OperationResult.invalid.code) ↔
        bus.mallocOk = true ∧ memory = true ∧ ∃ i < u16At (request.payloadByte after) 2,
          ¬ (spiDesc (request.payloadByte after) i).Valid ∧
            (0 < size ∨ ∀ j < i, (spiDesc (request.payloadByte after) j).rdwr = 0x02) := by
    simp only [spiOutcome_eq_invalid hcount hdescs hsize, forall_and, forall_const,
      spiRequests_eq_invalid]
  rw [← hinvalid]
  by_cases hfits : 4 + 13 * u16At (request.payloadByte after) 2 + spiWriteTotal
      (request.payloadByte after) (u16At (request.payloadByte after) 2) ≤ request.payloadSize
  · refine iff_of_true (fun code => ⟨spiOutcome_inside hdescs, fun _ _ _ h => ?_, fun h => ?_⟩)
      (.inl hfits)
    · exact ((spiBuffers_tiles (spiRequests_of_transceives h)).packed_iff hdescs).mpr hfits
    · exact absurd hfits (Nat.not_le.mpr h)
  rw [or_iff_right hfits]
  constructor
  · exact fun h code => (h code).2.2 (Nat.not_le.mp hfits)
  · refine fun h code => ⟨spiOutcome_inside hdescs, fun _ _ _ htransceives => ?_, fun _ => h code⟩
    cases (h code).symm.trans htransceives

end Accepted

/-- An SPI transfer reads descriptors only inside the payload, its transmit buffers lie in the
payload one after the other, and a request that is too short is refused, exactly if the request is
refused by a descriptor that lies inside before one that does not, or has all its descriptors and
what they announce to be written, or has all its descriptors and is refused by the second loop. -/
theorem spiBounded_iff (bus : SpiBus) (memory : Bool) (after : Nat → UInt8) (request : Message) :
    let bytes := request.payloadByte after
    let opCount := u16At bytes 2
    (∀ code, SpiBounded bytes request.payloadSize
        (spiOutcome { bus with nullStore := code } memory after request)) ↔
      request.payloadSize < 4 ∨ opCount = 0 ∨
      (∃ i < opCount, 4 + 13 * (i + 1) ≤ request.payloadSize ∧
        (spiDesc bytes i).Refused (spiDesc bytes 0).bitsPerWord) ∨
      4 + 13 * opCount ≤ request.payloadSize ∧
        (4 + 13 * opCount + spiWriteTotal bytes opCount ≤ request.payloadSize ∨
          bus.mallocOk = true ∧ memory = true ∧ ∃ i < opCount, ¬ (spiDesc bytes i).Valid ∧
            (0 < spiReadTotal bytes opCount % 2 ^ 32 ∨
              ∀ j < i, (spiDesc bytes j).rdwr = 0x02)) := by
  intro bytes opCount
  by_cases hhdr : request.payloadSize < 4
  · refine iff_of_true (fun code => ?_) (.inl hhdr)
    rw [spiOutcome_of_short hhdr]
    exact .of_invalid (List.forall_mem_nil _)
  by_cases hcount : opCount = 0
  · refine iff_of_true (fun code => ?_) (.inr (.inl hcount))
    rw [spiOutcome_of_empty hhdr hcount]
    exact .of_empty hhdr hcount
  rw [or_iff_right hhdr, or_iff_right hcount]
  by_cases hrefused : ∃ i < opCount, 4 + 13 * (i + 1) ≤ request.payloadSize ∧
      (spiDesc bytes i).Refused (spiDesc bytes 0).bitsPerWord
  · refine iff_of_true (fun code => ?_) (.inl hrefused)
    have hsome : ∃ i < opCount, (spiDesc bytes i).Refused (spiDesc bytes 0).bitsPerWord :=
      hrefused.imp fun i h => ⟨h.1, h.2.2⟩
    rw [spiOutcome_of_refused hhdr hcount hsome]
    exact .of_invalid ((spiScannedFirst_inside hcount).mpr (.inr hrefused))
  rw [or_iff_right hrefused]
  by_cases hdescs : 4 + 13 * opCount ≤ request.payloadSize
  · rw [and_iff_right hdescs]
    -- No descriptor is refused, as all are inside.
    cases hsize : spiReadDataSize (spiDesc bytes) (spiDesc bytes 0).bitsPerWord
        (List.range opCount) 0 with
    | none =>
      obtain ⟨i, hi, h⟩ := spiReadDataSize_eq_none.mp hsize
      have hlt := List.mem_range.mp hi
      exact absurd ⟨i, hlt, by omega, h⟩ hrefused
    | some size =>
      have htotal := spiReadDataSize_eq (by decide) hsize
      rw [Nat.zero_add] at htotal
      rw [spiBounded_accepted_iff hcount hdescs hsize, htotal]
      rfl
  · refine iff_of_false (fun h => ?_) fun h => hdescs h.1
    have hscanned := fun s hs => (h 0).1 s (spiOutcome_scans hhdr hcount hs)
    rcases (spiScannedFirst_inside hcount).mp hscanned with hinside | hinside
    · exact hdescs hinside
    · exact hrefused hinside

end Handler

/-- A bus on which everything works. -/
def idleSpiBus : SpiBus := ⟨true, true, fun _ _ => (0, []), OperationResult.unknownError.code⟩

/-- A request that counts one descriptor and has none. -/
def spiNoDescriptor : Message := requestOf 4 [0, 0, 1, 0]

/-- A descriptor that writes 4 bytes, and nothing behind it. -/
def spiWriteNothing : Message :=
  requestOf 4 [0, 0, 1, 0, 0, 0, 0, 0, 4, 0, 0, 0, 0, 0, 0, 8, 2]

theorem spiNoDescriptor_outside :
    spiNoDescriptor.payloadSize = 4 ∧
      spiField 0 11 1 ∈ (spiOutcome idleSpiBus true (fun _ => 0) spiNoDescriptor).1 ∧
      ¬ SpiBounded (spiNoDescriptor.payloadByte fun _ => 0) spiNoDescriptor.payloadSize
        (spiOutcome idleSpiBus true (fun _ => 0) spiNoDescriptor) ∧
      spiWriteNothing.payloadSize = 17 ∧
      (spiOutcome idleSpiBus true (fun _ => 0) spiWriteNothing).2
        = .transceives 0 ⟨0, 0, 0, 8⟩ [⟨some (17, 4), none⟩] ∧
      ¬ SpiBounded (spiWriteNothing.payloadByte fun _ => 0) spiWriteNothing.payloadSize
        (spiOutcome idleSpiBus true (fun _ => 0) spiWriteNothing) := by
  have hread : spiField 0 11 1
      ∈ (spiOutcome idleSpiBus true (fun _ => 0) spiNoDescriptor).1 := by decide
  have hcalled : (spiOutcome idleSpiBus true (fun _ => 0) spiWriteNothing).2
      = .transceives 0 ⟨0, 0, 0, 8⟩ [⟨some (17, 4), none⟩] := by decide
  refine ⟨by decide, hread, fun h => ?_, by decide, hcalled, fun h => ?_⟩
  · exact absurd (h.1 _ hread) (by decide)
  · have hinside := (h.2.1 _ _ _ hcalled).inside ⟨17, 4⟩ (by simp [spiTxBuffers])
    exact absurd hinside.2 (by decide)

end Greybus
