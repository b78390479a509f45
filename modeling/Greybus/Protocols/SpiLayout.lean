import Greybus.Protocols.SpiBuffers
import Mathlib.Algebra.Order.BigOperators.Group.List

/-!
# The layout of an SPI transfer

How the data of the response is cut into receive buffers, and which buffers `spi_transceive` finds
in the two sets.  The lengths are added up in 32 bits.  A buffer is stored at the index of its
descriptor, and a set counts the buffers of its direction.
-/

namespace Greybus

open Reasoning.Memory Reasoning.Slices Reasoning.CountedSlots

/-- `tx_buf` as slices of the request's payload, `NULL` as an empty slot. -/
def spiTxSlots (bufs : List SpiBufs) : List (Option Slice) :=
  bufs.map fun b => b.tx.map fun (start, len) => ⟨start, len⟩

/-- `rx_buf` as slices of the response's data. -/
def spiRxSlots (bufs : List SpiBufs) : List (Option Slice) :=
  bufs.map fun b => b.rx.map fun (start, len) => ⟨start, len⟩

section SecondLoop

variable {desc : Nat → SpiTransferDesc} {hasRxBufSet : Bool} {is : List Nat}
  {writeData readData : Nat} {bus : SpiBus} {bufs : List SpiBufs}

-- The two cursors of the second loop move apart from each other.
theorem spiBuffers_layOut (h : spiBuffers bus desc hasRxBufSet is writeData readData = .ok bufs) :
    spiTxSlots bufs = layOut (fun i => (desc i).writes) (fun i => (desc i).len) is writeData ∧
      spiRxSlots bufs = layOut (fun i => (desc i).reads) (fun i => (desc i).len) is readData := by
  induction is generalizing writeData readData bufs with
  | nil =>
    cases h
    exact ⟨rfl, rfl⟩
  | cons i is ih =>
    obtain ⟨-, -, rest, hrest, rfl⟩ := spiBuffers_cons_eq_ok.mp h
    obtain ⟨htx, hrx⟩ := ih hrest
    rw [spiTxSlots] at htx
    rw [spiRxSlots] at hrx
    rw [spiTxSlots, spiRxSlots, List.map_cons, List.map_cons, htx, hrx, layOut, layOut,
      SpiTransferDesc.bufs]
    cases (desc i).writes <;> cases (desc i).reads <;> exact ⟨rfl, rfl⟩

-- The loop comes to its end if it has a case for every descriptor.
theorem exists_spiBuffers (hvalid : ∀ i ∈ is, (desc i).Valid)
    (hset : ∀ i ∈ is, (desc i).reads = true → hasRxBufSet = true) :
    ∃ bufs, spiBuffers bus desc hasRxBufSet is writeData readData = .ok bufs := by
  induction is generalizing writeData readData with
  | nil => exact ⟨[], rfl⟩
  | cons i is ih =>
    obtain ⟨hi, his⟩ := List.forall_mem_cons.mp hvalid
    obtain ⟨hset, hsets⟩ := List.forall_mem_cons.mp hset
    obtain ⟨rest, hrest⟩ := ih his hsets
    exact ⟨_, spiBuffers_cons_eq_ok.mpr ⟨hi, hset, rest, hrest, rfl⟩⟩

-- Without a receive buffer set the loop ends early at a descriptor that reads.
theorem reads_of_spiBuffers (h : spiBuffers bus desc hasRxBufSet is writeData readData = .ok bufs) :
    ∀ i ∈ is, (desc i).reads = true → hasRxBufSet = true := by
  induction is generalizing writeData readData bufs with
  | nil => exact List.forall_mem_nil _
  | cons i is ih =>
    obtain ⟨-, hset, rest, hrest, -⟩ := spiBuffers_cons_eq_ok.mp h
    exact List.forall_mem_cons.mpr ⟨hset, ih hrest⟩

end SecondLoop

/-! ## The response's data -/

/-- The data of a response for which `size` bytes are asked: `alloc_buf` is called with
`size + sizeof(*resp_hdr)`, of which a `size_t` of `w` bits is left. -/
def allocatedData (w size : Nat) : Int := ((size + sizeofHdr) % 2 ^ w : Nat) - (sizeofHdr : Nat)

/-- The data of the response is as long as all that is read, the receive buffers tile it in the
order of the descriptors as far as the second loop has a case for these, and there is a receive
buffer set if anything is read. -/
structure SpiReadsLaidOut (w : Nat) (bus : SpiBus) (bytes : Nat → UInt8) (size : Nat) : Prop where
  allocated : allocatedData w size = spiReadTotal bytes (u16At bytes 2)
  tiled : ∀ count ≤ u16At bytes 2, (∀ i < count, (spiDesc bytes i).Valid) →
    ∃ bufs, spiBuffers bus (spiDesc bytes) (size > 0) (List.range count)
        (4 + 13 * u16At bytes 2) 0 = .ok bufs ∧
      Tiles 0 (spiRxSlots bufs).reduceOption (spiReadTotal bytes count)
  received : (∃ i < u16At bytes 2, (spiDesc bytes i).reads = true) → size > 0

theorem allocatedData_mod_eq_iff {w total : Nat} :
    allocatedData w (total % 2 ^ 32) = total ↔ total < 2 ^ 32 ∧ total + sizeofHdr < 2 ^ w := by
  have hle : (total % 2 ^ 32 + sizeofHdr) % 2 ^ w ≤ total % 2 ^ 32 + sizeofHdr := Nat.mod_le _ _
  rw [allocatedData]
  constructor
  · intro h
    have hmod : (total % 2 ^ 32 + sizeofHdr) % 2 ^ w = total + sizeofHdr := by omega
    refine ⟨by omega, hmod ▸ Nat.mod_lt _ (Nat.two_pow_pos w)⟩
  · rintro ⟨htotal, hw⟩
    rw [Nat.mod_eq_of_lt htotal, Nat.mod_eq_of_lt hw]
    omega

section Handler

variable {bus : SpiBus} {after : Nat → UInt8} {op : Operation} {size : Nat} {k : Bool → HandlerProg}

-- A response is asked for only if the first loop lets the request pass.
theorem spiReadDataSize_of_allocResponse
    (h : gbSpiProtocolTransfer bus after op = .allocResponse size k) :
    spiReadDataSize (spiDesc (op.requestBuffer.payloadByte after))
      (spiDesc (op.requestBuffer.payloadByte after) 0).bitsPerWord
      (List.range (u16At (op.requestBuffer.payloadByte after) 2)) 0 = some size := by
  rw [gbSpiProtocolTransfer] at h
  split at h
  next => cases h
  dsimp only at h
  split at h
  next => cases h
  split at h
  next => cases h
  next hsize =>
    split at h
    next => cases h
    split at h
    next => cases h
    next =>
      cases h
      exact hsize

/-- Wherever an SPI transfer asks for a response, its data is as long as all that is read, tiled by
the receive buffers, and there is a receive buffer set if anything is read, exactly if the lengths
add up to less than 2^32 and still do so with the header in a `size_t`. -/
theorem spiReadsLaidOut_iff (w : Nat)
    (h : gbSpiProtocolTransfer bus after op = .allocResponse size k) :
    let bytes := op.requestBuffer.payloadByte after
    SpiReadsLaidOut w bus bytes size ↔
      spiReadTotal bytes (u16At bytes 2) < 2 ^ 32 ∧
        spiReadTotal bytes (u16At bytes 2) + sizeofHdr < 2 ^ w := by
  intro bytes
  have hpass := spiReadDataSize_of_allocResponse h
  have hsize : size = spiReadTotal bytes (u16At bytes 2) % 2 ^ 32 := by
    rw [spiReadDataSize_eq (by decide) hpass, Nat.zero_add]
    rfl
  constructor
  · intro hlaid
    exact allocatedData_mod_eq_iff.mp (hsize ▸ hlaid.allocated)
  intro hbound
  have hreads : ∀ i < u16At bytes 2, (spiDesc bytes i).reads = true → size > 0 := by
    intro i hi hread
    have hlen : (spiDesc bytes i).len ≠ 0 := by
      intro hzero
      have hnone := (@spiReadDataSize_eq_none (spiDesc bytes) (spiDesc bytes 0).bitsPerWord
        (List.range (u16At bytes 2)) 0).mpr ⟨i, List.mem_range.mpr hi, .inl ⟨hread, hzero⟩⟩
      cases hnone.symm.trans hpass
    have hmem : (spiDesc bytes i).len ∈ ((List.range (u16At bytes 2)).filter
        fun i => (spiDesc bytes i).reads).map fun i => (spiDesc bytes i).len :=
      List.mem_map_of_mem (List.mem_filter.mpr ⟨List.mem_range.mpr hi, hread⟩)
    have hle : (spiDesc bytes i).len ≤ spiReadTotal bytes (u16At bytes 2) :=
      List.single_le_sum (fun _ _ => Nat.zero_le _) _ hmem
    rw [hsize, Nat.mod_eq_of_lt hbound.1]
    omega
  refine ⟨hsize ▸ allocatedData_mod_eq_iff.mpr hbound, fun count hcount hvalid => ?_, ?_⟩
  · obtain ⟨bufs, hbufs⟩ := @exists_spiBuffers (spiDesc bytes) (size > 0) (List.range count)
      (4 + 13 * u16At bytes 2) 0 bus (fun i hi => hvalid i (List.mem_range.mp hi))
      (fun i hi hread => decide_eq_true
        (hreads i (lt_of_lt_of_le (List.mem_range.mp hi) hcount) hread))
    refine ⟨bufs, hbufs, ?_⟩
    rw [(spiBuffers_layOut hbufs).2]
    have htiles := @layOut_tiles (fun i => (spiDesc bytes i).reads) (fun i => (spiDesc bytes i).len)
      (List.range count) 0
    rwa [Nat.zero_add] at htiles
  · rintro ⟨i, hi, hread⟩
    exact hreads i hi hread

end Handler

/-- A request of descriptors at 8 bits a word, each with its length and `rdwr`. -/
def spiRequest (descs : List (Nat × UInt8)) : Message :=
  requestOf 4 ([0, 0] ++ bytes16 descs.length ++ descs.flatMap fun (len, rdwr) =>
    bytes32 0 ++ bytes32 len ++ [0, 0, 0, 8, rdwr])

/-- What the handler looks at. -/
def spiBytes (request : Message) : Nat → UInt8 := request.payloadByte fun _ => 0

theorem spiReadsLaidOut_iff_two :
    SpiReadsLaidOut 32 idleSpiBus (spiBytes (spiRequest [(4, 1), (2, 3)])) 6 := by
  have hasks : ∃ k, gbSpiProtocolTransfer idleSpiBus (fun _ => 0)
      (.fresh 0 (spiRequest [(4, 1), (2, 3)])) = .allocResponse 6 k := ⟨_, rfl⟩
  obtain ⟨k, hk⟩ := hasks
  have htotal : spiReadTotal (spiBytes (spiRequest [(4, 1), (2, 3)]))
      (u16At (spiBytes (spiRequest [(4, 1), (2, 3)])) 2) = 6 := by decide
  exact (spiReadsLaidOut_iff 32 hk).mpr ⟨htotal ▸ by decide, htotal ▸ by decide⟩

-- Two reads that add up to 4 GiB and 16 bytes get 16 bytes, two that add up to 4 GiB a NULL receive
-- buffer set.
theorem spiReads_overflow :
    (∃ k, gbSpiProtocolTransfer idleSpiBus (fun _ => 0)
      (.fresh 0 (spiRequest [(2 ^ 31, 1), (2 ^ 31 + 16, 1)])) = .allocResponse 16 k) ∧
    (spiOutcome idleSpiBus true (fun _ => 0) (spiRequest [(2 ^ 31, 1), (2 ^ 31 + 16, 1)])).2
      = .transceives 16 ⟨0, 0, 0, 8⟩ [⟨none, some (0, 2 ^ 31)⟩, ⟨none, some (2 ^ 31, 2 ^ 31 + 16)⟩] ∧
    ¬ SpiReadsLaidOut 32 idleSpiBus (spiBytes (spiRequest [(2 ^ 31, 1), (2 ^ 31 + 16, 1)])) 16 ∧
    (∃ k, gbSpiProtocolTransfer idleSpiBus (fun _ => 0)
      (.fresh 0 (spiRequest [(2 ^ 31, 1), (2 ^ 31, 1)])) = .allocResponse 0 k) ∧
    ¬ SpiReadsLaidOut 32 idleSpiBus (spiBytes (spiRequest [(2 ^ 31, 1), (2 ^ 31, 1)])) 0 := by
  refine ⟨⟨_, rfl⟩, by decide, fun h => ?_, ⟨_, rfl⟩, fun h => ?_⟩
  · exact absurd h.allocated (by decide)
  · exact absurd (h.received ⟨0, by decide, by decide⟩) (by decide)

/-! ## The buffer sets -/

/-- The slots of `tx_buf` that `tx_buf_set` counts. -/
def spiTxSet (bufs : List SpiBufs) : List (Option Slice) := counted (spiTxSlots bufs)

/-- The slots of `rx_buf` that `rx_buf_set` counts; the set is NULL if nothing is read. -/
def spiRxSet (allocated : Nat) (bufs : List SpiBufs) : Option (List (Option Slice)) :=
  if allocated > 0 then some (counted (spiRxSlots bufs)) else none

/-- The sets have, in the order of the descriptors, the slice of the payload of each that writes,
and the slice of the response of each that reads. -/
structure SpiSetsComplete (bytes : Nat → UInt8) (allocated : Nat) (bufs : List SpiBufs) : Prop where
  transmit : (spiTxSet bufs).reduceOption =
    ((List.range (u16At bytes 2)).filter fun i => (spiDesc bytes i).writes).map fun i =>
      ⟨4 + 13 * u16At bytes 2 + spiWriteTotal bytes i, (spiDesc bytes i).len⟩
  receive : ((spiRxSet allocated bufs).getD []).reduceOption =
    ((List.range (u16At bytes 2)).filter fun i => (spiDesc bytes i).reads).map fun i =>
      ⟨spiReadTotal bytes i, (spiDesc bytes i).len⟩

-- The set has the slices of all chosen indices only if these come first.
theorem reduceOption_counted_layOut_iff {chosen : Nat → Bool} {len : Nat → Nat} {n pos : Nat} :
    (counted (layOut chosen len (List.range n) pos)).reduceOption
        = ((List.range n).filter chosen).map (fun i =>
          ⟨pos + readTotal chosen len (List.range i), len i⟩) ↔
      ∀ i j, i < j → j < n → chosen j = true → chosen i = true := by
  rw [show (((List.range n).filter chosen).map fun i =>
      (⟨pos + readTotal chosen len (List.range i), len i⟩ : Slice))
        = (layOut chosen len (List.range n) pos).reduceOption from reduceOption_layOut_range.symm,
    reduceOption_counted_iff, filledFirst_layOut_iff, List.pairwise_iff_getElem]
  simp only [List.length_range, List.getElem_range]
  constructor
  · exact fun h i j hij hj => h i j (lt_trans hij hj) hj hij
  · exact fun h i j _ hj hij => h i j hij hj

/-- The two sets of an SPI transfer have all its buffers exactly if no descriptor that only reads
comes before one that writes, and none that only writes before one that reads. -/
theorem spiSetsComplete_iff {bus : SpiBus} {memory : Bool} {after : Nat → UInt8} {request : Message}
    {allocated : Nat} {config : SpiConfig} {bufs : List SpiBufs}
    (h : (spiOutcome bus memory after request).2 = .transceives allocated config bufs) :
    let bytes := request.payloadByte after
    SpiSetsComplete bytes allocated bufs ↔
      ∀ i j, i < j → j < u16At bytes 2 →
        ((spiDesc bytes j).writes = true → (spiDesc bytes i).writes = true) ∧
        ((spiDesc bytes j).reads = true → (spiDesc bytes i).reads = true) := by
  intro bytes
  have hbufs := spiRequests_of_transceives h
  rw [spiRequests] at hbufs
  obtain ⟨htx, hrx⟩ := spiBuffers_layOut hbufs
  have htransmit := @reduceOption_counted_layOut_iff (fun i => (spiDesc bytes i).writes)
    (fun i => (spiDesc bytes i).len) (u16At bytes 2) (4 + 13 * u16At bytes 2)
  have hreceive := @reduceOption_counted_layOut_iff (fun i => (spiDesc bytes i).reads)
    (fun i => (spiDesc bytes i).len) (u16At bytes 2) 0
  simp only [Nat.zero_add] at hreceive
  rw [← htx] at htransmit
  rw [← hrx] at hreceive
  have hset : ((spiRxSet allocated bufs).getD []).reduceOption
      = (counted (spiRxSlots bufs)).reduceOption := by
    by_cases hallocated : allocated > 0
    · rw [spiRxSet, if_pos hallocated]
      rfl
    -- Nothing is read, so that there is nothing to be seen behind the count either.
    have hnone : ∀ i < u16At bytes 2, ¬ (spiDesc bytes i).reads = true := fun i hi hreads =>
      hallocated (of_decide_eq_true (reads_of_spiBuffers hbufs i (List.mem_range.mpr hi) hreads))
    have hfilter : (List.range (u16At bytes 2)).filter (fun i => (spiDesc bytes i).reads) = [] :=
      List.filter_eq_nil_iff.mpr fun i hi => hnone i (List.mem_range.mp hi)
    rw [hreceive.mpr fun i j _ hj hreads => absurd hreads (hnone j hj), hfilter, spiRxSet,
      if_neg hallocated]
    rfl
  constructor
  · rintro ⟨htx, hrx⟩ i j hij hj
    exact ⟨htransmit.mp htx i j hij hj, hreceive.mp (hset.symm.trans hrx) i j hij hj⟩
  · intro hfirst
    exact ⟨htransmit.mpr fun i j hij hj => (hfirst i j hij hj).1,
      hset.trans (hreceive.mpr fun i j hij hj => (hfirst i j hij hj).2)⟩

-- A full-duplex transfer and a write behind it.
theorem spiSetsComplete_iff_duplex :
    SpiSetsComplete (spiBytes (spiRequest [(4, 3), (2, 2)])) 4
      [⟨some (30, 4), some (0, 4)⟩, ⟨some (34, 2), none⟩] := by
  have hcalled : (spiOutcome idleSpiBus true (fun _ => 0) (spiRequest [(4, 3), (2, 2)])).2
      = .transceives 4 ⟨0, 0, 0, 8⟩ [⟨some (30, 4), some (0, 4)⟩, ⟨some (34, 2), none⟩] := by decide
  have hfirst : ∀ j < 2, ∀ i < j,
      ((spiDesc (spiBytes (spiRequest [(4, 3), (2, 2)])) j).writes = true →
        (spiDesc (spiBytes (spiRequest [(4, 3), (2, 2)])) i).writes = true) ∧
      ((spiDesc (spiBytes (spiRequest [(4, 3), (2, 2)])) j).reads = true →
        (spiDesc (spiBytes (spiRequest [(4, 3), (2, 2)])) i).reads = true) := by decide
  exact (spiSetsComplete_iff hcalled).mpr fun i j hij hj => hfirst j hj i hij

-- A write and a read behind it: the receive set has one slot, which is empty.
theorem spiSets_incomplete :
    (spiOutcome idleSpiBus true (fun _ => 0) (spiRequest [(2, 2), (4, 1)])).2
      = .transceives 4 ⟨0, 0, 0, 8⟩ [⟨some (30, 2), none⟩, ⟨none, some (0, 4)⟩] ∧
    spiRxSet 4 [⟨some (30, 2), none⟩, ⟨none, some (0, 4)⟩] = some [none] ∧
    ¬ SpiSetsComplete (spiBytes (spiRequest [(2, 2), (4, 1)])) 4
      [⟨some (30, 2), none⟩, ⟨none, some (0, 4)⟩] := by
  refine ⟨by decide, by decide, fun h => ?_⟩
  exact absurd h.receive (by decide)

end Greybus
