import Greybus.Protocols.Transfers
import Greybus.Reasoning.Slices

/-!
# The buffers of an I2C transfer

The messages that `gb_i2c_protocol_transfer` passes to `i2c_transfer`.  One loop sums up what is
read, another cuts the response and the request's payload into buffers.
-/

namespace Greybus

open Reasoning.Memory Reasoning.Slices

/-! ## Up to the call of the driver -/

/-- `size` after `count` rounds of the first loop of `gb_i2c_protocol_transfer`. -/
def i2cReadSize (bytes : Nat → UInt8) (count : Nat) : Nat :=
  (List.range count).foldl (fun size i =>
    if (i2cDesc bytes i).readOp then (size + (i2cDesc bytes i).size) % 2 ^ 32 else size) 0

/-- `gb_i2c_protocol_transfer` ends with a result, or calls `i2c_transfer` with so many bytes of
response data allocated. -/
inductive I2cOutcome where
  | ends (result : UInt8)
  | transfers (allocated : Nat) (msgs : List I2cMsg) (addr : Nat)
  deriving DecidableEq, Repr

/-- How far `gb_i2c_protocol_transfer` comes; `memory` says whether there is a response and
`mallocOk` whether there is memory for the messages. -/
def i2cOutcome (mallocOk memory : Bool) (after : Nat → UInt8) (request : Message) : I2cOutcome :=
  let reqSize := request.payloadSize
  let bytes := request.payloadByte after
  if reqSize < 2 then .ends OperationResult.invalid.code
  else
    let opCount := u16At bytes 0
    if reqSize < 2 + opCount * 6 then .ends OperationResult.invalid.code
    else if !memory then .ends OperationResult.noMemory.code
    else if !mallocOk then .ends OperationResult.noMemory.code
    else
      match i2cRequests bytes opCount with
      | (none, _) => .ends (gbErrnoToOpResult (-EINVAL)).code
      | (some msgs, addr) => .transfers (i2cReadSize bytes opCount) msgs addr

/-- What the handler returns. -/
def I2cOutcome.result (bus : I2cBus) : I2cOutcome → UInt8
  | .ends result => result
  | .transfers _ msgs addr => (gbErrnoToOpResult (bus.i2cTransfer msgs addr).1).code

theorem gbI2cProtocolTransfer_result (bus : I2cBus) (after : Nat → UInt8) (tr : Transport)
    (op : Operation) (p : Processing) :
    ((gbI2cProtocolTransfer bus after op).run tr p).1
      = (i2cOutcome bus.mallocOk (tr.allocBuf p.allocs) after op.requestBuffer).result bus := by
  unfold gbI2cProtocolTransfer i2cOutcome
  by_cases hhdr : op.requestBuffer.payloadSize < 2
  · simp only [if_pos hhdr]
    rfl
  by_cases hdescs : op.requestBuffer.payloadSize
      < 2 + u16At (op.requestBuffer.payloadByte after) 0 * 6
  · simp only [if_neg hhdr, if_pos hdescs]
    rfl
  simp only [if_neg hhdr, if_neg hdescs]
  rw [HandlerProg.run_allocResponse]
  cases tr.allocBuf p.allocs with
  | false => rfl
  | true =>
    simp only [Bool.not_true, Bool.false_eq_true, if_false, i2cTransfer]
    cases bus.mallocOk with
    | false => rfl
    | true =>
      simp only [Bool.not_true, Bool.false_eq_true, if_false]
      rcases i2cRequests (op.requestBuffer.payloadByte after) _ with ⟨_ | msgs, addr⟩ <;> rfl

/-! ## The second loop -/

/-- The buffers of the messages that read, in the response's data. -/
def i2cReadBuffers (msgs : List I2cMsg) : List Slice :=
  (msgs.filter (·.read)).map fun m => ⟨m.buf, m.len⟩

/-- The buffers of the messages that write, in the request's payload. -/
def i2cWriteBuffers (msgs : List I2cMsg) : List Slice :=
  (msgs.filter (!·.read)).map fun m => ⟨m.buf, m.len⟩

section SecondLoop

variable {desc : Nat → I2cTransferDesc} {addr : Nat} {is : List Nat} {readCount writeData : Nat}
  {msgs : List I2cMsg}

theorem i2cMessages_eq_none :
    i2cMessages desc addr is readCount writeData = none ↔ ∃ i ∈ is, (desc i).addr ≠ addr := by
  induction is generalizing readCount writeData with
  | nil => simp [i2cMessages]
  | cons i is ih =>
    rw [i2cMessages, List.exists_mem_cons_iff]
    by_cases haddr : (desc i).addr = addr
    · simp only [haddr, ne_eq, not_true_eq_false, if_false, false_or]
      split <;> rw [Option.map_eq_none_iff, ih]
    · simp [haddr]

-- One message a descriptor, each buffer behind the last of its kind.
theorem i2cMessages_spec (h : i2cMessages desc addr is readCount writeData = some msgs) :
    msgs.map (fun m => (m.len, m.read)) = is.map (fun i => ((desc i).size, (desc i).readOp)) ∧
      Tiles readCount (i2cReadBuffers msgs)
        (readCount + readTotal (fun i => (desc i).readOp) (fun i => (desc i).size) is) ∧
      Tiles writeData (i2cWriteBuffers msgs)
        (writeData + readTotal (fun i => !(desc i).readOp) (fun i => (desc i).size) is) := by
  induction is generalizing readCount writeData msgs with
  | nil =>
    cases h
    exact ⟨rfl, .nil _, .nil _⟩
  | cons i is ih =>
    simp only [i2cMessages, Option.ite_none_left_eq_some] at h
    obtain ⟨-, h⟩ := h
    rw [readTotal_cons, readTotal_cons]
    cases hread : (desc i).readOp with
    | true =>
      rw [if_pos hread, Option.map_eq_some_iff] at h
      obtain ⟨rest, hrest, rfl⟩ := h
      obtain ⟨hmap, hreads, hwrites⟩ := ih hrest
      simp only [Bool.not_true, Bool.false_eq_true, if_true, if_false, Nat.zero_add,
        List.map_cons, hmap, hread, ← Nat.add_assoc]
      exact ⟨trivial, .cons hreads, hwrites⟩
    | false =>
      rw [if_neg (by simp [hread]), Option.map_eq_some_iff] at h
      obtain ⟨rest, hrest, rfl⟩ := h
      obtain ⟨hmap, hreads, hwrites⟩ := ih hrest
      simp only [Bool.not_false, Bool.false_eq_true, if_true, if_false, Nat.zero_add,
        List.map_cons, hmap, hread, ← Nat.add_assoc]
      exact ⟨trivial, hreads, .cons hwrites⟩

end SecondLoop

/-! ## The whole handler -/

section Handler

variable {mallocOk memory : Bool} {after : Nat → UInt8} {request : Message}

theorem i2cOutcome_of_short
    (h : request.payloadSize < 2 + 6 * u16At (request.payloadByte after) 0) :
    i2cOutcome mallocOk memory after request = .ends OperationResult.invalid.code := by
  unfold i2cOutcome
  dsimp only
  split
  next => rfl
  next => rw [if_pos (by omega)]

-- How the handler gets to the driver.
theorem i2cOutcome_eq_transfers {allocated addr : Nat} {msgs : List I2cMsg}
    (h : i2cOutcome mallocOk memory after request = .transfers allocated msgs addr) :
    let bytes := request.payloadByte after
    let opCount := u16At bytes 0
    2 + 6 * opCount ≤ request.payloadSize ∧ allocated = i2cReadSize bytes opCount ∧
      i2cMessages (i2cDesc bytes) addr (List.range opCount) 0 (2 + 6 * opCount) = some msgs := by
  intro bytes opCount
  simp only [i2cOutcome] at h
  split at h
  next => cases h
  split at h
  next => cases h
  next hdescs =>
  split at h
  next => cases h
  split at h
  next => cases h
  split at h
  next => cases h
  next hrequests =>
    obtain ⟨hmsgs, rfl⟩ := Prod.mk.inj hrequests
    cases h
    have hinside := Nat.not_lt.mp hdescs
    rw [Nat.mul_comm] at hinside
    exact ⟨hinside, rfl, hmsgs⟩

-- With all descriptors inside only the second loop refuses a request.
theorem i2cOutcome_eq_invalid
    (h : 2 + 6 * u16At (request.payloadByte after) 0 ≤ request.payloadSize) :
    i2cOutcome mallocOk memory after request = .ends OperationResult.invalid.code ↔
      memory = true ∧ mallocOk = true ∧ ∃ i < u16At (request.payloadByte after) 0,
        (i2cDesc (request.payloadByte after) i).addr
          ≠ (i2cDesc (request.payloadByte after) 0).addr := by
  unfold i2cOutcome
  dsimp only
  rw [if_neg (by omega), if_neg (by omega)]
  cases memory with
  | false => simp [OperationResult.code]
  | true =>
    cases mallocOk with
    | false => simp [OperationResult.code]
    | true =>
      simp only [Bool.not_true, Bool.false_eq_true, if_false, true_and]
      generalize request.payloadByte after = bytes
      have hnone : (i2cRequests bytes (u16At bytes 0)).1 = none ↔
          ∃ i < u16At bytes 0, (i2cDesc bytes i).addr ≠ (i2cDesc bytes 0).addr := by
        simp only [i2cRequests, i2cMessages_eq_none, List.mem_range]
        refine exists_congr fun i => and_congr_right fun hi => ?_
        rw [if_pos (by omega)]
      rw [← hnone]
      rcases i2cRequests bytes (u16At bytes 0) with ⟨_ | msgs, addr⟩
      · exact iff_of_true rfl rfl
      · simp

/-! ## What is written -/

/-- What the first `count` descriptors announce to be written. -/
def i2cWriteTotal (bytes : Nat → UInt8) (count : Nat) : Nat :=
  readTotal (fun i => !(i2cDesc bytes i).readOp) (fun i => (i2cDesc bytes i).size)
    (List.range count)

/-- What is written is cut off the payload behind the descriptors, and a request that carries less
than it announces is refused. -/
def I2cWritesInside (bytes : Nat → UInt8) (reqSize : Nat) (outcome : I2cOutcome) : Prop :=
  (∀ allocated msgs addr, outcome = .transfers allocated msgs addr →
    Packed (2 + 6 * u16At bytes 0) (i2cWriteBuffers msgs) reqSize) ∧
  (reqSize < 2 + 6 * u16At bytes 0 + i2cWriteTotal bytes (u16At bytes 0) →
    outcome = .ends OperationResult.invalid.code)

/-- The write buffers of an I2C transfer lie in the payload one after the other, and a request with
too little to write is refused, exactly if the request has not even got its descriptors, or carries
what it announces, or is refused because its addresses differ. -/
theorem i2cWritesInside_iff (mallocOk memory : Bool) (after : Nat → UInt8) (request : Message) :
    let bytes := request.payloadByte after
    let opCount := u16At bytes 0
    I2cWritesInside bytes request.payloadSize (i2cOutcome mallocOk memory after request) ↔
      request.payloadSize < 2 + 6 * opCount ∨
      2 + 6 * opCount + i2cWriteTotal bytes opCount ≤ request.payloadSize ∨
      memory = true ∧ mallocOk = true ∧
        ∃ i < opCount, (i2cDesc bytes i).addr ≠ (i2cDesc bytes 0).addr := by
  intro bytes opCount
  by_cases hshort : request.payloadSize < 2 + 6 * opCount
  · refine iff_of_true ⟨fun _ _ _ h => ?_, fun _ => i2cOutcome_of_short hshort⟩ (.inl hshort)
    cases (i2cOutcome_of_short hshort).symm.trans h
  have hdescs := Nat.not_lt.mp hshort
  rw [or_iff_right hshort, ← i2cOutcome_eq_invalid hdescs]
  -- Whatever the messages are, they write up to the same end.
  have hpacked : ∀ allocated msgs addr,
      i2cOutcome mallocOk memory after request = .transfers allocated msgs addr →
      (Packed (2 + 6 * opCount) (i2cWriteBuffers msgs) request.payloadSize ↔
        2 + 6 * opCount + i2cWriteTotal bytes opCount ≤ request.payloadSize) := by
    intro allocated msgs addr h
    obtain ⟨-, -, hmsgs⟩ := i2cOutcome_eq_transfers h
    exact (i2cMessages_spec hmsgs).2.2.packed_iff hdescs
  by_cases hfits : 2 + 6 * opCount + i2cWriteTotal bytes opCount ≤ request.payloadSize
  · refine iff_of_true ⟨fun allocated msgs addr h => ?_, fun h => ?_⟩ (.inl hfits)
    · exact (hpacked allocated msgs addr h).mpr hfits
    · exact absurd hfits (Nat.not_le.mpr h)
  rw [or_iff_right hfits]
  constructor
  · exact fun h => h.2 (Nat.not_le.mp hfits)
  · refine fun h => ⟨fun allocated msgs addr htransfers => ?_, fun _ => h⟩
    cases h.symm.trans htransfers

/-- A descriptor that writes 4 bytes, and nothing behind it. -/
def i2cWriteNothing : Message := requestOf 5 [1, 0, 0x50, 0, 0, 0, 4, 0]

theorem i2cWriteNothing_outside :
    i2cOutcome true true (fun _ => 0) i2cWriteNothing = .transfers 0 [⟨false, 4, 8⟩] 0x50 ∧
      i2cWriteNothing.payloadSize = 8 ∧
      ¬ I2cWritesInside (i2cWriteNothing.payloadByte fun _ => 0) i2cWriteNothing.payloadSize
        (i2cOutcome true true (fun _ => 0) i2cWriteNothing) := by
  have houtcome : i2cOutcome true true (fun _ => 0) i2cWriteNothing
      = .transfers 0 [⟨false, 4, 8⟩] 0x50 := by decide
  refine ⟨houtcome, by decide, fun h => ?_⟩
  have hinside := (h.1 _ _ _ houtcome).inside ⟨8, 4⟩ (by simp [i2cWriteBuffers])
  exact absurd hinside.2 (by decide)

/-! ## What is read -/

theorem readTotal_le {reads : Nat → Bool} {len : Nat → Nat} {is : List Nat} {bound : Nat}
    (h : ∀ i, len i ≤ bound) : readTotal reads len is ≤ is.length * bound := by
  induction is with
  | nil => exact Nat.zero_le _
  | cons i is ih =>
    rw [readTotal_cons, List.length_cons, Nat.add_mul, Nat.one_mul, Nat.add_comm]
    have hi : (if reads i then len i else 0) ≤ bound := by
      split
      next => exact h i
      next => exact Nat.zero_le _
    exact Nat.add_le_add ih hi

/-- What the first `count` descriptors read. -/
def i2cReadTotal (bytes : Nat → UInt8) (count : Nat) : Nat :=
  readTotal (fun i => (i2cDesc bytes i).readOp) (fun i => (i2cDesc bytes i).size) (List.range count)

-- A payload holds no more descriptors than 16 bits of its length allow.
theorem i2cReadTotal_lt {bytes : Nat → UInt8} {count : Nat}
    (h : 2 + 6 * count ≤ request.payloadSize) : i2cReadTotal bytes count < 2 ^ 31 := by
  have hpayload : request.payloadSize < 2 ^ 16 :=
    lt_of_le_of_lt (Nat.sub_le _ _) (UInt16.toNat_lt _)
  have hle : i2cReadTotal bytes count ≤ (List.range count).length * (2 ^ 16 - 1) :=
    readTotal_le fun i => Nat.le_sub_one_of_lt (le16_lt _ _)
  rw [List.length_range] at hle
  omega

theorem i2cReadSize_eq {bytes : Nat → UInt8} {count : Nat}
    (h : i2cReadTotal bytes count < 2 ^ 31) :
    i2cReadSize bytes count = i2cReadTotal bytes count := by
  rw [i2cReadSize, foldl_readTotal _ _ _ (by decide), Nat.zero_add]
  exact Nat.mod_eq_of_lt (lt_trans h (by decide))

/-- The messages of an I2C transfer are the descriptors in their order, the read buffers tile the
response's data, and neither `size` nor `read_count` overflows in any round of its loop. -/
theorem i2cOutcome_reads_tile {allocated addr : Nat} {msgs : List I2cMsg}
    (h : i2cOutcome mallocOk memory after request = .transfers allocated msgs addr) :
    let bytes := request.payloadByte after
    let opCount := u16At bytes 0
    msgs.map (fun m => (m.len, m.read)) = (List.range opCount).map (fun i =>
        ((i2cDesc bytes i).size, (i2cDesc bytes i).readOp)) ∧
      (∀ i < opCount, (i2cDesc bytes i).addr = addr) ∧
      Tiles 0 (i2cReadBuffers msgs) allocated ∧
      ∀ count ≤ opCount, i2cReadSize bytes count = i2cReadTotal bytes count ∧
        i2cReadTotal bytes count < 2 ^ 31 := by
  intro bytes opCount
  obtain ⟨hdescs, hallocated, hmsgs⟩ : 2 + 6 * opCount ≤ request.payloadSize ∧ _ ∧ _ :=
    i2cOutcome_eq_transfers h
  obtain ⟨hmap, hreads, -⟩ := i2cMessages_spec hmsgs
  have hlt : ∀ count ≤ opCount, i2cReadTotal bytes count < 2 ^ 31 := fun count hcount =>
    @i2cReadTotal_lt request bytes count (by omega)
  refine ⟨hmap, fun i hi => ?_, ?_, fun count hcount => ?_⟩
  · by_contra haddr
    cases (i2cMessages_eq_none.mpr ⟨i, List.mem_range.mpr hi, haddr⟩).symm.trans hmsgs
  · rw [hallocated, i2cReadSize_eq (hlt opCount (Nat.le_refl _))]
    rwa [Nat.zero_add] at hreads
  · exact ⟨i2cReadSize_eq (hlt count hcount), hlt count hcount⟩

end Handler

/-- A descriptor that writes one byte between two that read 2 and 3. -/
def i2cMixed : Message :=
  requestOf 5 [3, 0, 0x50, 0, 1, 0, 2, 0, 0x50, 0, 0, 0, 1, 0, 0x50, 0, 1, 0, 3, 0, 7]

theorem i2cOutcome_reads_tile_mixed :
    i2cOutcome true true (fun _ => 0) i2cMixed
        = .transfers 5 [⟨true, 2, 0⟩, ⟨false, 1, 20⟩, ⟨true, 3, 2⟩] 0x50 ∧
      Tiles 0 (i2cReadBuffers [⟨true, 2, 0⟩, ⟨false, 1, 20⟩, ⟨true, 3, 2⟩]) 5 := by
  have houtcome : i2cOutcome true true (fun _ => 0) i2cMixed
      = .transfers 5 [⟨true, 2, 0⟩, ⟨false, 1, 20⟩, ⟨true, 3, 2⟩] 0x50 := by decide
  obtain ⟨-, -, htiles, -⟩ := i2cOutcome_reads_tile houtcome
  exact ⟨houtcome, htiles⟩

end Greybus
