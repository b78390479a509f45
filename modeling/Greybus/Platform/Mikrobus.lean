import Greybus.Basic
import Greybus.Reasoning.Memory

/-!
# The manifest fragment of a Click ID adapter

`mikrobusid_init` reads the manifest fragment of an add-on board from the EEPROM of its adapter, the
header first and then as much as the header says, and `manifest_get_fragment_clickid` hands it out.
Memory that nothing has been stored to may hold anything.
-/

namespace Greybus.Platform

open Reasoning.Memory

/-! ## The code -/

/-- A byte in memory, and the address in the EEPROM if it has been read from there. -/
structure Cell where
  value : UInt8
  address : Option Nat
  deriving DecidableEq, Repr

/-- A block on the heap or the stack. -/
abbrev Block := List Cell

/-- What memory holds before anything is stored to it. -/
structure Garbage where
  heap : Nat → UInt8
  stack : Nat → UInt8

/-- A new block of `size` bytes. -/
def uninit (garbage : Nat → UInt8) (size : Nat) : Block :=
  (List.range size).map fun i => ⟨garbage i, none⟩

/-- The calls of `reset_bus`. -/
inductive BusReset where
  | probe
  | startAddr
  | header
  | manifest
  deriving DecidableEq, Repr

/-- What `mikrobusid_init` meets: the device tree, what `gpio_pin_configure` returns, the memory it
gets, the resets of the bus that the adapter answers, and the EEPROM. -/
structure MikrobusEnv where
  csGpio : Bool
  configureCs : Int
  rstGpio : Bool
  configureRst : Int
  mallocMaster : Bool
  mallocContext : Bool
  -- The allocation of `w1_gpio_init`, whose result is not looked at.
  mallocIo : Bool
  mallocHeader : Bool
  reallocManifest : Bool
  present : BusReset → Bool
  eeprom : Nat → UInt8

/-- The bytes that `read_8` gives from an address on. -/
def MikrobusEnv.read (env : MikrobusEnv) (address count : Nat) : Block :=
  (List.range count).map fun i => ⟨env.eeprom (address + i), some (address + i)⟩

/-- `mikrobus_read_block` into `rdata`; `none` is a store through NULL or outside the block. -/
def mikrobusReadBlock (env : MikrobusEnv) (reset : BusReset) (rdata : Option Block)
    (count address : Nat) : Option (Int × Option Block) :=
  if !env.present reset then some (-ENODEV, rdata)
  else if count = 0 then some (0, rdata)
  else
    rdata.bind fun block =>
      if block.length < count then none
      else some (0, some (env.read address count ++ block.drop count))

/-- `mikrobus_manifest_start_addr`, from the first byte of the user EEPROM. -/
def manifestStartAddr (b : UInt8) : Nat := if b > 10 then 0x0000 else b.toNat * 256

/-- `size` of the `struct greybus_manifest_header` at the front of a block. -/
def manifestHeaderSize (block : Block) : Option Nat :=
  block[0]?.bind fun lo => block[1]?.map fun hi => le16 lo.value hi.value

/-- `realloc` to `size` bytes; a failure leaves NULL in the slot. -/
def reallocBlock (ok : Bool) (garbage : Nat → UInt8) (block : Block) (size : Nat) : Option Block :=
  if ok then some ((List.range size).map fun i => block[i]?.getD ⟨garbage i, none⟩) else none

/-- `mikrobusid_init` from the header on; `slot` is `greybus_manifest_click_fragment_clickid` at the
index of the device. -/
def readManifest (env : MikrobusEnv) (g : Garbage) (slot : Option Block) (startAddr : Nat) :
    Option (Int × Option Block) :=
  (mikrobusReadBlock env .header slot 4 startAddr).bind fun (_, slot) =>
    slot.bind fun header =>
    header[2]?.bind fun versionMajor =>
    if versionMajor.value > 0 then some (0, some header)
    else
      (manifestHeaderSize header).bind fun manifestSize =>
      let slot := reallocBlock env.reallocManifest g.heap header manifestSize
      (mikrobusReadBlock env .manifest slot manifestSize startAddr).map fun (_, slot) => (0, slot)

/-- `mikrobusid_init` from the first reset of the bus on. -/
def probeAdapter (env : MikrobusEnv) (g : Garbage) (slot : Option Block) :
    Option (Int × Option Block) :=
  -- Without the functions of the bus, `reset_bus` is called through NULL.
  if !env.mallocIo then none
  else if !env.present .probe then some (-ENODEV, slot)
  else
    (mikrobusReadBlock env .startAddr (some (uninit g.stack 18)) 18 0x0a0a).bind fun (_, bytes) =>
      (bytes.bind (·[0]?)).bind fun b => readManifest env g slot (manifestStartAddr b.value)

/-- `mikrobusid_init`: what it returns, and the slot of the device afterwards, which is NULL
before. -/
def mikrobusidInit (env : MikrobusEnv) (g : Garbage) : Option (Int × Option Block) :=
  if !env.csGpio then some (-EINVAL, none)
  else if env.configureCs ≠ 0 then some (env.configureCs, none)
  else if !env.rstGpio then some (-EINVAL, none)
  else if env.configureRst ≠ 0 then some (env.configureRst, none)
  else if !env.mallocMaster then some (-ENOMEM, none)
  else if !env.mallocContext then some (-ENOMEM, none)
  -- Entering and leaving the ID mode fail without a context only.
  else probeAdapter env g (if env.mallocHeader then some (uninit g.heap 4) else none)

/-- What `manifest_get_fragment_clickid` returns and stores. -/
structure ClickFragment where
  ret : Int
  mnfb : Option Block
  mnfbSize : Nat
  deriving DecidableEq, Repr

/-- `manifest_get_fragment_clickid`; `none` is a read through NULL or outside the block. -/
def manifestGetFragmentClickid (slot : Option Block) : Option ClickFragment :=
  slot.bind fun header => (manifestHeaderSize header).map fun size => ⟨0, slot, size⟩

/-- The fragment that is handed out after the initialization. -/
def clickFragment (env : MikrobusEnv) (g : Garbage) : Option ClickFragment :=
  (mikrobusidInit env g).bind fun (_, slot) => manifestGetFragmentClickid slot

/-- There is an error, or a block of at least the size given, as much of which has been read from
the EEPROM. -/
def FragmentSound (env : MikrobusEnv) (fragment : Option ClickFragment) : Prop :=
  ∃ f, fragment = some f ∧ (f.ret ≠ 0 ∨ ∃ block, f.mnfb = some block ∧ f.mnfbSize ≤ block.length ∧
    ∀ cell ∈ block.take f.mnfbSize, ∃ a, cell = ⟨env.eeprom a, some a⟩)

/-! ## Blocks -/

section Blocks

variable {env : MikrobusEnv} {garbage : Nat → UInt8} {startAddr size count : Nat}
  {slot : Option Block}

@[simp] theorem length_uninit : (uninit garbage size).length = size := by
  rw [uninit, List.length_map, List.length_range]

@[simp] theorem MikrobusEnv.length_read : (env.read startAddr count).length = count := by
  rw [MikrobusEnv.read, List.length_map, List.length_range]

theorem MikrobusEnv.getElem?_read {i : Nat} (hi : i < count) :
    (env.read startAddr count)[i]? = some ⟨env.eeprom (startAddr + i), some (startAddr + i)⟩ := by
  rw [MikrobusEnv.read, List.getElem?_map, List.getElem?_range hi, Option.map_some]

theorem mikrobusReadBlock_absent {reset : BusReset} (h : env.present reset = false) :
    mikrobusReadBlock env reset slot count startAddr = some (-ENODEV, slot) := by
  rw [mikrobusReadBlock, h]
  rfl

-- A block that is read over its whole length.
theorem mikrobusReadBlock_full {reset : BusReset} {block : Block} (h : env.present reset = true)
    (hlength : block.length = count) :
    mikrobusReadBlock env reset (some block) count startAddr
      = some (0, some (env.read startAddr count)) := by
  rw [mikrobusReadBlock, h]
  by_cases hcount : count = 0
  · subst hcount
    rw [List.length_eq_zero_iff.mp hlength]
    rfl
  · simp [hcount, hlength, List.drop_of_length_le]

theorem manifestHeaderSize_of_short {block : Block} (h : block.length < 2) :
    manifestHeaderSize block = none := by
  match block, h with
  | [], _ => rfl
  | [_], _ => rfl

theorem manifestHeaderSize_read (hcount : 2 ≤ count) :
    manifestHeaderSize (env.read startAddr count)
      = some (le16 (env.eeprom startAddr) (env.eeprom (startAddr + 1))) := by
  rw [manifestHeaderSize, MikrobusEnv.getElem?_read (by omega),
    MikrobusEnv.getElem?_read (by omega)]
  rfl

theorem length_reallocBlock {block block' : Block} {ok : Bool}
    (h : reallocBlock ok garbage block size = some block') : block'.length = size := by
  obtain ⟨-, h⟩ := Option.ite_none_right_eq_some.mp h
  obtain rfl := Option.some.inj h
  rw [List.length_map, List.length_range]

-- Shrinking keeps what has been read, growing adds what has not.
theorem reallocBlock_read_of_le (hsize : size ≤ count) :
    reallocBlock true garbage (env.read startAddr count) size = some (env.read startAddr size) := by
  rw [reallocBlock, if_pos rfl]
  refine congrArg some (List.map_congr_left fun i hi => ?_)
  rw [MikrobusEnv.getElem?_read (lt_of_lt_of_le (List.mem_range.mp hi) hsize)]
  rfl

theorem mem_reallocBlock_of_lt {block' : Block} (hsize : count < size)
    (h : reallocBlock true garbage (env.read startAddr count) size = some block') :
    (⟨garbage count, none⟩ : Cell) ∈ block' := by
  rw [reallocBlock, if_pos rfl] at h
  obtain rfl := Option.some.inj h
  refine List.mem_map.mpr ⟨count, List.mem_range.mpr hsize, ?_⟩
  rw [List.getElem?_eq_none (by simp)]
  rfl

theorem manifestHeaderSize_reallocBlock {block' : Block} (hcount : 2 ≤ count) (hsize : 2 ≤ size)
    (h : reallocBlock true garbage (env.read startAddr count) size = some block') :
    manifestHeaderSize block'
      = some (le16 (env.eeprom startAddr) (env.eeprom (startAddr + 1))) := by
  rw [reallocBlock, if_pos rfl] at h
  obtain rfl := Option.some.inj h
  rw [manifestHeaderSize, List.getElem?_map, List.getElem?_range (by omega), List.getElem?_map,
    List.getElem?_range (by omega)]
  simp only [Option.map_some, MikrobusEnv.getElem?_read (show 0 < count by omega),
    MikrobusEnv.getElem?_read (show 1 < count by omega)]
  rfl

end Blocks

/-! ## What is handed out -/

section Sound

variable {env : MikrobusEnv} {g : Garbage} {startAddr size count : Nat} {slot : Option Block}
  {block : Block}

-- `manifest_get_fragment_clickid` itself has no error.
theorem fragmentSound_clickid_iff :
    FragmentSound env (manifestGetFragmentClickid slot) ↔
      ∃ block size, slot = some block ∧ manifestHeaderSize block = some size ∧ size ≤ block.length ∧
        ∀ cell ∈ block.take size, ∃ a, cell = ⟨env.eeprom a, some a⟩ := by
  constructor
  · rintro ⟨f, hf, hsound⟩
    obtain ⟨block, rfl, hf⟩ := Option.bind_eq_some_iff.mp hf
    obtain ⟨size, hsize, rfl⟩ := Option.map_eq_some_iff.mp hf
    rcases hsound with hret | ⟨block', hblock, hle, hread⟩
    · exact absurd rfl hret
    · obtain rfl := Option.some.inj hblock
      exact ⟨block, size, rfl, hsize, hle, hread⟩
  · rintro ⟨block, size, rfl, hsize, hle, hread⟩
    refine ⟨⟨0, some block, size⟩, ?_, .inr ⟨block, rfl, hle, hread⟩⟩
    rw [manifestGetFragmentClickid, Option.bind_some, hsize, Option.map_some]

theorem not_sound_none : ¬ FragmentSound env none := by
  rintro ⟨f, hf, -⟩
  cases hf

theorem not_sound_null : ¬ FragmentSound env (manifestGetFragmentClickid none) :=
  not_sound_none

theorem not_sound_of_short (h : block.length < 2) :
    ¬ FragmentSound env (manifestGetFragmentClickid (some block)) := by
  rw [fragmentSound_clickid_iff]
  rintro ⟨block', size, hblock, hsize, -⟩
  obtain rfl := Option.some.inj hblock
  rw [manifestHeaderSize_of_short h] at hsize
  cases hsize

theorem sound_read_iff (hcount : 2 ≤ count) :
    FragmentSound env (manifestGetFragmentClickid (some (env.read startAddr count))) ↔
      le16 (env.eeprom startAddr) (env.eeprom (startAddr + 1)) ≤ count := by
  rw [fragmentSound_clickid_iff]
  constructor
  · rintro ⟨block, size, hblock, hsize, hle, -⟩
    obtain rfl := Option.some.inj hblock
    rw [manifestHeaderSize_read hcount] at hsize
    obtain rfl := Option.some.inj hsize
    rwa [MikrobusEnv.length_read] at hle
  · intro hle
    refine ⟨_, _, rfl, manifestHeaderSize_read hcount, ?_, fun cell hcell => ?_⟩
    · rwa [MikrobusEnv.length_read]
    · obtain ⟨i, -, rfl⟩ := List.mem_map.mp (List.mem_of_mem_take hcell)
      exact ⟨_, rfl⟩

/-- The fragment at an address of the EEPROM is read whole, or its header is all that it has. -/
def MikrobusEnv.Fits (env : MikrobusEnv) (startAddr : Nat) : Prop :=
  let size := le16 (env.eeprom startAddr) (env.eeprom (startAddr + 1))
  if env.eeprom (startAddr + 2) > 0 then size ≤ 4
  else 2 ≤ size ∧ env.reallocManifest = true ∧ (env.present .manifest = true ∨ size ≤ 4)

-- What becomes of the slot once the header has been read.
theorem readManifest_header (hheader : env.present .header = true) (slot : Block)
    (hslot : slot.length = 4) :
    readManifest env g (some slot) startAddr =
      if env.eeprom (startAddr + 2) > 0 then some (0, some (env.read startAddr 4))
      else
        let size := le16 (env.eeprom startAddr) (env.eeprom (startAddr + 1))
        (mikrobusReadBlock env .manifest
            (reallocBlock env.reallocManifest g.heap (env.read startAddr 4) size) size
            startAddr).map fun r => (0, r.2) := by
  rw [readManifest, mikrobusReadBlock_full hheader hslot]
  simp only [Option.bind_some, MikrobusEnv.getElem?_read (show 2 < 4 by decide),
    manifestHeaderSize_read (show 2 ≤ 4 by decide)]

-- Without a block there is nothing to hand out, whether or not the adapter answers.
theorem clickid_readBlock_null {reset : BusReset} :
    ((mikrobusReadBlock env reset none count startAddr).bind fun r =>
      manifestGetFragmentClickid r.2) = none := by
  rw [mikrobusReadBlock]
  split
  next => rfl
  split
  next => rfl
  next => rfl

-- A block that has grown and is not read again is handed out with bytes that nothing is stored to.
theorem not_sound_grown (hsize : 4 < le16 (env.eeprom startAddr) (env.eeprom (startAddr + 1)))
    (hblock : reallocBlock true g.heap (env.read startAddr 4)
      (le16 (env.eeprom startAddr) (env.eeprom (startAddr + 1))) = some block) :
    ¬ FragmentSound env (manifestGetFragmentClickid (some block)) := by
  rw [fragmentSound_clickid_iff]
  rintro ⟨block', size, hsome, hhdr, -, hread⟩
  obtain rfl := Option.some.inj hsome
  rw [manifestHeaderSize_reallocBlock (by decide) (by omega) hblock] at hhdr
  obtain rfl := Option.some.inj hhdr
  rw [List.take_of_length_le (Nat.le_of_eq (length_reallocBlock hblock))] at hread
  obtain ⟨a, ha⟩ := hread _ (mem_reallocBlock_of_lt hsize hblock)
  have haddress := congrArg Cell.address ha
  cases haddress

theorem sound_manifest_iff :
    let size := le16 (env.eeprom startAddr) (env.eeprom (startAddr + 1))
    FragmentSound env ((mikrobusReadBlock env .manifest
        (reallocBlock env.reallocManifest g.heap (env.read startAddr 4) size) size startAddr).bind
          fun r => manifestGetFragmentClickid r.2) ↔
      2 ≤ size ∧ env.reallocManifest = true ∧ (env.present .manifest = true ∨ size ≤ 4) := by
  intro size
  cases env.reallocManifest with
  | false =>
    refine iff_of_false (fun h => ?_) fun h => Bool.false_ne_true h.2.1
    rw [show reallocBlock false g.heap (env.read startAddr 4) size = none from rfl,
      clickid_readBlock_null] at h
    exact not_sound_none h
  | true =>
    obtain ⟨block, hblock⟩ : ∃ block,
        reallocBlock true g.heap (env.read startAddr 4) size = some block := ⟨_, rfl⟩
    have hlength := length_reallocBlock hblock
    rw [hblock]
    cases hpresent : env.present .manifest with
    | true =>
      rw [mikrobusReadBlock_full hpresent hlength, Option.bind_some]
      by_cases hsize : 2 ≤ size
      · exact iff_of_true ((sound_read_iff hsize).mpr (Nat.le_refl size)) ⟨hsize, rfl, .inl rfl⟩
      · refine iff_of_false (not_sound_of_short ?_) fun h => hsize h.1
        rw [MikrobusEnv.length_read]
        omega
    | false =>
      rw [mikrobusReadBlock_absent hpresent, Option.bind_some]
      by_cases hsize : 2 ≤ size
      · by_cases hfits : size ≤ 4
        · obtain rfl := Option.some.inj (hblock.symm.trans (reallocBlock_read_of_le hfits))
          exact iff_of_true ((sound_read_iff hsize).mpr (Nat.le_refl size))
            ⟨hsize, rfl, .inr hfits⟩
        · refine iff_of_false (not_sound_grown (Nat.not_le.mp hfits) hblock) fun h => ?_
          exact h.2.2.elim Bool.false_ne_true hfits
      · refine iff_of_false (not_sound_of_short ?_) fun h => hsize h.1
        omega

theorem sound_readManifest_iff (hheader : env.present .header = true) :
    FragmentSound env ((readManifest env g (some (uninit g.heap 4)) startAddr).bind fun r =>
        manifestGetFragmentClickid r.2) ↔ env.Fits startAddr := by
  rw [readManifest_header hheader _ length_uninit, MikrobusEnv.Fits]
  by_cases hmajor : env.eeprom (startAddr + 2) > 0
  · rw [if_pos hmajor, if_pos hmajor]
    exact sound_read_iff (show 2 ≤ 4 by decide)
  · rw [if_neg hmajor, if_neg hmajor, Option.bind_map]
    exact sound_manifest_iff

-- Without the memory for the header, the initialization leaves NULL or does not end.
theorem readManifest_null : readManifest env g none startAddr = none := by
  rw [readManifest, mikrobusReadBlock]
  split
  next => rfl
  next => rfl

end Sound

/-! ## The initialization -/

section Init

variable {env : MikrobusEnv} {g : Garbage}

/-- The device tree has the pins, memory is there, and the adapter answers until its header has been
read. -/
structure MikrobusEnv.ReadsHeader (env : MikrobusEnv) : Prop where
  csGpio : env.csGpio = true
  configureCs : env.configureCs = 0
  rstGpio : env.rstGpio = true
  configureRst : env.configureRst = 0
  mallocMaster : env.mallocMaster = true
  mallocContext : env.mallocContext = true
  mallocIo : env.mallocIo = true
  mallocHeader : env.mallocHeader = true
  probe : env.present .probe = true
  header : env.present .header = true

/-- The byte that the start address comes from: of the user EEPROM, or of the stack if the adapter
does not answer. -/
def startByte (env : MikrobusEnv) (g : Garbage) : UInt8 :=
  if env.present .startAddr then env.eeprom 0x0a0a else g.stack 0

theorem probeAdapter_eq {slot : Option Block} (hio : env.mallocIo = true)
    (hprobe : env.present .probe = true) :
    probeAdapter env g slot = readManifest env g slot (manifestStartAddr (startByte env g)) := by
  rw [probeAdapter, hio, hprobe, startByte]
  cases hpresent : env.present .startAddr with
  | true =>
    rw [mikrobusReadBlock_full hpresent length_uninit]
    rfl
  | false =>
    rw [mikrobusReadBlock_absent hpresent]
    rfl

/-- Memory that reads as a header of size 1 and major version 1, below a stack of one byte value. -/
def headerGarbage (b : UInt8) : Garbage where
  heap i := if i = 0 ∨ i = 2 then 1 else 0
  stack _ := b

-- A header that has not been read is as good as any.
theorem not_sound_uninit {b : UInt8} :
    ¬ FragmentSound env (manifestGetFragmentClickid (some (uninit (headerGarbage b).heap 4))) := by
  rw [fragmentSound_clickid_iff]
  rintro ⟨block, size, hblock, hsize, -, hread⟩
  obtain rfl := Option.some.inj hblock
  obtain rfl : 1 = size := Option.some.inj hsize
  obtain ⟨a, ha⟩ := hread ⟨1, none⟩ (List.mem_cons_self ..)
  have haddress := congrArg Cell.address ha
  cases haddress

-- Such a header is too new, and the initialization leaves it.
theorem readManifest_headerGarbage {b : UInt8} {startAddr : Nat}
    (h : env.present .header = false) :
    readManifest env (headerGarbage b) (some (uninit (headerGarbage b).heap 4)) startAddr =
      some (0, some (uninit (headerGarbage b).heap 4)) := by
  rw [readManifest, mikrobusReadBlock_absent h]
  rfl

theorem clickFragment_of_readsHeader (h : env.ReadsHeader) :
    clickFragment env g =
      (readManifest env g (some (uninit g.heap 4)) (manifestStartAddr (startByte env g))).bind
        fun r => manifestGetFragmentClickid r.2 := by
  have hinit : mikrobusidInit env g = probeAdapter env g (some (uninit g.heap 4)) := by
    simp only [mikrobusidInit, h.csGpio, h.configureCs, h.rstGpio, h.configureRst, h.mallocMaster,
      h.mallocContext, h.mallocHeader, Bool.not_true, Bool.false_eq_true, ne_eq, not_true_eq_false,
      if_false, if_true]
  rw [clickFragment, hinit, probeAdapter_eq h.mallocIo h.probe]

-- Whatever ends the probe before the header has been read leaves NULL in the slot, or the block as
-- `malloc` gave it.
theorem adapter_of_sound {b : UInt8}
    (h : FragmentSound env ((probeAdapter env (headerGarbage b)
      (if env.mallocHeader then some (uninit (headerGarbage b).heap 4) else none)).bind
        fun r => manifestGetFragmentClickid r.2)) :
    env.mallocIo = true ∧ env.present .probe = true ∧ env.mallocHeader = true ∧
      env.present .header = true := by
  cases hio : env.mallocIo with
  | false =>
    rw [probeAdapter, hio] at h
    exact absurd h not_sound_none
  | true =>
    cases hprobe : env.present .probe with
    | false =>
      rw [probeAdapter, hio, hprobe] at h
      cases hmalloc : env.mallocHeader with
      | false =>
        rw [hmalloc] at h
        exact absurd h not_sound_null
      | true =>
        rw [hmalloc] at h
        exact absurd h not_sound_uninit
    | true =>
      rw [probeAdapter_eq hio hprobe] at h
      cases hmalloc : env.mallocHeader with
      | false =>
        rw [hmalloc, if_neg Bool.false_ne_true, readManifest_null] at h
        exact absurd h not_sound_none
      | true =>
        rw [hmalloc, if_pos rfl] at h
        cases hheader : env.present .header with
        | false =>
          rw [readManifest_headerGarbage hheader] at h
          exact absurd h not_sound_uninit
        | true => exact ⟨rfl, rfl, rfl, rfl⟩

-- The exits before that leave NULL in the slot.
theorem readsHeader_of_sound {b : UInt8}
    (h : FragmentSound env (clickFragment env (headerGarbage b))) : env.ReadsHeader := by
  rw [clickFragment, mikrobusidInit] at h
  split at h
  next => exact absurd h not_sound_null
  next hcs =>
  split at h
  next => exact absurd h not_sound_null
  next hconfigureCs =>
  split at h
  next => exact absurd h not_sound_null
  next hrst =>
  split at h
  next => exact absurd h not_sound_null
  next hconfigureRst =>
  split at h
  next => exact absurd h not_sound_null
  next hmaster =>
  split at h
  next => exact absurd h not_sound_null
  next hcontext =>
  obtain ⟨hio, hprobe, hmalloc, hheader⟩ := adapter_of_sound h
  simp only [Bool.not_eq_true, Bool.not_eq_false', not_not, ne_eq] at *
  exact ⟨hcs, hconfigureCs, hrst, hconfigureRst, hmaster, hcontext, hio, hmalloc, hprobe, hheader⟩

/-- Whatever memory held before, the fragment that `manifest_get_fragment_clickid` hands out has
been read from the EEPROM as far as its size goes, exactly when the initialization gets to the
header, and the fragment fits at every start address that the initialization can arrive at. -/
theorem clickFragment_sound_iff :
    (∀ g, FragmentSound env (clickFragment env g)) ↔
      env.ReadsHeader ∧
        ∀ b, (env.present .startAddr = true → b = env.eeprom 0x0a0a) →
          env.Fits (manifestStartAddr b) := by
  constructor
  · intro h
    have hreads := readsHeader_of_sound (h (headerGarbage 0))
    refine ⟨hreads, fun b hb => ?_⟩
    have hsound := h ⟨fun _ => 0, fun _ => b⟩
    rw [clickFragment_of_readsHeader hreads, sound_readManifest_iff hreads.header] at hsound
    have hbyte : startByte env ⟨fun _ => 0, fun _ => b⟩ = b := by
      rw [startByte]
      split
      next hpresent => exact (hb hpresent).symm
      next => rfl
    rwa [hbyte] at hsound
  · rintro ⟨hreads, hfits⟩ g
    rw [clickFragment_of_readsHeader hreads, sound_readManifest_iff hreads.header]
    exact hfits _ fun hpresent => if_pos hpresent

/-- Everything is there, and the EEPROM has never been written. -/
def blankAdapter : MikrobusEnv where
  csGpio := true
  configureCs := 0
  rstGpio := true
  configureRst := 0
  mallocMaster := true
  mallocContext := true
  mallocIo := true
  mallocHeader := true
  reallocManifest := true
  present _ := true
  eeprom _ := 0xff

/-- A header of ones is too new, and is handed out as four bytes of 65535; with no board at all
these are four bytes of the heap. -/
theorem clickFragment_beyond :
    clickFragment blankAdapter ⟨fun _ => 0xff, fun _ => 0⟩
        = some ⟨0, some (blankAdapter.read 0 4), 65535⟩ ∧
      ¬ FragmentSound blankAdapter (clickFragment blankAdapter ⟨fun _ => 0xff, fun _ => 0⟩) ∧
      clickFragment { blankAdapter with present := fun _ => false } ⟨fun _ => 0xff, fun _ => 0⟩
        = some ⟨0, some (uninit (fun _ => 0xff) 4), 65535⟩ := by
  refine ⟨rfl, fun h => ?_, rfl⟩
  have hsound : FragmentSound blankAdapter
      (manifestGetFragmentClickid (some (blankAdapter.read 0 4))) := h
  obtain ⟨block, size, hblock, hsize, hle, -⟩ := fragmentSound_clickid_iff.mp hsound
  obtain rfl := Option.some.inj hblock
  obtain rfl : 65535 = size := Option.some.inj hsize
  exact absurd hle (by decide)

-- A fragment of twelve bytes at the start of the EEPROM is read whole.
example :
    clickFragment { blankAdapter with eeprom := fun i => if i = 0 then 12 else 0 }
        ⟨fun _ => 0xff, fun _ => 0xff⟩
      = some ⟨0, some (({ blankAdapter with eeprom := fun i => if i = 0 then 12 else 0 }).read 0 12),
          12⟩ :=
  rfl

end Init

end Greybus.Platform
