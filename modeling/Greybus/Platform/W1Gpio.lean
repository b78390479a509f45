import Greybus.Platform.Mikrobus
import Greybus.Reasoning.ShiftRegister

/-!
# The one-wire bus

`w1-gpio.c` drives a one-wire bus over one pin, and `mikrobus_read_block` reads the EEPROM of an
adapter through it.  The master pulls the line low, lets it go, and samples it; how long it waits
tells the device what is meant.
-/

namespace Greybus.Platform

open Reasoning.Memory Reasoning.ShiftRegister

variable {δ : Type*}

/-! ## The code -/

/-- How long the line is pulled low, and how long after that it is sampled, if it is, in rounds of
the delay loop. -/
structure W1Slot where
  low : Nat
  release : Nat
  deriving DecidableEq, Repr

/-- What is on the line: its next state after a slot, and what `gpio_pin_get` returns in it. -/
structure W1Device (δ : Type*) where
  slot : δ → W1Slot → Int × δ

/-- The rounds of the loop in `w1_delay_precise`. -/
def w1DelayPrecise (us : Nat) : Nat :=
  let us := us - 2
  us - us / 4

def writeOneSlot : W1Slot := ⟨w1DelayPrecise 6, w1DelayPrecise 64⟩
def writeZeroSlot : W1Slot := ⟨w1DelayPrecise 60, w1DelayPrecise 10⟩
def readSlot : W1Slot := ⟨w1DelayPrecise 6, w1DelayPrecise 9⟩
def resetSlot : W1Slot := ⟨w1DelayPrecise 500, w1DelayPrecise 70⟩

def w1WriteBit (dev : W1Device δ) (s : δ) (bit : UInt8) : δ :=
  if bit ≠ 0 then (dev.slot s writeOneSlot).2 else (dev.slot s writeZeroSlot).2

def w1ReadBit (dev : W1Device δ) (s : δ) : UInt8 × δ :=
  let (result, s) := dev.slot s readSlot
  (if result % 2 = 1 then 1 else 0, s)

def w1Write8 (dev : W1Device δ) (s : δ) (byte : UInt8) : δ :=
  (List.range 8).foldl (fun s i => w1WriteBit dev s ((byte >>> UInt8.ofNat i) &&& 0x1)) s

/-- A round of the loop in `w1_read_8`. -/
def w1ReadRound (dev : W1Device δ) (r : UInt8 × δ) (_ : Nat) : UInt8 × δ :=
  let res := r.1 >>> 1
  let (bit, s) := w1ReadBit dev r.2
  (if bit ≠ 0 then res ||| 0x80 else res, s)

def w1Read8 (dev : W1Device δ) (s : δ) : UInt8 × δ := (List.range 8).foldl (w1ReadRound dev) (0, s)

/-- `w1_reset_bus`: 0 if a device has answered. -/
def w1ResetBus (dev : W1Device δ) (s : δ) : Int × δ :=
  let (result, s) := dev.slot s resetSlot
  (if result ≠ 0 then 1 else 0, s)

/-- The loop of `mikrobus_read_block`, with `n` rounds left. -/
def readBlockLoop (dev : W1Device δ) (address : Nat) :
    Nat → Nat → Option Block → δ → Option (Option Block × δ)
  | 0, _, rdata, s => some (rdata, s)
  | n + 1, iter, rdata, s =>
    let (byte, s) := w1Read8 dev s
    rdata.bind fun block =>
      if iter < block.length then
        readBlockLoop dev address n (iter + 1)
          (some (block.set iter ⟨byte, some (address + iter)⟩)) s
      else none

/-- `mikrobus_read_block` over the bus; `none` is a store through NULL or outside the block. -/
def w1ReadBlock (dev : W1Device δ) (s : δ) (rdata : Option Block) (count : Nat)
    (address : UInt16) : Option (Int × Option Block × δ) :=
  let (found, s) := w1ResetBus dev s
  if found ≠ 0 then some (-ENODEV, rdata, s)
  else
    let s := w1Write8 dev s 0xcc
    let s := w1Write8 dev s 0xf0
    let s := w1Write8 dev s (address &&& 0xff).toUInt8
    let s := w1Write8 dev s ((address >>> 8) &&& 0xff).toUInt8
    (readBlockLoop dev address.toNat count 0 rdata s).map fun (rdata, s) => (0, rdata, s)

/-! ## An adapter -/

/-- A byte as it goes over the line. -/
def byteBits (b : UInt8) : List Bool := bits b.toBitVec

/-- A device that holds `mem`, as the adapters have it: after a reset that it answers it listens for
32 bits, and when these are to skip the ROM and to read the memory from an address on, it sends that
memory, a bit in each read slot. -/
structure W1Adapter (dev : W1Device δ) (mem : Nat → UInt8) where
  Listening : δ → List Bool → Prop
  -- The bits of the memory are counted from its beginning.
  Sending : δ → Nat → Prop
  reset : ∀ s, (dev.slot s resetSlot).1 = 0 → Listening (dev.slot s resetSlot).2 []
  writeOne : ∀ s bs, bs.length < 32 → Listening s bs →
    Listening (dev.slot s writeOneSlot).2 (bs ++ [true])
  writeZero : ∀ s bs, bs.length < 32 → Listening s bs →
    Listening (dev.slot s writeZeroSlot).2 (bs ++ [false])
  readMemory : ∀ s lo hi, Listening s (byteBits 0xcc ++ byteBits 0xf0 ++ byteBits lo ++ byteBits hi) →
    Sending s (8 * le16 lo hi)
  send : ∀ s n, Sending s n →
    (dev.slot s readSlot).1 = (if (mem (n / 8)).toBitVec.getLsbD (n % 8) then 1 else 0) ∧
      Sending (dev.slot s readSlot).2 (n + 1)

/-! ## Bytes over the line -/

theorem shiftRight_and_one (byte : UInt8) {i : Nat} (hi : i < 8) :
    (byte >>> UInt8.ofNat i) &&& 0x1 ≠ 0 ↔ byte.toBitVec.getLsbD i = true := by
  have hbit : ((byte >>> UInt8.ofNat i) &&& 0x1).toBitVec
      = BitVec.setWidth 8 (BitVec.ofBool (byte.toBitVec.getLsbD i)) := by
    rw [UInt8.toBitVec_and, UInt8.toBitVec_shiftRight, UInt8.toBitVec_ofNat,
      BitVec.and_one_eq_setWidth_ofBool_getLsbD]
    simp [Nat.mod_eq_of_lt hi]
  rw [ne_eq, ← UInt8.toBitVec_inj, hbit]
  cases byte.toBitVec.getLsbD i <;> decide

-- A round of `w1_read_8` shifts in a bit.
theorem toBitVec_shiftIn (res : UInt8) (bit : Bool) :
    (if bit then (res >>> 1) ||| 0x80 else res >>> 1).toBitVec = shiftIn res.toBitVec bit := by
  cases bit with
  | true => rfl
  | false => exact (BitVec.or_zero ..).symm

theorem read_set (env : MikrobusEnv) (address iter : Nat) {block : Block}
    (hiter : iter < block.length) :
    (env.read address iter ++ block.drop iter).set iter
        ⟨env.eeprom (address + iter), some (address + iter)⟩
      = env.read address (iter + 1) ++ block.drop (iter + 1) := by
  rw [List.set_append_right _ _ (by simp), MikrobusEnv.length_read, Nat.sub_self,
    List.drop_eq_getElem_cons hiter, List.set_cons_zero, MikrobusEnv.read, MikrobusEnv.read,
    List.range_succ, List.map_append, List.append_assoc]
  rfl

section Adapter

variable {dev : W1Device δ} {mem : Nat → UInt8} (h : W1Adapter dev mem)

include h

theorem W1Adapter.writeBit {s : δ} {bs : List Bool} (hlength : bs.length < 32)
    (hs : h.Listening s bs) {bit : UInt8} {b : Bool} (hbit : bit ≠ 0 ↔ b = true) :
    h.Listening (w1WriteBit dev s bit) (bs ++ [b]) := by
  rw [w1WriteBit]
  cases b with
  | true =>
    rw [if_pos (hbit.mpr rfl)]
    exact h.writeOne s bs hlength hs
  | false =>
    rw [if_neg fun hne => Bool.false_ne_true (hbit.mp hne)]
    exact h.writeZero s bs hlength hs

-- A byte that is written has come in bit by bit.
theorem W1Adapter.write8 {s : δ} {bs : List Bool} (hlength : bs.length + 8 ≤ 32)
    (hs : h.Listening s bs) (byte : UInt8) :
    h.Listening (w1Write8 dev s byte) (bs ++ byteBits byte) := by
  have hprefix : ∀ k ≤ 8, h.Listening
      ((List.range k).foldl (fun s i => w1WriteBit dev s ((byte >>> UInt8.ofNat i) &&& 0x1)) s)
      (bs ++ (List.range k).map byte.toBitVec.getLsbD) := by
    intro k
    induction k with
    | zero => simpa using hs
    | succ k ih =>
      intro hk
      rw [List.range_succ, List.foldl_append, List.foldl_cons, List.foldl_nil, List.map_append,
        ← List.append_assoc]
      refine h.writeBit ?_ (ih (by omega)) (shiftRight_and_one byte (by omega))
      rw [List.length_append, List.length_map, List.length_range]
      omega
  exact hprefix 8 (Nat.le_refl 8)

-- A byte that is read is the one that the device has come to.
theorem W1Adapter.read8 {s : δ} {a : Nat} (hs : h.Sending s (8 * a)) :
    ∃ s', w1Read8 dev s = (mem a, s') ∧ h.Sending s' (8 * (a + 1)) := by
  have hprefix : ∀ k ≤ 8, ∃ res s', (List.range k).foldl (w1ReadRound dev) (0, s) = (res, s') ∧
      res.toBitVec = ((List.range k).map (mem a).toBitVec.getLsbD).foldl shiftIn 0#8 ∧
      h.Sending s' (8 * a + k) := by
    intro k
    induction k with
    | zero => exact fun _ => ⟨0, s, rfl, rfl, hs⟩
    | succ k ih =>
      intro hk
      obtain ⟨res, s', hfold, hres, hsending⟩ := ih (by omega)
      obtain ⟨hlevel, hnext⟩ := h.send s' _ hsending
      rw [show (8 * a + k) / 8 = a by omega, show (8 * a + k) % 8 = k by omega] at hlevel
      refine ⟨if (mem a).toBitVec.getLsbD k then (res >>> 1) ||| 0x80 else res >>> 1,
        (dev.slot s' readSlot).2, ?_, ?_, hnext⟩
      · rw [List.range_succ, List.foldl_append, hfold, List.foldl_cons, List.foldl_nil]
        simp only [w1ReadRound, w1ReadBit, hlevel]
        cases (mem a).toBitVec.getLsbD k <;> rfl
      · rw [List.range_succ, List.map_append, List.foldl_append, ← hres, toBitVec_shiftIn]
        rfl
  obtain ⟨res, s', hfold, hres, hsending⟩ := hprefix 8 (Nat.le_refl 8)
  refine ⟨s', ?_, hsending⟩
  rw [w1Read8, hfold, UInt8.toBitVec_inj.mp (hres.trans (foldl_shiftIn_bits 0#8 _))]

/-! ## A block over the line -/

-- The loop reads on where it is, as long as the block is long enough.
theorem W1Adapter.readBlockLoop {env : MikrobusEnv} (heeprom : env.eeprom = mem) (block : Block)
    (address : Nat) (n : Nat) : ∀ {iter : Nat} {s : δ}, h.Sending s (8 * (address + iter)) →
      iter + n ≤ block.length → ∃ s', Platform.readBlockLoop dev address n iter
        (some (env.read address iter ++ block.drop iter)) s
          = some (some (env.read address (iter + n) ++ block.drop (iter + n)), s') := by
  induction n with
  | zero => exact fun _ _ => ⟨_, rfl⟩
  | succ n ih =>
    intro iter s hs hlength
    obtain ⟨s', hread, hsending⟩ := h.read8 hs
    have hiter : iter < block.length := by omega
    obtain ⟨s'', hloop⟩ := @ih (iter + 1) _ hsending (by omega)
    refine ⟨s'', ?_⟩
    have hin : iter < (env.read address iter ++ block.drop iter).length := by
      rw [List.length_append, MikrobusEnv.length_read, List.length_drop]
      omega
    simp only [Platform.readBlockLoop, hread, Option.bind_some, if_pos hin, ← heeprom,
      read_set env address iter hiter]
    rw [hloop, Nat.add_right_comm iter 1 n, Nat.add_assoc]

omit h in
-- A block that is too short is left behind.
theorem readBlockLoop_short (address : Nat) (n : Nat) : ∀ {iter : Nat} {block : Block} {s : δ},
    iter ≤ block.length → block.length < iter + n →
      Platform.readBlockLoop dev address n iter (some block) s = none := by
  induction n with
  | zero =>
    intro iter block s hle hlt
    omega
  | succ n ih =>
    intro iter block s hle hlt
    simp only [Platform.readBlockLoop, Option.bind_some]
    split
    next hiter => exact ih (by simp; omega) (by simp; omega)
    next => rfl

-- The address goes out low byte first.
omit h in
theorem le16_address (address : UInt16) :
    le16 (address &&& 0xff).toUInt8 ((address >>> 8) &&& 0xff).toUInt8 = address.toNat := by
  have hlow : (address &&& 0xff).toNat = address.toNat % 256 :=
    Nat.and_two_pow_sub_one_eq_mod address.toNat 8
  have hhigh : ((address >>> 8) &&& 0xff).toNat = address.toNat / 256 % 256 := by
    rw [UInt16.toNat_and, UInt16.toNat_shiftRight]
    exact (Nat.and_two_pow_sub_one_eq_mod _ 8).trans (by rw [Nat.shiftRight_eq_div_pow]; rfl)
  have hbound := address.toNat_lt
  rw [le16, UInt16.toNat_toUInt8, UInt16.toNat_toUInt8, hlow, hhigh]
  omega

/-- Over the bus, `mikrobus_read_block` reads what the EEPROM holds from the address on, with every
bit and byte in its place, and fails when no adapter answers the reset. -/
theorem w1ReadBlock_eq {env : MikrobusEnv} (heeprom : env.eeprom = mem) (reset : BusReset) (s : δ)
    (hpresent : env.present reset = true ↔ (dev.slot s resetSlot).1 = 0) (rdata : Option Block)
    (count : Nat) (address : UInt16) :
    (w1ReadBlock dev s rdata count address).map (fun r => (r.1, r.2.1))
      = mikrobusReadBlock env reset rdata count address.toNat := by
  rw [mikrobusReadBlock]
  by_cases hreset : (dev.slot s resetSlot).1 = 0
  · have hlisten := h.reset s hreset
    have hsending := h.readMemory _ _ _ (h.write8 (by simp [byteBits]) (h.write8 (by simp [byteBits])
      (h.write8 (by simp [byteBits]) (h.write8 (by simp) hlisten 0xcc) 0xf0)
        (address &&& 0xff).toUInt8) ((address >>> 8) &&& 0xff).toUInt8)
    rw [le16_address] at hsending
    have hbus : w1ResetBus dev s = (0, (dev.slot s resetSlot).2) := by simp [w1ResetBus, hreset]
    simp only [w1ReadBlock, hbus, ne_eq, not_true_eq_false, if_false, hpresent.mpr hreset,
      Bool.not_true, Bool.false_eq_true]
    by_cases hcount : count = 0
    · subst hcount
      rfl
    rw [if_neg hcount]
    cases rdata with
    | none =>
      obtain ⟨n, rfl⟩ := Nat.exists_eq_succ_of_ne_zero hcount
      rfl
    | some block =>
      rw [Option.bind_some]
      split
      next hshort =>
        have hlength : block.length < 0 + count := by omega
        rw [readBlockLoop_short address.toNat count (Nat.zero_le _) hlength]
        rfl
      next hfits =>
        have hlength : 0 + count ≤ block.length := by omega
        obtain ⟨s', hloop⟩ := h.readBlockLoop heeprom block address.toNat count hsending hlength
        rw [MikrobusEnv.read, List.range_zero, List.map_nil, List.nil_append, List.drop_zero,
          Nat.zero_add] at hloop
        rw [hloop]
        rfl
  · have habsent : env.present reset = false := by
      rw [← Bool.not_eq_true, hpresent]
      exact hreset
    have hbus : w1ResetBus dev s = (1, (dev.slot s resetSlot).2) := by simp [w1ResetBus, hreset]
    simp only [w1ReadBlock, hbus, habsent]
    rfl

end Adapter

/-! ## The adapter in the data sheet -/

/-- An adapter that has been reset: the bits it has received since, at most 32 of them, and how many
it has sent. -/
structure EepromState where
  received : List Bool
  sent : Nat
  deriving DecidableEq, Repr

/-- The command and the address, when they have come. -/
def EepromState.readAddress (s : EepromState) : Option Nat :=
  if s.received.length = 32 ∧ s.received.take 16 = byteBits 0xcc ++ byteBits 0xf0 then
    some (value (s.received.drop 16))
  else none

/-- An adapter that is there, and holds `mem`; `none` is before the first reset. -/
def eepromDevice (mem : Nat → UInt8) : W1Device (Option EepromState) where
  slot s slot :=
    if slot.low ≥ w1DelayPrecise 480 then (0, some ⟨[], 0⟩)
    else
      match s with
      | none => (1, none)
      | some e =>
        match e.readAddress with
        | some address =>
          let n := 8 * address + e.sent
          (if (mem (n / 8)).toBitVec.getLsbD (n % 8) then 1 else 0, some { e with sent := e.sent + 1 })
        | none => (1, some { e with received := e.received ++ [decide (slot.low < w1DelayPrecise 15)] })

/-- It is an adapter as `mikrobus_read_block` expects it. -/
def eepromAdapter (mem : Nat → UInt8) : W1Adapter (eepromDevice mem) mem where
  Listening s bs := s = some ⟨bs, 0⟩
  Sending s n := ∃ e address, s = some e ∧ e.readAddress = some address ∧ n = 8 * address + e.sent
  reset s _ := rfl
  writeOne s bs hbs hs := by
    have hnone : EepromState.readAddress ⟨bs, 0⟩ = none := if_neg fun h => by
      have hlength := h.1
      simp only at hlength
      omega
    subst hs
    simp only [eepromDevice, hnone]
    rfl
  writeZero s bs hbs hs := by
    have hnone : EepromState.readAddress ⟨bs, 0⟩ = none := if_neg fun h => by
      have hlength := h.1
      simp only at hlength
      omega
    subst hs
    simp only [eepromDevice, hnone]
    rfl
  readMemory s lo hi hs := by
    refine ⟨_, le16 lo hi, hs, ?_, rfl⟩
    have hcommand : (byteBits 0xcc ++ byteBits 0xf0 ++ byteBits lo ++ byteBits hi).take 16
        = byteBits 0xcc ++ byteBits 0xf0 := by
      rw [List.append_assoc]
      exact List.take_left' rfl
    have haddress : (byteBits 0xcc ++ byteBits 0xf0 ++ byteBits lo ++ byteBits hi).drop 16
        = byteBits lo ++ byteBits hi := by
      rw [List.append_assoc]
      exact List.drop_left' rfl
    rw [EepromState.readAddress, if_pos ⟨by simp [byteBits], hcommand⟩, haddress, value_append,
      byteBits, byteBits, value_bits, value_bits, length_bits]
    rfl
  send s n hs := by
    obtain ⟨e, address, rfl, haddress, rfl⟩ := hs
    simp only [eepromDevice, haddress]
    exact ⟨rfl, _, address, rfl, haddress, rfl⟩

-- Three bytes from an address on, of an EEPROM that holds its own addresses.
theorem w1ReadBlock_eq_addresses :
    (w1ReadBlock (eepromDevice fun i => UInt8.ofNat i) none (some (uninit (fun _ => 0xff) 4)) 3
        0x0102).map (fun r => (r.1, r.2.1))
      = some (0, some [⟨2, some 258⟩, ⟨3, some 259⟩, ⟨4, some 260⟩, ⟨0xff, none⟩]) := by
  have heeprom : ({ blankAdapter with eeprom := fun i => UInt8.ofNat i } : MikrobusEnv).eeprom
      = fun i => UInt8.ofNat i := rfl
  rw [w1ReadBlock_eq (eepromAdapter fun i => UInt8.ofNat i) heeprom .header none (by decide)]
  rfl

end Greybus.Platform
