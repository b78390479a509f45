import Greybus.Basic
import Greybus.Manifest.State
import Greybus.Reasoning.Memory

/-!
# Manifest descriptors

The descriptor types with their sizes, and the well-formed descriptor as a value: its bytes, with
the proof that the parser's checks hold of them.
-/

namespace Greybus

open Reasoning.Memory

/-- The build options that the manifest code depends on. -/
structure Config where
  -- `CONFIG_GREYBUS_MIKROBUS`.
  mikrobus : Bool
  -- The width of `size_t`.
  sizeBits : Nat
  le_sizeBits : 32 ≤ sizeBits

/-- The 64-bit host build with mikroBUS support. -/
def Config.native : Config := ⟨true, 64, by decide⟩

/-- Subtraction of `size_t` values. -/
def Config.sizeSub (cfg : Config) (a b : Nat) : Nat :=
  (a + (2 ^ cfg.sizeBits - b % 2 ^ cfg.sizeBits)) % 2 ^ cfg.sizeBits

/-- Addition of `size_t` values. -/
def Config.sizeAdd (cfg : Config) (a b : Nat) : Nat := (a + b) % 2 ^ cfg.sizeBits

def greybusVersionMajor : UInt8 := 0x00

/-- `sizeof(struct greybus_manifest_header)`. -/
def sizeofManifestHeader : Nat := 4

/-- `sizeof(struct greybus_descriptor_header)`. -/
def sizeofDescriptorHeader : Nat := 4

/-- `enum greybus_descriptor_type`; every other byte is handled as `invalid`. -/
inductive DescriptorType where
  | invalid | interface | string | bundle | cport | mikrobus | property | device
  deriving DecidableEq, Repr

def DescriptorType.ofByte (b : UInt8) : DescriptorType :=
  match b.toNat with
  | 0x01 => .interface
  | 0x02 => .string
  | 0x03 => .bundle
  | 0x04 => .cport
  | 0x05 => .mikrobus
  | 0x06 => .property
  | 0x07 => .device
  | _ => .invalid

/-- `sizeof` of the type's body structure. -/
def DescriptorType.sizeofBody : DescriptorType → Nat
  | .invalid => 0
  | .interface => 4
  | .string => 2
  | .bundle => 4
  | .cport => 4
  | .mikrobus => 12
  | .property => 4
  | .device => 16

def align (x : Nat) : Nat := if x % 4 ≠ 0 then x - x % 4 + 4 else x

theorem le_align (x : Nat) : x ≤ align x := by
  unfold align
  split <;> omega

theorem align_dvd (x : Nat) : 4 ∣ align x := by
  unfold align
  split <;> omega

/-! ## Fields of a byte sequence read as a descriptor -/

/-- The byte at offset `i`. -/
def fieldAt (bs : List UInt8) (i : Nat) : UInt8 := bs.getD i 0

def declaredSize (bs : List UInt8) : Nat := le16 (fieldAt bs 0) (fieldAt bs 1)

def typeOf (bs : List UInt8) : DescriptorType := .ofByte (fieldAt bs 2)

/-- The least size of a descriptor that starts with these bytes, if its type is recognised. -/
def minimumSize (cfg : Config) (bs : List UInt8) : Option Nat :=
  match typeOf bs with
  | .invalid => none
  | .mikrobus =>
    if cfg.mikrobus then some (sizeofDescriptorHeader + DescriptorType.sizeofBody .mikrobus) else none
  | .string =>
    some (align (sizeofDescriptorHeader + DescriptorType.sizeofBody .string
      + (fieldAt bs 4).toNat))
  | .property =>
    some (align (sizeofDescriptorHeader + DescriptorType.sizeofBody .property
      + (fieldAt bs 4).toNat))
  | t => some (sizeofDescriptorHeader + t.sizeofBody)

/-- The bytes are one descriptor: of a recognised type, as long as they say, and long enough. -/
def WellFormed (cfg : Config) (bs : List UInt8) : Prop :=
  declaredSize bs = bs.length ∧ ∃ m, minimumSize cfg bs = some m ∧ m ≤ bs.length

instance (cfg : Config) (bs : List UInt8) : Decidable (WellFormed cfg bs) :=
  match h : minimumSize cfg bs with
  | none => .isFalse fun hw => by simp [WellFormed, h] at hw
  | some m =>
    decidable_of_iff (declaredSize bs = bs.length ∧ m ≤ bs.length) (by simp [WellFormed, h])

/-- A well-formed descriptor. -/
@[ext] structure Descriptor (cfg : Config) where
  bytes : List UInt8
  wf : WellFormed cfg bytes

namespace Descriptor

variable {cfg : Config}

def type (d : Descriptor cfg) : DescriptorType := typeOf d.bytes

def size (d : Descriptor cfg) : Nat := d.bytes.length

/-- A sequence of descriptors as it lies in a manifest. -/
def encode (ds : List (Descriptor cfg)) : List UInt8 := ds.flatMap bytes

@[simp] theorem encode_nil : encode ([] : List (Descriptor cfg)) = [] := rfl

@[simp] theorem encode_cons (d : Descriptor cfg) (ds : List (Descriptor cfg)) :
    encode (d :: ds) = d.bytes ++ encode ds := rfl

@[simp] theorem encode_append (ds es : List (Descriptor cfg)) :
    encode (ds ++ es) = encode ds ++ encode es := by
  simp [encode]

/-- The entry that a CPORT descriptor adds to the list. -/
def cport? (d : Descriptor cfg) : Option GbCport :=
  if d.type = .cport then
    some {
      id := le16 (fieldAt d.bytes 4) (fieldAt d.bytes 5)
      bundle := (fieldAt d.bytes 6).toNat
      protocol := (fieldAt d.bytes 7).toNat }
  else none

/-- The id of a BUNDLE descriptor. -/
def bundleId? (d : Descriptor cfg) : Option Nat :=
  if d.type = .bundle then some (fieldAt d.bytes 4).toNat else none

end Descriptor

/-! ## Sizes -/

-- A body of 4 bytes at least follows the header, whatever the type.
theorem minimumSize_ge {cfg : Config} {bs : List UInt8} {m : Nat}
    (h : minimumSize cfg bs = some m) : 8 ≤ m := by
  have hstring := le_align (4 + 2 + (fieldAt bs 4).toNat)
  have hdvd := align_dvd (4 + 2 + (fieldAt bs 4).toNat)
  have hproperty := le_align (4 + 4 + (fieldAt bs 4).toNat)
  unfold minimumSize at h
  cases ht : typeOf bs <;>
    simp only [ht, sizeofDescriptorHeader, DescriptorType.sizeofBody, Option.some.injEq,
      Option.ite_none_right_eq_some, reduceCtorEq] at h <;>
    omega

theorem WellFormed.length_ge {cfg : Config} {bs : List UInt8} (h : WellFormed cfg bs) :
    8 ≤ bs.length := by
  obtain ⟨-, m, hm, hle⟩ := h
  exact Nat.le_trans (minimumSize_ge hm) hle

theorem WellFormed.length_lt {cfg : Config} {bs : List UInt8} (h : WellFormed cfg bs) :
    bs.length < 2 ^ 16 := by
  rw [← h.1]
  exact le16_lt _ _

theorem Descriptor.size_pos {cfg : Config} (d : Descriptor cfg) : 0 < d.size := by
  have hd := d.wf.length_ge
  simp only [Descriptor.size]
  omega

-- The declared fields of a descriptor are those of any longer sequence that starts with it.
theorem fieldAt_take {bs : List UInt8} {i k : Nat} (h : i < k) :
    fieldAt (bs.take k) i = fieldAt bs i := by
  simp only [fieldAt, List.getD_eq_getElem?_getD, List.getElem?_take_of_lt h]

theorem declaredSize_append {bs tail : List UInt8} (h : 1 < bs.length) :
    declaredSize (bs ++ tail) = declaredSize bs := by
  simp only [declaredSize, fieldAt, List.getD_append _ _ _ _ h,
    List.getD_append _ _ _ _ (Nat.lt_trans (Nat.zero_lt_one) h)]

theorem minimumSize_take {cfg : Config} {bs : List UInt8} {k : Nat} (h : 4 < k) :
    minimumSize cfg (bs.take k) = minimumSize cfg bs := by
  simp only [minimumSize, typeOf, fieldAt_take h, fieldAt_take (show 2 < k by omega)]

theorem declaredSize_take {bs : List UInt8} {k : Nat} (h : 1 < k) :
    declaredSize (bs.take k) = declaredSize bs := by
  simp only [declaredSize, fieldAt_take h, fieldAt_take (show 0 < k by omega)]

-- Bytes whose declared size fits and is large enough start with a well-formed descriptor.
theorem exists_descriptor {cfg : Config} {rest : List UInt8} {m : Nat}
    (hfits : declaredSize rest ≤ rest.length) (hmin : minimumSize cfg rest = some m)
    (hle : m ≤ declaredSize rest) :
    ∃ (d : Descriptor cfg) (tail : List UInt8), rest = d.bytes ++ tail ∧
      d.size = declaredSize rest := by
  have hge := minimumSize_ge hmin
  have hlen : (rest.take (declaredSize rest)).length = declaredSize rest := by
    rw [List.length_take, Nat.min_eq_left hfits]
  have hwf : WellFormed cfg (rest.take (declaredSize rest)) :=
    ⟨by rw [declaredSize_take (by omega), hlen],
      m, by rw [minimumSize_take (by omega), hmin], by omega⟩
  exact ⟨⟨_, hwf⟩, rest.drop (declaredSize rest), (List.take_append_drop _ _).symm, hlen⟩

-- The first of a sequence of descriptors is as long as it says, so there is one way to read them.
theorem Descriptor.encode_injective {cfg : Config} {ds es : List (Descriptor cfg)}
    (h : encode ds = encode es) : ds = es := by
  induction ds generalizing es with
  | nil =>
    cases es with
    | nil => rfl
    | cons e es =>
      have hlen := congrArg List.length h
      have hpos := e.size_pos
      rw [encode_nil, encode_cons, List.length_append, List.length_nil] at hlen
      simp only [size] at hpos
      omega
  | cons d ds ih =>
    cases es with
    | nil =>
      have hlen := congrArg List.length h
      have hpos := d.size_pos
      rw [encode_nil, encode_cons, List.length_append, List.length_nil] at hlen
      simp only [size] at hpos
      omega
    | cons e es =>
      have hdecl := congrArg declaredSize h
      have hd := d.wf.length_ge
      have he := e.wf.length_ge
      rw [encode_cons, encode_cons, declaredSize_append (by omega), declaredSize_append (by omega),
        d.wf.1, e.wf.1] at hdecl
      rw [encode_cons, encode_cons] at h
      obtain ⟨hbytes, htail⟩ := List.append_inj h hdecl
      rw [ih htail]
      exact congrArg (· :: es) (Descriptor.ext hbytes)

/-! ## `size_t` -/

theorem Config.two_pow_le (cfg : Config) : 2 ^ 32 ≤ 2 ^ cfg.sizeBits :=
  Nat.pow_le_pow_right (by decide) cfg.le_sizeBits

theorem Config.sizeSub_eq {cfg : Config} {a b : Nat} (hb : b ≤ a) (ha : a < 2 ^ cfg.sizeBits) :
    cfg.sizeSub a b = a - b := by
  have hsum : a + (2 ^ cfg.sizeBits - b) = (a - b) + 2 ^ cfg.sizeBits := by omega
  rw [Config.sizeSub, Nat.mod_eq_of_lt (show b < 2 ^ cfg.sizeBits by omega), hsum,
    Nat.add_mod_right, Nat.mod_eq_of_lt (by omega)]

theorem Config.sizeSub_of_le {cfg : Config} {a b : Nat} (hb : b ≤ a) (ha : a < 2 ^ 32) :
    cfg.sizeSub a b = a - b := by
  have hpow := cfg.two_pow_le
  exact Config.sizeSub_eq hb (by omega)

end Greybus
