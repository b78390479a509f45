import Mathlib.Data.List.TakeDrop
import Mathlib.Logic.Equiv.Defs

/-!
# Packed structures

The bytes of a structure without padding: its fields one after another, numbers in little-endian
order.  Every value has its bytes, and every run of so many bytes is a value.
-/

namespace Reasoning.Packed

structure Codec (α : Type*) where
  size : Nat
  encode : α → List UInt8
  -- Reads from the first bytes.
  decode : List UInt8 → α
  length_encode : ∀ a, (encode a).length = size
  decode_append : ∀ a rest, decode (encode a ++ rest) = a
  encode_decode : ∀ bytes, size ≤ bytes.length → encode (decode bytes) = bytes.take size

namespace Codec

variable {α β : Type*}

/-- No field. -/
def empty : Codec Unit where
  size := 0
  encode _ := []
  decode _ := ()
  length_encode _ := rfl
  decode_append _ _ := rfl
  encode_decode _ _ := rfl

def byte : Codec UInt8 where
  size := 1
  encode b := [b]
  decode bytes := bytes.getD 0 0
  length_encode _ := rfl
  decode_append _ _ := rfl
  encode_decode
    | [], h => absurd h (by decide)
    | _ :: _, _ => rfl

/-- One structure after another. -/
def pair (c : Codec α) (d : Codec β) : Codec (α × β) where
  size := c.size + d.size
  encode ab := c.encode ab.1 ++ d.encode ab.2
  decode bytes := (c.decode bytes, d.decode (bytes.drop c.size))
  length_encode ab := by rw [List.length_append, c.length_encode, d.length_encode]
  decode_append ab rest := by
    rw [List.append_assoc, c.decode_append, List.drop_left' (c.length_encode ab.1),
      d.decode_append]
  encode_decode bytes h := by
    rw [c.encode_decode bytes (by omega), d.encode_decode _ (by rw [List.length_drop]; omega),
      List.take_add]

/-- The same bytes for another type. -/
def map (c : Codec α) (e : α ≃ β) : Codec β where
  size := c.size
  encode b := c.encode (e.symm b)
  decode bytes := e (c.decode bytes)
  length_encode b := c.length_encode (e.symm b)
  decode_append b rest := by rw [c.decode_append, e.apply_symm_apply]
  encode_decode bytes h := by rw [e.symm_apply_apply, c.encode_decode bytes h]

/-- The low and the high byte. -/
def le16Equiv : UInt8 × UInt8 ≃ UInt16 where
  toFun b := UInt16.ofNat (b.1.toNat + 256 * b.2.toNat)
  invFun n := (UInt8.ofNat n.toNat, UInt8.ofNat (n.toNat / 256))
  left_inv b := by
    have hlo := b.1.toNat_lt
    have hhi := b.2.toNat_lt
    have hsum : (UInt16.ofNat (b.1.toNat + 256 * b.2.toNat)).toNat
        = b.1.toNat + 256 * b.2.toNat := by
      rw [UInt16.toNat_ofNat', Nat.mod_eq_of_lt (by omega)]
    apply Prod.ext
    · rw [← UInt8.toNat_inj, UInt8.toNat_ofNat', hsum]
      omega
    · rw [← UInt8.toNat_inj, UInt8.toNat_ofNat', hsum]
      omega
  right_inv n := by
    have hlt := n.toNat_lt
    rw [← UInt16.toNat_inj, UInt16.toNat_ofNat', UInt8.toNat_ofNat', UInt8.toNat_ofNat']
    omega

/-- The low and the high half. -/
def le32Equiv : UInt16 × UInt16 ≃ UInt32 where
  toFun b := UInt32.ofNat (b.1.toNat + 65536 * b.2.toNat)
  invFun n := (UInt16.ofNat n.toNat, UInt16.ofNat (n.toNat / 65536))
  left_inv b := by
    have hlo := b.1.toNat_lt
    have hhi := b.2.toNat_lt
    have hsum : (UInt32.ofNat (b.1.toNat + 65536 * b.2.toNat)).toNat
        = b.1.toNat + 65536 * b.2.toNat := by
      rw [UInt32.toNat_ofNat', Nat.mod_eq_of_lt (by omega)]
    apply Prod.ext
    · rw [← UInt16.toNat_inj, UInt16.toNat_ofNat', hsum]
      omega
    · rw [← UInt16.toNat_inj, UInt16.toNat_ofNat', hsum]
      omega
  right_inv n := by
    have hlt := n.toNat_lt
    rw [← UInt32.toNat_inj, UInt32.toNat_ofNat', UInt16.toNat_ofNat', UInt16.toNat_ofNat']
    omega

def le16 : Codec UInt16 := (byte.pair byte).map le16Equiv

def le32 : Codec UInt32 := (le16.pair le16).map le32Equiv

/-- An array of bytes. -/
def bytes (n : Nat) : Codec { l : List UInt8 // l.length = n } where
  size := n
  encode l := l.1
  decode bytes := ⟨bytes.take n ++ List.replicate (n - bytes.length) 0, by
    rw [List.length_append, List.length_take, List.length_replicate]
    omega⟩
  length_encode l := l.2
  decode_append l rest := by
    apply Subtype.ext
    show (l.1 ++ rest).take n ++ List.replicate (n - (l.1 ++ rest).length) 0 = l.1
    rw [List.take_left' l.2, List.length_append, l.2, Nat.sub_add_eq, Nat.sub_self, Nat.zero_sub,
      List.replicate_zero, List.append_nil]
  encode_decode bytes h := by
    show bytes.take n ++ List.replicate (n - bytes.length) 0 = bytes.take n
    rw [Nat.sub_eq_zero_of_le h, List.replicate_zero, List.append_nil]

end Codec

end Reasoning.Packed
