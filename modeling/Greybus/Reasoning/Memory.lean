import Mathlib.Algebra.Ring.Nat
import Mathlib.Data.List.GetD
import Mathlib.Logic.Function.Basic

/-!
# Byte memory

Memory as a partial function from addresses to bytes.  An address without a byte must not be
touched: every load and store there is `none`.
-/

namespace Reasoning.Memory

abbrev Mem := Nat → Option UInt8

/-- The memory seen from the first byte of a buffer, with what follows the buffer. -/
def ofBuffer (data : List UInt8) (after : Nat → Option UInt8) : Mem := fun a =>
  if a < data.length then data[a]? else after (a - data.length)

/-- The value of a 16-bit little-endian field. -/
def le16 (lo hi : UInt8) : Nat := lo.toNat + 256 * hi.toNat

def load16 (m : Mem) (a : Nat) : Option Nat :=
  (m a).bind fun lo => (m (a + 1)).map fun hi => le16 lo hi

def store8 (m : Mem) (a : Nat) (v : UInt8) : Option Mem :=
  if (m a).isSome then some (Function.update m a (some v)) else none

/-- The `n` bytes from `a` on. -/
def loadN (m : Mem) (a : Nat) : Nat → Option (List UInt8)
  | 0 => some []
  | n + 1 => (m a).bind fun b => (loadN m (a + 1) n).map (b :: ·)

/-- The bytes `bs` lie at `a`. -/
def Holds (m : Mem) (a : Nat) (bs : List UInt8) : Prop :=
  ∀ i, i < bs.length → m (a + i) = bs[i]?

/-! ## Little-endian fields -/

theorem le16_lt (lo hi : UInt8) : le16 lo hi < 2 ^ 16 := by
  have hlo := lo.toNat_lt
  have hhi := hi.toNat_lt
  simp only [le16]
  omega

theorem le16_split {n : Nat} (h : n < 2 ^ 16) :
    le16 (UInt8.ofNat n) (UInt8.ofNat (n / 256)) = n := by
  simp only [le16, UInt8.toNat_ofNat']
  omega

/-! ## Reading held bytes -/

theorem holds_ofBuffer (data : List UInt8) (after : Nat → Option UInt8) :
    Holds (ofBuffer data after) 0 data := by
  intro i hi
  simp [ofBuffer, hi]

theorem ofBuffer_isSome (data : List UInt8) (after : Nat → UInt8) (a : Nat) :
    (ofBuffer data (fun i => some (after i)) a).isSome := by
  unfold ofBuffer
  split
  next ha => simp [ha]
  next => rfl

theorem holds_append {m : Mem} {a : Nat} {xs ys : List UInt8} :
    Holds m a (xs ++ ys) ↔ Holds m a xs ∧ Holds m (a + xs.length) ys := by
  constructor
  · intro h
    refine ⟨fun i hi => ?_, fun i hi => ?_⟩
    · rw [h i (by simp; omega), List.getElem?_append_left hi]
    · rw [Nat.add_assoc, h (xs.length + i) (by simp; omega),
        List.getElem?_append_right (by omega), Nat.add_sub_cancel_left]
  · rintro ⟨hx, hy⟩ i hi
    by_cases hlt : i < xs.length
    · rw [hx i hlt, List.getElem?_append_left hlt]
    · have hrest := hy (i - xs.length) (by simp at hi; omega)
      rw [List.getElem?_append_right (by omega), ← hrest]
      congr 1
      omega

theorem Holds.take {m : Mem} {a n : Nat} {bs : List UInt8} (h : Holds m a bs) :
    Holds m a (bs.take n) := by
  rw [← List.take_append_drop n bs] at h
  exact (holds_append.mp h).1

theorem Holds.drop {m : Mem} {a n : Nat} {bs : List UInt8} (h : Holds m a bs)
    (hn : n ≤ bs.length) : Holds m (a + n) (bs.drop n) := by
  rw [← List.take_append_drop n bs] at h
  have hd := (holds_append.mp h).2
  rwa [List.length_take, Nat.min_eq_left hn] at hd

theorem Holds.load8 {m : Mem} {a i : Nat} {bs : List UInt8} (h : Holds m a bs)
    (hi : i < bs.length) : m (a + i) = some (bs.getD i 0) := by
  rw [h i hi, List.getElem?_eq_getElem hi, List.getD_eq_getElem bs 0 hi]

theorem Holds.load16 {m : Mem} {a i : Nat} {bs : List UInt8} (h : Holds m a bs)
    (hi : i + 1 < bs.length) :
    load16 m (a + i) = some (le16 (bs.getD i 0) (bs.getD (i + 1) 0)) := by
  rw [Memory.load16, h.load8 (by omega), Nat.add_assoc, h.load8 hi]
  rfl

theorem Holds.loadN {m : Mem} {a : Nat} {bs : List UInt8} (h : Holds m a bs) :
    loadN m a bs.length = some bs := by
  induction bs generalizing a with
  | nil => rfl
  | cons b bs ih =>
    have hb := h 0 (by simp)
    have hsplit : Holds m a ([b] ++ bs) := h
    have htail := ih (holds_append.mp hsplit).2
    simp only [List.length_singleton] at htail
    simp only [Nat.add_zero, List.getElem?_cons_zero] at hb
    simp [Memory.loadN, hb, htail]

theorem Holds.loadN_take {m : Mem} {a n : Nat} {bs : List UInt8} (h : Holds m a bs)
    (hn : n ≤ bs.length) : Memory.loadN m a n = some (bs.take n) := by
  have hload := (h.take (n := n)).loadN
  rwa [List.length_take, Nat.min_eq_left hn] at hload

/-! ## Writing held bytes -/

theorem Holds.store8 {m : Mem} {a i : Nat} {bs : List UInt8} (h : Holds m a bs)
    (hi : i < bs.length) (v : UInt8) :
    store8 m (a + i) v = some (Function.update m (a + i) (some v)) := by
  rw [Memory.store8, h.load8 hi]
  rfl

theorem Holds.update {m : Mem} {a i : Nat} {bs : List UInt8} (h : Holds m a bs)
    (hi : i < bs.length) (v : UInt8) :
    Holds (Function.update m (a + i) (some v)) a (bs.set i v) := by
  intro j hj
  by_cases hij : j = i
  · subst hij
    simp [hi]
  · rw [Function.update_of_ne (by omega), h j (by simpa using hj),
      List.getElem?_set_ne (Ne.symm hij)]

-- A region is held as long as its own bytes do not change.
theorem Holds.congr {m m' : Mem} {a : Nat} {bs : List UInt8} (h : Holds m a bs)
    (hsame : ∀ i, i < bs.length → m' (a + i) = m (a + i)) : Holds m' a bs := by
  intro i hi
  rw [hsame i hi, h i hi]

end Reasoning.Memory
