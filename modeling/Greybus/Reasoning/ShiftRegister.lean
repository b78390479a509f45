import Mathlib.Data.List.Induction
import Mathlib.Data.Nat.Bits
import Mathlib.Tactic.Ring

/-!
# Shift registers

Words that go over a serial line one bit at a time, the lowest bit first.  The receiver shifts the
bits in from the top, and has the word when as many of them have come as it is wide.
-/

namespace Reasoning.ShiftRegister

variable {w : Nat}

/-- The bits of a word, in the order they are sent in. -/
def bits (v : BitVec w) : List Bool := (List.range w).map v.getLsbD

@[simp] theorem length_bits (v : BitVec w) : (bits v).length = w := by
  rw [bits, List.length_map, List.length_range]

theorem getElem?_bits (v : BitVec w) {i : Nat} (hi : i < w) :
    (bits v)[i]? = some (v.getLsbD i) := by
  rw [bits, List.getElem?_map, List.getElem?_range hi, Option.map_some]

/-- One more bit comes in at the top. -/
def shiftIn (v : BitVec w) (bit : Bool) : BitVec w :=
  (v >>> 1) ||| (if bit then BitVec.twoPow w (w - 1) else 0#w)

theorem getLsbD_shiftIn (v : BitVec w) (bit : Bool) {i : Nat} (hi : i < w) :
    (shiftIn v bit).getLsbD i = if i + 1 = w then bit else v.getLsbD (i + 1) := by
  rw [shiftIn, BitVec.getLsbD_or, BitVec.getLsbD_ushiftRight]
  by_cases hlast : i + 1 = w
  · have hout : v.getLsbD (1 + i) = false := BitVec.getLsbD_of_ge v _ (by omega)
    rw [if_pos hlast, hout, Bool.false_or]
    cases bit with
    | true => simp [hi, show w - 1 = i by omega]
    | false => simp
  · rw [if_neg hlast, Nat.add_comm 1 i]
    cases bit with
    | true => simp [BitVec.getLsbD_twoPow, show ¬ w - 1 = i by omega]
    | false => simp

-- After `k` bits, the upper `k` places hold them and the others what was shifted down.
theorem getLsbD_foldl_shiftIn (v : BitVec w) {bs : List Bool} (hbs : bs.length ≤ w) {i : Nat}
    (hi : i < w) : (bs.foldl shiftIn v).getLsbD i =
      if i + bs.length < w then v.getLsbD (i + bs.length)
      else bs[i + bs.length - w]?.getD false := by
  induction bs using List.reverseRecOn generalizing i with
  | nil => simp [hi]
  | append_singleton bs bit ih =>
    rw [List.length_append, List.length_singleton] at hbs ⊢
    rw [List.foldl_append, List.foldl_cons, List.foldl_nil, getLsbD_shiftIn _ bit hi]
    by_cases hlast : i + 1 = w
    · have hindex : i + (bs.length + 1) - w = bs.length := by omega
      rw [if_pos hlast, if_neg (by omega), hindex]
      simp
    · rw [if_neg hlast, ih (by omega) (by omega)]
      by_cases hin : i + 1 + bs.length < w
      · rw [if_pos hin, if_pos (by omega), Nat.add_right_comm, Nat.add_assoc]
      · have hindex : i + (bs.length + 1) - w < bs.length := by omega
        rw [if_neg hin, if_neg (by omega), List.getElem?_append_left hindex, Nat.add_right_comm,
          Nat.add_assoc]

-- A word that is sent is the word that is received, whatever the register held.
theorem foldl_shiftIn_bits (v u : BitVec w) : (bits u).foldl shiftIn v = u := by
  apply BitVec.eq_of_getLsbD_eq
  intro i hi
  rw [getLsbD_foldl_shiftIn v (Nat.le_of_eq (length_bits u)) hi, length_bits, if_neg (by omega),
    Nat.add_sub_cancel, getElem?_bits u hi, Option.getD_some]

/-! ## Numbers -/

/-- The number that bits say, the lowest first. -/
def value (bs : List Bool) : Nat := bs.foldr (fun b n => n.bit b) 0

theorem testBit_value (bs : List Bool) (i : Nat) : (value bs).testBit i = bs[i]?.getD false := by
  induction bs generalizing i with
  | nil => simp [value]
  | cons b bs ih =>
    cases i with
    | zero => simp [value]
    | succ i =>
      rw [List.getElem?_cons_succ, ← ih i]
      exact Nat.testBit_bit_succ ..

theorem value_bits (v : BitVec w) : value (bits v) = v.toNat := by
  apply Nat.eq_of_testBit_eq
  intro i
  rw [testBit_value, BitVec.testBit_toNat]
  by_cases hi : i < w
  · rw [getElem?_bits v hi, Option.getD_some]
  · rw [List.getElem?_eq_none (by rw [length_bits]; omega), Option.getD_none,
      BitVec.getLsbD_of_ge v i (by omega)]

theorem value_append (bs cs : List Bool) : value (bs ++ cs) = value bs + 2 ^ bs.length * value cs := by
  induction bs with
  | nil => simp [value]
  | cons b bs ih =>
    have hcons : ∀ ds, value (b :: ds) = 2 * value ds + b.toNat := fun ds => Nat.bit_val b (value ds)
    rw [List.cons_append, hcons, hcons, ih, List.length_cons, Nat.pow_succ]
    ring

end Reasoning.ShiftRegister
