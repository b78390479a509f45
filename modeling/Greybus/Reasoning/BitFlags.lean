import Mathlib.Logic.Basic

/-!
# Flags in a bit vector

A set of flags as the bits of a word, set and cleared by masks of one bit.
-/

namespace Reasoning.BitFlags

variable {w : Nat}

/-- The flag `i` is in the word. -/
def has (flags : BitVec w) (i : Nat) : Bool := flags &&& BitVec.twoPow w i != 0#w

def set (flags : BitVec w) (i : Nat) : BitVec w := flags ||| BitVec.twoPow w i

def clear (flags : BitVec w) (i : Nat) : BitVec w := flags &&& ~~~ BitVec.twoPow w i

theorem has_eq_getLsbD (flags : BitVec w) {i : Nat} (hi : i < w) : has flags i = flags.getLsbD i := by
  unfold has
  rw [BitVec.and_twoPow]
  cases flags.getLsbD i with
  | false => simp
  | true =>
    have hne : BitVec.twoPow w i ≠ 0#w := by
      intro h
      have hbit := congrArg (fun b => b.getLsbD i) h
      simp [hi] at hbit
    simpa using hne

theorem has_zero (i : Nat) : has (0#w) i = false := by
  unfold has
  simp

theorem has_set (flags : BitVec w) {i j : Nat} (hj : j < w) :
    has (set flags i) j = (decide (i = j) || has flags j) := by
  rw [has_eq_getLsbD _ hj, has_eq_getLsbD _ hj]
  unfold set
  rw [BitVec.getLsbD_or, BitVec.getLsbD_twoPow]
  by_cases hij : i = j
  · subst hij
    simp [hj]
  · simp [hij]

theorem has_clear (flags : BitVec w) {i j : Nat} (hj : j < w) :
    has (clear flags i) j = (!decide (i = j) && has flags j) := by
  rw [has_eq_getLsbD _ hj, has_eq_getLsbD _ hj]
  unfold clear
  rw [BitVec.getLsbD_and, BitVec.getLsbD_not, BitVec.getLsbD_twoPow]
  by_cases hij : i = j
  · subst hij
    simp [hj]
  · simp [hij, hj]

end Reasoning.BitFlags
