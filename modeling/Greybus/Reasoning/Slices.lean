import Mathlib.Algebra.Ring.Nat
import Greybus.Reasoning.CountedSlots

/-!
# Slices of a buffer

Slices that are cut off a buffer one after the other, and the slots they are kept in.
-/

namespace Reasoning.Slices

open Reasoning.CountedSlots

/-- `len` bytes from `start` on. -/
structure Slice where
  start : Nat
  len : Nat
  deriving DecidableEq, Repr

def Slice.stop (s : Slice) : Nat := s.start + s.len

/-- No byte of the slice lies beyond a buffer of `size` bytes. -/
def Slice.Inside (s : Slice) (size : Nat) : Prop := ∀ a, s.start ≤ a → a < s.stop → a < size

theorem Slice.inside_iff {s : Slice} {size : Nat} :
    s.Inside size ↔ s.len = 0 ∨ s.stop ≤ size := by
  have hstop : s.stop = s.start + s.len := rfl
  constructor
  · intro h
    by_cases hlen : s.len = 0
    · exact .inl hlen
    · have hlast := h (s.stop - 1) (by omega) (by omega)
      omega
  · rintro (hlen | hle) a hstart hlt <;> omega

/-- Each slice starts where the one before it ended, the first at `a`, and the last ends at `b`. -/
def Tiles : Nat → List Slice → Nat → Prop
  | a, [], b => a = b
  | a, s :: ss, b => s.start = a ∧ Tiles s.stop ss b

/-- One after the other from `a` on, apart from each other, none beyond `bound`. -/
structure Packed (a : Nat) (ss : List Slice) (bound : Nat) : Prop where
  consecutive : ∃ b, Tiles a ss b
  apart : ss.Pairwise fun s t => s.stop ≤ t.start
  inside : ∀ s ∈ ss, a ≤ s.start ∧ s.stop ≤ bound

variable {a b bound n : Nat} {s : Slice} {ss : List Slice}

theorem Tiles.nil (a : Nat) : Tiles a [] a := rfl

theorem Tiles.cons (h : Tiles (a + n) ss b) : Tiles a (⟨a, n⟩ :: ss) b := ⟨rfl, h⟩

theorem Tiles.le (h : Tiles a ss b) : a ≤ b := by
  induction ss generalizing a with
  | nil => exact Nat.le_of_eq h
  | cons s ss ih =>
    obtain ⟨rfl, hrest⟩ := h
    exact Nat.le_trans (Nat.le_add_right _ _) (ih hrest)

theorem Tiles.mem (h : Tiles a ss b) (hs : s ∈ ss) : a ≤ s.start ∧ s.stop ≤ b := by
  induction ss generalizing a with
  | nil => cases hs
  | cons t ss ih =>
    obtain ⟨rfl, hrest⟩ := h
    rcases List.mem_cons.mp hs with rfl | hs
    · exact ⟨Nat.le_refl _, hrest.le⟩
    · obtain ⟨hstart, hstop⟩ := ih hrest hs
      exact ⟨Nat.le_trans (Nat.le_add_right _ _) hstart, hstop⟩

theorem Tiles.apart (h : Tiles a ss b) : ss.Pairwise fun s t => s.stop ≤ t.start := by
  induction ss generalizing a with
  | nil => exact .nil
  | cons s ss ih =>
    obtain ⟨-, hrest⟩ := h
    exact .cons (fun t ht => (hrest.mem ht).1) (ih hrest)

-- If none goes beyond the bound then neither does the end of the last.
theorem Tiles.le_of_inside (h : Tiles a ss b) (ha : a ≤ bound)
    (hinside : ∀ s ∈ ss, s.stop ≤ bound) : b ≤ bound := by
  induction ss generalizing a with
  | nil => exact Nat.le_trans (Nat.le_of_eq h.symm) ha
  | cons s ss ih =>
    exact ih h.2 (hinside s List.mem_cons_self) fun t ht => hinside t (List.mem_cons_of_mem s ht)

theorem Tiles.packed_iff (h : Tiles a ss b) (ha : a ≤ bound) : Packed a ss bound ↔ b ≤ bound := by
  constructor
  · exact fun hpacked => h.le_of_inside ha fun s hs => (hpacked.inside s hs).2
  · intro hb
    refine ⟨⟨b, h⟩, h.apart, fun s hs => ?_⟩
    obtain ⟨hstart, hstop⟩ := h.mem hs
    exact ⟨hstart, Nat.le_trans hstop hb⟩

/-! ## Laying out -/

section LayOut

variable {chosen : Nat → Bool} {len : Nat → Nat} {is js : List Nat} {pos : Nat}

/-- A slot for each index; at a chosen index the slot gets the next `len` bytes. -/
def layOut (chosen : Nat → Bool) (len : Nat → Nat) : List Nat → Nat → List (Option Slice)
  | [], _ => []
  | i :: is, pos =>
    (if chosen i then some ⟨pos, len i⟩ else none) ::
      layOut chosen len is (pos + if chosen i then len i else 0)

/-- The bytes that the chosen indices get. -/
def total (chosen : Nat → Bool) (len : Nat → Nat) (is : List Nat) : Nat :=
  ((is.filter chosen).map len).sum

theorem total_cons (i : Nat) :
    total chosen len (i :: is) = (if chosen i then len i else 0) + total chosen len is := by
  unfold total
  cases h : chosen i <;> simp [h]

theorem layOut_append :
    layOut chosen len (is ++ js) pos
      = layOut chosen len is pos ++ layOut chosen len js (pos + total chosen len is) := by
  induction is generalizing pos with
  | nil => rfl
  | cons i is ih => rw [List.cons_append, layOut, ih, layOut, total_cons, Nat.add_assoc]; rfl

theorem layOut_tiles :
    Tiles pos (layOut chosen len is pos).reduceOption (pos + total chosen len is) := by
  induction is generalizing pos with
  | nil => exact rfl
  | cons i is ih =>
    rw [layOut, total_cons, ← Nat.add_assoc]
    cases hchosen : chosen i with
    | true => exact ⟨rfl, ih⟩
    | false => exact ih

theorem map_isSome_layOut : (layOut chosen len is pos).map Option.isSome = is.map chosen := by
  induction is generalizing pos with
  | nil => rfl
  | cons i is ih =>
    rw [layOut, List.map_cons, ih, List.map_cons]
    cases hchosen : chosen i <;> rfl

theorem filledFirst_layOut_iff :
    FilledFirst (layOut chosen len is pos) ↔ is.Pairwise fun i j => chosen j → chosen i := by
  rw [filledFirst_iff_map_isSome, map_isSome_layOut, List.pairwise_map]

-- The slice of an index lies behind those of the chosen indices before it.
theorem reduceOption_layOut_range {n : Nat} :
    (layOut chosen len (List.range n) pos).reduceOption
      = ((List.range n).filter chosen).map fun i =>
          ⟨pos + total chosen len (List.range i), len i⟩ := by
  induction n with
  | zero => rfl
  | succ n ih =>
    rw [List.range_succ, layOut_append, List.reduceOption_append, ih, List.filter_append,
      List.map_append]
    cases hchosen : chosen n <;> simp [layOut, hchosen]

end LayOut

end Reasoning.Slices
