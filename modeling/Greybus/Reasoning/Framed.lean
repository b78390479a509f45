import Mathlib.Data.List.Basic

/-!
# Frames that tell their own size

A frame begins with a header of fixed length, and the header tells how long the whole frame is.  A
stream of frames has no other delimiters.
-/

namespace Reasoning.Framed

variable {α : Type*}

structure Framing (α : Type*) where
  hdrLen : Nat
  size : List α → Nat
  hdrLen_pos : 0 < hdrLen
  -- Only the header is looked at.
  size_append : ∀ {xs : List α}, hdrLen ≤ xs.length → ∀ ys, size (xs ++ ys) = size xs

namespace Framing

variable {F : Framing α} {xs ys f : List α} {fs : List (List α)}

/-- `f` is one frame. -/
structure Frame (F : Framing α) (f : List α) : Prop where
  hdrLen_le : F.hdrLen ≤ f.length
  size_eq : F.size f = f.length

/-- `xs` begins with a whole frame. -/
def StartsFrame (F : Framing α) (xs : List α) : Prop :=
  F.hdrLen ≤ xs.length ∧ F.hdrLen ≤ F.size xs ∧ F.size xs ≤ xs.length

instance (F : Framing α) (xs : List α) : Decidable (F.StartsFrame xs) :=
  inferInstanceAs (Decidable (_ ∧ _))

-- The header of a stream that begins with `f` is the header of `f`.
theorem Frame.size_prefix (hf : F.Frame f) (h : xs ++ ys = f ++ fs.flatten)
    (hlen : F.hdrLen ≤ xs.length) : F.size xs = f.length := by
  rw [← F.size_append hlen ys, h, F.size_append hf.hdrLen_le, hf.size_eq]

/-! ## Counting -/

/-- How many whole frames `xs` begins with, when it has at most as many items as `n`. -/
def countFuel (F : Framing α) : Nat → List α → Nat
  | 0, _ => 0
  | n + 1, xs => if F.StartsFrame xs then F.countFuel n (xs.drop (F.size xs)) + 1 else 0

/-- How many whole frames `xs` begins with. -/
def count (F : Framing α) (xs : List α) : Nat := F.countFuel xs.length xs

theorem not_startsFrame_nil : ¬ F.StartsFrame [] := by
  intro h
  have hpos := F.hdrLen_pos
  have hle := h.1
  rw [List.length_nil] at hle
  omega

theorem countFuel_eq {n m : Nat} (hn : xs.length ≤ n) (hm : xs.length ≤ m) :
    F.countFuel n xs = F.countFuel m xs := by
  induction n generalizing m xs with
  | zero =>
    rw [List.eq_nil_of_length_eq_zero (Nat.le_zero.mp hn)]
    cases m with
    | zero => rfl
    | succ m => rw [countFuel, countFuel, if_neg not_startsFrame_nil]
  | succ n ih =>
    cases m with
    | zero =>
      rw [List.eq_nil_of_length_eq_zero (Nat.le_zero.mp hm), countFuel, countFuel,
        if_neg not_startsFrame_nil]
    | succ m =>
      rw [countFuel, countFuel]
      split
      next hstart =>
        have hpos := F.hdrLen_pos
        have hsize := hstart.2.1
        have hlen : (xs.drop (F.size xs)).length ≤ n := by
          rw [List.length_drop]
          omega
        have hlen' : (xs.drop (F.size xs)).length ≤ m := by
          rw [List.length_drop]
          omega
        rw [ih hlen hlen']
      next => rfl

theorem count_of_startsFrame (h : F.StartsFrame xs) :
    F.count xs = F.count (xs.drop (F.size xs)) + 1 := by
  have hpos := F.hdrLen_pos
  have hsize := h.2.1
  have hlen := h.2.2
  unfold count
  rw [show xs.length = (xs.length - 1) + 1 by omega, countFuel, if_pos h,
    countFuel_eq (by rw [List.length_drop]; omega) (Nat.le_refl _)]

theorem count_of_not_startsFrame (h : ¬ F.StartsFrame xs) : F.count xs = 0 := by
  unfold count
  cases xs.length with
  | zero => rfl
  | succ n => rw [countFuel, if_neg h]

theorem count_eq_zero_iff : F.count xs = 0 ↔ ¬ F.StartsFrame xs := by
  refine ⟨fun h hstart => ?_, count_of_not_startsFrame⟩
  rw [count_of_startsFrame hstart] at h
  omega

theorem count_nil : F.count [] = 0 := count_of_not_startsFrame not_startsFrame_nil

-- Taking the first frame out, whether it is whole or not.
theorem count_drop_size (hlen : F.hdrLen ≤ xs.length) (hsize : F.hdrLen ≤ F.size xs) :
    F.count (xs.drop (F.size xs)) = F.count xs - 1 := by
  by_cases hle : F.size xs ≤ xs.length
  · rw [count_of_startsFrame ⟨hlen, hsize, hle⟩, Nat.add_sub_cancel]
  · rw [List.drop_of_length_le (by omega), count_nil,
      count_of_not_startsFrame fun hstart => hle hstart.2.2]

end Framing

end Reasoning.Framed
