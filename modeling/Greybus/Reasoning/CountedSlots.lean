import Mathlib.Data.List.ReduceOption

/-!
# Slots behind a count

An array whose slots are filled at any index, and a count of the filled ones that a reader takes
for the number of slots to look at.
-/

namespace Reasoning.CountedSlots

variable {α : Type*}

/-- How many slots are filled. -/
def filled (slots : List (Option α)) : Nat := slots.countP Option.isSome

/-- The slots that a reader looks at. -/
def counted (slots : List (Option α)) : List (Option α) := slots.take (filled slots)

/-- No empty slot comes before a filled one. -/
def FilledFirst (slots : List (Option α)) : Prop :=
  slots.Pairwise fun s t => t.isSome → s.isSome

theorem filled_eq_length_reduceOption (slots : List (Option α)) :
    filled slots = slots.reduceOption.length := by
  rw [filled, List.reduceOption_length_eq, List.countP_eq_length_filter]

theorem counted_cons_some (x : α) (slots : List (Option α)) :
    counted (some x :: slots) = some x :: counted slots := by
  rw [counted, filled, List.countP_cons_of_pos rfl, List.take_succ_cons]
  rfl

theorem counted_cons_none (slots : List (Option α)) :
    counted (none :: slots) = (none :: slots).take (filled slots) := by
  rw [counted, filled, List.countP_cons_of_neg Bool.false_ne_true]
  rfl

-- Behind an empty slot the reader looks at one slot too few.
theorem reduceOption_counted_none_iff {slots : List (Option α)} :
    (counted (none :: slots)).reduceOption = slots.reduceOption ↔ filled slots = 0 := by
  rw [counted_cons_none]
  constructor
  · intro h
    have hlen := congrArg List.length h
    rw [← filled_eq_length_reduceOption slots] at hlen
    cases hfilled : filled slots with
    | zero => rfl
    | succ n =>
      rw [hfilled, List.take_succ_cons, List.reduceOption_cons_of_none] at hlen
      have hle := List.reduceOption_length_le (slots.take n)
      have htake := List.length_take_le n slots
      omega
  · intro hzero
    have hempty : slots.reduceOption = [] :=
      List.eq_nil_of_length_eq_zero ((filled_eq_length_reduceOption slots).symm.trans hzero)
    rw [hzero, hempty]
    rfl

theorem filledFirst_none_iff {slots : List (Option α)} :
    FilledFirst (none :: slots) ↔ filled slots = 0 := by
  rw [FilledFirst, List.pairwise_cons, filled, List.countP_eq_zero]
  constructor
  · rintro ⟨h, -⟩ t ht hsome
    cases h t ht hsome
  · intro h
    refine ⟨fun t ht hsome => absurd hsome (h t ht), ?_⟩
    exact List.pairwise_of_forall_mem_list fun _ _ t ht hsome => absurd hsome (h t ht)

theorem filledFirst_some_iff {x : α} {slots : List (Option α)} :
    FilledFirst (some x :: slots) ↔ FilledFirst slots :=
  List.pairwise_cons.trans (and_iff_right fun _ _ _ => rfl)

-- The reader sees every filled slot only if they are the first ones.
theorem reduceOption_counted_iff {slots : List (Option α)} :
    (counted slots).reduceOption = slots.reduceOption ↔ FilledFirst slots := by
  induction slots with
  | nil => exact iff_of_true rfl .nil
  | cons s slots ih =>
    cases s with
    | some x =>
      rw [counted_cons_some, List.reduceOption_cons_of_some, List.reduceOption_cons_of_some,
        List.cons_inj_right, ih, filledFirst_some_iff]
    | none =>
      rw [List.reduceOption_cons_of_none, reduceOption_counted_none_iff, filledFirst_none_iff]

theorem filledFirst_iff_map_isSome {slots : List (Option α)} :
    FilledFirst slots ↔ (slots.map Option.isSome).Pairwise fun s t => t = true → s = true := by
  rw [FilledFirst, List.pairwise_map]

end Reasoning.CountedSlots
