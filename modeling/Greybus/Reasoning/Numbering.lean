import Mathlib.Algebra.BigOperators.Group.List.Basic
import Mathlib.Algebra.Order.Ring.Nat
import Mathlib.Data.Finset.Card
import Mathlib.Data.List.Nodup
import Mathlib.Order.Interval.Finset.Nat

/-!
# Groups of numbered records

Records that are numbered from 1 within their group are brought together by raising the numbers of
every group.  A group can keep its numbers when the groups before it have none.
-/

namespace Reasoning.Numbering

/-- The largest of some numbers, 0 when there are none. -/
def largest (ids : List Nat) : Nat := ids.foldr max 0

@[simp] theorem largest_nil : largest [] = 0 := rfl

@[simp] theorem largest_cons (i : Nat) (ids : List Nat) :
    largest (i :: ids) = max i (largest ids) := rfl

@[simp] theorem largest_append (xs ys : List Nat) :
    largest (xs ++ ys) = max (largest xs) (largest ys) := by
  induction xs with
  | nil => simp
  | cons x xs ih => simp [ih, max_assoc]

theorem foldl_max (ids : List Nat) (n : Nat) : ids.foldl max n = max n (largest ids) := by
  induction ids generalizing n with
  | nil => simp
  | cons i ids ih => rw [List.foldl_cons, ih, largest_cons, max_assoc]

theorem le_largest {ids : List Nat} {i : Nat} (h : i ∈ ids) : i ≤ largest ids := by
  induction ids with
  | nil => cases h
  | cons x xs ih =>
    rw [largest_cons]
    rcases List.mem_cons.mp h with rfl | hmem
    · exact le_max_left ..
    · exact le_trans (ih hmem) (le_max_right ..)

-- Numbers that start from 1 have a largest one above 0, unless there are none.
theorem largest_eq_zero {ids : List Nat} (hpos : ∀ i ∈ ids, 1 ≤ i) :
    largest ids = 0 ↔ ids = [] := by
  constructor
  · intro hzero
    refine List.eq_nil_iff_forall_not_mem.mpr fun i hi => ?_
    have hle := le_largest hi
    have hone := hpos i hi
    omega
  · rintro rfl
    rfl

theorem largest_map_add {ids : List Nat} (hne : ids ≠ []) (m : Nat) :
    largest (ids.map (· + m)) = largest ids + m := by
  induction ids with
  | nil => exact absurd rfl hne
  | cons i ids ih =>
    cases ids with
    | nil => simp
    | cons j rest =>
      rw [List.map_cons, largest_cons, ih (List.cons_ne_nil _ _), max_add_add_right,
        largest_cons i]

-- Where no number is used twice, a number stands for the record that has it.
theorem filter_eq_singleton {α : Type*} {number : α → Option Nat} {xs : List α}
    (hnodup : (xs.filterMap number).Nodup) {x : α} (hx : x ∈ xs) {i : Nat}
    (hi : number x = some i) : xs.filter (fun y => number y = some i) = [x] := by
  induction xs with
  | nil => cases hx
  | cons y xs ih =>
    cases hy : number y with
    | none =>
      rw [List.filterMap_cons_none hy] at hnodup
      rw [List.filter_cons_of_neg (by simp [hy])]
      rcases List.mem_cons.mp hx with rfl | hmem
      · simp [hy] at hi
      · exact ih hnodup hmem
    | some j =>
      rw [List.filterMap_cons_some hy, List.nodup_cons] at hnodup
      rcases List.mem_cons.mp hx with rfl | hmem
      · obtain rfl : j = i := by simpa [hy] using hi
        have hrest : xs.filter (fun z => number z = some j) = [] := by
          simp only [List.filter_eq_nil_iff, decide_eq_true_eq]
          exact fun z hz hzj => hnodup.1 (List.mem_filterMap.mpr ⟨z, hz, hzj⟩)
        rw [List.filter_cons_of_pos (by simp [hy]), hrest]
      · have hne : j ≠ i := by
          rintro rfl
          exact hnodup.1 (List.mem_filterMap.mpr ⟨x, hmem, hi⟩)
        rw [List.filter_cons_of_neg (by simp [hy, hne])]
        exact ih hnodup.2 hmem

/-! ## Groups -/

/-- At most one of the groups has numbers. -/
def AtMostOne (groups : List (List Nat)) : Prop :=
  groups.Pairwise fun xs ys => xs = [] ∨ ys = []

theorem largest_flatten_le_sum (groups : List (List Nat)) :
    largest groups.flatten ≤ (groups.map largest).sum := by
  induction groups with
  | nil => simp
  | cons xs groups ih =>
    rw [List.flatten_cons, largest_append, List.map_cons, List.sum_cons]
    omega

theorem AtMostOne.nodup_flatten {groups : List (List Nat)} (h : AtMostOne groups)
    (hnodup : ∀ xs ∈ groups, xs.Nodup) : groups.flatten.Nodup := by
  induction groups with
  | nil => simp
  | cons xs groups ih =>
    obtain ⟨hfirst, hrest⟩ := List.pairwise_cons.mp h
    rw [List.flatten_cons]
    by_cases hxs : xs = []
    · rw [hxs, List.nil_append]
      exact ih hrest fun ys hys => hnodup ys (List.mem_cons_of_mem _ hys)
    · have hempty : groups.flatten = [] := by
        rw [List.flatten_eq_nil_iff]
        exact fun ys hys => (hfirst ys hys).resolve_left hxs
      rw [hempty, List.append_nil]
      exact hnodup xs List.mem_cons_self

-- One more group is allowed when it has no numbers or none have been seen.
theorem atMostOne_concat {groups : List (List Nat)} {ys : List Nat} :
    AtMostOne (groups ++ [ys]) ↔ AtMostOne groups ∧ (groups.flatten = [] ∨ ys = []) := by
  unfold AtMostOne
  rw [List.pairwise_append]
  simp only [List.pairwise_singleton, List.mem_singleton, forall_eq, true_and,
    List.flatten_eq_nil_iff]
  refine and_congr_right fun _ => ?_
  by_cases hys : ys = []
  · simp [hys]
  · simp [hys]

/-! ## Numbers as indices -/

/-- The numbers between the smallest and the largest that are left out. -/
def gaps (ids : List Nat) : Finset Nat :=
  (Finset.range (largest ids)).filter fun i => i ∉ ids ∧ ∃ j ∈ ids, j < i

/-- How many entries say a number that another entry says as well. -/
def repeats (ids : List Nat) : Nat := ids.length - ids.toFinset.card

theorem largest_mem {ids : List Nat} (hne : ids ≠ []) : largest ids ∈ ids := by
  induction ids with
  | nil => exact absurd rfl hne
  | cons i ids ih =>
    rw [largest_cons]
    rcases le_total i (largest ids) with hle | hle
    · rw [max_eq_right hle]
      by_cases hids : ids = []
      · subst hids
        exact List.mem_cons.mpr (.inl (Nat.le_zero.mp hle).symm)
      · exact List.mem_cons_of_mem _ (ih hids)
    · rw [max_eq_left hle]
      exact List.mem_cons_self

-- From the smallest to the largest, every number is said or left out.
theorem card_span {ids : List Nat} {lo : Nat} (hlo : lo ∈ ids) (hmin : ∀ i ∈ ids, lo ≤ i) :
    ids.toFinset.card + (gaps ids).card = largest ids + 1 - lo := by
  have hdisjoint : Disjoint ids.toFinset (gaps ids) := by
    rw [Finset.disjoint_left]
    intro i hi hgap
    exact (Finset.mem_filter.mp hgap).2.1 (List.mem_toFinset.mp hi)
  have hunion : ids.toFinset ∪ gaps ids = Finset.Icc lo (largest ids) := by
    ext i
    simp only [Finset.mem_union, List.mem_toFinset, gaps, Finset.mem_filter, Finset.mem_range,
      Finset.mem_Icc]
    constructor
    · rintro (hi | ⟨hlt, -, j, hj, hji⟩)
      · exact ⟨hmin i hi, le_largest hi⟩
      · have hj' := hmin j hj
        omega
    · rintro ⟨hge, hle⟩
      by_cases hi : i ∈ ids
      · exact .inl hi
      · have hne : i ≠ largest ids := fun h => hi (h ▸ largest_mem (List.ne_nil_of_mem hlo))
        have hlo' : i ≠ lo := fun h => hi (h ▸ hlo)
        exact .inr ⟨by omega, hi, lo, hlo, by omega⟩
  rw [← Finset.card_union_of_disjoint hdisjoint, hunion, Nat.card_Icc]

-- Counted from the smallest, the numbers are indices of as many places as there are entries
-- exactly when no more numbers are left out than are said again.
theorem indices_lt_iff {ids : List Nat} {lo : Nat} (hlo : lo ∈ ids) (hmin : ∀ i ∈ ids, lo ≤ i) :
    (∀ i ∈ ids, i - lo < ids.length) ↔ (gaps ids).card ≤ repeats ids := by
  have hspan := card_span hlo hmin
  have hcard := ids.toFinset_card_le
  have hle := le_largest hlo
  unfold repeats
  constructor
  · intro hall
    have htop := hall _ (largest_mem (List.ne_nil_of_mem hlo))
    omega
  · intro hgaps i hi
    have htop := le_largest hi
    omega

-- Numbers below the number of entries that are all different are these numbers in some order.
theorem perm_range_iff {ids : List Nat} :
    ids.Perm (List.range ids.length) ↔ (∀ i ∈ ids, i < ids.length) ∧ ids.Nodup := by
  constructor
  · intro hperm
    exact ⟨fun i hi => List.mem_range.mp (hperm.subset hi),
      hperm.nodup_iff.mpr List.nodup_range⟩
  · rintro ⟨hlt, hnodup⟩
    have hsubset : ids ⊆ List.range ids.length := fun i hi => List.mem_range.mpr (hlt i hi)
    exact (hnodup.subperm hsubset).perm_of_length_le (by rw [List.length_range])

end Reasoning.Numbering
