import Mathlib.Order.Lattice
import Mathlib.Data.List.Nodup
import Mathlib.Data.List.Pairwise
import Mathlib.Tactic.ByContra

/-!
# Binary search over a closed window

The loop `while (l <= r)` with signed bounds, over a list sorted by a key.  The outer `none` says
that the loop read outside the list or did not end within its fuel.  Where no two entries have the
same key, the loop finds what a linear search of the list finds, in whatever order the list was
before.
-/

namespace Reasoning.BinarySearch

variable {α β : Type*} [LinearOrder β]

/-- At most `fuel` rounds of the loop on the window `[l, r]`. -/
def search (key : α → β) (xs : List α) (b : β) : Nat → Int → Int → Option (Option α)
  | 0, _, _ => none
  | fuel + 1, l, r =>
    if l ≤ r then
      let m := (l + r) / 2
      match xs[m.toNat]? with
      | none => none
      | some x =>
        if key x < b then search key xs b fuel (m + 1) r
        else if b < key x then search key xs b fuel l (m - 1)
        else some (some x)
    else some none

/-- The same, with the indices at which the rounds look. -/
def searchRun (key : α → β) (xs : List α) (b : β) :
    Nat → Int → Int → List Int × Option (Option α)
  | 0, _, _ => ([], none)
  | fuel + 1, l, r =>
    if l ≤ r then
      let m := (l + r) / 2
      match xs[m.toNat]? with
      | none => ([m], none)
      | some x =>
        if key x < b then
          let rest := searchRun key xs b fuel (m + 1) r
          (m :: rest.1, rest.2)
        else if b < key x then
          let rest := searchRun key xs b fuel l (m - 1)
          (m :: rest.1, rest.2)
        else ([m], some (some x))
    else ([], some none)

theorem searchRun_snd (key : α → β) (xs : List α) (b : β) (fuel : Nat) (l r : Int) :
    (searchRun key xs b fuel l r).2 = search key xs b fuel l r := by
  induction fuel generalizing l r with
  | zero => rfl
  | succ fuel ih =>
    rw [searchRun, search]
    split
    next =>
      dsimp only
      split
      next => rfl
      next =>
        split
        next => exact ih _ _
        split
        next => exact ih _ _
        next => rfl
    next => rfl

-- The window only shrinks, so that no round looks outside the one that the loop starts with.
theorem searchRun_inside {key : α → β} {xs : List α} {b : β} {fuel : Nat} {l r m : Int}
    (h : m ∈ (searchRun key xs b fuel l r).1) : l ≤ m ∧ m ≤ r := by
  induction fuel generalizing l r with
  | zero => cases h
  | succ fuel ih =>
    rw [searchRun] at h
    split at h
    next hlr =>
      have hmid : l ≤ (l + r) / 2 ∧ (l + r) / 2 ≤ r := by omega
      dsimp only at h
      split at h
      next =>
        obtain rfl := List.mem_singleton.mp h
        exact hmid
      next =>
        split at h
        next =>
          rcases List.mem_cons.mp h with rfl | h
          · exact hmid
          · have hrest := ih h
            omega
        split at h
        next =>
          rcases List.mem_cons.mp h with rfl | h
          · exact hmid
          · have hrest := ih h
            omega
        next =>
          obtain rfl := List.mem_singleton.mp h
          exact hmid
    next => cases h

/-- The answer is an entry with the key, or says that the window has none. -/
structure Answer (key : α → β) (xs : List α) (b : β) (l r : Int) (res : Option α) : Prop where
  sound : ∀ x, res = some x → x ∈ xs ∧ key x = b
  complete : res = none → ∀ i : Nat, (hi : i < xs.length) → l ≤ i → i ≤ r → key xs[i] ≠ b

-- With one unit of fuel more than the window is long the loop stays inside the list and ends.
theorem search_answer {key : α → β} {xs : List α} (hsorted : xs.Pairwise (key · ≤ key ·)) (b : β)
    (fuel : Nat) (l r : Int) (hl : 0 ≤ l) (hlr : l ≤ r + 1) (hr : r < xs.length)
    (hfuel : r - l + 1 < fuel) :
    ∃ res, search key xs b fuel l r = some res ∧ Answer key xs b l r res := by
  induction fuel generalizing l r with
  | zero => exfalso; omega
  | succ fuel ih =>
    by_cases hne : l ≤ r
    · have hm : ((l + r) / 2).toNat < xs.length := by omega
      have hmono : ∀ i j : Nat, (hi : i < xs.length) → (hj : j < xs.length) → i ≤ j →
          key xs[i] ≤ key xs[j] := by
        intro i j hi hj hij
        rcases Nat.lt_or_eq_of_le hij with hlt | rfl
        · exact List.pairwise_iff_getElem.mp hsorted i j hi hj hlt
        · exact le_rfl
      simp only [search, hne, if_true, List.getElem?_eq_getElem hm]
      by_cases hlow : key xs[((l + r) / 2).toNat] < b
      · rw [if_pos hlow]
        obtain ⟨res, hres, hans⟩ := ih ((l + r) / 2 + 1) r (by omega) (by omega) hr (by omega)
        refine ⟨res, hres, hans.sound, fun hnone i hi hli hir => ?_⟩
        by_cases him : (l + r) / 2 + 1 ≤ i
        · exact hans.complete hnone i hi him hir
        · have hle := hmono i ((l + r) / 2).toNat hi hm (by omega)
          exact ne_of_lt (lt_of_le_of_lt hle hlow)
      · rw [if_neg hlow]
        by_cases hhigh : b < key xs[((l + r) / 2).toNat]
        · rw [if_pos hhigh]
          obtain ⟨res, hres, hans⟩ := ih l ((l + r) / 2 - 1) hl (by omega) (by omega) (by omega)
          refine ⟨res, hres, hans.sound, fun hnone i hi hli hir => ?_⟩
          by_cases him : (i : Int) ≤ (l + r) / 2 - 1
          · exact hans.complete hnone i hi hli him
          · have hle := hmono ((l + r) / 2).toNat i hm hi (by omega)
            exact ne_of_gt (lt_of_lt_of_le hhigh hle)
        · rw [if_neg hhigh]
          refine ⟨_, rfl, fun x hx => ?_, by simp⟩
          cases hx
          exact ⟨List.getElem_mem hm, le_antisymm (not_lt.mp hhigh) (not_lt.mp hlow)⟩
    · refine ⟨none, by simp [search, hne], by simp, fun _ i _ hli hir => ?_⟩
      omega

-- That it ends and what it finds do not depend on the order.
theorem search_found (key : α → β) (xs : List α) (b : β) (fuel : Nat) (l r : Int) (hl : 0 ≤ l)
    (hlr : l ≤ r + 1) (hr : r < xs.length) (hfuel : r - l + 1 < fuel) :
    ∃ res, search key xs b fuel l r = some res ∧ ∀ x, res = some x → x ∈ xs ∧ key x = b := by
  induction fuel generalizing l r with
  | zero => exfalso; omega
  | succ fuel ih =>
    by_cases hne : l ≤ r
    · have hm : ((l + r) / 2).toNat < xs.length := by omega
      simp only [search, hne, if_true, List.getElem?_eq_getElem hm]
      by_cases hlow : key xs[((l + r) / 2).toNat] < b
      · rw [if_pos hlow]
        exact ih ((l + r) / 2 + 1) r (by omega) (by omega) hr (by omega)
      rw [if_neg hlow]
      by_cases hhigh : b < key xs[((l + r) / 2).toNat]
      · rw [if_pos hhigh]
        exact ih l ((l + r) / 2 - 1) hl (by omega) (by omega) (by omega)
      · rw [if_neg hhigh]
        refine ⟨_, rfl, fun x hx => ?_⟩
        cases hx
        exact ⟨List.getElem_mem hm, le_antisymm (not_lt.mp hhigh) (not_lt.mp hlow)⟩
    · exact ⟨none, by simp [search, hne], by simp⟩

/-! ## Linear search -/

theorem find?_eq_some_of_mem {key : α → β} {xs : List α} {b : β} {x : α}
    (hdistinct : (xs.map key).Nodup) (hmem : x ∈ xs) (hkey : key x = b) :
    (xs.find? fun y => key y = b) = some x := by
  cases hfind : xs.find? fun y => key y = b with
  | none => exact absurd (decide_eq_true hkey) (List.find?_eq_none.mp hfind x hmem)
  | some y =>
    have hy : key y = b := by simpa using List.find?_some hfind
    rw [List.inj_on_of_nodup_map hdistinct (List.mem_of_find?_eq_some hfind) hmem
      (hy.trans hkey.symm)]

-- The binary search of a sorted list agrees with a linear search of any permutation of it.
theorem search_eq_find? {key : α → β} {xs ys : List α} (hperm : xs.Perm ys)
    (hsorted : xs.Pairwise (key · ≤ key ·)) (hdistinct : (ys.map key).Nodup) (b : β) :
    search key xs b (xs.length + 1) 0 (xs.length - 1) = some (ys.find? fun y => key y = b) := by
  obtain ⟨res, hres, hans⟩ := search_answer hsorted b (xs.length + 1) 0 (xs.length - 1)
    (by omega) (by omega) (by omega) (by push_cast; omega)
  rw [hres, Option.some.injEq]
  cases res with
  | none =>
    refine (List.find?_eq_none.mpr fun y hy hkey => ?_).symm
    obtain ⟨i, hi, rfl⟩ := List.getElem_of_mem (hperm.mem_iff.mpr hy)
    exact hans.complete rfl i hi (by omega) (by omega) (of_decide_eq_true hkey)
  | some x =>
    obtain ⟨hmem, hkey⟩ := hans.sound x rfl
    exact (find?_eq_some_of_mem hdistinct (hperm.mem_iff.mp hmem) hkey).symm

end Reasoning.BinarySearch
