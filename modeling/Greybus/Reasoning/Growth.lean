import Mathlib.Data.List.Basic

/-!
# Steps that only grow

A step grows when it leaves the state alone or makes it larger in some measure.  Steps that grow
cannot undo one another: a state that comes back has not changed on the way.
-/

namespace Reasoning.Growth

variable {σ α : Type*} {size : σ → Nat} {s t u : σ}

/-- `t` is `s`, or larger. -/
def Grows (size : σ → Nat) (s t : σ) : Prop := t = s ∨ size s < size t

theorem Grows.refl (size : σ → Nat) (s : σ) : Grows size s s := .inl rfl

theorem Grows.size_le (h : Grows size s t) : size s ≤ size t := by
  rcases h with rfl | h
  · exact Nat.le_refl _
  · exact Nat.le_of_lt h

theorem Grows.trans (hst : Grows size s t) (htu : Grows size t u) : Grows size s u := by
  rcases hst with rfl | hst
  · exact htu
  · right
    have hle := htu.size_le
    omega

-- What has not become larger has not changed.
theorem Grows.eq_of_size_le (h : Grows size s t) (hle : size t ≤ size s) : t = s := by
  rcases h with rfl | h
  · rfl
  · omega

-- A step that leaves the state alone exactly when `p` holds.
theorem grows_of_cases {p : Prop} (hsame : p → t = s) (hmore : ¬ p → size s < size t) :
    Grows size s t ∧ (t = s ↔ p) := by
  by_cases hp : p
  · exact ⟨.inl (hsame hp), iff_of_true (hsame hp) hp⟩
  · refine ⟨.inr (hmore hp), iff_of_false (fun heq => ?_) hp⟩
    have hlt := hmore hp
    rw [heq] at hlt
    exact Nat.lt_irrefl _ hlt

theorem foldl_grows {f : σ → α → σ} (h : ∀ s a, Grows size s (f s a)) (as : List α) (s : σ) :
    Grows size s (as.foldl f s) := by
  induction as generalizing s with
  | nil => exact .refl size s
  | cons a as ih => exact (h s a).trans (ih (f s a))

end Reasoning.Growth
