import Greybus.Reasoning.Transition
import Mathlib.Algebra.BigOperators.Group.List.Basic
import Mathlib.Algebra.Ring.Nat
import Mathlib.Tactic.Common

/-!
# Potentials

The steps that are counted lower a potential, and any other step raises it by no more than it pays.
A run then counts no more steps than it has started with and paid for; and where a counted step can
always be taken, counted steps alone come to an end.
-/

namespace Reasoning.Potential

open Reasoning.Transition

variable {σ α : Type*} {step : σ → α → Option σ} {P Done : σ → Prop} {rank : σ → Nat}
  {counts : α → Bool} {cost : α → Nat}

/-- In the states with `P`, `rank` pays for the steps that `counts` picks. -/
structure Pays (step : σ → α → Option σ) (P : σ → Prop) (rank : σ → Nat) (counts : α → Bool)
    (cost : α → Nat) : Prop where
  inv : ∀ s a s', P s → step s a = some s' → P s'
  counted : ∀ s a s', P s → step s a = some s' → counts a = true → rank s' < rank s
  other : ∀ s a s', P s → step s a = some s' → counts a = false → rank s' ≤ rank s + cost a

theorem Pays.countP_le (h : Pays step P rank counts cost) {s t : σ} {as : List α} (hs : P s)
    (hrun : run step s as = some t) :
    as.countP counts + rank t ≤ rank s + (as.map cost).sum := by
  induction as generalizing s with
  | nil =>
    obtain rfl := Option.some.inj hrun
    simp
  | cons a as ih =>
    obtain ⟨s', hstep, hrest⟩ := run_cons_eq_some.mp hrun
    have hle := ih (h.inv s a s' hs hstep) hrest
    rw [List.countP_cons, List.map_cons, List.sum_cons]
    cases ha : counts a with
    | true =>
      have hlt := h.counted s a s' hs hstep ha
      rw [if_pos rfl]
      omega
    | false =>
      have hother := h.other s a s' hs hstep ha
      rw [if_neg Bool.false_ne_true]
      omega

-- Where something that is counted can be done until all is done, it can be done in `rank s` steps.
theorem exists_run_done
    (hprogress : ∀ s, P s → ¬ Done s → ∃ a s', counts a = true ∧ step s a = some s' ∧ P s' ∧
      rank s' < rank s) {s : σ} (hs : P s) :
    ∃ as t, (∀ a ∈ as, counts a = true) ∧ as.length ≤ rank s ∧ run step s as = some t ∧ P t ∧
      Done t := by
  induction hn : rank s using Nat.strongRecOn generalizing s with
  | ind n ih =>
    by_cases hdone : Done s
    · exact ⟨[], s, by simp, Nat.zero_le _, rfl, hs, hdone⟩
    · obtain ⟨a, s', ha, hstep, hs', hlt⟩ := hprogress s hs hdone
      obtain ⟨as, t, has, hlength, hrun, ht, htdone⟩ := ih (rank s') (hn ▸ hlt) hs' rfl
      refine ⟨a :: as, t, ?_, ?_, run_cons_eq_some.mpr ⟨s', hstep, hrun⟩, ht, htdone⟩
      · simpa [ha] using has
      · rw [List.length_cons]
        omega

end Reasoning.Potential
