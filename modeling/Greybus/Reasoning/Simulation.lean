import Greybus.Reasoning.Transition
import Mathlib.Algebra.BigOperators.Group.List.Basic
import Mathlib.Algebra.Ring.Nat
import Mathlib.Tactic.Common

/-!
# Simulation

A step of one system is a run of another one, seen through an abstraction function; so is a run.
Weights of the actions are carried along.
-/

namespace Reasoning.Simulation

open Reasoning.Transition

variable {σ τ α β : Type*} {step : σ → α → Option σ} {step' : τ → β → Option τ} {abs : σ → τ}
  {acts : σ → α → List β} {weight : α → Nat} {weight' : β → Nat}

/-- Each step is a run of the other system that weighs no more. -/
structure Simulates (step : σ → α → Option σ) (step' : τ → β → Option τ) (abs : σ → τ)
    (acts : σ → α → List β) (weight : α → Nat) (weight' : β → Nat) : Prop where
  step_run : ∀ s a s', step s a = some s' → run step' (abs s) (acts s a) = some (abs s')
  weight_le : ∀ s a, ((acts s a).map weight').sum ≤ weight a

theorem Simulates.run_run (h : Simulates step step' abs acts weight weight') {s t : σ}
    {as : List α} (hrun : run step s as = some t) :
    ∃ bs, run step' (abs s) bs = some (abs t) ∧ (bs.map weight').sum ≤ (as.map weight).sum := by
  induction as generalizing s with
  | nil =>
    obtain rfl := Option.some.inj hrun
    exact ⟨[], rfl, Nat.le_refl _⟩
  | cons a as ih =>
    obtain ⟨s', hstep, hrest⟩ := run_cons_eq_some.mp hrun
    obtain ⟨bs, hbs, hweight⟩ := ih hrest
    refine ⟨acts s a ++ bs, ?_, ?_⟩
    · rw [run_append, h.step_run s a s' hstep, Option.bind_some, hbs]
    · have hle := h.weight_le s a
      rw [List.map_append, List.sum_append, List.map_cons, List.sum_cons]
      omega

end Reasoning.Simulation
