import Mathlib.Data.List.Induction
import Mathlib.Logic.Function.Basic

/-!
# Runs of deterministic transition systems

A system is a partial step function `step : σ → α → Option σ`: the action carries every outcome the
environment chooses, and `none` says that the action cannot be taken.  A run is the list of its
actions.  `EachStep` states a property of every step of a run, `BeforeEach` one of every state with
the action that is next, `Since` what a run has met and what it has not met after that, and `family`
puts one copy of a system beside another for every index.
-/

namespace Reasoning.Transition

variable {σ α ι : Type*}

/-- The state after the actions of `as`, taken in order from `s`. -/
def run (step : σ → α → Option σ) : σ → List α → Option σ
  | s, [] => some s
  | s, a :: as => (step s a).bind fun s' => run step s' as

@[simp] theorem run_nil (step : σ → α → Option σ) (s : σ) : run step s [] = some s := rfl

theorem run_cons_eq_some {step : σ → α → Option σ} {s t : σ} {a : α} {as : List α} :
    run step s (a :: as) = some t ↔ ∃ s', step s a = some s' ∧ run step s' as = some t := by
  simp only [run, Option.bind_eq_some_iff]

-- What one step preserves, every run preserves.
theorem run_induct {step : σ → α → Option σ} {P : σ → Prop}
    (hstep : ∀ s a s', P s → step s a = some s' → P s') {s t : σ} {as : List α}
    (hs : P s) (hrun : run step s as = some t) : P t := by
  induction as generalizing s with
  | nil => simp only [run_nil, Option.some.injEq] at hrun; exact hrun ▸ hs
  | cons a as ih =>
    obtain ⟨s', hstep', hrest⟩ := run_cons_eq_some.mp hrun
    exact ih (hstep s a s' hs hstep') hrest

/-- Every step that the run of `as` from `s` takes satisfies `Q`. -/
def EachStep (step : σ → α → Option σ) (Q : σ → α → σ → Prop) : σ → List α → Prop
  | _, [] => True
  | s, a :: as => ∀ s', step s a = some s' → Q s a s' ∧ EachStep step Q s' as

instance instDecidableEachStep {step : σ → α → Option σ} {Q : σ → α → σ → Prop}
    [∀ s a s', Decidable (Q s a s')] (s : σ) (as : List α) : Decidable (EachStep step Q s as) :=
  match as with
  | [] => .isTrue trivial
  | a :: as =>
    match h : step s a with
    | none => .isTrue fun s' hs' => by simp [h] at hs'
    | some s' =>
      have : Decidable (EachStep step Q s' as) := instDecidableEachStep s' as
      decidable_of_iff (Q s a s' ∧ EachStep step Q s' as) (by simp [EachStep, h])

theorem eachStep_of_forall {step : σ → α → Option σ} {Q : σ → α → σ → Prop} {as : List α}
    (h : ∀ a ∈ as, ∀ s s', Q s a s') (s : σ) : EachStep step Q s as := by
  induction as generalizing s with
  | nil => exact trivial
  | cons a as ih =>
    exact fun s' _ => ⟨h a List.mem_cons_self s s',
      ih (fun b hb => h b (List.mem_cons_of_mem a hb)) s'⟩

-- A run whose steps all meet `Q` preserves what a step meeting `Q` preserves.
theorem run_induct_of_eachStep {step : σ → α → Option σ} {Q : σ → α → σ → Prop} {P : σ → Prop}
    (hstep : ∀ s a s', P s → step s a = some s' → Q s a s' → P s') {s t : σ} {as : List α}
    (hs : P s) (heach : EachStep step Q s as) (hrun : run step s as = some t) : P t := by
  induction as generalizing s with
  | nil => simp only [run_nil, Option.some.injEq] at hrun; exact hrun ▸ hs
  | cons a as ih =>
    obtain ⟨s', hstep', hrest⟩ := run_cons_eq_some.mp hrun
    obtain ⟨hq, heach'⟩ := heach s' hstep'
    exact ih (hstep s a s' hs hstep' hq) heach' hrest

-- What the steps with `Q` have from states with an invariant that they preserve, they have in a run.
theorem eachStep_mono_of {step : σ → α → Option σ} {Q R : σ → α → σ → Prop} {P : σ → Prop}
    (hinv : ∀ s a s', P s → step s a = some s' → Q s a s' → P s')
    (hQR : ∀ s a s', P s → step s a = some s' → Q s a s' → R s a s') {s : σ} {as : List α}
    (hs : P s) (h : EachStep step Q s as) : EachStep step R s as := by
  induction as generalizing s with
  | nil => exact trivial
  | cons a as ih =>
    intro s' hstep
    obtain ⟨hq, hrest⟩ := h s' hstep
    exact ⟨hQR s a s' hs hstep hq, ih (hinv s a s' hs hstep hq) hrest⟩

theorem eachStep_mono {step : σ → α → Option σ} {Q R : σ → α → σ → Prop}
    (hQR : ∀ s a s', step s a = some s' → Q s a s' → R s a s') {s : σ} {as : List α}
    (h : EachStep step Q s as) : EachStep step R s as :=
  eachStep_mono_of (P := fun _ => True) (fun _ _ _ _ _ _ => trivial)
    (fun s a s' _ hstep hq => hQR s a s' hstep hq) trivial h

theorem eachStep_and {step : σ → α → Option σ} {Q R : σ → α → σ → Prop} {s : σ} {as : List α}
    (hQ : EachStep step Q s as) (hR : EachStep step R s as) :
    EachStep step (fun s a s' => Q s a s' ∧ R s a s') s as := by
  induction as generalizing s with
  | nil => exact trivial
  | cons a as ih =>
    intro s' hstep
    exact ⟨⟨(hQ s' hstep).1, (hR s' hstep).1⟩, ih (hQ s' hstep).2 (hR s' hstep).2⟩

-- Two step properties that agree on every step from an invariant state agree on every run.  The
-- invariant need only survive the steps that meet the first property.
theorem eachStep_congr_of {step : σ → α → Option σ} {Q R : σ → α → σ → Prop} {P : σ → Prop}
    (hinv : ∀ s a s', P s → step s a = some s' → Q s a s' → P s')
    (hQR : ∀ s a s', P s → step s a = some s' → (Q s a s' ↔ R s a s')) {s : σ} {as : List α}
    (hs : P s) : EachStep step Q s as ↔ EachStep step R s as := by
  induction as generalizing s with
  | nil => simp only [EachStep]
  | cons a as ih =>
    simp only [EachStep]
    apply forall_congr'
    intro s'
    apply forall_congr'
    intro hstep
    rw [← hQR s a s' hs hstep]
    exact and_congr_right fun hq => ih (hinv s a s' hs hstep hq)

-- An invariant that every step preserves is one that the steps with the first property preserve.
theorem eachStep_congr {step : σ → α → Option σ} {Q R : σ → α → σ → Prop} {P : σ → Prop}
    (hinv : ∀ s a s', P s → step s a = some s' → P s')
    (hQR : ∀ s a s', P s → step s a = some s' → (Q s a s' ↔ R s a s')) {s : σ} {as : List α}
    (hs : P s) : EachStep step Q s as ↔ EachStep step R s as :=
  eachStep_congr_of (fun s a s' hs hstep _ => hinv s a s' hs hstep) hQR hs

/-- `P` holds of every state that the run of `as` from `s` comes to and the action that is next,
whether the action can be taken or not. -/
def BeforeEach (step : σ → α → Option σ) (P : σ → α → Prop) : σ → List α → Prop
  | _, [] => True
  | s, a :: as => P s a ∧ ∀ s', step s a = some s' → BeforeEach step P s' as

-- Two properties that agree wherever an invariant holds agree before each action.
theorem beforeEach_congr {step : σ → α → Option σ} {P R : σ → α → Prop} {I : σ → Prop}
    (hinv : ∀ s a s', I s → step s a = some s' → I s')
    (hPR : ∀ s a, I s → (P s a ↔ R s a)) {s : σ} {as : List α} (hs : I s) :
    BeforeEach step P s as ↔ BeforeEach step R s as := by
  induction as generalizing s with
  | nil => exact Iff.rfl
  | cons a as ih =>
    rw [BeforeEach, BeforeEach, hPR s a hs]
    refine and_congr_right fun _ => forall_congr' fun s' => forall_congr' fun hstep => ?_
    exact ih (hinv s a s' hs hstep)

/-- `P` holds in every state that the run of `as` from `s` passes through. -/
def Throughout (step : σ → α → Option σ) (P : σ → Prop) (s : σ) (as : List α) : Prop :=
  ∀ pre t, pre <+: as → run step s pre = some t → P t

theorem throughout_nil {step : σ → α → Option σ} {P : σ → Prop} {s : σ} :
    Throughout step P s [] ↔ P s := by
  refine ⟨fun h => h [] s List.nil_prefix rfl, fun hs pre t hpre hrun => ?_⟩
  rw [List.prefix_nil.mp hpre, run_nil, Option.some.injEq] at hrun
  exact hrun ▸ hs

theorem throughout_now {step : σ → α → Option σ} {P : σ → Prop} {s : σ} {as : List α}
    (h : Throughout step P s as) : P s := h [] s List.nil_prefix rfl

theorem throughout_cons {step : σ → α → Option σ} {P : σ → Prop} {s s' : σ} {a : α} {as : List α}
    (hstep : step s a = some s') :
    Throughout step P s (a :: as) ↔ P s ∧ Throughout step P s' as := by
  constructor
  · intro h
    refine ⟨throughout_now h, fun pre t hpre hrun => ?_⟩
    exact h (a :: pre) t (List.cons_prefix_cons.mpr ⟨rfl, hpre⟩)
      (run_cons_eq_some.mpr ⟨s', hstep, hrun⟩)
  · rintro ⟨hs, h⟩ pre t hpre hrun
    cases pre with
    | nil =>
      rw [run_nil, Option.some.injEq] at hrun
      exact hrun ▸ hs
    | cons b pre =>
      obtain ⟨rfl, htail⟩ := List.cons_prefix_cons.mp hpre
      obtain ⟨t', hb, hrest⟩ := run_cons_eq_some.mp hrun
      obtain rfl : s' = t' := Option.some.inj (hstep.symm.trans hb)
      exact h pre t htail hrest

theorem Throughout.mono {step : σ → α → Option σ} {P R : σ → Prop} {s : σ} {as : List α}
    (h : Throughout step P s as) (hPR : ∀ s, P s → R s) : Throughout step R s as :=
  fun pre t hpre hrun => hPR t (h pre t hpre hrun)

-- What the steps with `Q` preserve holds throughout a run of such steps.
theorem throughout_of_eachStep {step : σ → α → Option σ} {P : σ → Prop} {Q : σ → α → σ → Prop}
    (hstep : ∀ s a s', P s → step s a = some s' → Q s a s' → P s') {s : σ} {as : List α} (hs : P s)
    (heach : EachStep step Q s as) : Throughout step P s as := by
  intro pre t hpre hrun
  induction pre generalizing s as with
  | nil =>
    rw [run_nil, Option.some.injEq] at hrun
    exact hrun ▸ hs
  | cons b pre ih =>
    cases as with
    | nil => cases List.prefix_nil.mp hpre
    | cons a as =>
      obtain ⟨rfl, htail⟩ := List.cons_prefix_cons.mp hpre
      obtain ⟨s', hs', hrest⟩ := run_cons_eq_some.mp hrun
      obtain ⟨hq, heach'⟩ := heach s' hs'
      exact ih (hstep s b s' hs hs' hq) heach' htail hrest

-- Where a step from a state with `P` meets `Q` exactly when `P` holds after it, a run keeps `P`
-- exactly when all its steps meet `Q`.
theorem throughout_iff_eachStep {step : σ → α → Option σ} {P : σ → Prop} {Q : σ → α → σ → Prop}
    (hstep : ∀ s a s', P s → step s a = some s' → (P s' ↔ Q s a s')) {s : σ} {as : List α}
    (hs : P s) : Throughout step P s as ↔ EachStep step Q s as := by
  induction as generalizing s with
  | nil => exact iff_of_true (throughout_nil.mpr hs) trivial
  | cons a as ih =>
    cases ha : step s a with
    | none =>
      refine iff_of_true (fun pre t hpre hrun => ?_) fun s' hs' => ?_
      · cases pre with
        | nil =>
          rw [run_nil, Option.some.injEq] at hrun
          exact hrun ▸ hs
        | cons b pre =>
          obtain ⟨rfl, -⟩ := List.cons_prefix_cons.mp hpre
          obtain ⟨s', hs', -⟩ := run_cons_eq_some.mp hrun
          rw [ha] at hs'
          cases hs'
      · rw [ha] at hs'
        cases hs'
    | some s' =>
      have hcons : EachStep step Q s (a :: as) ↔ Q s a s' ∧ EachStep step Q s' as := by
        simp [EachStep, ha]
      rw [throughout_cons ha, hcons, and_iff_right hs, ← hstep s a s' hs ha]
      constructor
      · intro hall
        have hs' := throughout_now hall
        exact ⟨hs', (ih hs').mp hall⟩
      · rintro ⟨hs', heach⟩
        exact (ih hs').mpr heach

/-! ## What has happened since -/

theorem run_append {step : σ → α → Option σ} {s : σ} {as bs : List α} :
    run step s (as ++ bs) = (run step s as).bind fun t => run step t bs := by
  induction as generalizing s with
  | nil => rfl
  | cons a as ih => simp only [List.cons_append, run, Option.bind_assoc, ih]

theorem eachStep_append_singleton {step : σ → α → Option σ} {Q : σ → α → σ → Prop} {s t u : σ}
    {as : List α} {a : α} (hrun : run step s as = some t) (ha : step t a = some u)
    (heach : EachStep step Q s as) (hq : Q t a u) : EachStep step Q s (as ++ [a]) := by
  induction as generalizing s with
  | nil =>
    obtain rfl := Option.some.inj hrun
    intro u' hu'
    obtain rfl : u = u' := Option.some.inj (ha.symm.trans hu')
    exact ⟨hq, trivial⟩
  | cons b as ih =>
    obtain ⟨s', hstep, hrest⟩ := run_cons_eq_some.mp hrun
    intro s'' hs''
    obtain rfl : s' = s'' := Option.some.inj (hstep.symm.trans hs'')
    obtain ⟨hb, htail⟩ := heach s' hstep
    exact ⟨hb, ih hrest htail⟩

/-- Some step of the run of `as` from `s` satisfies `Sets`, and no step after it `Resets`. -/
def Since (step : σ → α → Option σ) (Sets Resets : σ → α → σ → Prop) (s : σ) (as : List α) :
    Prop :=
  ∃ pre b post t u, as = pre ++ b :: post ∧ run step s pre = some t ∧ step t b = some u ∧
    Sets t b u ∧ EachStep step (fun s a s' => ¬ Resets s a s') u post

-- What only `Sets` can bring about and every `Resets` ends, holds only after the one and not
-- after the other.
theorem since_of_run {step : σ → α → Option σ} {C : σ → Prop} {Sets Resets : σ → α → σ → Prop}
    (hstep : ∀ s a s', step s a = some s' → C s' → Sets s a s' ∨ C s ∧ ¬ Resets s a s')
    {s t : σ} {as : List α} (hs : ¬ C s) (hrun : run step s as = some t) (ht : C t) :
    Since step Sets Resets s as := by
  induction as using List.reverseRecOn generalizing t with
  | nil =>
    obtain rfl := Option.some.inj hrun
    exact absurd ht hs
  | append_singleton as a ih =>
    rw [run_append] at hrun
    obtain ⟨u, hu, hlast⟩ := Option.bind_eq_some_iff.mp hrun
    obtain ⟨t', ha, hnil⟩ := run_cons_eq_some.mp hlast
    obtain rfl : t' = t := Option.some.inj hnil
    rcases hstep u a t' ha ht with hset | ⟨hu', hkeep⟩
    · exact ⟨as, a, [], u, t', rfl, hu, ha, hset, trivial⟩
    · obtain ⟨pre, b, post, v, w, rfl, hpre, hb, hset, heach⟩ := ih hu hu'
      refine ⟨pre, b, post ++ [a], v, w, by simp, hpre, hb, hset, ?_⟩
      rw [run_append, hpre, Option.bind_some] at hu
      obtain ⟨w', hb', hpost⟩ := run_cons_eq_some.mp hu
      obtain rfl : w = w' := Option.some.inj (hb.symm.trans hb')
      exact eachStep_append_singleton hpost ha heach hkeep

/-! ## Families -/

variable [DecidableEq ι]

/-- One copy of the system for every index; an action names the copy that takes it. -/
def family (step : σ → α → Option σ) (g : ι → σ) (ia : ι × α) : Option (ι → σ) :=
  (step (g ia.1) ia.2).map (Function.update g ia.1)

-- A run of the family is, seen from one index, a run of that copy alone.
theorem run_family {step : σ → α → Option σ} {g h : ι → σ} {as : List (ι × α)}
    (hrun : run (family step) g as = some h) (i : ι) :
    ∃ bs, run step (g i) bs = some (h i) := by
  induction as generalizing g with
  | nil =>
    simp only [run_nil, Option.some.injEq] at hrun
    exact ⟨[], by rw [hrun, run_nil]⟩
  | cons ia as ih =>
    obtain ⟨g', hstep, hrest⟩ := run_cons_eq_some.mp hrun
    obtain ⟨s', hs', rfl⟩ := Option.map_eq_some_iff.mp hstep
    obtain ⟨bs, hbs⟩ := ih hrest
    by_cases hi : i = ia.1
    · subst hi
      rw [Function.update_self] at hbs
      exact ⟨ia.2 :: bs, run_cons_eq_some.mpr ⟨s', hs', hbs⟩⟩
    · rw [Function.update_of_ne hi] at hbs
      exact ⟨bs, hbs⟩

end Reasoning.Transition
