import Greybus.Reasoning.Potential
import Mathlib.Data.List.Chain
import Mathlib.Tactic.Common

/-!
# A value that is reported when it changes

Writers store a value and then post a semaphore; any number of them may be between the two.  A
reader waits, reads the value, and reports what it makes of it if that differs from its last report.
Values may be overwritten before they are read.  A report is out of date only while a post is due or
not consumed, so that the reader comes to rest with the latest value reported.
-/

namespace Reasoning.Mailbox

open Reasoning.Transition Reasoning.Potential

variable {α β : Type*}

inductive Reader (α : Type*) where
  | waiting
  -- A unit of the semaphore has been taken.
  | woken
  | holding (a : α)
  | stopped
  deriving DecidableEq, Repr

structure State (α β : Type*) where
  value : α
  sem : Nat
  -- Writers that have stored and not posted yet.
  owed : Nat
  reader : Reader α
  published : β
  -- The latest report comes first.
  reports : List β
  -- What has been stored, the latest first.
  stored : List α
  deriving DecidableEq, Repr

inductive Action (α : Type*) where
  | store (a : α)
  | post
  -- A unit that nothing has been stored for.
  | wake
  | wait
  | stop
  | read
  | publish
  deriving DecidableEq, Repr

def initial (value : α) (published : β) : State α β where
  value := value
  sem := 0
  owed := 0
  reader := .waiting
  published := published
  reports := []
  stored := []

/-- The reader compares what it holds with its last report. -/
def State.report [DecidableEq β] (f : α → β) (s : State α β) (a : α) : State α β :=
  if f a = s.published then { s with reader := .waiting }
  else { s with reader := .waiting, published := f a, reports := f a :: s.reports }

def step [DecidableEq β] (f : α → β) (s : State α β) : Action α → Option (State α β)
  | .store a => some { s with value := a, owed := s.owed + 1, stored := a :: s.stored }
  | .post => if 0 < s.owed then some { s with owed := s.owed - 1, sem := s.sem + 1 } else none
  | .wake => some { s with sem := s.sem + 1 }
  | .wait =>
    match s.reader with
    | .waiting => if 0 < s.sem then some { s with sem := s.sem - 1, reader := .woken } else none
    | _ => none
  | .stop =>
    match s.reader with
    | .woken => some { s with reader := .stopped }
    | _ => none
  | .read =>
    match s.reader with
    | .woken => some { s with reader := .holding s.value }
    | _ => none
  | .publish =>
    match s.reader with
    | .holding a => some (s.report f a)
    | _ => none

/-- The reader is about to look at the value, or has nothing to look at. -/
def Reader.Due (f : α → β) (value : α) : Reader α → Prop
  | .waiting => False
  | .woken => True
  | .holding a => f a = f value
  | .stopped => True

structure Inv (f : α → β) (value₀ : α) (published₀ : β) (s : State α β) : Prop where
  -- What is not reported is on its way.
  due : s.stored = [] ∨ 0 < s.owed ∨ 0 < s.sem ∨ s.reader.Due f s.value ∨
    s.reader = .waiting ∧ s.published = f s.value
  chain : (s.reports ++ [published₀]).IsChain (· ≠ ·)
  last : (s.reports ++ [published₀]).head? = some s.published
  current : s.value ∈ s.stored ++ [value₀]
  held : ∀ a, s.reader = .holding a → a ∈ s.stored ++ [value₀]
  source : ∀ b ∈ s.reports, ∃ a ∈ s.stored ++ [value₀], b = f a

theorem initial_inv (f : α → β) (value : α) (published : β) :
    Inv f value published (initial value published) where
  due := .inl rfl
  chain := by simp [initial]
  last := rfl
  current := by simp [initial]
  held := by simp [initial]
  source := by simp [initial]

variable {f : α → β} {value₀ : α} {published₀ : β} {s : State α β}

-- A new value is reported, or the last report still stands.
theorem Inv.report [DecidableEq β] (h : Inv f value₀ published₀ s) {a : α}
    (ha : s.reader = .holding a) : Inv f value₀ published₀ (s.report f a) := by
  have hdue := h.due
  rw [ha] at hdue
  have hdue' : ∀ published, published = f a → s.stored = [] ∨ 0 < s.owed ∨ 0 < s.sem ∨
      Reader.Due f s.value .waiting ∨ Reader.waiting = (.waiting : Reader α) ∧
        published = f s.value := by
    rintro published rfl
    rcases hdue with hnone | howed | hsem | hsame | ⟨hwait, -⟩
    · exact .inl hnone
    · exact .inr (.inl howed)
    · exact .inr (.inr (.inl hsem))
    · exact .inr (.inr (.inr (.inr ⟨rfl, hsame⟩)))
    · cases hwait
  unfold State.report
  split
  next hsame => exact ⟨hdue' _ hsame.symm, h.chain, h.last, h.current, by simp, h.source⟩
  next hnew =>
    refine ⟨hdue' _ rfl, ?_, rfl, h.current, by simp, fun b hb => ?_⟩
    · rw [List.cons_append, List.isChain_cons]
      refine ⟨fun b hb => ?_, h.chain⟩
      rw [h.last, Option.mem_some_iff] at hb
      exact hb ▸ hnew
    · rcases List.mem_cons.mp hb with rfl | hold
      · exact ⟨a, h.held a ha, rfl⟩
      · exact h.source b hold

theorem step_inv [DecidableEq β] {s' : State α β} {a : Action α} (h : Inv f value₀ published₀ s)
    (hstep : step f s a = some s') : Inv f value₀ published₀ s' := by
  cases a with
  | store a =>
    obtain rfl := Option.some.inj hstep
    refine ⟨.inr (.inl (Nat.succ_pos _)), h.chain, h.last, by simp, fun b hb => ?_,
      fun b hb => ?_⟩
    · exact List.mem_cons_of_mem a (h.held b hb)
    · obtain ⟨c, hc, hbc⟩ := h.source b hb
      exact ⟨c, List.mem_cons_of_mem a hc, hbc⟩
  | post =>
    simp only [step, Option.ite_none_right_eq_some, Option.some.injEq] at hstep
    obtain ⟨-, rfl⟩ := hstep
    exact { h with due := .inr (.inr (.inl (Nat.succ_pos _))) }
  | wake =>
    obtain rfl := Option.some.inj hstep
    exact { h with due := .inr (.inr (.inl (Nat.succ_pos _))) }
  | wait =>
    simp only [step] at hstep
    split at hstep
    next =>
      simp only [Option.ite_none_right_eq_some, Option.some.injEq] at hstep
      obtain ⟨-, rfl⟩ := hstep
      exact { h with due := .inr (.inr (.inr (.inl trivial))), held := by simp }
    next => cases hstep
  | stop =>
    simp only [step] at hstep
    split at hstep
    next =>
      obtain rfl := Option.some.inj hstep
      exact { h with due := .inr (.inr (.inr (.inl trivial))), held := by simp }
    next => cases hstep
  | read =>
    simp only [step] at hstep
    split at hstep
    next =>
      obtain rfl := Option.some.inj hstep
      exact { h with
        due := .inr (.inr (.inr (.inl rfl)))
        held := fun a ha => by
          obtain rfl := Reader.holding.inj ha
          exact h.current }
    next => cases hstep
  | publish =>
    simp only [step] at hstep
    split at hstep
    next b hb =>
      obtain rfl := Option.some.inj hstep
      exact h.report hb
    next => cases hstep

-- When the reader waits and no post is due, what it has reported is what is there.
theorem Inv.published_eq (h : Inv f value₀ published₀ s) (hreader : s.reader = .waiting)
    (hsem : s.sem = 0) (howed : s.owed = 0) (hstored : s.stored ≠ []) :
    s.published = f s.value := by
  rcases h.due with hnone | hpos | hpos | hdue | ⟨-, heq⟩
  · exact absurd hnone hstored
  · omega
  · omega
  · rw [hreader] at hdue
    exact hdue.elim
  · exact heq

/-! ## The reports are no more than the posts -/

/-- The units of the semaphore that have not been turned into a comparison yet. -/
def State.units (s : State α β) : Nat :=
  s.sem + match s.reader with
    | .woken | .holding _ => 1
    | _ => 0

/-- The units that an action adds. -/
def Action.units : Action α → Nat
  | .post | .wake => 1
  | _ => 0

theorem reports_le_of_step [DecidableEq β] {s' : State α β} {a : Action α}
    (hstep : step f s a = some s') :
    s'.reports.length + s'.units ≤ s.reports.length + s.units + a.units := by
  cases a with
  | store a =>
    obtain rfl := Option.some.inj hstep
    exact Nat.le_refl _
  | post =>
    simp only [step, Option.ite_none_right_eq_some, Option.some.injEq] at hstep
    obtain ⟨-, rfl⟩ := hstep
    simp only [State.units, Action.units]
    omega
  | wake =>
    obtain rfl := Option.some.inj hstep
    simp only [State.units, Action.units]
    omega
  | wait =>
    simp only [step] at hstep
    split at hstep
    next hreader =>
      simp only [Option.ite_none_right_eq_some, Option.some.injEq] at hstep
      obtain ⟨hpos, rfl⟩ := hstep
      simp only [State.units, Action.units, hreader]
      omega
    next => cases hstep
  | stop =>
    simp only [step] at hstep
    split at hstep
    next hreader =>
      obtain rfl := Option.some.inj hstep
      simp only [State.units, Action.units, hreader]
      omega
    next => cases hstep
  | read =>
    simp only [step] at hstep
    split at hstep
    next hreader =>
      obtain rfl := Option.some.inj hstep
      simp only [State.units, Action.units, hreader]
      omega
    next => cases hstep
  | publish =>
    simp only [step] at hstep
    split at hstep
    next b hreader =>
      obtain rfl := Option.some.inj hstep
      unfold State.report
      split <;> simp only [State.units, Action.units, hreader, List.length_cons] <;> omega
    next => cases hstep

theorem run_reports_le [DecidableEq β] {as : List (Action α)}
    (hrun : run (step f) (initial value₀ published₀) as = some s) :
    s.reports.length ≤ (as.map Action.units).sum := by
  have hpays : Pays (step f) (fun _ => True) (fun s : State α β => s.reports.length + s.units)
      (fun _ => false) Action.units :=
    ⟨fun _ _ _ _ _ => trivial, by simp, fun _ _ _ _ hstep _ => reports_le_of_step hstep⟩
  have hle := hpays.countP_le trivial hrun
  have hinit : (initial value₀ published₀).reports.length + (initial value₀ published₀).units = 0 :=
    rfl
  rw [hinit] at hle
  omega

theorem run_inv [DecidableEq β] {as : List (Action α)}
    (hrun : run (step f) (initial value₀ published₀) as = some s) : Inv f value₀ published₀ s :=
  run_induct (fun _ _ _ h hstep => step_inv h hstep) (initial_inv f value₀ published₀) hrun

end Reasoning.Mailbox
