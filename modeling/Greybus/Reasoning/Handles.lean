import Mathlib.Data.List.Nodup
import Mathlib.Data.List.Perm.Basic

/-!
# Handles

A system gives handles out and takes them back.  A program that lists the handles it owns is covered
when the ones it lists are out, each listed once, and when it has never given one back that was not
out.  It accounts for its handles when no others are out.
-/

namespace Reasoning.Handles

variable {α : Type*} [DecidableEq α]

structure Pool (α : Type*) where
  opened : List α
  -- Handles given back that were not out.
  strays : Nat
  deriving DecidableEq, Repr

def Pool.initial : Pool α := ⟨[], 0⟩

def Pool.acquire (h : Pool α) (a : α) : Pool α := { h with opened := h.opened ++ [a] }

def Pool.release (h : Pool α) (a : α) : Pool α :=
  if a ∈ h.opened then { h with opened := h.opened.erase a } else { h with strays := h.strays + 1 }

structure Covers (h : Pool α) (owned : List α) : Prop where
  nodup : owned.Nodup
  subset : owned ⊆ h.opened
  strays : h.strays = 0

namespace Covers

variable {h : Pool α} {owned : List α} {a : α}

omit [DecidableEq α] in
theorem of_perm (hcov : Covers h owned) {owned' : List α} (hperm : owned.Perm owned') :
    Covers h owned' :=
  ⟨hperm.nodup hcov.nodup, fun _ hb => hcov.subset (hperm.mem_iff.mpr hb), hcov.strays⟩

omit [DecidableEq α] in
-- A handle that nobody lists.
theorem leak (hcov : Covers h owned) (a : α) : Covers (h.acquire a) owned :=
  ⟨hcov.nodup, fun _ hb => List.mem_append_left [a] (hcov.subset hb), hcov.strays⟩

omit [DecidableEq α] in
theorem acquire (hcov : Covers h owned) (ha : a ∉ h.opened) :
    Covers (h.acquire a) (owned ++ [a]) := by
  constructor
  case nodup =>
    apply List.nodup_append.mpr
    refine ⟨hcov.nodup, List.nodup_singleton a, fun b hb b' hb' heq => ha ?_⟩
    rw [← List.mem_singleton.mp hb', ← heq]
    exact hcov.subset hb
  case subset => exact List.append_subset.mpr ⟨(hcov.leak a).subset, by simp [Pool.acquire]⟩
  case strays => exact hcov.strays

theorem release (hcov : Covers h owned) (ha : a ∈ owned) :
    Covers (h.release a) (owned.erase a) := by
  unfold Pool.release
  rw [if_pos (hcov.subset ha)]
  constructor
  case nodup => exact hcov.nodup.erase a
  case subset =>
    intro b hb
    obtain ⟨hne, hmem⟩ := hcov.nodup.mem_erase_iff.mp hb
    exact (List.mem_erase_of_ne hne).mpr (hcov.subset hmem)
  case strays => exact hcov.strays

end Covers

structure Accounts (h : Pool α) (owned : List α) : Prop where
  perm : h.opened.Perm owned
  nodup : owned.Nodup
  strays : h.strays = 0

namespace Accounts

variable {h : Pool α} {owned : List α} {a : α}

omit [DecidableEq α] in
theorem initial : Accounts (Pool.initial : Pool α) [] := ⟨.refl _, List.nodup_nil, rfl⟩

omit [DecidableEq α] in
theorem covers (hacc : Accounts h owned) : Covers h owned :=
  ⟨hacc.nodup, fun _ hb => hacc.perm.mem_iff.mpr hb, hacc.strays⟩

omit [DecidableEq α] in
theorem opened_iff (hacc : Accounts h owned) : a ∈ h.opened ↔ a ∈ owned := hacc.perm.mem_iff

omit [DecidableEq α] in
theorem of_perm (hacc : Accounts h owned) {owned' : List α} (hperm : owned.Perm owned') :
    Accounts h owned' :=
  ⟨hacc.perm.trans hperm, hperm.nodup hacc.nodup, hacc.strays⟩

omit [DecidableEq α] in
theorem acquire (hacc : Accounts h owned) (ha : a ∉ h.opened) :
    Accounts (h.acquire a) (owned ++ [a]) :=
  ⟨hacc.perm.append_right [a], (hacc.covers.acquire ha).nodup, hacc.strays⟩

theorem release (hacc : Accounts h owned) (ha : a ∈ owned) :
    Accounts (h.release a) (owned.erase a) := by
  unfold Pool.release
  rw [if_pos (hacc.opened_iff.mpr ha)]
  exact ⟨hacc.perm.erase a, hacc.nodup.erase a, hacc.strays⟩

-- A handle that is given back at once has not changed the account.
theorem acquire_release (hacc : Accounts h owned) (ha : a ∉ h.opened) :
    Accounts ((h.acquire a).release a) owned := by
  have hback := (hacc.acquire ha).release (List.mem_append_right owned List.mem_cons_self)
  rw [List.erase_append_right _ fun hmem => ha (hacc.opened_iff.mpr hmem)] at hback
  simpa using hback

omit [DecidableEq α] in
-- A handle that is out and not listed.
theorem not_acquire (hacc : Accounts h owned) : ¬ Accounts (h.acquire a) owned := by
  intro hbad
  have hlen := hbad.perm.length_eq
  unfold Pool.acquire at hlen
  rw [List.length_append, hacc.perm.length_eq, List.length_singleton] at hlen
  omega

end Accounts

end Reasoning.Handles
