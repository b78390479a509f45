import Greybus.Reasoning.Transition
import Mathlib.Data.List.Nodup

/-!
# Resources that are used in turn

A component acquires resources, each in a mode, uses them in that mode, and releases them.  The log
of what it does is in order when it uses and releases nothing that it does not hold.
-/

namespace Reasoning.Typestate

open Reasoning.Transition

variable {α μ : Type*} [DecidableEq α] [DecidableEq μ]

inductive HandleEvent (α μ : Type*) where
  -- `none` when there is none to be had.
  | acquire (a : Option α) (m : μ)
  | use (a : α) (m : μ)
  | release (a : α)
  deriving DecidableEq, Repr

/-- What is held after an event; `none` when the event is out of order. -/
def track (held : List (α × μ)) : HandleEvent α μ → Option (List (α × μ))
  | .acquire none _ => some held
  | .acquire (some a) m => if a ∈ held.map Prod.fst then none else some ((a, m) :: held)
  | .use a m => if (a, m) ∈ held then some held else none
  | .release a =>
    if a ∈ held.map Prod.fst then some (held.filter fun h => h.1 ≠ a) else none

/-- The log is in order, and this is held after it. -/
def Tracks (log : List (HandleEvent α μ)) (held : List (α × μ)) : Prop :=
  run track [] log = some held

namespace Tracks

variable {log : List (HandleEvent α μ)} {held held' : List (α × μ)} {a : α} {m : μ}

theorem nil : Tracks ([] : List (HandleEvent α μ)) [] := rfl

theorem append (h : Tracks log held) {es : List (HandleEvent α μ)}
    (hes : run track held es = some held') : Tracks (log ++ es) held' := by
  rw [Tracks, run_append, h, Option.bind_some, hes]

theorem snoc (h : Tracks log held) {e : HandleEvent α μ} (he : track held e = some held') :
    Tracks (log ++ [e]) held' :=
  h.append (run_cons_eq_some.mpr ⟨held', he, rfl⟩)

theorem fail (h : Tracks log held) (m : μ) : Tracks (log ++ [.acquire none m]) held := h.snoc rfl

theorem acquire (h : Tracks log held) (ha : a ∉ held.map Prod.fst) (m : μ) :
    Tracks (log ++ [.acquire (some a) m]) ((a, m) :: held) := h.snoc (if_neg ha)

theorem use (h : Tracks log held) (ha : (a, m) ∈ held) : Tracks (log ++ [.use a m]) held :=
  h.snoc (if_pos ha)

-- What has been acquired last is released.
theorem release (h : Tracks log ((a, m) :: held)) (ha : a ∉ held.map Prod.fst) :
    Tracks (log ++ [.release a]) held := by
  refine h.snoc ?_
  rw [track, if_pos (by simp), List.filter_cons_of_neg (by simp), Option.some.injEq,
    List.filter_eq_self]
  intro b hb
  simp only [ne_eq, decide_eq_true_eq]
  rintro rfl
  exact ha (List.mem_map_of_mem hb)

end Tracks

/-! ## Counting -/

/-- The event acquires this resource. -/
def HandleEvent.acquires (a : α) : HandleEvent α μ → Bool
  | .acquire b _ => b = some a
  | _ => false

/-- The event releases this resource. -/
def HandleEvent.releases (a : α) : HandleEvent α μ → Bool
  | .release b => b = a
  | _ => false

theorem track_nodup {held held' : List (α × μ)} {e : HandleEvent α μ}
    (h : (held.map Prod.fst).Nodup)
    (he : track held e = some held') : (held'.map Prod.fst).Nodup := by
  cases e with
  | acquire b m =>
    cases b with
    | none => exact Option.some.inj he ▸ h
    | some b =>
      simp only [track, Option.ite_none_left_eq_some, Option.some.injEq] at he
      rw [← he.2, List.map_cons, List.nodup_cons]
      exact ⟨he.1, h⟩
  | use b m =>
    simp only [track, Option.ite_none_right_eq_some, Option.some.injEq] at he
    exact he.2 ▸ h
  | release b =>
    simp only [track, Option.ite_none_right_eq_some, Option.some.injEq] at he
    rw [← he.2]
    exact h.sublist (List.filter_sublist.map Prod.fst)

omit [DecidableEq μ] in
theorem count_filter_ne {held : List (α × μ)} {a b : α} :
    ((held.filter fun h => h.1 ≠ b).map Prod.fst).count a
      = if b = a then 0 else (held.map Prod.fst).count a := by
  induction held with
  | nil => simp
  | cons c held ih =>
    by_cases hc : c.1 = b
    · rw [List.filter_cons_of_neg (by simpa using hc), ih]
      split
      next => rfl
      next hba => rw [List.map_cons, List.count_cons_of_ne (fun h => hba (hc.symm.trans h))]
    · rw [List.filter_cons_of_pos (by simpa using hc), List.map_cons, List.count_cons, ih,
        List.map_cons, List.count_cons]
      split
      next hba =>
        subst hba
        simp [hc]
      next => rfl

theorem track_count {held held' : List (α × μ)} {e : HandleEvent α μ}
    (h : (held.map Prod.fst).Nodup)
    (he : track held e = some held') (a : α) :
    (held.map Prod.fst).count a + (if e.acquires a then 1 else 0)
      = (held'.map Prod.fst).count a + (if e.releases a then 1 else 0) := by
  cases e with
  | acquire b m =>
    cases b with
    | none =>
      obtain rfl := Option.some.inj he
      simp [HandleEvent.acquires, HandleEvent.releases]
    | some b =>
      simp only [track, Option.ite_none_left_eq_some, Option.some.injEq] at he
      rw [← he.2, List.map_cons, List.count_cons]
      simp [HandleEvent.acquires, HandleEvent.releases]
  | use b m =>
    simp only [track, Option.ite_none_right_eq_some, Option.some.injEq] at he
    simp [HandleEvent.acquires, HandleEvent.releases, he.2]
  | release b =>
    simp only [track, Option.ite_none_right_eq_some, Option.some.injEq] at he
    rw [← he.2, count_filter_ne]
    by_cases hb : b = a
    · subst hb
      simp [HandleEvent.acquires, HandleEvent.releases, List.count_eq_one_of_mem h he.1]
    · simp [HandleEvent.acquires, HandleEvent.releases, hb]

/-- In a log that is in order, every resource has been acquired as often as it has been released,
and once more if it is held. -/
theorem Tracks.count_eq {log : List (HandleEvent α μ)} {held : List (α × μ)} (h : Tracks log held)
    (a : α) : log.countP (HandleEvent.acquires a)
      = log.countP (HandleEvent.releases a) + (held.map Prod.fst).count a := by
  suffices hall : ∀ start : List (α × μ), (start.map Prod.fst).Nodup →
      run track start log = some held →
      (start.map Prod.fst).count a + log.countP (HandleEvent.acquires a)
        = log.countP (HandleEvent.releases a) + (held.map Prod.fst).count a by
    simpa using hall [] List.nodup_nil h
  clear h
  intro start hstart hrun
  induction log generalizing start with
  | nil =>
    obtain rfl := Option.some.inj hrun
    simp
  | cons e log ih =>
    obtain ⟨next, he, hrest⟩ := run_cons_eq_some.mp hrun
    have hcount := track_count hstart he a
    have hlog := ih next (track_nodup hstart he) hrest
    rw [List.countP_cons, List.countP_cons]
    omega

end Reasoning.Typestate
