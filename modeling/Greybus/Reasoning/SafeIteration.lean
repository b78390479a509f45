import Mathlib.Data.List.Nodup

/-!
# Walking a list that changes

A walk over a list that the state holds, when the rounds may remove what they come to.  Each round
fetches the next element before it does anything else; the walk is safe as long as the rounds leave
alone what is still to come.
-/

namespace Reasoning.SafeIteration

variable {σ α : Type*} [DecidableEq α]

/-- The element behind `x`, if there is one; `none` when `x` is not in the list. -/
def peekNext : List α → α → Option (Option α)
  | [], _ => none
  | y :: ys, x => if y = x then some ys.head? else peekNext ys x

/-- The rounds from the element `cn` on; at most `fuel` of them. -/
def visit (items : σ → List α) (body : α → σ → Option σ) : Nat → Option α → σ → Option σ
  | _, none, s => some s
  | 0, some _, _ => none
  | fuel + 1, some cn, s =>
    (peekNext (items s) cn).bind fun cns => (body cn s).bind fun s => visit items body fuel cns s

/-- The walk over the items of `s`. -/
def forEachSafe (items : σ → List α) (body : α → σ → Option σ) (fuel : Nat) (s : σ) : Option σ :=
  visit items body fuel (items s).head? s

theorem peekNext_append {front rest : List α} {x : α} (hx : x ∉ front) :
    peekNext (front ++ x :: rest) x = some rest.head? := by
  induction front with
  | nil => exact if_pos rfl
  | cons y front ih =>
    rw [List.mem_cons, not_or] at hx
    rw [List.cons_append, peekNext, if_neg (Ne.symm hx.1)]
    exact ih hx.2

section Rule

variable {items : σ → List α} {body : α → σ → Option σ} {I : List α → σ → Prop}

-- What holds with the elements still to come holds at the end with none, if it tells that they are
-- the last ones of the list and if every round keeps it.
theorem visit_induct
    (hitems : ∀ rest s, I rest s → ∃ front, items s = front ++ rest ∧ (front ++ rest).Nodup)
    (hbody : ∀ x rest s, I (x :: rest) s → ∃ s', body x s = some s' ∧ I rest s')
    {fuel : Nat} {rest : List α} {s : σ} (hI : I rest s) (hfuel : rest.length ≤ fuel) :
    ∃ s', visit items body fuel rest.head? s = some s' ∧ I [] s' := by
  induction rest generalizing fuel s with
  | nil => exact ⟨s, by cases fuel <;> rfl, hI⟩
  | cons x rest ih =>
    obtain ⟨fuel, rfl⟩ := Nat.exists_eq_add_of_le' (Nat.lt_of_lt_of_le (Nat.succ_pos _) hfuel)
    obtain ⟨front, hs, hnodup⟩ := hitems _ s hI
    have hx : x ∉ front := fun hx => List.disjoint_of_nodup_append hnodup hx List.mem_cons_self
    obtain ⟨s₁, hround, hI₁⟩ := hbody x rest s hI
    obtain ⟨s', hrest, hI'⟩ := ih hI₁ (Nat.le_of_succ_le_succ hfuel)
    refine ⟨s', ?_, hI'⟩
    rw [List.head?_cons, visit, hs, peekNext_append hx, Option.bind_some, hround, Option.bind_some,
      hrest]

theorem forEachSafe_induct
    (hitems : ∀ rest s, I rest s → ∃ front, items s = front ++ rest ∧ (front ++ rest).Nodup)
    (hbody : ∀ x rest s, I (x :: rest) s → ∃ s', body x s = some s' ∧ I rest s')
    {fuel : Nat} {s : σ} (hI : I (items s) s) (hfuel : (items s).length ≤ fuel) :
    ∃ s', forEachSafe items body fuel s = some s' ∧ I [] s' :=
  visit_induct hitems hbody hI hfuel

end Rule

end Reasoning.SafeIteration
