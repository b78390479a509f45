import Mathlib.Algebra.BigOperators.Group.Finset.Basic
import Mathlib.Algebra.BigOperators.Group.Finset.Piecewise
import Mathlib.Algebra.Order.BigOperators.Group.Finset
import Mathlib.Algebra.Order.Ring.Nat
import Mathlib.Algebra.Group.Pi.Basic
import Mathlib.Data.List.Count

/-!
# Reference counting

Objects on a heap carry a count of the references to them and may hold one reference themselves.
Dropping the last reference to an object frees it and drops the reference it holds.  The heap is
balanced when every count is the number of references from outside the heap plus the number of
objects that refer to it.
-/

namespace Reasoning.RefCount

/-- The objects of a reference-counted heap, and the resources that are freed with an object. -/
structure Counted (β ρ : Type*) where
  count : β → Int
  setCount : Int → β → β
  -- The reference that an object holds.
  next : β → Option Nat
  -- What is freed before the reference is dropped.
  buffers : Nat → β → List ρ
  -- What is freed after it.
  self : Nat → ρ
  count_setCount : ∀ k b, count (setCount k b) = k
  setCount_count : ∀ b, setCount (count b) b = b
  setCount_setCount : ∀ j k b, setCount j (setCount k b) = setCount j b
  next_setCount : ∀ k b, next (setCount k b) = next b
  buffers_setCount : ∀ q k b, buffers q (setCount k b) = buffers q b

abbrev Heap (β : Type*) := Nat → Option β

variable {β ρ : Type*} (C : Counted β ρ)

/-- Drop one reference to the object `q`, with what is freed in order.  `none` is an access to an
object that is not there. -/
def Counted.unref : Nat → Heap β → Nat → Option (Heap β × List ρ)
  | 0, _, _ => none
  | fuel + 1, h, q =>
    (h q).bind fun b =>
    let h := Function.update h q (some (C.setCount (C.count b - 1) b))
    if C.count b - 1 ≠ 0 then some (h, [])
    else
      match C.next b with
      | none => some (Function.update h q none, C.buffers q b ++ [C.self q])
      | some r =>
        (Counted.unref fuel h r).map fun res =>
        (Function.update res.1 q none, C.buffers q b ++ res.2 ++ [C.self q])

/-! ## Sums over a heap -/

-- Changing one entry of a table changes a sum over the table by that entry.
theorem sum_update {α : Type*} {n q : Nat} (hq : q < n) (f : Nat → α → Nat) (g : Nat → α) (v : α) :
    ∑ p ∈ Finset.range n, f p (Function.update g q v p) + f q (g q)
      = ∑ p ∈ Finset.range n, f p (g p) + f q v := by
  have hmem : q ∈ Finset.range n := Finset.mem_range.mpr hq
  have hothers : ∀ p ∈ (Finset.range n).erase q, f p (Function.update g q v p) = f p (g p) :=
    fun p hp => by rw [Function.update_of_ne (Finset.ne_of_mem_erase hp)]
  rw [← Finset.add_sum_erase _ _ hmem, ← Finset.add_sum_erase _ (fun p => f p (g p)) hmem,
    Finset.sum_congr rfl hothers, Function.update_self]
  omega

-- Counting what at most one index satisfies.
theorem sum_indicator {n : Nat} {P : Nat → Prop} [DecidablePred P]
    (hone : ∀ p q, P p → P q → p = q) :
    (∑ p ∈ Finset.range n, if P p then 1 else 0) = if ∃ p, p < n ∧ P p then 1 else 0 := by
  by_cases h : ∃ p, p < n ∧ P p
  · obtain ⟨p, hp, hP⟩ := h
    rw [if_pos ⟨p, hp, hP⟩, Finset.sum_eq_single_of_mem p (Finset.mem_range.mpr hp) ?_, if_pos hP]
    exact fun q _ hq => if_neg fun hPq => hq (hone q p hPq hP)
  · rw [if_neg h, Finset.sum_eq_zero]
    exact fun p hp => if_neg fun hP => h ⟨p, Finset.mem_range.mp hp, hP⟩

/-- One reference to the object that `o` names, if it names one. -/
def ref (o : Option Nat) (x : Nat) : Nat := if o = some x then 1 else 0

@[simp] theorem ref_none (x : Nat) : ref none x = 0 := rfl

@[simp] theorem ref_some (q x : Nat) : ref (some q) x = if q = x then 1 else 0 := by
  simp [ref]

/-- The number of objects among the first `n` that refer to `x`. -/
def Counted.indegree (n : Nat) (h : Heap β) (x : Nat) : Nat :=
  ∑ p ∈ Finset.range n, ref ((h p).bind C.next) x

/-- The resources that are freed with `q`. -/
def Counted.owns (q : Nat) (b : β) : List ρ := C.buffers q b ++ [C.self q]

/-- The number of objects. -/
def population (n : Nat) (h : Heap β) : Nat := ∑ p ∈ Finset.range n, if (h p).isSome then 1 else 0

variable {C}

theorem indegree_update {n q : Nat} (hq : q < n) (h : Heap β) (v : Option β) (x : Nat) :
    C.indegree n (Function.update h q v) x + ref ((h q).bind C.next) x
      = C.indegree n h x + ref (v.bind C.next) x :=
  sum_update hq (fun _ (b : Option β) => ref (b.bind C.next) x) h v

/-! ## Balanced heaps -/

/-- Every object is counted: `owed x` references come from outside, the others from the heap. -/
structure Balanced (C : Counted β ρ) (n : Nat) (h : Heap β) (owed : Nat → Nat) : Prop where
  bound : ∀ x b, h x = some b → x < n
  count : ∀ x b, h x = some b → C.count b = owed x + C.indegree n h x
  pos : ∀ x b, h x = some b → 0 < C.count b
  dead : ∀ x, h x = none → owed x = 0 ∧ C.indegree n h x = 0

theorem Balanced.live {n q : Nat} {h : Heap β} {owed : Nat → Nat} (hb : Balanced C n h owed)
    (hq : 0 < owed q) : ∃ b, h q = some b := by
  cases hh : h q with
  | none => have := (hb.dead q hh).1; omega
  | some b => exact ⟨b, rfl⟩

-- An object that nothing on the heap refers to.
theorem Balanced.not_next {n x : Nat} {h : Heap β} {owed : Nat → Nat} (hb : Balanced C n h owed)
    (hx : C.indegree n h x = 0) (p : Nat) : (h p).bind C.next ≠ some x := by
  intro hp
  cases hh : h p with
  | none => simp [hh] at hp
  | some b =>
    have hzero := (Finset.sum_eq_zero_iff.mp hx) p (Finset.mem_range.mpr (hb.bound p b hh))
    simp [hp] at hzero

theorem Balanced.empty : Balanced C 0 (fun _ => none) 0 where
  bound x b h := by simp at h
  count x b h := by simp at h
  pos x b h := by simp at h
  dead x h := by simp [Counted.indegree]

-- The next object is allocated with one reference from outside.
theorem Balanced.alloc {n : Nat} {h : Heap β} {owed : Nat → Nat} {b : β}
    (hb : Balanced C n h owed) (hcount : C.count b = 1) (hnext : C.next b = none) :
    Balanced C (n + 1) (Function.update h n (some b)) (owed + ref (some n)) := by
  have hnone : h n = none := by
    cases hn : h n with
    | none => rfl
    | some c => exact absurd (hb.bound n c hn) (Nat.lt_irrefl n)
  have hdeg : ∀ x, C.indegree (n + 1) (Function.update h n (some b)) x = C.indegree n h x := by
    intro x
    have hupd := indegree_update (C := C) (Nat.lt_add_one n) h (some b) x
    have hlast : C.indegree (n + 1) h x = C.indegree n h x + ref ((h n).bind C.next) x :=
      Finset.sum_range_succ _ _
    simp only [hnone, hnext, Option.bind_some, Option.bind_none, ref_none] at hupd hlast
    omega
  have hdead := hb.dead n hnone
  refine ⟨fun x c hx => ?_, fun x c hx => ?_, fun x c hx => ?_, fun x hx => ?_⟩ <;>
    by_cases hxn : x = n
  · omega
  · rw [Function.update_of_ne hxn] at hx
    have := hb.bound x c hx
    omega
  · subst hxn
    rw [Function.update_self, Option.some.injEq] at hx
    simp only [hdeg, ← hx, hcount, hdead.1, hdead.2, Pi.add_apply, ref_some, if_true]
    rfl
  · rw [Function.update_of_ne hxn] at hx
    simp only [hdeg, Pi.add_apply, ref_some, if_neg (Ne.symm hxn), Nat.add_zero]
    exact hb.count x c hx
  · subst hxn
    rw [Function.update_self, Option.some.injEq] at hx
    simp [← hx, hcount]
  · rw [Function.update_of_ne hxn] at hx
    exact hb.pos x c hx
  · simp [hxn] at hx
  · rw [Function.update_of_ne hxn] at hx
    simp only [hdeg, Pi.add_apply, ref_some, if_neg (Ne.symm hxn), Nat.add_zero]
    exact hb.dead x hx

-- A reference from outside is stored in an object; the one that was there is outside now.
theorem Balanced.store {n q : Nat} {h : Heap β} {owed : Nat → Nat} {b b' : β} {o : Option Nat}
    (hb : Balanced C n h (owed + ref o)) (hq : h q = some b) (hcount : C.count b' = C.count b)
    (hnext : C.next b' = o) :
    Balanced C n (Function.update h q (some b')) (owed + ref (C.next b)) := by
  have hdeg : ∀ x, C.indegree n (Function.update h q (some b')) x + ref (C.next b) x
      = C.indegree n h x + ref o x := by
    intro x
    have hupd := indegree_update (C := C) (hb.bound q b hq) h (some b') x
    simpa only [hq, Option.bind_some, hnext] using hupd
  have hsum : ∀ x, (owed + ref (C.next b)) x + C.indegree n (Function.update h q (some b')) x
      = (owed + ref o) x + C.indegree n h x := by
    intro x
    have hd := hdeg x
    simp only [Pi.add_apply]
    omega
  have hentry : ∀ x c, Function.update h q (some b') x = some c →
      ∃ c₀, h x = some c₀ ∧ C.count c = C.count c₀ := by
    intro x c hx
    by_cases hxq : x = q
    · subst hxq
      rw [Function.update_self, Option.some.injEq] at hx
      exact ⟨b, hq, hx ▸ hcount⟩
    · rw [Function.update_of_ne hxq] at hx
      exact ⟨c, hx, rfl⟩
  refine ⟨fun x c hx => ?_, fun x c hx => ?_, fun x c hx => ?_, fun x hx => ?_⟩
  · obtain ⟨c₀, hc₀, -⟩ := hentry x c hx
    exact hb.bound x c₀ hc₀
  · obtain ⟨c₀, hc₀, heq⟩ := hentry x c hx
    have hx' := hb.count x c₀ hc₀
    have hs := hsum x
    omega
  · obtain ⟨c₀, hc₀, heq⟩ := hentry x c hx
    exact heq ▸ hb.pos x c₀ hc₀
  · have hxq : x ≠ q := by
      rintro rfl
      simp at hx
    rw [Function.update_of_ne hxq] at hx
    have hx' := hb.dead x hx
    have hs := hsum x
    omega

-- Replacing an object by one with the same reference changes its own count only.
theorem Balanced.modify {n q : Nat} {h : Heap β} {owed owed' : Nat → Nat} {b b' : β}
    (hb : Balanced C n h owed) (hq : h q = some b) (hnext : C.next b' = C.next b)
    (hpos : 0 < C.count b') (howed : ∀ x, x ≠ q → owed' x = owed x)
    (hcount : C.count b' + owed q = C.count b + owed' q) :
    Balanced C n (Function.update h q (some b')) owed' := by
  have hdeg : ∀ x, C.indegree n (Function.update h q (some b')) x = C.indegree n h x := by
    intro x
    have hupd := indegree_update (C := C) (hb.bound q b hq) h (some b') x
    simp only [hq, Option.bind_some, hnext] at hupd
    omega
  refine ⟨fun x c hx => ?_, fun x c hx => ?_, fun x c hx => ?_, fun x hx => ?_⟩ <;>
    by_cases hxq : x = q
  · exact hxq ▸ hb.bound q b hq
  · rw [Function.update_of_ne hxq] at hx
    exact hb.bound x c hx
  · subst hxq
    rw [Function.update_self, Option.some.injEq] at hx
    have hold := hb.count x b hq
    rw [hdeg, ← hx]
    omega
  · rw [Function.update_of_ne hxq] at hx
    rw [hdeg, howed x hxq]
    exact hb.count x c hx
  · subst hxq
    rw [Function.update_self, Option.some.injEq] at hx
    exact hx ▸ hpos
  · rw [Function.update_of_ne hxq] at hx
    exact hb.pos x c hx
  · simp [hxq] at hx
  · rw [Function.update_of_ne hxq] at hx
    rw [hdeg, howed x hxq]
    exact hb.dead x hx

-- Taking away the last reference to an object, and the object with it, leaves the reference that
-- the object held.
theorem Balanced.erase {n q : Nat} {h : Heap β} {owed : Nat → Nat} {b : β}
    (hb : Balanced C n h (owed + ref (some q))) (hq : h q = some b) (hlast : C.count b = 1) :
    owed q = 0 ∧ C.indegree n h q = 0 ∧
      Balanced C n (Function.update h q none) (owed + ref (C.next b)) := by
  have hcount := hb.count q b hq
  simp only [Pi.add_apply, ref_some, if_true] at hcount
  have howed : owed q = 0 := by omega
  have hdeg : C.indegree n h q = 0 := by omega
  have hupd : ∀ x, C.indegree n (Function.update h q none) x + ref (C.next b) x
      = C.indegree n h x := by
    intro x
    have hx := indegree_update (C := C) (hb.bound q b hq) h none x
    simpa [hq] using hx
  refine ⟨howed, hdeg, fun x c hx => ?_, fun x c hx => ?_, fun x c hx => ?_, fun x hx => ?_⟩ <;>
    by_cases hxq : x = q
  · simp [hxq] at hx
  · rw [Function.update_of_ne hxq] at hx
    exact hb.bound x c hx
  · simp [hxq] at hx
  · rw [Function.update_of_ne hxq] at hx
    have hx' := hb.count x c hx
    have hd := hupd x
    simp only [Pi.add_apply, ref_some, if_neg (Ne.symm hxq)] at hx' ⊢
    omega
  · simp [hxq] at hx
  · rw [Function.update_of_ne hxq] at hx
    exact hb.pos x c hx
  · subst hxq
    have hd := hupd x
    simp only [Pi.add_apply]
    omega
  · rw [Function.update_of_ne hxq] at hx
    have hx' := hb.dead x hx
    have hd := hupd x
    simp only [Pi.add_apply] at hx' ⊢
    omega

/-! ## Dropping a reference -/

-- The walk from `q` does not see an object that nothing refers to.
theorem unref_frame {fuel q x : Nat} {h : Heap β} (v : Option β)
    (hx : ∀ p, (h p).bind C.next ≠ some x) (hq : q ≠ x) :
    C.unref fuel (Function.update h x v) q
      = (C.unref fuel h q).map fun res => (Function.update res.1 x v, res.2) := by
  induction fuel generalizing h q with
  | zero => rfl
  | succ fuel ih =>
    rw [Counted.unref, Counted.unref, Function.update_of_ne hq]
    cases hh : h q with
    | none => rfl
    | some b =>
      simp only [Option.bind_some]
      rw [Function.update_comm hq.symm]
      split
      next => rfl
      next =>
        cases hn : C.next b with
        | none => simp [Function.update_comm hq.symm]
        | some r =>
          have hr : r ≠ x := by
            rintro rfl
            exact hx q (by simp [hh, hn])
          have hx' : ∀ p, (Function.update h q (some (C.setCount (C.count b - 1) b)) p).bind C.next
              ≠ some x := by
            intro p
            by_cases hp : p = q
            · subst hp
              have hxp := hx p
              simpa [hh, C.next_setCount] using hxp
            · rw [Function.update_of_ne hp]
              exact hx p
          simp only [ih hx' hr, Option.map_map, Function.comp_def, Function.update_comm hq.symm]

-- Freeing an object that nothing refers to before or after its own reference is dropped is the
-- same.
theorem unref_last {fuel q r : Nat} {h : Heap β} {b : β} (hq : h q = some b)
    (hlast : C.count b = 1) (hnext : C.next b = some r) (hx : ∀ p, (h p).bind C.next ≠ some q) :
    C.unref (fuel + 1) h q = (C.unref fuel (Function.update h q none) r).map fun res =>
      (res.1, C.buffers q b ++ res.2 ++ [C.self q]) := by
  have hr : r ≠ q := by
    rintro rfl
    exact hx r (by simp [hq, hnext])
  rw [Counted.unref, hq, Option.bind_some, if_neg (by omega), hnext]
  simp only [unref_frame _ hx hr, Option.map_map, Function.comp_def, Function.update_idem]

variable (C) in
/-- How often the first `n` objects own the resource `r`. -/
def Counted.held [DecidableEq ρ] (n : Nat) (h : Heap β) (r : ρ) : Nat :=
  ∑ p ∈ Finset.range n, ((h p).elim 0 fun b => (C.owns p b).count r)

theorem held_update [DecidableEq ρ] {n q : Nat} (hq : q < n) (h : Heap β) (v : Option β) (r : ρ) :
    C.held n (Function.update h q v) r + (h q).elim 0 (fun b => (C.owns q b).count r)
      = C.held n h r + v.elim 0 fun b => (C.owns q b).count r :=
  sum_update hq (fun p b => b.elim 0 fun b => (C.owns p b).count r) h v

-- What an object owns is held.
theorem count_owns_le_held [DecidableEq ρ] {n q : Nat} {h : Heap β} {b : β} (hn : q < n)
    (hq : h q = some b) (r : ρ) : (C.owns q b).count r ≤ C.held n h r := by
  have hle : ((h q).elim 0 fun b => (C.owns q b).count r) ≤ C.held n h r :=
    Finset.single_le_sum (f := fun p => (h p).elim 0 fun b => (C.owns p b).count r)
      (fun _ _ => Nat.zero_le _) (Finset.mem_range.mpr hn)
  rwa [hq] at hle

-- What no object owns is not held.
theorem held_eq_zero [DecidableEq ρ] {n : Nat} {h : Heap β} {r : ρ}
    (hnone : ∀ p b, h p = some b → r ∉ C.owns p b) : C.held n h r = 0 := by
  refine Finset.sum_eq_zero fun p _ => ?_
  cases hp : h p with
  | none => rfl
  | some b => exact List.count_eq_zero.mpr (hnone p b hp)

theorem population_le (n : Nat) (h : Heap β) : population n h ≤ n := by
  calc population n h ≤ ∑ _p ∈ Finset.range n, 1 := by
        refine Finset.sum_le_sum fun p _ => ?_
        split <;> omega
    _ = n := by simp

theorem population_erase {n q : Nat} {h : Heap β} {b : β} (hn : q < n) (hq : h q = some b) :
    population n (Function.update h q none) + 1 = population n h := by
  have hupd := sum_update hn (fun _ (b : Option β) => if b.isSome then 1 else 0) h none
  simpa [population, hq] using hupd

theorem held_erase [DecidableEq ρ] {n q : Nat} {h : Heap β} {b : β} (hn : q < n)
    (hq : h q = some b) (r : ρ) :
    C.held n (Function.update h q none) r + (C.owns q b).count r = C.held n h r := by
  have hupd := held_update (C := C) hn h none r
  simpa [hq] using hupd

/-- What dropping a reference leaves of the objects: the same but for their counts. -/
def Shrinks (C : Counted β ρ) (h h' : Heap β) : Prop :=
  ∀ x b', h' x = some b' → ∃ b, h x = some b ∧ b' = C.setCount (C.count b') b

theorem Shrinks.trans {h₁ h₂ h₃ : Heap β} (h : Shrinks C h₁ h₂) (h' : Shrinks C h₂ h₃) :
    Shrinks C h₁ h₃ := by
  intro x b₃ hx
  obtain ⟨b₂, hb₂, heq₂⟩ := h' x b₃ hx
  obtain ⟨b₁, hb₁, heq₁⟩ := h x b₂ hb₂
  exact ⟨b₁, hb₁, by rw [heq₂, heq₁, C.setCount_setCount, C.count_setCount]⟩

theorem shrinks_erase (h : Heap β) (q : Nat) : Shrinks C h (Function.update h q none) := by
  intro x b' hx
  by_cases hxq : x = q
  · simp [hxq] at hx
  · rw [Function.update_of_ne hxq] at hx
    exact ⟨b', hx, (C.setCount_count b').symm⟩

theorem shrinks_setCount {h : Heap β} {q : Nat} {b : β} (hq : h q = some b) (k : Int) :
    Shrinks C h (Function.update h q (some (C.setCount k b))) := by
  intro x b' hx
  by_cases hxq : x = q
  · subst hxq
    rw [Function.update_self, Option.some.injEq] at hx
    exact ⟨b, hq, by rw [← hx, C.count_setCount]⟩
  · rw [Function.update_of_ne hxq] at hx
    exact ⟨b', hx, (C.setCount_count b').symm⟩

-- One reference from outside is dropped: every object keeps its count right, and what is no longer
-- owned has been freed.
theorem unref_balanced [DecidableEq ρ] {n fuel q : Nat} {h : Heap β} {owed : Nat → Nat}
    (hb : Balanced C n h (owed + ref (some q))) (hfuel : population n h < fuel) :
    ∃ h' freed, C.unref fuel h q = some (h', freed) ∧ Balanced C n h' owed ∧ Shrinks C h h' ∧
      ∀ r, freed.count r + C.held n h' r = C.held n h r := by
  induction fuel generalizing h q with
  | zero => omega
  | succ fuel ih =>
    obtain ⟨b, hq⟩ := hb.live (q := q) (by simp)
    have hlt := hb.bound q b hq
    have hcount := hb.count q b hq
    simp only [Pi.add_apply, ref_some, if_true] at hcount
    by_cases hlast : C.count b = 1
    · obtain ⟨howed, hdeg, herase⟩ := hb.erase hq hlast
      have hx := hb.not_next hdeg
      have hpop := population_erase hlt hq
      cases hnext : C.next b with
      | none =>
        rw [hnext] at herase
        refine ⟨_, C.owns q b, ?_, herase, shrinks_erase h q, fun r => ?_⟩
        · rw [Counted.unref, hq, Option.bind_some, if_neg (by omega), hnext]
          simp only [Function.update_idem, Counted.owns]
        · have hr := held_erase (C := C) hlt hq r
          omega
      | some r =>
        -- the reference that the object held goes with it, on a heap with one object less
        rw [hnext] at herase
        obtain ⟨h', freed, hrun, hb', hshrink', hfreed⟩ := ih herase (by omega)
        refine ⟨h', C.buffers q b ++ freed ++ [C.self q], ?_, hb',
          (shrinks_erase h q).trans hshrink', fun r' => ?_⟩
        · rw [unref_last hq hlast hnext hx, hrun]
          rfl
        · have h₁ := held_erase (C := C) hlt hq r'
          have h₂ := hfreed r'
          simp only [Counted.owns, List.count_append] at h₁ ⊢
          omega
    · have hpos := hb.pos q b hq
      refine ⟨Function.update h q (some (C.setCount (C.count b - 1) b)), [], ?_, ?_,
        shrinks_setCount hq _, fun r => ?_⟩
      · rw [Counted.unref, hq, Option.bind_some, if_pos (by omega)]
      · refine hb.modify hq (C.next_setCount _ _) (by rw [C.count_setCount]; omega)
          (fun x hxq => ?_) ?_
        · simp [Ne.symm hxq]
        · simp only [C.count_setCount, Pi.add_apply, ref_some, if_true]
          omega
      · have hupd := held_update (C := C) hlt h (some (C.setCount (C.count b - 1) b)) r
        simp only [hq, Option.elim_some, Counted.owns, C.buffers_setCount] at hupd
        simp only [List.count_nil]
        omega

end Reasoning.RefCount
