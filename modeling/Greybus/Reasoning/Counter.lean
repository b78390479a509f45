import Mathlib.Data.List.Basic
import Mathlib.Tactic.Common

/-!
# Values from a counter

A counter gives values to keys, and a log keeps them, the latest first.  When values that are given
less than a period apart differ, the latest values of two keys differ for as long as neither of them
is a period old.
-/

namespace Reasoning.Counter

variable {κ α : Type*} {f : Nat → α} {log : List (κ × α)}

/-- The values of a log are `f 0`, `f 1` and so on from its end. -/
def Numbered (f : Nat → α) : List (κ × α) → Prop
  | [] => True
  | e :: log => e.2 = f log.length ∧ Numbered f log

theorem Numbered.eq_of_mem (h : Numbered f log) {e : κ × α} (he : e ∈ log) : ∃ n, e.2 = f n := by
  induction log with
  | nil => cases he
  | cons d log ih =>
    rcases List.mem_cons.mp he with rfl | he
    · exact ⟨_, h.1⟩
    · exact ih h.2 he

theorem Numbered.getElem? (h : Numbered f log) {i : Nat} {e : κ × α} (hi : log[i]? = some e) :
    i < log.length ∧ e.2 = f (log.length - 1 - i) := by
  induction log generalizing i with
  | nil => simp at hi
  | cons d log ih =>
    cases i with
    | zero =>
      rw [List.getElem?_cons_zero, Option.some.injEq] at hi
      exact ⟨by simp, hi ▸ h.1⟩
    | succ i =>
      rw [List.getElem?_cons_succ] at hi
      obtain ⟨hlt, heq⟩ := ih h.2 hi
      rw [List.length_cons]
      exact ⟨by omega, by rw [heq]; congr 1; omega⟩

/-! ## The n-th value -/

theorem Numbered.getElem?_reverse (h : Numbered f log) {n : Nat} {e : κ × α}
    (hn : log.reverse[n]? = some e) : n < log.length ∧ e.2 = f n := by
  have hlt : n < log.length := by
    simpa using (List.getElem?_eq_some_iff.mp hn).1
  rw [List.getElem?_reverse hlt] at hn
  have hvalue := (h.getElem? hn).2
  rw [show log.length - 1 - (log.length - 1 - n) = n by omega] at hvalue
  exact ⟨hlt, hvalue⟩

theorem getElem?_reverse_cons_self (e : κ × α) : (e :: log).reverse[log.length]? = some e := by
  simp

theorem getElem?_reverse_cons {n : Nat} {e : κ × α} (hn : log.reverse[n]? = some e) (d : κ × α) :
    (d :: log).reverse[n]? = some e := by
  have hlt : n < log.reverse.length := (List.getElem?_eq_some_iff.mp hn).1
  rwa [List.reverse_cons, List.getElem?_append_left hlt]

-- Equal values of which neither is a period old are one value.
theorem Numbered.eq_of_recent {period : Nat} (h : Numbered f log)
    (hf : ∀ m n, m < n → n < m + period → f m ≠ f n) {m n : Nat} {d e : κ × α}
    (hm : log.reverse[m]? = some d) (hn : log.reverse[n]? = some e)
    (hold : log.length ≤ m + period) (hold' : log.length ≤ n + period) (heq : d.2 = e.2) :
    m = n := by
  obtain ⟨hlt, hd⟩ := h.getElem?_reverse hm
  obtain ⟨hlt', he⟩ := h.getElem?_reverse hn
  rw [hd, he] at heq
  rcases Nat.lt_trichotomy m n with hless | hsame | hless
  · exact absurd heq (hf m n hless (by omega))
  · exact hsame
  · exact absurd heq.symm (hf n m hless (by omega))

/-! ## The latest value of a key -/

variable [DecidableEq κ]

/-- How many values have been given since `k` got its latest one. -/
def since (log : List (κ × α)) (k : κ) : Nat := log.findIdx fun e => e.1 = k

/-- The latest value of `k` is `v`. -/
def Latest (log : List (κ × α)) (k : κ) (v : α) : Prop := log[since log k]? = some (k, v)

theorem latest_cons_self (k : κ) (v : α) : Latest ((k, v) :: log) k v := by
  simp [Latest, since, List.findIdx_cons]

theorem Latest.cons_of_ne {k p : κ} {v : α} (h : Latest log k v) (hne : p ≠ k) (u : α) :
    Latest ((p, u) :: log) k v := by
  simpa [Latest, since, List.findIdx_cons, hne] using h

theorem Latest.getElem?_reverse {k : κ} {v : α} (h : Latest log k v) :
    log.reverse[log.length - 1 - since log k]? = some (k, v) := by
  have hlt : since log k < log.length := (List.getElem?_eq_some_iff.mp h).1
  rw [List.getElem?_reverse (by omega),
    show log.length - 1 - (log.length - 1 - since log k) = since log k by omega]
  exact h

-- Keys that have got their latest values less than a period ago have different ones.
theorem Numbered.latest_ne {period : Nat} (h : Numbered f log)
    (hf : ∀ m n, m < n → n < m + period → f m ≠ f n) {k k' : κ} {v v' : α} (hk : Latest log k v)
    (hk' : Latest log k' v') (hne : k ≠ k') (hold : since log k < period)
    (hold' : since log k' < period) : v ≠ v' := by
  obtain ⟨hlt, rfl⟩ : _ ∧ v = _ := h.getElem? hk
  obtain ⟨hlt', rfl⟩ : _ ∧ v' = _ := h.getElem? hk'
  rcases Nat.lt_trichotomy (since log k) (since log k') with hlater | heq | hlater
  · exact (hf _ _ (by omega) (by omega)).symm
  · rw [Latest, heq, hk'] at hk
    cases hk
    exact absurd rfl hne
  · exact hf _ _ (by omega) (by omega)

end Reasoning.Counter
