import Mathlib.Logic.Function.Basic

/-!
# Writers on one stream

Threads append pieces of records to a common stream.  When nobody writes while another thread is
inside a record, the stream is the finished records in the order they were finished, followed by
what the thread that is inside a record has written of it.
-/

namespace Reasoning.SharedStream

variable {τ α : Type*} [DecidableEq τ]

structure Writers (τ α : Type*) where
  -- What each thread has written of the record it is inside.
  written : τ → List α
  finished : List (List α)
  stream : List α

def Writers.write (w : Writers τ α) (t : τ) (piece : List α) : Writers τ α :=
  { w with
    written := Function.update w.written t (w.written t ++ piece)
    stream := w.stream ++ piece }

/-- Thread `t` has come to the end of its record. -/
def Writers.finish (w : Writers τ α) (t : τ) : Writers τ α :=
  { w with
    written := Function.update w.written t []
    finished := w.finished ++ [w.written t] }

/-- No thread but `t` is inside a record. -/
def Writers.Alone (w : Writers τ α) (t : τ) : Prop := ∀ t', t' ≠ t → w.written t' = []

/-- The stream consists of whole records and of the beginning of at most one more. -/
def Writers.Whole (w : Writers τ α) : Prop :=
  (w.stream = w.finished.flatten ∧ ∀ t, w.written t = []) ∨
    ∃ t, w.stream = w.finished.flatten ++ w.written t ∧ w.Alone t

theorem Writers.Whole.of_alone {w : Writers τ α} (h : w.Whole) {t : τ} (ht : w.Alone t) :
    w.stream = w.finished.flatten ++ w.written t := by
  rcases h with ⟨hs, hnone⟩ | ⟨t', hs, ht'⟩
  · rw [hs, hnone t, List.append_nil]
  · by_cases htt : t' = t
    · rw [hs, htt]
    · rw [hs, ht t' htt, ht' t (Ne.symm htt)]

-- Writing alone keeps the records whole.
theorem Writers.Whole.write {w : Writers τ α} (h : w.Whole) {t : τ} (ht : w.Alone t)
    (piece : List α) : (w.write t piece).Whole := by
  refine .inr ⟨t, ?_, fun t' hne => ?_⟩
  · simp only [Writers.write, h.of_alone ht, Function.update_self, List.append_assoc]
  · simp only [Writers.write, Function.update_of_ne hne, ht t' hne]

theorem Writers.Whole.finish {w : Writers τ α} (h : w.Whole) {t : τ} (ht : w.Alone t) :
    (w.finish t).Whole := by
  refine .inl ⟨?_, fun t' => ?_⟩
  · simp [Writers.finish, h.of_alone ht]
  · by_cases htt : t' = t
    · simp [Writers.finish, htt]
    · simp [Writers.finish, Function.update_of_ne htt, ht t' htt]

end Reasoning.SharedStream
