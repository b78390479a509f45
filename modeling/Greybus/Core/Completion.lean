import Greybus.Core.Steps

/-!
# Completion callbacks

A pending request that is answered or times out is called back.  One that is flushed when its cport
is unregistered is only unreferenced: a sender that waits for it stays blocked.
-/

namespace Greybus

open Operations Reasoning.Transition

/-! ## How a request leaves its `tx_fifo` -/

theorem Change.leaves {s s' : Operations} {a : Call} (h : Change s a s') {c : Nat} {q : OpRef}
    (hq : q ∈ s.txFifo c) (hgone : q ∉ s'.txFifo c) :
    (∃ r op, s.heap q = some op ∧ s.Answered r q op s') ∨
      (∃ op c', s.heap q = some op ∧ (s.removeTx c' q).Called q op s') ∨ a = .flush c := by
  cases h with
  | quiet hquiet => exact absurd (hquiet.txFifo ▸ hq) hgone
  | unanswered => exact absurd hq hgone
  | @accepted _ p op op₁ =>
    refine absurd ?_ hgone
    rw [queueRequest_txFifo]
    by_cases hc : c = op₁.cport
    · subst hc
      rw [Function.update_self]
      exact List.mem_append_left _ hq
    · rwa [Function.update_of_ne hc]
  | refused _ hp hpending hsame hdropped =>
    rw [hdropped.txFifo, removeTx_queueRequest_txFifo
      (hsame.cport ▸ not_mem_of_not_pending hp hpending)] at hgone
    exact absurd hq hgone
  | @answered r p _ op _ _ _ hp _ _ hanswered =>
    by_cases hqp : q = p
    · subst hqp
      exact .inl ⟨r, op, hp, hanswered⟩
    · rw [hanswered.txFifo] at hgone
      exact absurd (mem_removeTx_of_ne hq hqp) hgone
  | @expired c' p _ op _ _ hp _ hcalled =>
    by_cases hqp : q = p
    · subst hqp
      exact .inr (.inl ⟨op, c', hp, hcalled⟩)
    · rw [hcalled.txFifo] at hgone
      exact absurd (mem_removeTx_of_ne hq hqp) hgone
  | @flushed c' _ hdropped =>
    by_cases hc : c = c'
    · subst hc
      exact .inr (.inr rfl)
    · rw [hdropped.txFifo, setTxFifo_txFifo, Function.update_of_ne hc] at hgone
      exact absurd hq hgone

namespace World

/-! ## The duty to call back -/

/-- Every request that leaves its `tx_fifo` is called back once, and its sender is woken if it
waits. -/
def Completes (w : World) (_ : Call) (w' : World) : Prop :=
  ∀ c, ∀ q ∈ w.txFifo c, q ∉ w'.txFifo c → ∀ op cb, w.heap q = some op → op.callback = some cb →
    w'.trace.count (.called q cb) = w.trace.count (.called q cb) + 1 ∧
    (cb = .sync → ∃ op', w'.heap q = some op' ∧ op'.syncSem = op.syncSem + 1)

/-- No request with a callback is pending on a cport that is flushed. -/
def FlushesNoCallback (w : World) (a : Call) (_ : World) : Prop :=
  ∀ c, a = .flush c → ∀ q ∈ w.txFifo c, ∀ op, w.heap q = some op → op.callback = none

theorem step_flush {w w' : World} {c : Nat} (hw : w.Inv) (h : step w (.flush c) = some w') :
    (w.setTxFifo c []).Dropped w'.toOperations := by
  obtain ⟨s', hrun, -, hdropped⟩ := flushRounds_sound (w.txFifo c) hw rfl
  simp only [step, exec, gbFlushTxFifo, hrun, Option.map_some, Option.ite_none_right_eq_some,
    Option.some.injEq] at h
  exact h.2 ▸ hdropped

-- Dropping references calls nothing back.
theorem count_called_of_dropped {s s' : Operations} (h : s.Dropped s') (q : OpRef) (cb : Callback) :
    s'.trace.count (.called q cb) = s.trace.count (.called q cb) := by
  obtain ⟨freed, htrace⟩ := h.trace
  rw [htrace, List.count_append, List.count_eq_zero.mpr (by simp), Nat.zero_add]

-- A step honours the duty exactly when it flushes no request with a callback.
theorem completes_iff {w w' : World} {a : Call} (hw : w.Inv) (h : step w a = some w') :
    w.Completes a w' ↔ w.FlushesNoCallback a w' := by
  constructor
  · rintro hcomplete c rfl q hq op hop
    have hdropped := step_flush hw h
    have hgone : q ∉ w'.txFifo c := by
      rw [hdropped.txFifo, setTxFifo_txFifo, Function.update_self]
      exact List.not_mem_nil
    cases hcb : op.callback with
    | none => rfl
    | some cb =>
      have hcalled := (hcomplete c q hq hgone op cb hop hcb).1
      have hsame : w'.trace.count (.called q cb) = w.trace.count (.called q cb) :=
        count_called_of_dropped hdropped q cb
      omega
  · intro hflush c q hq hgone op cb hop hcb
    rcases (step_spec hw h).change.leaves hq hgone with
      ⟨r, op', hop', hanswered⟩ | ⟨op', c', hop', hcalled⟩ | rfl
    · rw [hop, Option.some.injEq] at hop'
      subst hop'
      refine ⟨by simp [hanswered.trace, hcb], ?_⟩
      rintro rfl
      obtain ⟨op', hop', -, -, -, -, hsem⟩ := hanswered.attached
      exact ⟨op', hop', hsem hcb⟩
    · rw [hop, Option.some.injEq] at hop'
      subst hop'
      have htrace : w'.trace = .called q cb :: w.trace := by
        rw [hcalled.trace, hcb]
        rfl
      refine ⟨by rw [htrace, List.count_cons_self], ?_⟩
      rintro rfl
      exact ⟨_, by rw [hcalled.heap, Function.update_self], by simp [posted, hcb]⟩
    · rw [hflush c rfl q hq op hop] at hcb
      cases hcb

/-- A run honours the duty in every step exactly when it never flushes a request with a callback. -/
theorem run_completes_iff (cportCount : Nat) (as : List Call) :
    EachStep step Completes (.initial cportCount) as ↔
      EachStep step FlushesNoCallback (.initial cportCount) as :=
  eachStep_congr (P := Inv) (fun _ _ _ hw h => (step_spec hw h).inv)
    (fun _ _ _ hw h => completes_iff hw h) (initial_inv cportCount)

/-- A driver is unregistered while a thread waits for the response to a request. -/
def blockedSender : List Call :=
  [.create true true 0 2 1, .sendSync 0 ⟨0, 0⟩ 0, .stop 0, .flush 0]

theorem run_completes_blockedSender : ¬ EachStep step Completes (.initial 1) blockedSender := by
  intro h
  obtain ⟨-, h⟩ := h _ rfl
  obtain ⟨-, h⟩ := h _ rfl
  obtain ⟨-, h⟩ := h _ rfl
  obtain ⟨hflush, -⟩ := h _ rfl
  exact absurd (hflush 0 0 (by decide) (by decide) _ .sync rfl rfl).1 (by decide)

end World

end Greybus
