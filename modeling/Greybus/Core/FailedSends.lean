import Greybus.Core.Effects

/-!
# Requests that are not sent

What the functions that send a request leave when they fail.  `gb_operation_send_request_nowait`
takes a reference for its completion callback, and the transport calls that only for a request that
it has taken.
-/

namespace Greybus.Operations

/-! ## Sending without a response -/

/-- `gb_operation_send_request_nowait_cb`. -/
def gbOperationSendRequestNowaitCb (s : Operations) (status : Int) (q : OpRef) :
    Option Operations :=
  (s.heap q).bind fun op =>
  let result := if status ≠ 0 then OperationResult.internal.code else 0
  let hdr := { op.requestBuffer.hdr with result }
  let s := s.setOp q { op with requestBuffer := { op.requestBuffer with hdr } }
  (s.runCallback q).bind fun s => s.gbOperationUnref q

/-- `gb_operation_send_request_nowait`.  The transport's `send_async` returns `sendRet`; `completed`
is the status that it has called the completion callback with by then, if it has. -/
def gbOperationSendRequestNowait (s : Operations) (q : OpRef) (callback : Option Callback)
    (needResponse : Bool) (completed : Option Int) (sendRet : Int) : Option (Int × Operations) :=
  (s.heap q).bind fun op =>
  if s.exitWorker op.cport then some (-ENETDOWN, s)
  else if needResponse then some (-ENOTSUP, s)
  else
    let hdr := { op.requestBuffer.hdr with id := 0 }
    let s := s.setOp q { op with requestBuffer := { op.requestBuffer with hdr }, callback }
    (s.gbOperationRef q).bind fun s =>
    match completed with
    | none => some (sendRet, s)
    | some status => (s.gbOperationSendRequestNowaitCb status q).map fun s => (sendRet, s)

/-- The functions that send a request, with their arguments. -/
inductive Sender where
  | request (callback : Option Callback) (needResponse : Bool) (now : Timespec)
  | sync (now : Timespec)
  | nowait (callback : Option Callback) (needResponse : Bool) (completed : Option Int)

def Sender.call (s : Operations) (q : OpRef) (sendRet : Int) :
    Sender → Option (Int × Operations)
  | .request callback needResponse now =>
    s.gbOperationSendRequest q callback needResponse now sendRet
  | .sync now => s.gbOperationSendRequestSync q now sendRet
  | .nowait callback needResponse completed =>
    s.gbOperationSendRequestNowait q callback needResponse completed sendRet

/-- The transport has called the completion callback. -/
def Sender.isCompleted : Sender → Bool
  | .nowait _ _ completed => completed.isSome
  | _ => false

/-! ## What is left -/

/-- The operation has as many references as before and the fifos are as they were, and no callback
has been called. -/
structure Restored (s s' : Operations) (q : OpRef) : Prop where
  refCount : (s'.heap q).map (·.refCount) = (s.heap q).map (·.refCount)
  txFifo : s'.txFifo = s.txFifo
  trace : ∃ es, s'.trace = es ++ s.trace ∧ ∀ e ∈ es, ∀ p cb, e ≠ .called p cb

theorem Restored.refl (s : Operations) (q : OpRef) : s.Restored s q :=
  ⟨rfl, rfl, [], rfl, by simp⟩

theorem restored_setOp {s : Operations} {q : OpRef} {op op' : Operation} (hq : s.heap q = some op)
    (hcount : op'.refCount = op.refCount) : s.Restored (s.setOp q op') q :=
  ⟨by rw [setOp_heap_self, hq, Option.map_some, Option.map_some, hcount], rfl, [], rfl, by simp⟩

theorem Restored.trans {s₁ s₂ s₃ : Operations} {q : OpRef} (h₁ : s₁.Restored s₂ q)
    (h₂ : s₂.Restored s₃ q) : s₁.Restored s₃ q := by
  obtain ⟨es₁, htrace₁, hes₁⟩ := h₁.trace
  obtain ⟨es₂, htrace₂, hes₂⟩ := h₂.trace
  refine ⟨h₂.refCount.trans h₁.refCount, h₂.txFifo.trans h₁.txFifo, es₂ ++ es₁, ?_, ?_⟩
  · rw [htrace₂, htrace₁, List.append_assoc]
  · intro e he
    rcases List.mem_append.mp he with he | he
    · exact hes₂ e he
    · exact hes₁ e he

-- Dropping a reference that is not the last one frees nothing.
theorem gbOperationUnref_keeps {s : Operations} {q : OpRef} {op : Operation}
    (hq : s.heap q = some op) (hcount : op.refCount - 1 ≠ 0) :
    s.gbOperationUnref q = some (s.setOp q { op with refCount := op.refCount - 1 }) := by
  rw [gbOperationUnref, unrefHeap, hq, Option.bind_some, if_pos hcount]
  rfl

section Sending

variable {s : Operations} {q : OpRef} {op : Operation}

theorem gbOperationSendRequest_down (hq : s.heap q = some op)
    (hexit : s.exitWorker op.cport = true) (callback : Option Callback) (needResponse : Bool)
    (now : Timespec) (sendRet : Int) :
    s.gbOperationSendRequest q callback needResponse now sendRet = some (-ENETDOWN, s) := by
  rw [gbOperationSendRequest, hq, Option.bind_some, if_pos hexit]

-- The slot and the reference that were taken are given back.
theorem gbOperationSendRequest_refused (hq : s.heap q = some op) (hpos : 0 < op.refCount)
    (hexit : s.exitWorker op.cport = false) (hqueued : q ∉ s.txFifo op.cport)
    (callback : Option Callback) (now : Timespec) {sendRet : Int} (hret : sendRet ≠ 0) :
    ∃ s', s.gbOperationSendRequest q callback true now sendRet = some (sendRet, s') ∧
      s.Restored s' q := by
  have hpending : s.isPending q = false := by simpa [isPending, hq] using hqueued
  obtain ⟨op', hop', -, -, -, hcount⟩ := s.queueRequest_heap_self q op callback now
  generalize hqueue : s.queueRequest q op callback now = queue at hop'
  have hunref : (queue.removeTx op.cport q).gbOperationUnref q
      = some ((queue.removeTx op.cport q).setOp q { op' with refCount := op'.refCount - 1 }) :=
    gbOperationUnref_keeps hop' (by omega)
  refine ⟨(queue.removeTx op.cport q).setOp q { op' with refCount := op'.refCount - 1 }, ?_, ?_,
    ?_, [.assigned q (takeRequestId s.requestId).1], ?_, by simp⟩
  · rw [gbOperationSendRequest, hq, Option.bind_some, if_neg (by simp [hexit]), if_pos rfl,
      if_neg (by simp [hpending])]
    dsimp only
    rw [hqueue, if_pos hret, hunref, Option.map_some]
  · rw [setOp_heap_self, hq, Option.map_some, Option.map_some]
    exact congrArg some (by rw [hcount, Int.add_sub_cancel])
  · exact hqueue ▸ removeTx_queueRequest_txFifo hqueued callback now
  · exact hqueue ▸ rfl

-- A callback, and then a reference that is not the last one is dropped.
theorem runCallback_unref (hq : s.heap q = some op) (hcount : op.refCount - 1 ≠ 0) :
    ∃ s', ((s.runCallback q).bind fun s => s.gbOperationUnref q) = some s' ∧
      (s'.heap q).map (·.refCount) = some (op.refCount - 1) ∧ s'.txFifo = s.txFifo ∧
      s'.trace = (op.callback.map (Event.called q)).toList ++ s.trace := by
  have hposted : (posted op).refCount = op.refCount := by
    rw [posted]
    split <;> rfl
  obtain ⟨s', hcall, hcalled⟩ := runCallback_called hq
  have hheap : s'.heap q = some (posted op) := by rw [hcalled.heap, Function.update_self]
  have hunref := gbOperationUnref_keeps hheap (by rwa [hposted])
  refine ⟨s'.setOp q { posted op with refCount := (posted op).refCount - 1 }, ?_, ?_,
    hcalled.txFifo, hcalled.trace⟩
  · rw [hcall, Option.bind_some, hunref]
  · rw [setOp_heap_self, Option.map_some, hposted]

-- With its completion the request has taken and dropped one reference.
theorem gbOperationSendRequestNowait_completed (hq : s.heap q = some op) (hpos : 0 < op.refCount)
    (hexit : s.exitWorker op.cport = false) (callback : Option Callback) (status sendRet : Int) :
    ∃ s', s.gbOperationSendRequestNowait q callback false (some status) sendRet
        = some (sendRet, s') ∧
      (s'.heap q).map (·.refCount) = some op.refCount ∧ s'.txFifo = s.txFifo ∧
      s'.trace = (callback.map (Event.called q)).toList ++ s.trace := by
  have hexit' : ¬ s.exitWorker op.cport = true := by simp [hexit]
  unfold gbOperationSendRequestNowait
  simp only [hq, Option.bind_some, if_neg hexit', Bool.false_eq_true, if_false, gbOperationRef,
    setOp_heap_self, Option.map_some]
  rw [gbOperationSendRequestNowaitCb, setOp_heap_self, Option.bind_some]
  let hdr := { op.requestBuffer.hdr with
    id := 0, result := if status ≠ 0 then OperationResult.internal.code else 0 }
  obtain ⟨s', hcompleted, hcount, hfifo, htrace⟩ := @runCallback_unref _ q
    { op with
      refCount := op.refCount + 1, callback, requestBuffer := { op.requestBuffer with hdr } }
    (setOp_heap_self ((s.setOp q _).setOp q _) q _) (show op.refCount + 1 - 1 ≠ 0 by omega)
  refine ⟨s', ?_, ?_, hfifo, htrace⟩
  · exact congrArg (Option.map _) hcompleted
  · rw [hcount, Int.add_sub_cancel]

-- Without it the reference that was taken stays.
theorem gbOperationSendRequestNowait_uncompleted (hq : s.heap q = some op)
    (hexit : s.exitWorker op.cport = false) (callback : Option Callback) (sendRet : Int) :
    ∃ s', s.gbOperationSendRequestNowait q callback false none sendRet = some (sendRet, s') ∧
      (s'.heap q).map (·.refCount) = some (op.refCount + 1) := by
  have hexit' : ¬ s.exitWorker op.cport = true := by simp [hexit]
  unfold gbOperationSendRequestNowait
  simp only [hq, Option.bind_some, if_neg hexit', Bool.false_eq_true, if_false, gbOperationRef,
    setOp_heap_self, Option.map_some]
  exact ⟨_, rfl, by rw [setOp_heap_self, Option.map_some]⟩

end Sending

/-! ## When a failing call undoes what it did -/

/-- A call that fails restores the state, unless the transport has completed it.  A call that finds
the operation linked into a fifo ruins that fifo, and must not fail. -/
def Sender.Undoes (sender : Sender) (s : Operations) (q : OpRef) (sendRet : Int) : Prop :=
  sender.isCompleted = false →
    match sender.call s q sendRet with
    | none => sendRet = 0
    | some (ret, s') => ret ≠ 0 → s.Restored s' q

/-- Nothing is taken that is not given back. -/
def Sender.TakesNothing (s : Operations) (q : OpRef) (op : Operation) : Sender → Prop
  | .request _ needResponse _ => needResponse = false ∨ q ∉ s.txFifo op.cport
  | .sync _ => q ∉ s.txFifo op.cport
  | .nowait _ needResponse completed => needResponse = true ∨ completed.isSome

section Undo

variable {s : Operations} {q : OpRef} {op : Operation}

theorem request_undoes_iff (hq : s.heap q = some op) (hpos : 0 < op.refCount)
    (hexit : s.exitWorker op.cport = false) (callback : Option Callback) (needResponse : Bool)
    (now : Timespec) (sendRet : Int) :
    (Sender.request callback needResponse now).Undoes s q sendRet ↔
      sendRet = 0 ∨ (Sender.request callback needResponse now).TakesNothing s q op := by
  have hexit' : ¬ s.exitWorker op.cport = true := by simp [hexit]
  simp only [Sender.Undoes, Sender.isCompleted, Sender.call, Sender.TakesNothing, true_imp_iff]
  cases needResponse with
  | false =>
    rw [gbOperationSendRequest, hq, Option.bind_some, if_neg hexit', if_neg (by decide)]
    exact iff_of_true (fun _ => restored_setOp hq rfl) (.inr (.inl rfl))
  | true =>
    by_cases hqueued : q ∈ s.txFifo op.cport
    · have hpending : s.isPending q = true := by simpa [isPending, hq] using hqueued
      rw [gbOperationSendRequest, hq, Option.bind_some, if_neg hexit', if_pos rfl, if_pos hpending]
      simp [hqueued]
    · by_cases hret : sendRet = 0
      · have hpending : ¬ s.isPending q = true := by simpa [isPending, hq] using hqueued
        rw [gbOperationSendRequest, hq, Option.bind_some, if_neg hexit', if_pos rfl,
          if_neg hpending]
        dsimp only
        rw [if_neg (not_not.mpr hret)]
        exact iff_of_true (fun hne => absurd hret hne) (.inl hret)
      · obtain ⟨s', hrun, hrestored⟩ :=
          gbOperationSendRequest_refused hq hpos hexit hqueued callback now hret
        rw [hrun]
        exact iff_of_true (fun _ => hrestored) (.inr (.inr hqueued))

theorem nowait_undoes_iff (hq : s.heap q = some op) (hexit : s.exitWorker op.cport = false)
    (callback : Option Callback) (needResponse : Bool) (completed : Option Int) (sendRet : Int) :
    (Sender.nowait callback needResponse completed).Undoes s q sendRet ↔
      sendRet = 0 ∨ (Sender.nowait callback needResponse completed).TakesNothing s q op := by
  have hexit' : ¬ s.exitWorker op.cport = true := by simp [hexit]
  simp only [Sender.Undoes, Sender.isCompleted, Sender.call, Sender.TakesNothing]
  cases completed with
  | some status => exact iff_of_true (fun h => absurd h (by simp)) (.inr (.inr rfl))
  | none =>
    cases needResponse with
    | true =>
      rw [gbOperationSendRequestNowait, hq, Option.bind_some, if_neg hexit', if_pos rfl]
      exact iff_of_true (fun _ _ => .refl s q) (.inr (.inl rfl))
    | false =>
      obtain ⟨s', hrun, hcount⟩ :=
        gbOperationSendRequestNowait_uncompleted hq hexit callback sendRet
      rw [hrun]
      by_cases hret : sendRet = 0
      · exact iff_of_true (fun _ hne => absurd hret hne) (.inl hret)
      · refine iff_of_false (fun h => ?_) (by simp [hret])
        have hsame := (h rfl hret).refCount
        rw [hcount, hq, Option.map_some, Option.some.injEq] at hsame
        omega

/-- A failing call leaves the references, the fifos and the callbacks as they were exactly if the
cport is going down, or the transport reports no error, or nothing is taken that is not given
back. -/
theorem undoes_iff (hq : s.heap q = some op) (hpos : 0 < op.refCount) (sender : Sender)
    (sendRet : Int) :
    sender.Undoes s q sendRet ↔
      s.exitWorker op.cport = true ∨ sendRet = 0 ∨ sender.TakesNothing s q op := by
  cases hexit : s.exitWorker op.cport with
  | true =>
    refine iff_of_true (fun _ => ?_) (.inl rfl)
    cases sender with
    | request callback needResponse now =>
      rw [Sender.call, gbOperationSendRequest_down hq hexit]
      exact fun _ => .refl s q
    | sync now =>
      rw [Sender.call, gbOperationSendRequestSync, hq, Option.bind_some,
        gbOperationSendRequest_down (setOp_heap_self s q { op with syncSem := 0 }) hexit]
      exact fun _ => restored_setOp hq rfl
    | nowait callback needResponse completed =>
      rw [Sender.call, gbOperationSendRequestNowait, hq, Option.bind_some, if_pos hexit]
      exact fun _ => .refl s q
  | false =>
    simp only [Bool.false_eq_true, false_or]
    cases sender with
    | request callback needResponse now =>
      exact request_undoes_iff hq hpos hexit callback needResponse now sendRet
    | sync now =>
      -- `sem_init` is not undone, and need not be
      have hsem : s.Restored (s.setOp q { op with syncSem := 0 }) q := restored_setOp hq rfl
      have hinit : (Sender.sync now).Undoes s q sendRet ↔
          (Sender.request (some .sync) true now).Undoes
            (s.setOp q { op with syncSem := 0 }) q sendRet := by
        simp only [Sender.Undoes, Sender.isCompleted, Sender.call, true_imp_iff,
          gbOperationSendRequestSync, hq, Option.bind_some]
        split
        next => rfl
        next =>
          refine imp_congr_right fun _ => ⟨fun h => ?_, fun h => ?_⟩
          · exact ⟨h.refCount.trans hsem.refCount.symm, h.txFifo, h.trace⟩
          · exact hsem.trans h
      have hsend := request_undoes_iff (setOp_heap_self s q { op with syncSem := 0 }) hpos hexit
        (some .sync) true now sendRet
      rw [hinit, hsend]
      simp [Sender.TakesNothing, setOp]
    | nowait callback needResponse completed =>
      exact nowait_undoes_iff hq hexit callback needResponse completed sendRet

end Undo

/-- A request without payload has been created. -/
def oneRequest : Operations := ((gbInit 1).gbOperationCreate true true 0 0x02 0).2

theorem oneRequest_sync_undoes : (Sender.sync ⟨5, 0⟩).Undoes oneRequest 0 (- EIO) :=
  (undoes_iff (show oneRequest.heap 0 = some (.fresh 0 (.request 0x02 0)) from rfl) (by decide)
    (.sync ⟨5, 0⟩) (- EIO)).mpr (.inr (.inr (show 0 ∉ oneRequest.txFifo 0 from List.not_mem_nil)))

-- `unipro_send_async` refuses every request.
theorem oneRequest_nowait_not_undoes :
    ¬ (Sender.nowait none false none).Undoes oneRequest 0 (-ENOSYS) := by
  intro hundoes
  have hrestored := hundoes rfl (by decide)
  exact absurd hrestored.refCount (by decide)

end Greybus.Operations
