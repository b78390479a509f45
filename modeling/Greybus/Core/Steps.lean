import Greybus.Core.Effects

/-!
# What the calls do

Every allowed call goes through, with the reference counts right before and after it, and changes
the outgoing requests in one of a few ways.
-/

namespace Greybus

open Reasoning.RefCount Reasoning.Transition

/-! ## What a call does -/

/-- The request that a call sends with `need_response`. -/
def Call.sends : Call → Option OpRef
  | .send q _ true _ _ => some q
  | .sendSync q _ _ => some q
  | _ => none

/-- What a call does to the outgoing requests. -/
inductive Change (s : Operations) : Call → Operations → Prop where
  | quiet {a : Call} {s' : Operations} : s.Quiet s' → Change s a s'
  | unanswered {q : OpRef} {op : Operation} {callback : Option Callback} {now : Timespec}
      {sendRet : Int} : s.heap q = some op →
        Change s (.send q callback false now sendRet) (s.setOp q { op with
          requestBuffer := { op.requestBuffer with hdr := { op.requestBuffer.hdr with id := 0 } } })
  | accepted {a : Call} {q : OpRef} {op op₁ : Operation} {callback : Option Callback}
      {now : Timespec} : a.sends = some q → s.heap q = some op → s.isPending q = false →
        Operations.SameExchange op op₁ → Change s a (s.queueRequest q op₁ callback now)
  | refused {a : Call} {q : OpRef} {op op₁ : Operation} {callback : Option Callback}
      {now : Timespec} {s' : Operations} : a.sends = some q → s.heap q = some op →
        s.isPending q = false → Operations.SameExchange op op₁ →
        ((s.queueRequest q op₁ callback now).removeTx op₁.cport q).Dropped s' → Change s a s'
  | answered {r q : OpRef} {rop op : Operation} {s' : Operations} : s.heap r = some rop →
        q ∈ s.txFifo rop.cport → s.heap q = some op → op.cport = rop.cport →
        op.requestBuffer.hdr.id = rop.requestBuffer.hdr.id → s.Answered r q op s' →
        Change s (.process r) s'
  | expired {c : Nat} {q : OpRef} {currentTime : Timespec} {op : Operation} {s' : Operations} :
        q ∈ s.txFifo c → s.heap q = some op → op.cport = c → (s.removeTx c q).Called q op s' →
        Change s (.expire c q currentTime) s'
  | flushed {c : Nat} {s' : Operations} : (s.setTxFifo c []).Dropped s' → Change s (.flush c) s'

namespace Operations

theorem responseOf_setOp {s : Operations} {q : OpRef} {op op' : Operation}
    (hq : s.heap q = some op) (hsame : op'.response = op.response) (x : OpRef) :
    (s.setOp q op').responseOf x = s.responseOf x := by
  by_cases hxq : x = q
  · subst hxq
    simp [responseOf, hq, hsame]
  · simp [responseOf, Operations.setOp, hxq]

theorem Keeps.responseOf {s s' : Operations} (h : s.Keeps s') (x : OpRef) :
    s'.responseOf x = none ∨ s'.responseOf x = s.responseOf x := by
  cases hx : s'.heap x with
  | none => exact .inl (by simp [Operations.responseOf, hx])
  | some op' =>
    obtain ⟨op, hop, hsame⟩ := h x op' hx
    exact .inr (by simp [Operations.responseOf, hx, hop, hsame.response])

theorem queueRequest_responseOf {s : Operations} {q : OpRef} {op op₁ : Operation}
    {callback : Option Callback} {now : Timespec} (hq : s.heap q = some op)
    (hsame : SameExchange op op₁) (x : OpRef) :
    (s.queueRequest q op₁ callback now).responseOf x = s.responseOf x := by
  by_cases hxq : x = q
  · subst hxq
    obtain ⟨op', hop', hresponse, -⟩ := s.queueRequest_heap_self x op₁ callback now
    simp [responseOf, hop', hq, hresponse, hsame.response]
  · rw [responseOf, s.queueRequest_heap_of_ne hxq, responseOf]

theorem mem_of_mem_removeTx {s : Operations} {c c' : Nat} {p q : OpRef}
    (h : q ∈ (s.removeTx c p).txFifo c') : q ∈ s.txFifo c' := by
  by_cases hc : c' = c
  · subst hc
    simp only [removeTx, Operations.setTxFifo, Function.update_self] at h
    exact List.mem_of_mem_erase h
  · simpa only [removeTx, Operations.setTxFifo, Function.update_of_ne hc] using h

-- An operation that is removed is in no other `tx_fifo`.
theorem Sound.not_mem_removeTx {s : Operations} {outer : OpRef → Nat} (hs : s.Sound outer) {c : Nat}
    {q : OpRef} (hq : q ∈ s.txFifo c) (c' : Nat) : q ∉ (s.removeTx c q).txFifo c' := by
  by_cases hc : c' = c
  · subst hc
    simpa only [Operations.removeTx, Operations.setTxFifo, Function.update_self]
      using (hs.nodup c').not_mem_erase
  · intro h
    obtain ⟨op, hop, hcport⟩ := hs.fifo c q hq
    obtain ⟨op', hop', hcport'⟩ := hs.fifo c' q (mem_of_mem_removeTx h)
    rw [hop, Option.some.injEq] at hop'
    exact hc (by rw [← hcport', ← hcport, hop'])

theorem mem_removeTx_of_ne {s : Operations} {c c' : Nat} {p q : OpRef} (h : q ∈ s.txFifo c')
    (hne : q ≠ p) : q ∈ (s.removeTx c p).txFifo c' := by
  by_cases hc : c' = c
  · subst hc
    simpa only [removeTx, Operations.setTxFifo, Function.update_self]
      using (List.mem_erase_of_ne hne).mpr h
  · simpa only [removeTx, Operations.setTxFifo, Function.update_of_ne hc] using h

theorem Called.assigned {s s' : Operations} {q : OpRef} {op : Operation}
    (h : s.Called q op s') : s'.assigned = s.assigned := by
  rw [Operations.assigned, h.trace, List.filterMap_append]
  cases op.callback <;> rfl

theorem Answered.assigned {s s' : Operations} {r q : OpRef} {op : Operation}
    (h : s.Answered r q op s') : s'.assigned = s.assigned := by
  rw [Operations.assigned, h.trace, List.filterMap_append]
  cases op.callback <;> rfl

end Operations

namespace Change

open Operations

-- Only a call that sends a request takes an id.
theorem assigned {s s' : Operations} {a : Call} (h : Change s a s') :
    (s'.requestId = s.requestId ∧ s'.assigned = s.assigned) ∨
      ∃ q, a.sends = some q ∧ s.isPending q = false ∧
        s'.requestId = (takeRequestId s.requestId).2 ∧
        s'.assigned = (q, (takeRequestId s.requestId).1) :: s.assigned := by
  cases h with
  | quiet hquiet => exact .inl ⟨hquiet.requestId, hquiet.assigned⟩
  | unanswered => exact .inl ⟨rfl, rfl⟩
  | accepted ha _ hpending => exact .inr ⟨_, ha, hpending, rfl, rfl⟩
  | refused ha _ hpending _ hdropped =>
    exact .inr ⟨_, ha, hpending, hdropped.requestId, hdropped.quiet.assigned⟩
  | answered _ _ _ _ _ hanswered => exact .inl ⟨hanswered.requestId, hanswered.assigned⟩
  | expired _ _ _ hcalled => exact .inl ⟨hcalled.requestId, hcalled.assigned⟩
  | flushed hdropped => exact .inl ⟨hdropped.requestId, hdropped.quiet.assigned⟩

-- An operation comes into a `tx_fifo` when it is sent, and gets an id then.
theorem fifo {s s' : Operations} {a : Call} (h : Change s a s') {c : Nat} {q : OpRef}
    (hq : q ∈ s'.txFifo c) : q ∈ s.txFifo c ∨
      a.sends = some q ∧ s'.assigned = (q, (takeRequestId s.requestId).1) :: s.assigned ∧
        s'.idOf q = some (takeRequestId s.requestId).1 := by
  cases h with
  | quiet hquiet => exact .inl (hquiet.txFifo ▸ hq)
  | unanswered => exact .inl hq
  | @accepted _ p op op₁ callback now ha =>
    rw [queueRequest_txFifo] at hq
    by_cases hc : c = op₁.cport
    · subst hc
      rw [Function.update_self] at hq
      refine (List.mem_append.mp hq).imp_right fun hp => ?_
      rw [List.mem_singleton.mp hp]
      obtain ⟨op', hop', -, -, hid, -⟩ := s.queueRequest_heap_self p op₁ callback now
      exact ⟨ha, rfl, by rw [idOf, hop', Option.map_some, hid]⟩
    · exact .inl (by rwa [Function.update_of_ne hc] at hq)
  | refused ha hp hpending hsame hdropped =>
    rw [hdropped.txFifo, removeTx_queueRequest_txFifo
      (hsame.cport ▸ not_mem_of_not_pending hp hpending)] at hq
    exact .inl hq
  | @answered _ p _ op _ _ _ _ _ _ hanswered =>
    rw [hanswered.txFifo] at hq
    exact .inl (mem_of_mem_removeTx hq)
  | expired _ _ _ hcalled =>
    rw [hcalled.txFifo] at hq
    exact .inl (mem_of_mem_removeTx hq)
  | @flushed c' _ hdropped =>
    rw [hdropped.txFifo] at hq
    by_cases hc : c = c'
    · subst hc
      simp [Operations.setTxFifo] at hq
    · exact .inl (by simpa [Operations.setTxFifo, hc] using hq)

-- An operation gets a response when it leaves its `tx_fifo`.
theorem response {s s' : Operations} {a : Call} (h : Change s a s') (x : OpRef) :
    s'.responseOf x = none ∨ s'.responseOf x = s.responseOf x ∨
      ∃ r op, a = .process r ∧ s.heap x = some op ∧ x ∈ s.txFifo op.cport ∧
        s.Answered r x op s' := by
  cases h with
  | quiet hquiet =>
    cases hx : s'.heap x with
    | none => exact .inl (by simp [responseOf, hx])
    | some op' =>
      rcases hquiet.heap x op' hx with ⟨op, hop, hsame⟩ | ⟨-, hnone⟩
      · exact .inr (.inl (by simp [responseOf, hx, hop, hsame.response]))
      · exact .inl (by simp [responseOf, hx, hnone])
  | unanswered hq =>
    refine .inr (.inl (responseOf_setOp hq ?_ x))
    rfl
  | accepted _ hq _ hsame => exact .inr (.inl (queueRequest_responseOf hq hsame x))
  | refused _ hq _ hsame hdropped =>
    rcases hdropped.keeps.responseOf x with hnone | hold
    · exact .inl hnone
    · exact .inr (.inl (hold.trans (queueRequest_responseOf hq hsame x)))
  | @answered r q rop op _ hr hin hq hcport _ hanswered =>
    by_cases hxq : x = q
    · subst hxq
      exact .inr (.inr ⟨r, op, rfl, hq, hcport ▸ hin, hanswered⟩)
    · by_cases hxr : x = r
      · subst hxr
        exact .inr (.inl (by simp [responseOf, hanswered.response hxq, hr]))
      · exact .inr (.inl (by rw [responseOf, hanswered.others x hxq hxr, responseOf]))
  | expired _ hq _ hcalled =>
    rcases (hcalled.keeps hq).responseOf x with hnone | hold
    · exact .inl hnone
    · exact .inr (.inl hold)
  | flushed hdropped =>
    rcases hdropped.keeps.responseOf x with hnone | hold
    · exact .inl hnone
    · exact .inr (.inl hold)

-- A response that is attached has been attached before, or answers the operation now.
theorem attached {s s' : Operations} {a : Call} (h : Change s a s') {p r : OpRef}
    (hp : s'.responseOf p = some r) : s.responseOf p = some r ∨
      ∃ op, a = .process r ∧ p ∈ s.txFifo op.cport ∧ s.Answered r p op s' := by
  rcases h.response p with hnone | hsame | ⟨r', op, ha, -, hin, hanswered⟩
  · rw [hnone] at hp
    cases hp
  · exact .inl (hsame ▸ hp)
  · rw [hanswered.responseOf, Option.some.injEq] at hp
    subst hp
    exact .inr ⟨op, ha, hin, hanswered⟩

end Change

namespace World

open Operations

/-- The references that are held outside of the operations and their `tx_fifo` lists. -/
def held (w : World) : OpRef → Nat :=
  holders w.owned + holders w.received + holders w.processing + holders w.completing +
    holders w.leaked

/-- The operations are sound with the references that the world holds. -/
def Inv (w : World) : Prop := w.toOperations.Sound w.held

theorem initial_inv (cportCount : Nat) : (World.initial cportCount).Inv := gbInit_sound cportCount

theorem Inv.live_of_mem {w : World} (hw : w.Inv) {q : OpRef}
    (hq : q ∈ w.owned ∨ q ∈ w.received ∨ q ∈ w.processing ∨ q ∈ w.completing) :
    ∃ op, w.heap q = some op := by
  apply hw.live
  simp only [held, holders, Pi.add_apply]
  rcases hq with h | h | h | h <;> have hpos := List.count_pos_iff.mpr h <;> omega

-- Dropping a reference that the world gives up.
theorem Inv.drop_of_held {w w₁ : World} (hw : w.Inv) {q : OpRef}
    (hheld : w.held = w₁.held + ref (some q)) :
    ∃ s', w.gbOperationUnref q = some s' ∧ s'.Sound w₁.held ∧ w.toOperations.Dropped s' := by
  rw [Inv, hheld] at hw
  exact hw.drop

/-- What a call leaves. -/
structure Stepped (w : World) (a : Call) (w' : World) : Prop where
  inv : w'.Inv
  change : Change w.toOperations a w'.toOperations
  owned : w'.owned.Subperm (w.next :: w.owned)
  received : w'.received ⊆ w.next :: w.received
  messages : (w'.received ++ w'.processing).Subperm (w.next :: (w.received ++ w.processing))
  -- An operation that is completed has just left its `tx_fifo`.
  completing : w'.completing.Subperm w.completing ∨ ∃ c q, q ∈ w.txFifo c ∧
    (∀ c, q ∉ w'.txFifo c) ∧ w'.completing = q :: w.completing
  -- Only the response of an operation that is answered once more is lost.
  leaked : w'.leaked = w.leaked ∨ ∃ c q, q ∈ w.txFifo c ∧
    w'.leaked = (w.responseOf q).toList ++ w.leaked

-- A call that moves no references outside of the operations.
theorem Stepped.of_operations {w : World} {a : Call} {s' : Operations} (hs : s'.Sound w.held)
    (hchange : Change w.toOperations a s') : w.Stepped a { w with toOperations := s' } :=
  ⟨hs, hchange, (List.sublist_cons_self ..).subperm, List.subset_cons_self ..,
    (List.sublist_cons_self ..).subperm, .inl (.refl _), .inl rfl⟩

theorem change_of_sent {s s' : Operations} {q : OpRef} {op : Operation}
    {callback : Option Callback} {needResponse : Bool} {now : Timespec} (sendRet : Int)
    (hq : s.heap q = some op) (hpending : needResponse = true → s.isPending q = false)
    (h : s.Sent q op callback now needResponse s') :
    Change s (.send q callback needResponse now sendRet) s' := by
  cases h with
  | down => exact .quiet (.refl s)
  | unanswered => exact .unanswered hq
  | accepted => exact .accepted rfl hq (hpending rfl) ⟨rfl, rfl, rfl, rfl⟩
  | refused hdropped => exact .refused rfl hq (hpending rfl) ⟨rfl, rfl, rfl, rfl⟩ hdropped

theorem change_of_sentSync {s s' : Operations} {q : OpRef} {op : Operation} {now : Timespec}
    (sendRet : Int) (hq : s.heap q = some op) (hpending : s.isPending q = false)
    (h : (s.setOp q { op with syncSem := 0 }).Sent q { op with syncSem := 0 } (some .sync) now true
      s') : Change s (.sendSync q now sendRet) s' := by
  have hsame : SameExchange op { op with syncSem := 0 } := ⟨rfl, rfl, rfl, rfl⟩
  cases h with
  | down => exact .quiet (.setOp hq hsame)
  | accepted =>
    rw [queueRequest_setOp]
    exact .accepted rfl hq hpending hsame
  | refused hdropped =>
    rw [queueRequest_setOp] at hdropped
    exact .refused rfl hq hpending hsame hdropped

theorem subperm_cons (n : OpRef) (ops : List OpRef) : ops.Subperm (n :: ops) :=
  (List.sublist_cons_self ..).subperm

theorem toList_append_subperm {o : Option OpRef} {n : OpRef} (ho : ∀ q ∈ o, q = n)
    (ops : List OpRef) : (o.toList ++ ops).Subperm (n :: ops) := by
  cases o with
  | none => exact subperm_cons ..
  | some q => simp [ho q rfl, List.Subperm.refl]

theorem erase_subperm (q n : OpRef) (ops : List OpRef) : (ops.erase q).Subperm (n :: ops) :=
  (List.erase_sublist.trans (List.sublist_cons_self ..)).subperm

-- The worker takes a message and completes the request that it answers.
theorem exec_process {w : World} (hw : w.Inv) {r : OpRef} (hr : r ∈ w.received) :
    ∃ w', w.exec (.process r) = some w' ∧ w.Stepped (.process r) w' := by
  obtain ⟨rop, hrop⟩ := hw.live_of_mem (.inr (.inl hr))
  have hsubset : w.received.erase r ⊆ w.next :: w.received := (erase_subperm ..).subset
  have hmessages : (w.received.erase r ++ r :: w.processing).Subperm
      (w.next :: (w.received ++ w.processing)) := by
    apply List.Subperm.trans _ (subperm_cons ..)
    apply List.Perm.subperm
    apply List.perm_middle.trans
    rw [← List.cons_append]
    exact (List.perm_cons_erase hr).symm.append_right _
  rcases processMessage_sound hw hrop with
    hrun | ⟨q, op, s', hrun, hin, hop, hcport, hid, hs, hanswered⟩
  · refine ⟨{ w with received := w.received.erase r, processing := r :: w.processing },
      by simp [exec, hrun], ?_, .quiet (.refl _), subperm_cons .., hsubset, hmessages, .inl (.refl _),
      .inl rfl⟩
    simp only [Inv, held, holders_erase hr, holders_cons] at hw ⊢
    convert hw using 1
    ac_rfl
  · have hgone : ∀ c, q ∉ s'.txFifo c := by
      intro c
      rw [hanswered.txFifo, hcport]
      exact hw.not_mem_removeTx hin c
    refine ⟨{ w with
      toOperations := s'
      received := w.received.erase r
      processing := r :: w.processing
      completing := q :: w.completing
      leaked := (w.responseOf q).toList ++ w.leaked }, by simp [exec, hrun], ?_,
      .answered hrop hin hop hcport hid hanswered, subperm_cons .., hsubset, hmessages,
      .inr ⟨_, q, hin, hgone, rfl⟩, .inr ⟨_, q, hin, rfl⟩⟩
    have hresponse : w.responseOf q = op.response := by simp [responseOf, hop]
    simp only [Inv, held, holders_erase hr, holders_cons, holders_toList_append, hresponse]
      at hs ⊢
    convert hs using 1
    ac_rfl

-- Every allowed call goes through without touching a freed operation, and keeps the counts.
theorem exec_spec {w : World} (hw : w.Inv) {a : Call} (ha : w.allowed a = true) :
    ∃ w', w.exec a = some w' ∧ w.Stepped a w' := by
  cases a with
  | create mallocOk allocBufOk cport type reqSize =>
    obtain ⟨hs, hquiet, hnext⟩ := gbOperationCreate_sound hw mallocOk allocBufOk cport type reqSize
    refine ⟨_, rfl, ?_, .quiet hquiet, toList_append_subperm hnext _, List.subset_cons_self ..,
      subperm_cons .., .inl (.refl _), .inl rfl⟩
    simp only [Inv, held, holders_toList_append] at hs ⊢
    convert hs using 1
    ac_rfl
  | send q callback needResponse now sendRet =>
    simp only [allowed, Bool.and_eq_true, decide_eq_true_eq, Bool.not_eq_true',
      Bool.and_eq_false_iff] at ha
    obtain ⟨hq, hpending⟩ := ha
    obtain ⟨op, hop⟩ := hw.live_of_mem (.inl hq)
    have hqueue : needResponse = true → w.isPending q = false :=
      fun hneed => hpending.resolve_left (by simp [hneed])
    obtain ⟨res, hrun, hs, hsent⟩ :=
      gbOperationSendRequest_sound hw hop callback hqueue now sendRet
    exact ⟨_, by simp only [exec, hrun, Option.map_some],
      .of_operations hs (change_of_sent sendRet hop hqueue hsent)⟩
  | sendSync q now sendRet =>
    simp only [allowed, Bool.and_eq_true, decide_eq_true_eq, Bool.not_eq_true'] at ha
    obtain ⟨op, hop⟩ := hw.live_of_mem (.inl ha.1)
    obtain ⟨res, hrun, hs, hsent⟩ := gbOperationSendRequestSync_sound hw hop ha.2 now sendRet
    exact ⟨_, by simp only [exec, hrun, Option.map_some],
      .of_operations hs (change_of_sentSync sendRet hop ha.2 hsent)⟩
  | destroy q =>
    have hq : q ∈ w.owned := by simpa [allowed] using ha
    have hheld : w.held = { w with owned := w.owned.erase q }.held + ref (some q) := by
      simp only [held]
      rw [holders_erase hq]
      ac_rfl
    obtain ⟨s', hrun, hs, hdropped⟩ := hw.drop_of_held hheld
    exact ⟨{ w with toOperations := s', owned := w.owned.erase q },
      by simp only [exec, gbOperationDestroy, hrun, Option.map_some], hs, .quiet hdropped.quiet,
      erase_subperm .., List.subset_cons_self .., subperm_cons .., .inl (.refl _), .inl rfl⟩
  | receive mallocOk allocBufOk cport data =>
    obtain ⟨hs, hquiet, hnext⟩ := gbRxCreateOperation_sound hw mallocOk allocBufOk cport data
    have hreceived := toList_append_subperm hnext
    refine ⟨_, rfl, ?_, .quiet hquiet, subperm_cons .., (hreceived _).subset, ?_, .inl (.refl _), .inl rfl⟩
    · simp only [Inv, held, holders_toList_append] at hs ⊢
      convert hs using 1
      ac_rfl
    · simpa only [List.append_assoc] using hreceived (w.received ++ w.processing)
  | process r => exact exec_process hw (by simpa [allowed] using ha)
  | allocResponse allocBufOk r size =>
    simp only [allowed, Bool.and_eq_true, decide_eq_true_eq] at ha
    obtain ⟨op, hop⟩ := hw.live_of_mem (.inr (.inr (.inl ha.1)))
    have hnone : op.responseBuffer = none := by simpa [hop] using ha.2
    obtain ⟨s', hrun, hs, hquiet⟩ :=
      gbOperationAllocResponse_sound hw hop hnone allocBufOk size
    exact ⟨_, by simp only [exec, hrun, Option.map_some], .of_operations hs (.quiet hquiet)⟩
  | finish r =>
    have hr : r ∈ w.processing := by simpa [allowed] using ha
    have hheld : w.held = { w with processing := w.processing.erase r }.held + ref (some r) := by
      simp only [held]
      rw [holders_erase hr]
      ac_rfl
    obtain ⟨s', hrun, hs, hdropped⟩ := hw.drop_of_held hheld
    exact ⟨{ w with toOperations := s', processing := w.processing.erase r },
      by simp only [exec, gbOperationDestroy, hrun, Option.map_some], hs, .quiet hdropped.quiet,
      subperm_cons .., List.subset_cons_self ..,
      ((List.erase_sublist.append_left _).trans (List.sublist_cons_self ..)).subperm,
      .inl (.refl _), .inl rfl⟩
  | expire cport q currentTime =>
    have hin : q ∈ w.txFifo cport := by simpa [allowed] using ha
    rcases cleanTimedoutRound_sound hw hin currentTime with
      hrun | ⟨op, s', hrun, hop, hcport, hs, hcalled⟩
    · exact ⟨_, by simp only [exec, hrun, Option.map_some]; rfl,
        .of_operations hw (.quiet (.refl _))⟩
    · have hgone : ∀ c, q ∉ s'.txFifo c := by
        intro c
        rw [hcalled.txFifo]
        exact hw.not_mem_removeTx hin c
      refine ⟨{ w with toOperations := s', completing := q :: w.completing },
        by simp [exec, hrun], ?_, .expired hin hop hcport hcalled, subperm_cons ..,
        List.subset_cons_self .., subperm_cons .., .inr ⟨_, q, hin, hgone, rfl⟩, .inl rfl⟩
      simp only [Inv, held, holders_cons] at hs ⊢
      convert hs using 1
      ac_rfl
  | release q =>
    have hq : q ∈ w.completing := by simpa [allowed] using ha
    have hheld : w.held = { w with completing := w.completing.erase q }.held + ref (some q) := by
      simp only [held]
      rw [holders_erase hq]
      ac_rfl
    obtain ⟨s', hrun, hs, hdropped⟩ := hw.drop_of_held hheld
    exact ⟨{ w with toOperations := s', completing := w.completing.erase q },
      by simp only [exec, hrun, Option.map_some], hs, .quiet hdropped.quiet, subperm_cons ..,
      List.subset_cons_self .., subperm_cons .., .inl List.erase_sublist.subperm, .inl rfl⟩
  | stop cport =>
    have hquiet := Quiet.refl w.toOperations
    exact ⟨_, rfl, .of_operations { hw with } (.quiet { hquiet with })⟩
  | flush cport =>
    obtain ⟨s', hrun, hs, hdropped⟩ := flushRounds_sound (w.txFifo cport) hw rfl
    exact ⟨_, by simp only [exec, gbFlushTxFifo, hrun, Option.map_some],
      .of_operations hs (.flushed hdropped)⟩
  | start cport =>
    have hquiet := Quiet.refl w.toOperations
    exact ⟨_, rfl, .of_operations { hw with } (.quiet { hquiet with })⟩

-- The response of an operation is there as long as the operation is.
theorem Inv.attached_live {w : World} (hw : w.Inv) {p r : OpRef} (h : w.responseOf p = some r) :
    ∃ op, w.heap r = some op := by
  cases hr : w.heap r with
  | none => exact absurd h (hw.balanced.not_next (hw.balanced.dead r hr).2 p)
  | some op => exact ⟨op, rfl⟩

theorem step_spec {w w' : World} {a : Call} (hw : w.Inv) (h : step w a = some w') :
    w.Stepped a w' := by
  simp only [step, Option.ite_none_right_eq_some] at h
  obtain ⟨w₁, hrun, hstepped⟩ := exec_spec hw h.1
  rw [h.2, Option.some.injEq] at hrun
  exact hrun ▸ hstepped

theorem step_process {w w' : World} {r : OpRef} (h : step w (.process r) = some w') :
    r ∈ w.received ∧ w'.received = w.received.erase r ∧
      ∃ res, w.processMessage r = some res ∧ w'.toOperations = res.2 := by
  simp only [step, exec, Option.ite_none_right_eq_some, Option.map_eq_some_iff] at h
  obtain ⟨hr, res, hrun, rfl⟩ := h
  exact ⟨by simpa [allowed] using hr, rfl, res, hrun, rfl⟩

end World

end Greybus
