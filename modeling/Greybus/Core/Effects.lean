import Greybus.Core.Accounting

/-!
# What the functions do

One lemma for each function: it does not fault on sound operations, it keeps them sound with the
references that it takes and drops, and this is what it leaves of the outgoing requests.
-/

namespace Greybus

open Reasoning.RefCount

/-- The id that an event assigns, and to whom. -/
def Event.assignment? : Event → Option (OpRef × UInt16)
  | .assigned q id => some (q, id)
  | _ => none

/-- Memory is allocated or freed. -/
def Event.isMemory : Event → Bool
  | .alloc _ => true
  | .free _ => true
  | _ => false

namespace Operations

/-- The ids that have been assigned, and to whom; the latest comes first. -/
def assigned (s : Operations) : List (OpRef × UInt16) := s.trace.filterMap Event.assignment?

/-- No request is sent or completed between the two states. -/
structure Quiet (s s' : Operations) : Prop where
  -- What is there is in the same exchange as before, or is new.
  heap : ∀ x op', s'.heap x = some op' →
    (∃ op, s.heap x = some op ∧ SameExchange op op') ∨ s.heap x = none ∧ op'.response = none
  txFifo : s'.txFifo = s.txFifo
  requestId : s'.requestId = s.requestId
  trace : ∃ es, s'.trace = es ++ s.trace ∧ ∀ e ∈ es, e.isMemory = true

theorem Quiet.refl (s : Operations) : s.Quiet s :=
  ⟨fun _ op' h => .inl ⟨op', h, rfl, rfl, rfl, rfl⟩, rfl, rfl, [], rfl, by simp⟩

theorem Dropped.quiet {s s' : Operations} (h : s.Dropped s') : s.Quiet s' where
  heap x op' hx := .inl (h.keeps x op' hx)
  txFifo := h.txFifo
  requestId := h.requestId
  trace := by
    obtain ⟨freed, htrace⟩ := h.trace
    exact ⟨freed.map Event.free, htrace, by simp [Event.isMemory]⟩

theorem Quiet.setOp {s : Operations} {q : OpRef} {op op' : Operation} (hq : s.heap q = some op)
    (hsame : SameExchange op op') : s.Quiet (s.setOp q op') :=
  ⟨fun x c hx => .inl (setOp_keeps hq hsame x c hx), rfl, rfl, [], rfl, by simp⟩

theorem filterMap_memory {es : List Event} (hes : ∀ e ∈ es, e.isMemory = true) :
    es.filterMap Event.assignment? = [] := by
  refine List.filterMap_eq_nil_iff.mpr fun e he => ?_
  have hmem := hes e he
  cases e <;> simp_all [Event.isMemory, Event.assignment?]

theorem Quiet.assigned {s s' : Operations} (h : s.Quiet s') : s'.assigned = s.assigned := by
  obtain ⟨es, htrace, hes⟩ := h.trace
  rw [Operations.assigned, htrace, List.filterMap_append, filterMap_memory hes, List.nil_append]
  rfl

/-! ## Creation -/

theorem Sound.addOperation_quiet {s : Operations} {outer : OpRef → Nat} (hs : s.Sound outer)
    {op : Operation} (hresponse : op.response = none) : s.Quiet (s.addOperation op) where
  heap x op' hx := by
    by_cases hxn : x = s.next
    · simp only [Operations.addOperation, hxn, Function.update_self, Option.some.injEq] at hx
      exact .inr ⟨hxn ▸ hs.heap_next, hx ▸ hresponse⟩
    · simp only [Operations.addOperation, Function.update_of_ne hxn] at hx
      exact .inl ⟨op', hx, rfl, rfl, rfl, rfl⟩
  txFifo := rfl
  requestId := rfl
  trace := ⟨[_, _], rfl, by simp [Event.isMemory]⟩

@[simp] theorem addOperation_heap_next (s : Operations) (op : Operation) :
    (s.addOperation op).heap s.next = some op := Function.update_self ..

theorem gbOperationCreate_cases (s : Operations) (mallocOk allocBufOk : Bool) (cport : Nat)
    (type : UInt8) (reqSize : Nat) :
    s.gbOperationCreate mallocOk allocBufOk cport type reqSize = (none, s) ∨
      cport < s.cportCount ∧ s.gbOperationCreate mallocOk allocBufOk cport type reqSize
        = (some s.next, s.addOperation (.fresh cport (.request type reqSize))) := by
  unfold gbOperationCreate
  split
  next => exact .inl rfl
  next hc =>
  split
  next => exact .inl rfl
  next =>
  split
  next => exact .inl rfl
  next => exact .inr ⟨Nat.not_le.mp hc, rfl⟩

-- A created operation carries a request of its own; the others stay as they are.
theorem gbOperationCreate_sound {s : Operations} {outer : OpRef → Nat} (hs : s.Sound outer)
    (mallocOk allocBufOk : Bool) (cport : Nat) (type : UInt8) (reqSize : Nat) :
    (s.gbOperationCreate mallocOk allocBufOk cport type reqSize).2.Sound
        (outer + ref (s.gbOperationCreate mallocOk allocBufOk cport type reqSize).1) ∧
      s.Quiet (s.gbOperationCreate mallocOk allocBufOk cport type reqSize).2 ∧
      ∀ q ∈ (s.gbOperationCreate mallocOk allocBufOk cport type reqSize).1, q = s.next := by
  rcases gbOperationCreate_cases s mallocOk allocBufOk cport type reqSize with h | ⟨hc, h⟩ <;>
    rw [h]
  · exact ⟨hs, .refl s, by simp⟩
  · exact ⟨hs.addOperation hc rfl rfl rfl, hs.addOperation_quiet rfl, by simp⟩

theorem gbRxCreateOperation_cases (s : Operations) (mallocOk allocBufOk : Bool) (cport : Nat)
    (data : Message) :
    s.gbRxCreateOperation mallocOk allocBufOk cport data = (none, s) ∨
      cport < s.cportCount ∧ s.gbRxCreateOperation mallocOk allocBufOk cport data
        = (some s.next, s.addOperation (.fresh cport data)) := by
  unfold gbRxCreateOperation
  rcases gbOperationCreate_cases s mallocOk allocBufOk cport 0 data.payload.length with
    h | ⟨hc, h⟩ <;> rw [h]
  · exact .inl rfl
  · exact .inr ⟨hc, by simp [setOp, Operations.addOperation]⟩

theorem gbRxCreateOperation_sound {s : Operations} {outer : OpRef → Nat} (hs : s.Sound outer)
    (mallocOk allocBufOk : Bool) (cport : Nat) (data : Message) :
    (s.gbRxCreateOperation mallocOk allocBufOk cport data).2.Sound
        (outer + ref (s.gbRxCreateOperation mallocOk allocBufOk cport data).1) ∧
      s.Quiet (s.gbRxCreateOperation mallocOk allocBufOk cport data).2 ∧
      ∀ q ∈ (s.gbRxCreateOperation mallocOk allocBufOk cport data).1, q = s.next := by
  rcases gbRxCreateOperation_cases s mallocOk allocBufOk cport data with h | ⟨hc, h⟩ <;> rw [h]
  · exact ⟨hs, .refl s, by simp⟩
  · exact ⟨hs.addOperation hc rfl rfl rfl, hs.addOperation_quiet rfl, by simp⟩

-- A handler allocates the response buffer of an operation that has none.
theorem gbOperationAllocResponse_sound {s : Operations} {outer : OpRef → Nat} (hs : s.Sound outer)
    {q : OpRef} {op : Operation} (hq : s.heap q = some op) (hnone : op.responseBuffer = none)
    (allocBufOk : Bool) (size : Nat) :
    ∃ s', s.gbOperationAllocResponse allocBufOk q size = some s' ∧ s'.Sound outer ∧ s.Quiet s' := by
  have hpos : 0 < op.refCount := hs.balanced.pos q op hq
  unfold gbOperationAllocResponse
  simp only [hq, Option.map_some]
  cases allocBufOk
  · exact ⟨_, rfl, hs.modify hq rfl rfl (by simp [hnone]) hpos (fun _ _ => rfl) rfl,
      .setOp hq ⟨rfl, rfl, rfl, rfl⟩⟩
  · have hkeeps : s.Keeps (s.setOp q
        { op with responseBuffer := some (.response op.requestBuffer.hdr size) }) :=
      setOp_keeps hq ⟨rfl, rfl, rfl, rfl⟩
    exact ⟨_, rfl, hs.allocate hq rfl rfl rfl hnone rfl, fun x c hx => .inl (hkeeps x c hx), rfl,
      rfl, [_], rfl, by simp [Event.isMemory]⟩

/-! ## Sending -/

@[simp] theorem setOp_heap_self (s : Operations) (q : OpRef) (op : Operation) :
    (s.setOp q op).heap q = some op := Function.update_self ..

theorem not_mem_of_not_pending {s : Operations} {q : OpRef} {op : Operation}
    (hq : s.heap q = some op) (hpending : s.isPending q = false) : q ∉ s.txFifo op.cport := by
  simpa [isPending, hq] using hpending

theorem Sound.queueRequest {s : Operations} {outer : OpRef → Nat} (hs : s.Sound outer) {q : OpRef}
    {op : Operation} (hq : s.heap q = some op) (hpending : s.isPending q = false)
    (callback : Option Callback) (now : Timespec) :
    (s.queueRequest q op callback now).Sound outer := by
  have hpos : 0 < op.refCount := hs.balanced.pos q op hq
  have hcounter : ({ s with requestId := (takeRequestId s.requestId).2 } : Operations).Sound
      outer := { hs with }
  have hassigned : (Operations.emit { s with requestId := (takeRequestId s.requestId).2 }
      (.assigned q (takeRequestId s.requestId).1)).Sound outer := hcounter.emit (by simp) (by simp)
  have hqueued : q ∉ s.txFifo op.cport := not_mem_of_not_pending hq hpending
  have hretained : (Operations.setOp (.emit { s with requestId := (takeRequestId s.requestId).2 }
      (.assigned q (takeRequestId s.requestId).1)) q
      { op with
        requestBuffer := { op.requestBuffer with
          hdr := { op.requestBuffer.hdr with id := (takeRequestId s.requestId).1 } }
        time := now
        callback
        refCount := op.refCount + 1 }).Sound (outer + ref (some q)) := by
    refine hassigned.modify hq rfl rfl rfl ?_ (fun x hx => by simp [Ne.symm hx]) ?_
    · simp only
      omega
    · simp only [Pi.add_apply, ref_some, if_true]
      omega
  exact hretained.appendTx (setOp_heap_self _ _ _) rfl hqueued

theorem queueRequest_txFifo (s : Operations) (q : OpRef) (op : Operation)
    (callback : Option Callback) (now : Timespec) :
    (s.queueRequest q op callback now).txFifo
      = Function.update s.txFifo op.cport (s.txFifo op.cport ++ [q]) := rfl

-- A request that has been queued differs in what sending sets.
theorem queueRequest_heap_self (s : Operations) (q : OpRef) (op : Operation)
    (callback : Option Callback) (now : Timespec) :
    ∃ op', (s.queueRequest q op callback now).heap q = some op' ∧ op'.response = op.response ∧
      op'.cport = op.cport ∧ op'.requestBuffer.hdr.id = (takeRequestId s.requestId).1 ∧
      op'.refCount = op.refCount + 1 :=
  ⟨_, Function.update_self .., rfl, rfl, rfl, rfl⟩

theorem queueRequest_heap_of_ne (s : Operations) {q x : OpRef} (hx : x ≠ q) (op : Operation)
    (callback : Option Callback) (now : Timespec) :
    (s.queueRequest q op callback now).heap x = s.heap x := Function.update_of_ne hx ..

-- A request that is taken off the `tx_fifo` again leaves it as it was.
theorem removeTx_queueRequest_txFifo {s : Operations} {q : OpRef} {op : Operation}
    (hq : q ∉ s.txFifo op.cport) (callback : Option Callback) (now : Timespec) :
    ((s.queueRequest q op callback now).removeTx op.cport q).txFifo = s.txFifo := by
  simp only [Operations.removeTx, Operations.setTxFifo, queueRequest_txFifo, Function.update_self,
    Function.update_idem, List.erase_append_right _ hq, List.erase_cons_head, List.append_nil,
    Function.update_eq_self]

-- Sending a request again overwrites what was there.
theorem queueRequest_setOp (s : Operations) (q : OpRef) (op₁ op : Operation)
    (callback : Option Callback) (now : Timespec) :
    (s.setOp q op₁).queueRequest q op callback now = s.queueRequest q op callback now := by
  simp [Operations.queueRequest, Operations.setOp, Operations.emit, Operations.appendTx,
    Operations.setTxFifo]

/-- What `gb_operation_send_request` leaves. -/
inductive Sent (s : Operations) (q : OpRef) (op : Operation) (callback : Option Callback)
    (now : Timespec) : Bool → Operations → Prop where
  -- The cport is going down.
  | down {needResponse : Bool} : Sent s q op callback now needResponse s
  | unanswered : Sent s q op callback now false (s.setOp q { op with
      requestBuffer := { op.requestBuffer with hdr := { op.requestBuffer.hdr with id := 0 } } })
  | accepted : Sent s q op callback now true (s.queueRequest q op callback now)
  -- The transport has refused the request.
  | refused {s' : Operations} :
      ((s.queueRequest q op callback now).removeTx op.cport q).Dropped s' →
        Sent s q op callback now true s'

-- Sending goes through with an operation that is there and not queued.
theorem gbOperationSendRequest_sound {s : Operations} {outer : OpRef → Nat} (hs : s.Sound outer)
    {q : OpRef} {op : Operation} (hq : s.heap q = some op) (callback : Option Callback)
    {needResponse : Bool} (hpending : needResponse = true → s.isPending q = false)
    (now : Timespec) (sendRet : Int) :
    ∃ res, s.gbOperationSendRequest q callback needResponse now sendRet = some res ∧
      res.2.Sound outer ∧ Sent s q op callback now needResponse res.2 := by
  have hpos : 0 < op.refCount := hs.balanced.pos q op hq
  unfold gbOperationSendRequest
  simp only [hq, Option.bind_some]
  split
  next => exact ⟨_, rfl, hs, .down⟩
  next =>
  cases needResponse with
  | true =>
    rw [if_pos rfl, if_neg (by simp [hpending rfl])]
    have hqueued := hs.queueRequest hq (hpending rfl) callback now
    split
    next =>
      have hin : q ∈ (s.queueRequest q op callback now).txFifo op.cport := by
        simp [queueRequest_txFifo]
      obtain ⟨s', hrun, hs', hdropped⟩ := (hqueued.removeTx hin).drop
      exact ⟨(sendRet, s'), by rw [hrun]; rfl, hs', .refused hdropped⟩
    next => exact ⟨_, rfl, hqueued, .accepted⟩
  | false => exact ⟨_, rfl, hs.modify hq rfl rfl rfl hpos (fun _ _ => rfl) rfl, .unanswered⟩

theorem gbOperationSendRequestSync_sound {s : Operations} {outer : OpRef → Nat} (hs : s.Sound outer)
    {q : OpRef} {op : Operation} (hq : s.heap q = some op) (hpending : s.isPending q = false)
    (now : Timespec) (sendRet : Int) :
    ∃ res, s.gbOperationSendRequestSync q now sendRet = some res ∧ res.2.Sound outer ∧
      Sent (s.setOp q { op with syncSem := 0 }) q { op with syncSem := 0 } (some .sync) now true
        res.2 := by
  have hpos : 0 < op.refCount := hs.balanced.pos q op hq
  unfold gbOperationSendRequestSync
  simp only [hq, Option.bind_some]
  have hinit : (s.setOp q { op with syncSem := 0 }).Sound outer :=
    hs.modify hq rfl rfl rfl hpos (fun _ _ => rfl) rfl
  refine gbOperationSendRequest_sound hinit (setOp_heap_self _ _ _) _ (fun _ => ?_) now sendRet
  have hnot := not_mem_of_not_pending hq hpending
  rw [isPending, setOp_heap_self, Option.any_some]
  exact decide_eq_false hnot

/-! ## Completion -/

/-- What the callback of an operation leaves: the semaphore of a synchronous request is posted. -/
def posted (op : Operation) : Operation :=
  if op.callback = some .sync then { op with syncSem := op.syncSem + 1 } else op

/-- The callback of `q` has been called once, if there is one. -/
structure Called (s : Operations) (q : OpRef) (op : Operation) (s' : Operations) : Prop where
  heap : s'.heap = Function.update s.heap q (some (posted op))
  txFifo : s'.txFifo = s.txFifo
  cportCount : s'.cportCount = s.cportCount
  exitWorker : s'.exitWorker = s.exitWorker
  requestId : s'.requestId = s.requestId
  trace : s'.trace = (op.callback.map (Event.called q)).toList ++ s.trace

theorem runCallback_called {s : Operations} {q : OpRef} {op : Operation}
    (hq : s.heap q = some op) : ∃ s', s.runCallback q = some s' ∧ Called s q op s' := by
  unfold runCallback
  simp only [hq, Option.map_some]
  refine ⟨_, rfl, ?_⟩
  cases hcb : op.callback with
  | none =>
    refine ⟨?_, rfl, rfl, rfl, rfl, by simp [hcb]⟩
    simp [posted, hcb, ← hq]
  | some cb =>
    cases cb with
    | sync =>
      refine ⟨?_, rfl, rfl, rfl, rfl, by simp [hcb, Operations.emit, Operations.setOp]⟩
      simp [posted, hcb, Operations.emit, Operations.setOp]
    | user n =>
      refine ⟨?_, rfl, rfl, rfl, rfl, by simp [hcb, Operations.emit]⟩
      simp [posted, hcb, Operations.emit, ← hq]

theorem runCallback_sound {s : Operations} {outer : OpRef → Nat} (hs : s.Sound outer) {q : OpRef}
    {op : Operation} (hq : s.heap q = some op) :
    ∃ s', s.runCallback q = some s' ∧ s'.Sound outer ∧ Called s q op s' := by
  obtain ⟨s', hrun, hcalled⟩ := runCallback_called hq
  refine ⟨s', hrun, ?_, hcalled⟩
  have hpos : 0 < op.refCount := hs.balanced.pos q op hq
  have hemit : ∀ {s : Operations} {cb : Callback}, s.Sound outer →
      (s.emit (.called q cb)).Sound outer :=
    fun hs => hs.emit (by simp) (by simp)
  simp only [runCallback, hq, Option.map_some, Option.some.injEq] at hrun
  subst hrun
  split
  next => exact hs
  next =>
    refine hemit ?_
    split
    next => exact hs.modify hq rfl rfl rfl hpos (fun _ _ => rfl) rfl
    next => exact hs

-- The search finds the first pending operation with the id, or there is none.
theorem findPending_spec {s : Operations} {ops : List OpRef} (id : UInt16)
    (hlive : ∀ q ∈ ops, ∃ op, s.heap q = some op) :
    (s.findPending id ops = some none ∧
        ∀ q ∈ ops, ∀ op, s.heap q = some op → op.requestBuffer.hdr.id ≠ id) ∨
      ∃ q op, s.findPending id ops = some (some q) ∧ q ∈ ops ∧ s.heap q = some op ∧
        op.requestBuffer.hdr.id = id := by
  induction ops with
  | nil => exact .inl ⟨rfl, by simp⟩
  | cons p ops ih =>
    obtain ⟨op, hop⟩ := hlive p List.mem_cons_self
    by_cases hid : op.requestBuffer.hdr.id = id
    · exact .inr ⟨p, op, by simp [findPending, hop, hid], List.mem_cons_self, hop, hid⟩
    · have hround : s.findPending id (p :: ops) = s.findPending id ops := by
        simp [findPending, hop, hid]
      rw [hround]
      rcases ih fun q hq => hlive q (List.mem_cons_of_mem _ hq) with
        ⟨hrun, hnone⟩ | ⟨q, opq, hrun, hq, hopq, hidq⟩
      · refine .inl ⟨hrun, fun q hq opq hopq => ?_⟩
        rcases List.mem_cons.mp hq with rfl | hq
        · rw [hop, Option.some.injEq] at hopq
          exact hopq ▸ hid
        · exact hnone q hq opq hopq
      · exact .inr ⟨q, opq, hrun, List.mem_cons_of_mem _ hq, hopq, hidq⟩

theorem posted_same (op : Operation) : SameExchange op (posted op) := by
  unfold posted
  split <;> exact ⟨rfl, rfl, rfl, rfl⟩

theorem Called.keeps {s s' : Operations} {q : OpRef} {op : Operation} (h : Called s q op s')
    (hq : s.heap q = some op) : s.Keeps s' := by
  intro x op' hx
  rw [h.heap] at hx
  exact setOp_keeps hq (posted_same op) x op' hx

/-- The response `r` has answered the pending operation `q`. -/
structure Answered (s : Operations) (r q : OpRef) (op : Operation) (s' : Operations) : Prop where
  others : ∀ x, x ≠ q → x ≠ r → s'.heap x = s.heap x
  -- The response is referenced once more.
  response : r ≠ q →
    s'.heap r = (s.heap r).map fun rop => { rop with refCount := rop.refCount + 1 }
  attached : ∃ op', s'.heap q = some op' ∧ op'.response = some r ∧ op'.cport = op.cport ∧
    op'.requestBuffer = op.requestBuffer ∧ op'.callback = op.callback ∧
    (op.callback = some .sync → op'.syncSem = op.syncSem + 1)
  txFifo : s'.txFifo = (s.removeTx op.cport q).txFifo
  cportCount : s'.cportCount = s.cportCount
  exitWorker : s'.exitWorker = s.exitWorker
  requestId : s'.requestId = s.requestId
  trace : s'.trace = (op.callback.map (Event.called q)).toList ++ s.trace

theorem Answered.responseOf {s s' : Operations} {r q : OpRef} {op : Operation}
    (h : Answered s r q op s') : s'.responseOf q = some r := by
  obtain ⟨op', hop', hresponse, -⟩ := h.attached
  simp [Operations.responseOf, hop', hresponse]

-- A response answers the pending operation with its id, or finds none.
theorem gbProcessResponse_sound {s : Operations} {outer : OpRef → Nat} (hs : s.Sound outer)
    {r : OpRef} {rop : Operation} (hr : s.heap r = some rop) :
    (s.gbProcessResponse r = some (none, s) ∧ ∀ q ∈ s.txFifo rop.cport, ∀ op,
        s.heap q = some op → op.requestBuffer.hdr.id ≠ rop.requestBuffer.hdr.id) ∨
      ∃ q op s', s.gbProcessResponse r = some (some q, s') ∧ q ∈ s.txFifo rop.cport ∧
        s.heap q = some op ∧ op.cport = rop.cport ∧
        op.requestBuffer.hdr.id = rop.requestBuffer.hdr.id ∧
        s'.Sound (outer + ref (some q) + ref op.response) ∧ Answered s r q op s' := by
  have hlive : ∀ q ∈ s.txFifo rop.cport, ∃ op, s.heap q = some op := by
    intro q hq
    obtain ⟨op, hop, -⟩ := hs.fifo _ q hq
    exact ⟨op, hop⟩
  rcases findPending_spec rop.requestBuffer.hdr.id hlive with
    ⟨hrun, hnone⟩ | ⟨q, op, hrun, hin, hq, hid⟩
  · exact .inl ⟨by simp [gbProcessResponse, hr, hrun], hnone⟩
  · obtain ⟨op', hop', hcport⟩ := hs.fifo _ q hin
    rw [hq, Option.some.injEq] at hop'
    subst hop'
    right
    -- the worker's message is referenced once more before it is attached
    have hretained := (hs.removeTx hin).retain hr
    obtain ⟨opq, hopq, hsame, hsem⟩ : ∃ opq,
        ((s.removeTx rop.cport q).setOp r { rop with refCount := rop.refCount + 1 }).heap q
          = some opq ∧ SameExchange op opq ∧ opq.syncSem = op.syncSem := by
      by_cases hqr : q = r
      · subst hqr
        rw [hq, Option.some.injEq] at hr
        subst hr
        exact ⟨_, setOp_heap_self _ _ _, ⟨rfl, rfl, rfl, rfl⟩, rfl⟩
      · exact ⟨op, by simp only [setOp, Function.update_of_ne hqr]; exact hq,
          ⟨rfl, rfl, rfl, rfl⟩, rfl⟩
    have hattached := hretained.attach hopq
    obtain ⟨s', hcall, hs', hcalled⟩ := runCallback_sound hattached (setOp_heap_self _ _ _)
    have hposted := posted_same { opq with response := some r }
    refine ⟨q, op, s', ?_, hin, hq, hcport, hid, hsame.response ▸ hs', ⟨fun x hxq hxr => ?_,
      fun hrq => ?_, ?_, ?_, hcalled.cportCount, hcalled.exitWorker, hcalled.requestId, ?_⟩⟩
    · have hr' : (s.removeTx rop.cport q).heap r = some rop := hr
      simp only [gbProcessResponse, hr, hrun, Option.bind_some, gbOperationRef, hr',
        Option.map_some, attach, hopq, hcall]
    · rw [hcalled.heap, Function.update_of_ne hxq]
      simp only [setOp, Function.update_of_ne hxq, Function.update_of_ne hxr]
      rfl
    · rw [hcalled.heap, Function.update_of_ne hrq]
      simp only [setOp, Function.update_of_ne hrq, Function.update_self, hr, Option.map_some]
    · refine ⟨_, by rw [hcalled.heap, Function.update_self], hposted.response,
        hposted.cport.trans hsame.cport, hposted.requestBuffer.trans hsame.requestBuffer,
        hposted.callback.trans hsame.callback, fun hsync => ?_⟩
      have hcb : opq.callback = some .sync := by rw [hsame.callback, hsync]
      simp [posted, hcb, hsem]
    · rw [hcalled.txFifo, hcport]
      rfl
    · rw [hcalled.trace, hsame.callback]
      rfl

-- The worker's message completes a pending operation, or leaves everything alone.
theorem processMessage_sound {s : Operations} {outer : OpRef → Nat} (hs : s.Sound outer) {r : OpRef}
    {rop : Operation} (hr : s.heap r = some rop) :
    s.processMessage r = some (none, s) ∨
      ∃ q op s', s.processMessage r = some (some q, s') ∧ q ∈ s.txFifo rop.cport ∧
        s.heap q = some op ∧ op.cport = rop.cport ∧
        op.requestBuffer.hdr.id = rop.requestBuffer.hdr.id ∧
        s'.Sound (outer + ref (some q) + ref op.response) ∧ Answered s r q op s' := by
  unfold processMessage
  simp only [hr, Option.bind_some]
  split
  next =>
    rcases gbProcessResponse_sound hs hr with ⟨hrun, -⟩ | hanswered
    · exact .inl hrun
    · exact .inr hanswered
  next => exact .inl rfl

-- A timed out operation is taken out of its `tx_fifo` and called back.
theorem cleanTimedoutRound_sound {s : Operations} {outer : OpRef → Nat} (hs : s.Sound outer)
    {c : Nat} {q : OpRef} (hin : q ∈ s.txFifo c) (currentTime : Timespec) :
    s.cleanTimedoutRound c q currentTime = some (false, s) ∨
      ∃ op s', s.cleanTimedoutRound c q currentTime = some (true, s') ∧ s.heap q = some op ∧
        op.cport = c ∧ s'.Sound (outer + ref (some q)) ∧ Called (s.removeTx c q) q op s' := by
  obtain ⟨op, hq, hcport⟩ := hs.fifo c q hin
  unfold cleanTimedoutRound
  simp only [hq, Option.bind_some]
  split
  next => exact .inl rfl
  next =>
    obtain ⟨s', hrun, hs', hcalled⟩ := runCallback_sound (hs.removeTx hin) hq
    exact .inr ⟨op, s', by rw [hrun]; rfl, rfl, hcport, hs', hcalled⟩

-- Every operation of the `tx_fifo` loses its reference, and no callback is called.
theorem flushRounds_sound {c : Nat} (ops : List OpRef) {s : Operations} {outer : OpRef → Nat}
    (hs : s.Sound outer) (hops : s.txFifo c = ops) :
    ∃ s', flushRounds c ops s = some s' ∧ s'.Sound outer ∧ (s.setTxFifo c []).Dropped s' := by
  induction ops generalizing s with
  | nil =>
    refine ⟨s, rfl, hs, .refl s, ?_, rfl, rfl, rfl, [], rfl⟩
    simp [Operations.setTxFifo, ← hops]
  | cons q ops ih =>
    have hin : q ∈ s.txFifo c := hops ▸ List.mem_cons_self
    obtain ⟨s₁, hrun, hs₁, hdropped⟩ := (hs.removeTx hin).drop
    have hrest : s₁.txFifo c = ops := by
      rw [hdropped.txFifo]
      simp [Operations.removeTx, Operations.setTxFifo, hops]
    obtain ⟨s', hrun', hs', hdropped'⟩ := ih hs₁ hrest
    refine ⟨s', by simp only [flushRounds, hrun, Option.bind_some, hrun'], hs', ?_⟩
    have hmid : (s.setTxFifo c []).Dropped (s₁.setTxFifo c []) :=
      ⟨hdropped.keeps, by simp only [Operations.setTxFifo, hdropped.txFifo, Operations.removeTx,
        Function.update_idem], hdropped.cportCount, hdropped.exitWorker, hdropped.requestId,
        hdropped.trace⟩
    exact hmid.trans hdropped'

end Operations

end Greybus
