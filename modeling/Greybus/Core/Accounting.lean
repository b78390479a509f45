import Greybus.Core.Pending
import Mathlib.Data.List.Nodup

/-!
# What the functions do to references

`Sound` says of the operations that every reference count is right and that what has been allocated
and not freed is what the operations own.  Each function keeps it, with the references that it takes
and drops.
-/

namespace Greybus

open Reasoning.RefCount Reasoning.Transition

namespace Operations

/-- Operations as reference-counted objects; the reference they hold is their response. -/
def counted : Counted Operation Resource where
  count := Operation.refCount
  setCount k op := { op with refCount := k }
  next := Operation.response
  buffers q op :=
    .requestBuffer q :: (if op.responseBuffer.isSome then [.responseBuffer q] else [])
  self := .operation
  count_setCount _ _ := rfl
  setCount_count _ := rfl
  setCount_setCount _ _ _ := rfl
  next_setCount _ _ := rfl
  buffers_setCount _ _ _ := rfl

theorem counted_owns (q : OpRef) (op : Operation) :
    counted.owns q op = .requestBuffer q ::
      (if op.responseBuffer.isSome then [.responseBuffer q] else []) ++ [.operation q] := rfl

theorem unrefHeap_eq (fuel : Nat) (heap : OpRef → Option Operation) (q : OpRef) :
    unrefHeap fuel heap q = counted.unref fuel heap q := by
  induction fuel generalizing heap q with
  | zero => rfl
  | succ fuel ih =>
    rw [unrefHeap, Counted.unref]
    cases heap q with
    | none => rfl
    | some op =>
      simp only [Option.bind_some, ih]
      rfl

/-! ## The invariant of the operations -/

/-- How often an operation is in a `tx_fifo`. -/
def pendingCount (s : Operations) (q : OpRef) : Nat :=
  ∑ c ∈ Finset.range s.cportCount, (s.txFifo c).count q

/-- The operations are consistent when `outer` references to them are held outside of them and of
the `tx_fifo` lists. -/
structure Sound (s : Operations) (outer : OpRef → Nat) : Prop where
  balanced : Balanced counted s.next s.heap (outer + s.pendingCount)
  cport : ∀ q op, s.heap q = some op → op.cport < s.cportCount
  fifo : ∀ c q, q ∈ s.txFifo c → ∃ op, s.heap q = some op ∧ op.cport = c
  nodup : ∀ c, (s.txFifo c).Nodup
  freed : ∀ r, s.trace.count (.free r) + counted.held s.next s.heap r = s.trace.count (.alloc r)
  operations : ∀ q, s.trace.count (.alloc (.operation q)) = if q < s.next then 1 else 0
  requests : ∀ q, s.trace.count (.alloc (.requestBuffer q)) = if q < s.next then 1 else 0
  -- A response buffer is allocated once, and stays until the operation is freed.
  responses : ∀ q, s.trace.count (.alloc (.responseBuffer q)) = 0 ∨
    s.trace.count (.alloc (.responseBuffer q)) = 1 ∧ q < s.next ∧
      ∀ op, s.heap q = some op → op.responseBuffer.isSome = true

theorem gbInit_sound (cportCount : Nat) : (gbInit cportCount).Sound 0 where
  balanced := by
    have hzero : (gbInit cportCount).pendingCount = 0 := by
      funext q
      simp [pendingCount, gbInit]
    rw [hzero, add_zero]
    exact Balanced.empty
  cport q op h := by simp [gbInit] at h
  fifo c q h := by simp [gbInit] at h
  nodup c := List.nodup_nil
  freed r := by simp [gbInit, Counted.held]
  operations q := by simp [gbInit]
  requests q := by simp [gbInit]
  responses q := by simp [gbInit]

theorem Sound.live {s : Operations} {outer : OpRef → Nat} (hs : s.Sound outer) {q : OpRef}
    (hq : 0 < outer q) : ∃ op, s.heap q = some op :=
  hs.balanced.live (by simp only [Pi.add_apply]; omega)

-- Only the `tx_fifo` of its own cport can hold an operation.
theorem Sound.isPending_iff {s : Operations} {outer : OpRef → Nat} (hs : s.Sound outer)
    {q : OpRef} : s.isPending q = true ↔ ∃ c, q ∈ s.txFifo c := by
  constructor
  · intro h
    cases hq : s.heap q with
    | none => simp [isPending, hq] at h
    | some op => exact ⟨op.cport, by simpa [isPending, hq] using h⟩
  · rintro ⟨c, hc⟩
    obtain ⟨op, hop, rfl⟩ := hs.fifo c q hc
    simp [isPending, hop, hc]

/-- The request, and the response that is attached to it, are the same. -/
structure SameExchange (op op' : Operation) : Prop where
  cport : op'.cport = op.cport
  requestBuffer : op'.requestBuffer = op.requestBuffer
  callback : op'.callback = op.callback
  response : op'.response = op.response

theorem SameExchange.trans {op₁ op₂ op₃ : Operation} (h₁ : SameExchange op₁ op₂)
    (h₂ : SameExchange op₂ op₃) : SameExchange op₁ op₃ :=
  ⟨h₂.cport.trans h₁.cport, h₂.requestBuffer.trans h₁.requestBuffer,
    h₂.callback.trans h₁.callback, h₂.response.trans h₁.response⟩

/-- Every operation that is still there is in the same exchange. -/
def Keeps (s s' : Operations) : Prop :=
  ∀ x op', s'.heap x = some op' → ∃ op, s.heap x = some op ∧ SameExchange op op'

theorem Keeps.refl (s : Operations) : s.Keeps s := fun _ op' h => ⟨op', h, rfl, rfl, rfl, rfl⟩

theorem Keeps.trans {s₁ s₂ s₃ : Operations} (h₁ : s₁.Keeps s₂) (h₂ : s₂.Keeps s₃) :
    s₁.Keeps s₃ := by
  intro x op₃ hx
  obtain ⟨op₂, hop₂, hsame₂⟩ := h₂ x op₃ hx
  obtain ⟨op₁, hop₁, hsame₁⟩ := h₁ x op₂ hop₂
  exact ⟨op₁, hop₁, hsame₁.trans hsame₂⟩

/-- The elements of a list that hold a reference. -/
def holders (ops : List OpRef) (q : OpRef) : Nat := ops.count q

theorem holders_cons (q : OpRef) (ops : List OpRef) :
    holders (q :: ops) = holders ops + ref (some q) := by
  funext x
  simp [holders, List.count_cons]

theorem holders_toList_append (o : Option OpRef) (ops : List OpRef) :
    holders (o.toList ++ ops) = holders ops + ref o := by
  cases o with
  | none => simp [funext_iff]
  | some q => exact holders_cons q ops

theorem holders_erase {q : OpRef} {ops : List OpRef} (h : q ∈ ops) :
    holders ops = holders (ops.erase q) + ref (some q) := by
  rw [← holders_cons]
  funext x
  exact (List.perm_cons_erase h).count_eq x

/-! ## What each function does to it -/

theorem count_owns_responseBuffer (x q : OpRef) (op : Operation) :
    (counted.owns q op).count (.responseBuffer x)
      = if q = x ∧ op.responseBuffer.isSome = true then 1 else 0 := by
  cases h : op.responseBuffer.isSome <;> simp [counted_owns, h, List.count_cons]

-- An operation is replaced by one with the same cport, and with what `es` allocates.
theorem Sound.replace {s : Operations} {outer outer' : OpRef → Nat} (hs : s.Sound outer) {q : OpRef}
    {op op' : Operation} (hq : s.heap q = some op) (hcport : op'.cport = op.cport)
    (hb : Balanced counted s.next (Function.update s.heap q (some op')) (outer' + s.pendingCount))
    {es : List Event} (hfrees : ∀ r, es.count (.free r) = 0)
    (hallocs : ∀ r,
      (counted.owns q op').count r = es.count (.alloc r) + (counted.owns q op).count r)
    (hoperations : ∀ x, es.count (.alloc (.operation x)) = 0)
    (hrequests : ∀ x, es.count (.alloc (.requestBuffer x)) = 0) :
    Sound { s.setOp q op' with trace := es ++ s.trace } outer' where
  balanced := hb
  cport x c hx := by
    by_cases hxq : x = q
    · subst hxq
      simp only [Operations.setOp, Function.update_self, Option.some.injEq] at hx
      rw [← hx, hcport]
      exact hs.cport x op hq
    · simp only [Operations.setOp, Function.update_of_ne hxq] at hx
      exact hs.cport x c hx
  fifo c x hx := by
    obtain ⟨opx, hopx, hc⟩ := hs.fifo c x hx
    by_cases hxq : x = q
    · subst hxq
      rw [hq, Option.some.injEq] at hopx
      exact ⟨op', by simp [Operations.setOp], by rw [hcport, hopx, hc]⟩
    · exact ⟨opx, by simp only [Operations.setOp, Function.update_of_ne hxq, hopx], hc⟩
  nodup := hs.nodup
  freed r := by
    have hupd := held_update (C := counted) (hs.balanced.bound q op hq) s.heap (some op') r
    simp only [hq, Option.elim_some] at hupd
    have hold := hs.freed r
    have hnew := hallocs r
    have hzero := hfrees r
    simp only [Operations.setOp, List.count_append]
    omega
  operations x := by
    rw [List.count_append, hoperations, Nat.zero_add]
    exact hs.operations x
  requests x := by
    rw [List.count_append, hrequests, Nat.zero_add]
    exact hs.requests x
  responses x := by
    have hnew := hallocs (.responseBuffer x)
    have hlt := hs.balanced.bound q op hq
    rw [List.count_append]
    by_cases hxq : x = q
    · subst hxq
      simp only [count_owns_responseBuffer, true_and] at hnew
      simp only [Operations.setOp, Function.update_self, Option.some.injEq, forall_eq']
      have hsum : es.count (.alloc (.responseBuffer x)) + s.trace.count (.alloc (.responseBuffer x))
          ≤ if op'.responseBuffer.isSome = true then 1 else 0 := by
        rcases hs.responses x with hold | ⟨hold, -, hsome⟩
        · omega
        · rw [if_pos (hsome op hq)] at hnew
          omega
      by_cases hnow : op'.responseBuffer.isSome = true
      · rw [if_pos hnow] at hsum
        exact (Nat.le_one_iff_eq_zero_or_eq_one.mp hsum).imp_right fun hone => ⟨hone, hlt, hnow⟩
      · rw [if_neg hnow] at hsum
        exact .inl (Nat.le_zero.mp hsum)
    · simp only [count_owns_responseBuffer, if_neg (fun h : q = x ∧ _ => hxq h.1.symm)] at hnew
      simp only [Operations.setOp, Function.update_of_ne hxq]
      rw [show es.count (.alloc (.responseBuffer x)) = 0 by omega, Nat.zero_add]
      exact hs.responses x

theorem Sound.setOp {s : Operations} {outer outer' : OpRef → Nat} (hs : s.Sound outer) {q : OpRef}
    {op op' : Operation} (hq : s.heap q = some op) (hcport : op'.cport = op.cport)
    (hbuffer : op'.responseBuffer.isSome = op.responseBuffer.isSome)
    (hb : Balanced counted s.next (Function.update s.heap q (some op'))
      (outer' + s.pendingCount)) : (s.setOp q op').Sound outer' := by
  have hallocs : ∀ r, (counted.owns q op').count r
      = ([] : List Event).count (.alloc r) + (counted.owns q op).count r := fun r => by
    simp only [counted_owns, hbuffer, List.count_nil, Nat.zero_add]
  exact hs.replace hq hcport hb (fun _ => rfl) hallocs (fun _ => rfl) fun _ => rfl

-- Changing an operation, and its count with the references to it from outside.
theorem Sound.modify {s : Operations} {outer outer' : OpRef → Nat} (hs : s.Sound outer) {q : OpRef}
    {op op' : Operation} (hq : s.heap q = some op) (hcport : op'.cport = op.cport)
    (hresponse : op'.response = op.response)
    (hbuffer : op'.responseBuffer.isSome = op.responseBuffer.isSome) (hpos : 0 < op'.refCount)
    (houter : ∀ x, x ≠ q → outer' x = outer x)
    (hcount : op'.refCount + outer q = op.refCount + outer' q) : (s.setOp q op').Sound outer' := by
  refine hs.setOp hq hcport hbuffer
    (hs.balanced.modify hq hresponse hpos (fun x hx => ?_) ?_)
  · exact congrArg (· + s.pendingCount x) (houter x hx)
  · change op'.refCount + ((outer q + s.pendingCount q : Nat) : Int)
      = op.refCount + ((outer' q + s.pendingCount q : Nat) : Int)
    omega

-- An operation that has no response buffer gets one.
theorem Sound.allocate {s : Operations} {outer : OpRef → Nat} (hs : s.Sound outer) {q : OpRef}
    {op op' : Operation} (hq : s.heap q = some op) (hcport : op'.cport = op.cport)
    (hresponse : op'.response = op.response) (hcount : op'.refCount = op.refCount)
    (hnone : op.responseBuffer = none) (hsome : op'.responseBuffer.isSome = true) :
    ((s.setOp q op').emit (.alloc (.responseBuffer q))).Sound outer := by
  have hallocs : ∀ r, (counted.owns q op').count r
      = [Event.alloc (.responseBuffer q)].count (.alloc r) + (counted.owns q op).count r := by
    intro r
    simp only [counted_owns, hnone, hsome, Option.isSome_none, if_true, Bool.false_eq_true,
      if_false, List.count_append, List.count_cons, List.count_nil, beq_iff_eq, Event.alloc.injEq]
    omega
  have hpos : 0 < op'.refCount := hcount.symm ▸ hs.balanced.pos q op hq
  refine hs.replace hq hcport (hs.balanced.modify hq hresponse hpos (fun _ _ => rfl) ?_)
    (fun _ => rfl) hallocs (fun _ => rfl) fun _ => rfl
  exact congrArg (· + ((outer + s.pendingCount) q : Int)) hcount

theorem setOp_keeps {s : Operations} {q : OpRef} {op op' : Operation} (hq : s.heap q = some op)
    (hsame : SameExchange op op') : s.Keeps (s.setOp q op') := by
  intro x c hx
  by_cases hxq : x = q
  · subst hxq
    simp only [setOp, Function.update_self, Option.some.injEq] at hx
    exact ⟨op, hq, hx ▸ hsame⟩
  · simp only [setOp, Function.update_of_ne hxq] at hx
    exact ⟨c, hx, rfl, rfl, rfl, rfl⟩

theorem Sound.emit {s : Operations} {outer : OpRef → Nat} (hs : s.Sound outer) {e : Event}
    (halloc : ∀ r, e ≠ .alloc r) (hfree : ∀ r, e ≠ .free r) : (s.emit e).Sound outer where
  balanced := hs.balanced
  cport := hs.cport
  fifo := hs.fifo
  nodup := hs.nodup
  freed r := by
    simp only [Operations.emit, List.count_cons_of_ne (halloc r), List.count_cons_of_ne (hfree r)]
    exact hs.freed r
  operations q := by
    simp only [Operations.emit, List.count_cons_of_ne (halloc _)]
    exact hs.operations q
  requests q := by
    simp only [Operations.emit, List.count_cons_of_ne (halloc _)]
    exact hs.requests q
  responses q := by
    simp only [Operations.emit, List.count_cons_of_ne (halloc _)]
    exact hs.responses q

theorem Sound.retain {s : Operations} {outer : OpRef → Nat} (hs : s.Sound outer) {q : OpRef}
    {op : Operation} (hq : s.heap q = some op) :
    (s.setOp q { op with refCount := op.refCount + 1 }).Sound (outer + ref (some q)) := by
  have hpos : 0 < op.refCount := hs.balanced.pos q op hq
  refine hs.modify hq rfl rfl rfl (by simp only; omega) (fun x hx => ?_) ?_
  · simp [Ne.symm hx]
  · simp only [Pi.add_apply, ref_some, if_true]
    omega

theorem count_le_pendingCount {s : Operations} {c : Nat} (hc : c < s.cportCount) (q : OpRef) :
    (s.txFifo c).count q ≤ s.pendingCount q :=
  Finset.single_le_sum (f := fun c => (s.txFifo c).count q) (fun _ _ => Nat.zero_le _)
    (Finset.mem_range.mpr hc)

-- An operation in a `tx_fifo` has a cport number in range.
theorem Sound.fifo_lt {s : Operations} {outer : OpRef → Nat} (hs : s.Sound outer) {c : Nat}
    {q : OpRef} (hq : q ∈ s.txFifo c) : c < s.cportCount := by
  obtain ⟨op, hop, rfl⟩ := hs.fifo c q hq
  exact hs.cport q op hop

theorem count_frees (freed : List Resource) (r : Resource) :
    (freed.map Event.free).count (.free r) = freed.count r :=
  List.count_map_of_injective _ _ (fun _ _ h => by cases h; rfl) _

theorem count_frees_alloc (freed : List Resource) (r : Resource) :
    (freed.map Event.free).count (.alloc r) = 0 := by
  simp [List.count_eq_zero]

/-- What a dropped reference leaves as it was. -/
structure Dropped (s s' : Operations) : Prop where
  keeps : s.Keeps s'
  txFifo : s'.txFifo = s.txFifo
  cportCount : s'.cportCount = s.cportCount
  exitWorker : s'.exitWorker = s.exitWorker
  requestId : s'.requestId = s.requestId
  trace : ∃ freed : List Resource, s'.trace = freed.map Event.free ++ s.trace

theorem Dropped.trans {s₁ s₂ s₃ : Operations} (h₁ : s₁.Dropped s₂) (h₂ : s₂.Dropped s₃) :
    s₁.Dropped s₃ where
  keeps := h₁.keeps.trans h₂.keeps
  txFifo := h₂.txFifo.trans h₁.txFifo
  cportCount := h₂.cportCount.trans h₁.cportCount
  exitWorker := h₂.exitWorker.trans h₁.exitWorker
  requestId := h₂.requestId.trans h₁.requestId
  trace := by
    obtain ⟨freed₁, htrace₁⟩ := h₁.trace
    obtain ⟨freed₂, htrace₂⟩ := h₂.trace
    exact ⟨freed₂ ++ freed₁, by rw [htrace₂, htrace₁, List.map_append, List.append_assoc]⟩

-- The operations stay sound without a reference that is dropped.
theorem Sound.drop {s : Operations} {outer : OpRef → Nat} {q : OpRef}
    (hs : s.Sound (outer + ref (some q))) :
    ∃ s', s.gbOperationUnref q = some s' ∧ s'.Sound outer ∧ s.Dropped s' := by
  have hb := hs.balanced
  rw [add_right_comm] at hb
  obtain ⟨heap, freed, hrun, hb', hshrink, hfreed⟩ :=
    unref_balanced hb (Nat.lt_succ_of_le (population_le s.next s.heap))
  have hcount : ∀ r, ((freed.map Event.free).reverse ++ s.trace).count (.free r)
      = freed.count r + s.trace.count (.free r) := by
    intro r
    rw [List.count_append, List.count_reverse, count_frees]
  have hallocs : ∀ r, ((freed.map Event.free).reverse ++ s.trace).count (.alloc r)
      = s.trace.count (.alloc r) := by
    intro r
    rw [List.count_append, List.count_reverse, count_frees_alloc, Nat.zero_add]
  refine ⟨{ s with heap, trace := (freed.map Event.free).reverse ++ s.trace }, ?_,
    ⟨hb', fun x op hx => ?_, fun c x hx => ?_, hs.nodup, fun r => ?_, fun x => ?_, fun x => ?_,
      fun x => ?_⟩,
    ⟨fun x op hx => ?_, rfl, rfl, rfl, rfl, freed.reverse, by rw [List.map_reverse]⟩⟩
  · rw [gbOperationUnref, unrefHeap_eq, hrun]
    rfl
  · obtain ⟨op₀, hop₀, heq⟩ := hshrink x op hx
    rw [heq]
    exact hs.cport x op₀ hop₀
  · -- what is in a `tx_fifo` is owed a reference, and has not been freed
    obtain ⟨op₀, hop₀, hc⟩ := hs.fifo c x hx
    have hpending := count_le_pendingCount (hs.fifo_lt hx) x
    have hin : 0 < (s.txFifo c).count x := List.count_pos_iff.mpr hx
    obtain ⟨op, hop⟩ := hb'.live (q := x) (by simp only [Pi.add_apply]; omega)
    obtain ⟨op₁, hop₁, heq⟩ := hshrink x op hop
    rw [hop₀, Option.some.injEq] at hop₁
    exact ⟨op, hop, by rw [heq, ← hop₁]; exact hc⟩
  · have hold := hs.freed r
    have hnew := hfreed r
    simp only [hcount, hallocs]
    omega
  · rw [hallocs]
    exact hs.operations x
  · rw [hallocs]
    exact hs.requests x
  · rw [hallocs]
    rcases hs.responses x with hzero | ⟨hone, hlt, hsome⟩
    · exact .inl hzero
    · refine .inr ⟨hone, hlt, fun op hx => ?_⟩
      obtain ⟨op₀, hop₀, heq⟩ := hshrink x op hx
      rw [heq]
      exact hsome op₀ hop₀
  · obtain ⟨op₀, hop₀, heq⟩ := hshrink x op hx
    exact ⟨op₀, hop₀, by rw [heq]; exact ⟨rfl, rfl, rfl, rfl⟩⟩

-- References move between a `tx_fifo` and the outside.
theorem Sound.setTxFifo {s : Operations} {outer outer' : OpRef → Nat} (hs : s.Sound outer) {c : Nat}
    (hc : c < s.cportCount) {ops : List OpRef}
    (hops : ∀ q, q ∈ ops → ∃ op, s.heap q = some op ∧ op.cport = c) (hnodup : ops.Nodup)
    (houter : ∀ x, outer' x + ops.count x = outer x + (s.txFifo c).count x) :
    (s.setTxFifo c ops).Sound outer' where
  balanced := by
    have howed : outer' + (s.setTxFifo c ops).pendingCount = outer + s.pendingCount := by
      funext x
      have hupd := sum_update hc (fun _ (ops : List OpRef) => ops.count x) s.txFifo ops
      have hx := houter x
      simp only [Pi.add_apply, pendingCount, Operations.setTxFifo] at hupd ⊢
      omega
    rw [howed]
    exact hs.balanced
  cport := hs.cport
  fifo c' q hq := by
    by_cases hcc : c' = c
    · subst hcc
      simp only [Operations.setTxFifo, Function.update_self] at hq
      exact hops q hq
    · simp only [Operations.setTxFifo, Function.update_of_ne hcc] at hq
      exact hs.fifo c' q hq
  nodup c' := by
    by_cases hcc : c' = c
    · subst hcc
      simpa only [Operations.setTxFifo, Function.update_self] using hnodup
    · simpa only [Operations.setTxFifo, Function.update_of_ne hcc] using hs.nodup c'
  freed := hs.freed
  operations := hs.operations
  requests := hs.requests
  responses := hs.responses

theorem Sound.removeTx {s : Operations} {outer : OpRef → Nat} (hs : s.Sound outer) {c : Nat}
    {q : OpRef} (hq : q ∈ s.txFifo c) : (s.removeTx c q).Sound (outer + ref (some q)) := by
  refine hs.setTxFifo (hs.fifo_lt hq) (fun x hx => hs.fifo c x (List.mem_of_mem_erase hx))
    ((hs.nodup c).erase q) fun x => ?_
  have hcount := congrFun (holders_erase hq) x
  simp only [holders, Pi.add_apply] at hcount ⊢
  omega

theorem Sound.appendTx {s : Operations} {outer : OpRef → Nat} {c : Nat} {q : OpRef} {op : Operation}
    (hs : s.Sound (outer + ref (some q))) (hop : s.heap q = some op) (hcport : op.cport = c)
    (hq : q ∉ s.txFifo c) : (s.appendTx c q).Sound outer := by
  refine hs.setTxFifo (hcport ▸ hs.cport q op hop) (fun x hx => ?_) ?_ fun x => ?_
  · rcases List.mem_append.mp hx with hx | hx
    · exact hs.fifo c x hx
    · rw [List.mem_singleton.mp hx]
      exact ⟨op, hop, hcport⟩
  · exact (hs.nodup c).append (List.nodup_singleton q) (by simpa using hq)
  · simp only [List.count_append, List.count_singleton', Pi.add_apply, ref_some]
    omega

-- A reference from outside becomes the response of an operation.
theorem Sound.attach {s : Operations} {outer : OpRef → Nat} {q r : OpRef} {op : Operation}
    (hs : s.Sound (outer + ref (some r))) (hq : s.heap q = some op) :
    (s.setOp q { op with response := some r }).Sound (outer + ref op.response) := by
  refine hs.setOp hq rfl rfl ?_
  have hb := hs.balanced
  rw [add_right_comm] at hb ⊢
  exact hb.store hq rfl rfl

/-! ## The functions -/

theorem lt_add_one_indicator (x n : Nat) :
    (if x < n then 1 else 0) + (if n = x then 1 else 0) = if x < n + 1 then 1 else 0 := by
  split <;> split <;> split <;> omega

theorem Sound.heap_next {s : Operations} {outer : OpRef → Nat} (hs : s.Sound outer) :
    s.heap s.next = none := by
  cases h : s.heap s.next with
  | none => rfl
  | some op => exact absurd (hs.balanced.bound _ op h) (Nat.lt_irrefl _)

-- A new operation has one reference.
theorem Sound.addOperation {s : Operations} {outer : OpRef → Nat} (hs : s.Sound outer)
    {op : Operation} (hcport : op.cport < s.cportCount) (hcount : op.refCount = 1)
    (hresponse : op.response = none) (hbuffer : op.responseBuffer = none) :
    (s.addOperation op).Sound (outer + ref (some s.next)) := by
  have hnew := hs.heap_next
  have hheld : ∀ r, counted.held (s.next + 1) (Function.update s.heap s.next (some op)) r
      = counted.held s.next s.heap r
        + [Resource.requestBuffer s.next, .operation s.next].count r := by
    intro r
    have hupd := held_update (C := counted) (Nat.lt_add_one s.next) s.heap (some op) r
    have hlast : counted.held (s.next + 1) s.heap r = counted.held s.next s.heap r
        + (s.heap s.next).elim 0 fun b => (counted.owns s.next b).count r :=
      Finset.sum_range_succ _ _
    simp only [hnew, Option.elim_none, Option.elim_some, Nat.add_zero, counted_owns, hbuffer,
      Option.isSome_none, Bool.false_eq_true, if_false] at hupd hlast
    rw [← hlast, hupd]
    rfl
  refine ⟨?_, fun x c hx => ?_, fun c x hx => ?_, hs.nodup, fun r => ?_, fun x => ?_, fun x => ?_,
    fun x => ?_⟩
  · have hb := hs.balanced.alloc (b := op) hcount hresponse
    rw [add_right_comm] at hb
    exact hb
  · by_cases hxn : x = s.next
    · simp only [Operations.addOperation, hxn, Function.update_self, Option.some.injEq] at hx
      exact hx ▸ hcport
    · simp only [Operations.addOperation, Function.update_of_ne hxn] at hx
      exact hs.cport x c hx
  · obtain ⟨opx, hopx, hc⟩ := hs.fifo c x hx
    have hxn : x ≠ s.next := fun h => by simp [h, hnew] at hopx
    exact ⟨opx, by simp only [Operations.addOperation, Function.update_of_ne hxn, hopx], hc⟩
  · have hold := hs.freed r
    simp only [Operations.addOperation, hheld, List.count_cons, List.count_nil, reduceCtorEq,
      beq_iff_eq, if_false, Event.alloc.injEq]
    omega
  · have hold := hs.operations x
    simp only [Operations.addOperation, List.count_cons, hold, beq_iff_eq, Event.alloc.injEq,
      reduceCtorEq, if_false, Resource.operation.injEq, Nat.add_zero]
    exact lt_add_one_indicator x s.next
  · have hold := hs.requests x
    simp only [Operations.addOperation, List.count_cons, hold, beq_iff_eq, Event.alloc.injEq,
      reduceCtorEq, if_false, Resource.requestBuffer.injEq, Nat.add_zero]
    exact lt_add_one_indicator x s.next
  · have hsame : (s.addOperation op).trace.count (.alloc (.responseBuffer x))
        = s.trace.count (.alloc (.responseBuffer x)) := by
      simp [Operations.addOperation]
    rw [hsame]
    rcases hs.responses x with hzero | ⟨hone, hlt, hsome⟩
    · exact .inl hzero
    · refine .inr ⟨hone, Nat.lt_succ_of_lt hlt, fun c hx => ?_⟩
      simp only [Operations.addOperation, Function.update_of_ne (Nat.ne_of_lt hlt)] at hx
      exact hsome c hx

end Operations

end Greybus
