import Greybus.Core.References
import Greybus.Reasoning.SafeIteration

/-!
# Timeouts

`gb_clean_timedout_operation` walks over the `tx_fifo` of a cport.  What it completes may be freed
by that, and the callbacks may call the core.
-/

namespace Greybus

open Operations Reasoning.RefCount Reasoning.SafeIteration Reasoning.Transition

/-! ## The code -/

/-- The calls that a callback of a caller's own makes for an operation. -/
abbrev Callbacks := Nat → OpRef → World → List Call

/-- What becomes of `timeout_wd`. -/
inductive Watchdog where
  | canceled
  | started
  deriving DecidableEq, Repr

namespace World

def gbWatchdogUpdate (w : World) (cport : Nat) : Watchdog :=
  if (w.txFifo cport).isEmpty then .canceled else .started

/-- The calls of `operation->callback`; `gb_operation_callback_sync` makes none. -/
def callbackCalls (callbacks : Callbacks) (q : OpRef) (w : World) : List Call :=
  match (w.heap q).bind Operation.callback with
  | some (.user cb) => callbacks cb q w
  | _ => []

/-- A timed out operation is removed from the `tx_fifo`, called back and unreferenced. -/
def completeTimedout (callbacks : Callbacks) (cport : Nat) (w : World) (q : OpRef) :
    Option World :=
  ((w.removeTx cport q).runCallback q).bind fun s =>
  let w := { w with toOperations := s, completing := q :: w.completing }
  (run step w (w.callbackCalls callbacks q)).bind fun w => w.exec (.release q)

/-- The body of the loop in `gb_clean_timedout_operation`. -/
def cleanTimedout (callbacks : Callbacks) (cport : Nat) (currentTime : Timespec) (w : World)
    (q : OpRef) : Option World :=
  (w.heap q).bind fun op =>
  if !gbOperationHasTimedout op currentTime then some w
  else w.completeTimedout callbacks cport q

/-- The same with the number of times that the clock has been read; `clock n` is what the n-th
`clock_gettime` stores. -/
def cleanRound (callbacks : Callbacks) (cport : Nat) (clock : Nat → Timespec) (q : OpRef)
    (c : World × Nat) : Option (World × Nat) :=
  (c.1.cleanTimedout callbacks cport (clock c.2) q).map fun w => (w, c.2 + 1)

/-- `gb_clean_timedout_operation`; the loop makes at most `fuel` rounds. -/
def gbCleanTimedoutOperation (callbacks : Callbacks) (cport : Nat) (clock : Nat → Timespec)
    (fuel : Nat) (w : World) : Option (World × Watchdog) :=
  (forEachSafe (fun c : World × Nat => c.1.txFifo cport) (cleanRound callbacks cport clock) fuel
    (w, 0)).map fun c => (c.1, c.1.gbWatchdogUpdate cport)

end World

/-! ## The age of an operation -/

namespace Timespec

def nanoseconds (t : Timespec) : Int := t.sec * 1000000000 + t.nsec

def Normalised (t : Timespec) : Prop := 0 ≤ t.nsec ∧ t.nsec < 1000000000

instance (t : Timespec) : Decidable t.Normalised := inferInstanceAs (Decidable (_ ∧ _))

end Timespec

-- The comparison field by field is one of nanoseconds.
theorem gbOperationHasTimedout_iff {op : Operation} {currentTime : Timespec}
    (hop : op.time.Normalised) (hnow : currentTime.Normalised) :
    gbOperationHasTimedout op currentTime = true ↔
      1000000000 < currentTime.nanoseconds - op.time.nanoseconds := by
  obtain ⟨hop, hop'⟩ := hop
  obtain ⟨hnow, hnow'⟩ := hnow
  have hsec : timeoutInMs / oneSecInMsec = 1 := by decide
  have hnsec : timeoutInMs % oneSecInMsec * oneMsecInNsec = 0 := by decide
  simp only [gbOperationHasTimedout, hsec, hnsec, Timespec.nanoseconds]
  split
  next => exact iff_of_true rfl (by omega)
  next =>
  split
  next => exact iff_of_false (by decide) (by omega)
  next =>
    rw [decide_eq_true_iff]
    omega

/-! ## What has been called back -/

/-- The callback that is called, if it is that of one of the operations. -/
def Event.calledAmong (ops : List OpRef) : Event → Option (OpRef × Callback)
  | .called q cb => if q ∈ ops then some (q, cb) else none
  | _ => none

namespace Operations

/-- The callbacks that have been called for the operations; the first call comes first. -/
def calledBack (s : Operations) (ops : List OpRef) : List (OpRef × Callback) :=
  s.trace.reverse.filterMap (Event.calledAmong ops)

/-- The callback that an operation was sent with. -/
def callbackOf (s : Operations) (q : OpRef) : Option Callback := (s.heap q).bind Operation.callback

theorem calledBack_append {s s' : Operations} {es : List Event} (h : s'.trace = es ++ s.trace)
    (ops : List OpRef) : s'.calledBack ops =
      s.calledBack ops ++ es.reverse.filterMap (Event.calledAmong ops) := by
  rw [calledBack, h, List.reverse_append, List.filterMap_append]
  rfl

theorem calledBack_of_others {s s' : Operations} {ops : List OpRef} {es : List Event}
    (h : s'.trace = es ++ s.trace) (hes : ∀ x cb, .called x cb ∈ es → x ∉ ops) :
    s'.calledBack ops = s.calledBack ops := by
  rw [calledBack_append h, List.filterMap_eq_nil_iff.mpr, List.append_nil]
  intro e he
  cases e with
  | called x cb => exact if_neg (hes x cb (List.mem_reverse.mp he))
  | alloc | free | assigned => rfl

theorem Called.calledBack {s s' : Operations} {q : OpRef} {op : Operation} (h : s.Called q op s')
    {ops : List OpRef} (hq : q ∈ ops) :
    s'.calledBack ops = s.calledBack ops ++ (op.callback.map (q, ·)).toList := by
  rw [calledBack_append h.trace]
  cases op.callback with
  | none => rfl
  | some cb => simp [Event.calledAmong, hq]

end Operations

-- What a call adds to the trace; only an operation that leaves its `tx_fifo` is called back.
theorem Change.trace {s s' : Operations} {a : Call} (h : Change s a s') :
    ∃ es, s'.trace = es ++ s.trace ∧ ∀ x cb, .called x cb ∈ es →
      ∃ op, s.heap x = some op ∧ x ∈ s.txFifo op.cport ∧
        s'.txFifo = (s.removeTx op.cport x).txFifo := by
  have hmemory {freed : List Resource} {x : OpRef} {cb : Callback}
      (he : .called x cb ∈ freed.map Event.free) : False := by
    obtain ⟨r, -, hr⟩ := List.mem_map.mp he
    cases hr
  have hcalled {op : Operation} {q x : OpRef} {cb : Callback}
      (he : .called x cb ∈ (op.callback.map (Event.called q)).toList) : x = q := by
    rw [Option.mem_toList, Option.map_eq_some_iff] at he
    obtain ⟨cb', -, he⟩ := he
    exact (Event.called.inj he).1.symm
  cases h with
  | quiet hquiet =>
    obtain ⟨es, htrace, hes⟩ := hquiet.trace
    refine ⟨es, htrace, fun x cb he => ?_⟩
    cases hes _ he
  | unanswered => exact ⟨[], rfl, fun x cb he => (by cases he)⟩
  | @accepted _ q op op₁ callback now =>
    refine ⟨[.assigned q (takeRequestId s.requestId).1], rfl, fun x cb he => ?_⟩
    cases List.mem_singleton.mp he
  | @refused _ q op op₁ callback now _ _ _ _ _ hdropped =>
    obtain ⟨freed, htrace⟩ := hdropped.trace
    refine ⟨freed.map Event.free ++ [.assigned q (takeRequestId s.requestId).1],
      by rw [htrace, List.append_assoc]; rfl, fun x cb he => ?_⟩
    rcases List.mem_append.mp he with he | he
    · exact (hmemory he).elim
    · cases List.mem_singleton.mp he
  | answered _ hin hq hcport _ hanswered =>
    refine ⟨_, hanswered.trace, fun x cb he => ?_⟩
    obtain rfl := hcalled he
    exact ⟨_, hq, hcport ▸ hin, hanswered.txFifo⟩
  | expired hin hq hcport hexpired =>
    refine ⟨_, hexpired.trace, fun x cb he => ?_⟩
    obtain rfl := hcalled he
    exact ⟨_, hq, hcport ▸ hin, hcport ▸ hexpired.txFifo⟩
  | flushed hdropped =>
    obtain ⟨freed, htrace⟩ := hdropped.trace
    exact ⟨_, htrace, fun x cb he => (hmemory he).elim⟩

-- An operation keeps its cport, and while it is pending its callback.
theorem Change.kept {s s' : Operations} {a : Call} (h : Change s a s') {x : OpRef}
    {op' : Operation} (hx : s'.heap x = some op') :
    s.heap x = none ∨ ∃ op, s.heap x = some op ∧ op'.cport = op.cport ∧
      (s.isPending x = true → op'.callback = op.callback) := by
  have hkeeps (h : s.Keeps s') : s.heap x = none ∨ ∃ op, s.heap x = some op ∧
      op'.cport = op.cport ∧ (s.isPending x = true → op'.callback = op.callback) := by
    obtain ⟨op, hop, hsame⟩ := h x op' hx
    exact .inr ⟨op, hop, hsame.cport, fun _ => hsame.callback⟩
  have hqueued {q : OpRef} {op op₁ op₂ : Operation} {callback : Option Callback} {now : Timespec}
      (hq : s.heap q = some op) (hpending : s.isPending q = false) (hsame : SameExchange op op₁)
      (hx : (s.queueRequest q op₁ callback now).heap x = some op₂) :
      ∃ op, s.heap x = some op ∧ op₂.cport = op.cport ∧
        (s.isPending x = true → op₂.callback = op.callback) := by
    by_cases hxq : x = q
    · subst hxq
      obtain ⟨op₃, hop₃, -, hcport, -⟩ := s.queueRequest_heap_self x op₁ callback now
      obtain rfl := Option.some.inj (hop₃.symm.trans hx)
      refine ⟨op, hq, hcport.trans hsame.cport, fun h => ?_⟩
      rw [hpending] at h
      cases h
    · rw [s.queueRequest_heap_of_ne hxq] at hx
      exact ⟨op₂, hx, rfl, fun _ => rfl⟩
  cases h with
  | quiet hquiet =>
    rcases hquiet.heap x op' hx with ⟨op, hop, hsame⟩ | ⟨hnone, -⟩
    · exact .inr ⟨op, hop, hsame.cport, fun _ => hsame.callback⟩
    · exact .inl hnone
  | @unanswered q op _ _ _ hq =>
    by_cases hxq : x = q
    · subst hxq
      rw [setOp_heap_self, Option.some.injEq] at hx
      exact .inr ⟨op, hq, hx ▸ rfl, fun _ => hx ▸ rfl⟩
    · simp only [Operations.setOp, Function.update_of_ne hxq] at hx
      exact .inr ⟨op', hx, rfl, fun _ => rfl⟩
  | accepted _ hq hpending hsame => exact .inr (hqueued hq hpending hsame hx)
  | refused _ hq hpending hsame hdropped =>
    obtain ⟨op₁, hop₁, hsame₁⟩ := hdropped.keeps x op' hx
    obtain ⟨op, hop, hcport, hcallback⟩ := hqueued hq hpending hsame hop₁
    exact .inr ⟨op, hop, hsame₁.cport.trans hcport,
      fun h => hsame₁.callback.trans (hcallback h)⟩
  | @answered r q rop op _ hr _ hq _ _ hanswered =>
    by_cases hxq : x = q
    · subst hxq
      obtain ⟨op₁, hop₁, -, hcport, -, hcallback, -⟩ := hanswered.attached
      obtain rfl := Option.some.inj (hop₁.symm.trans hx)
      exact .inr ⟨op, hq, hcport, fun _ => hcallback⟩
    · by_cases hxr : x = r
      · subst hxr
        rw [hanswered.response hxq, hr, Option.map_some, Option.some.injEq] at hx
        exact .inr ⟨rop, hr, hx ▸ rfl, fun _ => hx ▸ rfl⟩
      · rw [hanswered.others x hxq hxr] at hx
        exact .inr ⟨op', hx, rfl, fun _ => rfl⟩
  | expired _ hq _ hcalled => exact hkeeps (hcalled.keeps hq)
  | flushed hdropped => exact hkeeps hdropped.keeps

/-! ## Send times -/

namespace Operations

/-- What is there was there before, with the send time that it has. -/
def SameTimes (s s' : Operations) : Prop :=
  ∀ x op', s'.heap x = some op' → ∃ op, s.heap x = some op ∧ op'.time = op.time

theorem SameTimes.refl (s : Operations) : s.SameTimes s := fun _ op' h => ⟨op', h, rfl⟩

theorem SameTimes.trans {s₁ s₂ s₃ : Operations} (h₁ : s₁.SameTimes s₂) (h₂ : s₂.SameTimes s₃) :
    s₁.SameTimes s₃ := by
  intro x op₃ hx
  obtain ⟨op₂, hop₂, htime₂⟩ := h₂ x op₃ hx
  obtain ⟨op₁, hop₁, htime₁⟩ := h₁ x op₂ hop₂
  exact ⟨op₁, hop₁, htime₂.trans htime₁⟩

theorem sameTimes_setOp {s : Operations} {q : OpRef} {op op' : Operation} (hq : s.heap q = some op)
    (htime : op'.time = op.time) : s.SameTimes (s.setOp q op') := by
  intro x c hx
  by_cases hxq : x = q
  · subst hxq
    rw [setOp_heap_self, Option.some.injEq] at hx
    exact ⟨op, hq, hx ▸ htime⟩
  · simp only [Operations.setOp, Function.update_of_ne hxq] at hx
    exact ⟨c, hx, rfl⟩

theorem unrefHeap_times {fuel : Nat} {heap heap' : OpRef → Option Operation} {q : OpRef}
    {freed : List Resource} (h : unrefHeap fuel heap q = some (heap', freed)) :
    ∀ x op', heap' x = some op' → ∃ op, heap x = some op ∧ op'.time = op.time := by
  induction fuel generalizing heap heap' q freed with
  | zero => cases h
  | succ fuel ih =>
    obtain ⟨op, hq, h⟩ := Option.bind_eq_some_iff.mp h
    have hcount : ∀ {op₁ : Operation}, op₁.time = op.time →
        ∀ x op', Function.update heap q (some op₁) x = some op' →
          ∃ op, heap x = some op ∧ op'.time = op.time := by
      intro op₁ htime x op' hx
      by_cases hxq : x = q
      · subst hxq
        rw [Function.update_self, Option.some.injEq] at hx
        exact ⟨op, hq, hx ▸ htime⟩
      · rw [Function.update_of_ne hxq] at hx
        exact ⟨op', hx, rfl⟩
    have hfree : ∀ {heap₁ : OpRef → Option Operation},
        (∀ x op', heap₁ x = some op' → ∃ op, heap x = some op ∧ op'.time = op.time) →
        ∀ x op', Function.update heap₁ q none x = some op' →
          ∃ op, heap x = some op ∧ op'.time = op.time := by
      intro heap₁ hheap x op' hx
      by_cases hxq : x = q
      · subst hxq
        rw [Function.update_self] at hx
        cases hx
      · rw [Function.update_of_ne hxq] at hx
        exact hheap x op' hx
    split at h
    next =>
      obtain ⟨rfl, -⟩ := Prod.mk.inj (Option.some.inj h)
      exact hcount rfl
    next =>
      cases hnext : op.response with
      | none =>
        simp only [hnext] at h
        obtain ⟨rfl, -⟩ := Prod.mk.inj (Option.some.inj h)
        exact hfree (hcount rfl)
      | some r =>
        simp only [hnext] at h
        obtain ⟨res, hres, h⟩ := Option.map_eq_some_iff.mp h
        obtain ⟨rfl, -⟩ := Prod.mk.inj h
        refine hfree fun x op' hx => ?_
        obtain ⟨op₁, hop₁, htime₁⟩ := ih hres x op' hx
        obtain ⟨op₀, hop₀, htime₀⟩ := hcount (by rfl) x op₁ hop₁
        exact ⟨op₀, hop₀, htime₁.trans htime₀⟩

theorem gbOperationUnref_times {s s' : Operations} {q : OpRef}
    (h : s.gbOperationUnref q = some s') : s.SameTimes s' := by
  obtain ⟨res, hres, rfl⟩ := Option.map_eq_some_iff.mp h
  exact unrefHeap_times hres

theorem gbOperationUnref_txFifo {s s' : Operations} {q : OpRef}
    (h : s.gbOperationUnref q = some s') : s'.txFifo = s.txFifo := by
  obtain ⟨res, -, rfl⟩ := Option.map_eq_some_iff.mp h
  rfl

theorem runCallback_times {s s' : Operations} {q : OpRef} (h : s.runCallback q = some s') :
    s.SameTimes s' := by
  obtain ⟨op, hq, h⟩ := Option.map_eq_some_iff.mp h
  split at h
  next => exact h ▸ .refl s
  next cb _ =>
    subst h
    split
    next => exact sameTimes_setOp hq rfl
    next => exact .refl s

theorem flushRounds_times {c : Nat} {ops : List OpRef} {s s' : Operations}
    (h : flushRounds c ops s = some s') : s.SameTimes s' := by
  induction ops generalizing s with
  | nil => exact Option.some.inj h ▸ .refl s
  | cons q ops ih =>
    obtain ⟨s₁, hunref, hrest⟩ := Option.bind_eq_some_iff.mp h
    have hremoved : s.SameTimes (s.removeTx c q) := .refl s
    exact hremoved.trans (SameTimes.trans (gbOperationUnref_times hunref) (ih hrest))

theorem processMessage_times {s : Operations} {r : OpRef} {res : Option OpRef × Operations}
    (h : s.processMessage r = some res) : s.SameTimes res.2 := by
  obtain ⟨rop, -, h⟩ := Option.bind_eq_some_iff.mp h
  split at h
  next =>
    obtain ⟨rop, -, h⟩ := Option.bind_eq_some_iff.mp h
    obtain ⟨found, -, h⟩ := Option.bind_eq_some_iff.mp h
    cases found with
    | none => exact Option.some.inj h ▸ .refl s
    | some q =>
      obtain ⟨s₁, href, h⟩ := Option.bind_eq_some_iff.mp h
      obtain ⟨s₂, hattach, h⟩ := Option.bind_eq_some_iff.mp h
      obtain ⟨s₃, hcall, rfl⟩ := Option.map_eq_some_iff.mp h
      obtain ⟨op₁, hop₁, rfl⟩ := Option.map_eq_some_iff.mp href
      obtain ⟨op₂, hop₂, rfl⟩ := Option.map_eq_some_iff.mp hattach
      have hremoved : s.SameTimes (s.removeTx rop.cport q) := .refl s
      have hcalled := runCallback_times hcall
      have hattached := (sameTimes_setOp hop₂ (by rfl)).trans hcalled
      exact hremoved.trans ((sameTimes_setOp hop₁ (by rfl)).trans hattached)
  next => exact Option.some.inj h ▸ .refl s

theorem addOperation_times {s : Operations} (hnext : s.heap s.next = none) (new : Operation)
    {x : OpRef} {op op' : Operation} (hx : s.heap x = some op)
    (hx' : (s.addOperation new).heap x = some op') : op'.time = op.time := by
  have hne : x ≠ s.next := by
    rintro rfl
    rw [hnext] at hx
    cases hx
  simp only [addOperation, Function.update_of_ne hne, hx, Option.some.injEq] at hx'
  rw [hx']

-- Only the operation that is sent gets a new time.
theorem gbOperationSendRequest_times {s : Operations} {q : OpRef} {callback : Option Callback}
    {needResponse : Bool} {now : Timespec} {sendRet : Int} {res : Int × Operations}
    (h : s.gbOperationSendRequest q callback needResponse now sendRet = some res) {x : OpRef}
    (hx : needResponse = true → x ≠ q) {op' : Operation} (hop' : res.2.heap x = some op') :
    ∃ op, s.heap x = some op ∧ op'.time = op.time := by
  obtain ⟨op, hq, h⟩ := Option.bind_eq_some_iff.mp h
  split at h
  next =>
    obtain rfl := Option.some.inj h
    exact ⟨op', hop', rfl⟩
  next =>
  split at h
  next hneed =>
    have hqueued := queueRequest_heap_of_ne s (hx hneed) op callback now
    split at h
    next => cases h
    next =>
      dsimp only at h
      split at h
      next =>
        obtain ⟨s', hunref, rfl⟩ := Option.map_eq_some_iff.mp h
        obtain ⟨op₁, hop₁, htime⟩ := gbOperationUnref_times hunref x op' hop'
        exact ⟨op₁, hqueued.symm.trans hop₁, htime⟩
      next =>
        obtain rfl := Option.some.inj h
        exact ⟨op', hqueued.symm.trans hop', rfl⟩
  next =>
    obtain rfl := Option.some.inj h
    exact sameTimes_setOp hq (by rfl) x op' hop'

end Operations

namespace World

-- What is in a `tx_fifo` keeps its time as long as it is there.
theorem step_times {w w' : World} (hw : w.Inv) {a : Call} (h : step w a = some w') {c : Nat}
    {x : OpRef} (hx : x ∈ w.txFifo c) {op' : Operation} (hop' : w'.heap x = some op') :
    ∃ op, w.heap x = some op ∧ op'.time = op.time := by
  obtain ⟨op, hop, -⟩ := hw.fifo c x hx
  simp only [step, Option.ite_none_right_eq_some] at h
  obtain ⟨ha, h⟩ := h
  have hne : ∀ {q : OpRef}, w.isPending q = false → x ≠ q := by
    rintro q hpending rfl
    exact absurd (hw.isPending_iff.mpr ⟨c, hx⟩) (by simp [hpending])
  cases a with
  | create mallocOk allocBufOk cport type reqSize =>
    obtain rfl := Option.some.inj h
    rcases gbOperationCreate_cases w.toOperations mallocOk allocBufOk cport type reqSize with
      hcreate | ⟨-, hcreate⟩ <;> simp only [hcreate] at hop'
    · exact ⟨op', hop', rfl⟩
    · exact ⟨op, hop, addOperation_times hw.heap_next _ hop hop'⟩
  | receive mallocOk allocBufOk cport data =>
    obtain rfl := Option.some.inj h
    rcases gbRxCreateOperation_cases w.toOperations mallocOk allocBufOk cport data with
      hcreate | ⟨-, hcreate⟩ <;> simp only [hcreate] at hop'
    · exact ⟨op', hop', rfl⟩
    · exact ⟨op, hop, addOperation_times hw.heap_next _ hop hop'⟩
  | send q callback needResponse now sendRet =>
    obtain ⟨res, hsend, rfl⟩ := Option.map_eq_some_iff.mp h
    refine gbOperationSendRequest_times hsend (fun hneed => hne ?_) hop'
    simpa [allowed, hneed] using (Bool.and_eq_true_iff.mp ha).2
  | sendSync q now sendRet =>
    obtain ⟨res, hsend, rfl⟩ := Option.map_eq_some_iff.mp h
    obtain ⟨opq, hq, hsend⟩ := Option.bind_eq_some_iff.mp hsend
    have hpending : w.isPending q = false := by
      simpa [allowed] using (Bool.and_eq_true_iff.mp ha).2
    obtain ⟨op₁, hop₁, htime⟩ :=
      gbOperationSendRequest_times hsend (fun _ => hne hpending) hop'
    obtain ⟨op₀, hop₀, htime₀⟩ := sameTimes_setOp hq (by rfl) x op₁ hop₁
    exact ⟨op₀, hop₀, htime.trans htime₀⟩
  | destroy q =>
    obtain ⟨s', hunref, rfl⟩ := Option.map_eq_some_iff.mp h
    exact gbOperationUnref_times hunref x op' hop'
  | process r =>
    obtain ⟨res, hprocess, rfl⟩ := Option.map_eq_some_iff.mp h
    exact processMessage_times hprocess x op' hop'
  | allocResponse allocBufOk r size =>
    obtain ⟨s', halloc, rfl⟩ := Option.map_eq_some_iff.mp h
    obtain ⟨opr, hr, halloc⟩ := Option.map_eq_some_iff.mp halloc
    split at halloc <;> subst halloc
    · exact sameTimes_setOp hr (by rfl) x op' hop'
    · exact sameTimes_setOp hr (by rfl) x op' hop'
  | finish r =>
    obtain ⟨s', hunref, rfl⟩ := Option.map_eq_some_iff.mp h
    exact gbOperationUnref_times hunref x op' hop'
  | expire cport q currentTime =>
    obtain ⟨res, hclean, rfl⟩ := Option.map_eq_some_iff.mp h
    obtain ⟨opq, hq, hclean⟩ := Option.bind_eq_some_iff.mp hclean
    split at hclean
    next =>
      obtain rfl := Option.some.inj hclean
      exact ⟨op', hop', rfl⟩
    next =>
      obtain ⟨s', hcall, rfl⟩ := Option.map_eq_some_iff.mp hclean
      exact runCallback_times hcall x op' hop'
  | release q =>
    obtain ⟨s', hunref, rfl⟩ := Option.map_eq_some_iff.mp h
    exact gbOperationUnref_times hunref x op' hop'
  | flush cport =>
    obtain ⟨s', hflush, rfl⟩ := Option.map_eq_some_iff.mp h
    exact flushRounds_times hflush x op' hop'
  | stop cport | start cport =>
    obtain rfl := Option.some.inj h
    exact ⟨op', hop', rfl⟩

/-! ## Callbacks that leave a fifo alone -/

/-- The callbacks come back, none of their calls changes the `tx_fifo` of the cport, and they drop
no reference of the functions that they are called by. -/
structure LeaveFifo (callbacks : Callbacks) (cport : Nat) : Prop where
  returns : ∀ cb q w, w.Inv → (run step w (callbacks cb q w)).isSome
  keeps : ∀ cb q w, EachStep step (fun w _ w' => w'.txFifo cport = w.txFifo cport) w
    (callbacks cb q w)
  releases : ∀ cb q w p, .release p ∉ callbacks cb q w

/-- An operation that is still as it was sent. -/
structure SameSend (op op' : Operation) : Prop where
  time : op'.time = op.time
  callback : op'.callback = op.callback

theorem SameSend.trans {op₁ op₂ op₃ : Operation} (h₁ : SameSend op₁ op₂) (h₂ : SameSend op₂ op₃) :
    SameSend op₁ op₃ := ⟨h₂.time.trans h₁.time, h₂.callback.trans h₁.callback⟩

-- What is in a `tx_fifo` stays as it was sent.
theorem step_sameSend {w w' : World} (hw : w.Inv) {a : Call} (h : step w a = some w') {c : Nat}
    {x : OpRef} (hx : x ∈ w.txFifo c) {op' : Operation} (hop' : w'.heap x = some op') :
    ∃ op, w.heap x = some op ∧ SameSend op op' := by
  obtain ⟨op, hop, htime⟩ := step_times hw h hx hop'
  rcases (step_spec hw h).change.kept hop' with hnone | ⟨op₁, hop₁, -, hcallback⟩
  · rw [hnone] at hop
    cases hop
  · obtain rfl := Option.some.inj (hop₁.symm.trans hop)
    exact ⟨op₁, hop₁, htime, hcallback (hw.isPending_iff.mpr ⟨c, hx⟩)⟩

/-- The operations have been created, and those that are still there are for this cport. -/
def OfCport (cport : Nat) (ops : List OpRef) (w : World) : Prop :=
  ∀ x ∈ ops, .alloc (.operation x) ∈ w.trace ∧ ∀ op, w.heap x = some op → op.cport = cport

-- An operation that has been freed does not come back.
theorem step_ofCport {w w' : World} (hw : w.Inv) {a : Call} (h : step w a = some w') {cport : Nat}
    {ops : List OpRef} (hops : OfCport cport ops w) : OfCport cport ops w' := by
  have hstepped := step_spec hw h
  obtain ⟨es, htrace, -⟩ := hstepped.change.trace
  intro x hx
  obtain ⟨halloc, hcport⟩ := hops x hx
  refine ⟨by rw [htrace]; exact List.mem_append_right es halloc, fun op' hop' => ?_⟩
  rcases hstepped.change.kept hop' with hnone | ⟨op, hop, hsame, -⟩
  · have hfreed : w.trace.count (.free (.operation x)) = _ := free_eq_alloc hw hnone
    have hkept : w'.trace.count (.free (.operation x)) = 0 := free_eq_zero hstepped.inv hop'
    have hpos := List.count_pos_iff.mpr halloc
    rw [htrace, List.count_append] at hkept
    omega
  · rw [hsame]
    exact hcport op hop

-- What leaves the `tx_fifo` of the cport alone calls none of its operations back.
theorem step_calledBack {w w' : World} (hw : w.Inv) {a : Call} (h : step w a = some w')
    {cport : Nat} (hkeeps : w'.txFifo cport = w.txFifo cport) {ops : List OpRef}
    (hops : OfCport cport ops w) : w'.calledBack ops = w.calledBack ops := by
  obtain ⟨es, htrace, hes⟩ := (step_spec hw h).change.trace
  refine calledBack_of_others htrace fun x cb he hx => ?_
  obtain ⟨op, hop, hin, hfifo⟩ := hes x cb he
  have hcport := (hops x hx).2 op hop
  rw [hcport] at hin hfifo
  rw [hfifo, removeTx, setTxFifo_txFifo, Function.update_self] at hkeeps
  exact (hw.nodup cport).not_mem_erase (hkeeps ▸ hin)

/-- What a callback leaves as it finds it. -/
structure Left (cport : Nat) (q : OpRef) (w w' : World) : Prop where
  inv : w'.Inv
  txFifo : w'.txFifo cport = w.txFifo cport
  completing : q ∈ w'.completing
  sent : ∀ x ∈ w.txFifo cport, ∀ op', w'.heap x = some op' →
    ∃ op, w.heap x = some op ∧ SameSend op op'
  called : ∀ ops, OfCport cport ops w →
    OfCport cport ops w' ∧ w'.calledBack ops = w.calledBack ops

theorem step_completing {w w' : World} {a : Call} (h : step w a = some w') {q : OpRef}
    (hq : q ∈ w.completing) (ha : ∀ p, a ≠ .release p) : q ∈ w'.completing := by
  simp only [step, Option.ite_none_right_eq_some] at h
  obtain ⟨-, h⟩ := h
  cases a with
  | create | receive | stop | start => exact Option.some.inj h ▸ hq
  | send | sendSync | destroy | allocResponse | finish | flush =>
    obtain ⟨res, -, rfl⟩ := Option.map_eq_some_iff.mp h
    exact hq
  | process r =>
    obtain ⟨res, -, rfl⟩ := Option.map_eq_some_iff.mp h
    exact List.mem_append_right _ hq
  | expire cport p currentTime =>
    obtain ⟨res, -, rfl⟩ := Option.map_eq_some_iff.mp h
    show q ∈ if res.1 then p :: w.completing else w.completing
    split
    next => exact List.mem_cons_of_mem p hq
    next => exact hq
  | release p => exact absurd rfl (ha p)

theorem run_left {cport : Nat} {q : OpRef} {calls : List Call} {w w' : World} (hw : w.Inv)
    (hq : q ∈ w.completing) (hrun : run step w calls = some w')
    (hkeeps : EachStep step (fun w _ w' => w'.txFifo cport = w.txFifo cport) w calls)
    (hreleases : ∀ p, .release p ∉ calls) : Left cport q w w' := by
  induction calls generalizing w with
  | nil =>
    obtain rfl := Option.some.inj hrun
    exact ⟨hw, rfl, hq, fun x _ op' hop' => ⟨op', hop', rfl, rfl⟩, fun ops hops => ⟨hops, rfl⟩⟩
  | cons a calls ih =>
    obtain ⟨w₁, hstep, hrest⟩ := run_cons_eq_some.mp hrun
    obtain ⟨hfifo, hkeeps⟩ := hkeeps w₁ hstep
    have hq₁ := step_completing hstep hq fun p hp => hreleases p (hp ▸ List.mem_cons_self)
    have hleft := ih (step_spec hw hstep).inv hq₁ hrest hkeeps fun p hp =>
      hreleases p (List.mem_cons_of_mem a hp)
    refine ⟨hleft.inv, hleft.txFifo.trans hfifo, hleft.completing, fun x hx op' hop' => ?_,
      fun ops hops => ?_⟩
    · obtain ⟨op₁, hop₁, hsent₁⟩ := hleft.sent x (hfifo ▸ hx) op' hop'
      obtain ⟨op₀, hop₀, hsent₀⟩ := step_sameSend hw hstep hx hop₁
      exact ⟨op₀, hop₀, hsent₀.trans hsent₁⟩
    · obtain ⟨hops', hcalled⟩ := hleft.called ops (step_ofCport hw hstep hops)
      exact ⟨hops', hcalled.trans (step_calledBack hw hstep hfifo hops)⟩

theorem callbackCalls_left {callbacks : Callbacks} {cport : Nat}
    (hcallbacks : LeaveFifo callbacks cport) {q : OpRef} {w : World} (hw : w.Inv)
    (hq : q ∈ w.completing) :
    ∃ w', run step w (w.callbackCalls callbacks q) = some w' ∧ Left cport q w w' := by
  unfold callbackCalls
  split
  next cb _ =>
    obtain ⟨w', hrun⟩ := Option.isSome_iff_exists.mp (hcallbacks.returns cb q w hw)
    exact ⟨w', hrun, run_left hw hq hrun (hcallbacks.keeps cb q w) (hcallbacks.releases cb q w)⟩
  next => exact ⟨w, rfl, @run_left cport q [] w w hw hq rfl trivial fun _ => List.not_mem_nil⟩

/-! ## One round -/

/-- One reference to the operation is dropped, and with the last one the operation is freed. -/
structure Released (s : Operations) (q : OpRef) (op : Operation) (s' : Operations) : Prop where
  freed : op.refCount = 1 → s'.heap q = none ∧ .free (.operation q) ∈ s'.trace
  counted : op.refCount ≠ 1 → s'.trace = s.trace ∧
    s'.heap = Function.update s.heap q (some { op with refCount := op.refCount - 1 })
  txFifo : s'.txFifo = s.txFifo

theorem gbOperationUnref_released {s s' : Operations} {q : OpRef} {op : Operation}
    (hq : s.heap q = some op) (h : s.gbOperationUnref q = some s') : Released s q op s' := by
  have htxFifo := gbOperationUnref_txFifo h
  obtain ⟨res, hres, rfl⟩ := Option.map_eq_some_iff.mp h
  rw [unrefHeap, hq, Option.bind_some] at hres
  split at hres
  next hcount =>
    obtain rfl := Option.some.inj hres
    exact ⟨fun h => absurd (by rw [h]; rfl) hcount, fun _ => ⟨rfl, rfl⟩, htxFifo⟩
  next hcount =>
    refine ⟨fun _ => ?_, fun h => absurd (by omega) h, htxFifo⟩
    have hlast : res.1 q = none ∧ .operation q ∈ res.2 := by
      cases hresponse : op.response with
      | none =>
        simp only [hresponse] at hres
        obtain rfl := Option.some.inj hres
        exact ⟨Function.update_self .., List.mem_append_right _ List.mem_cons_self⟩
      | some r =>
        simp only [hresponse] at hres
        obtain ⟨rest, -, rfl⟩ := Option.map_eq_some_iff.mp hres
        exact ⟨Function.update_self .., List.mem_append_right _ List.mem_cons_self⟩
    exact ⟨hlast.1, List.mem_append_left _ (List.mem_reverse.mpr (List.mem_map_of_mem hlast.2))⟩

/-- A pending operation is taken off its `tx_fifo` and called back once; then come the calls of the
callback, and then one reference to it is dropped. -/
inductive Completion (callbacks : Callbacks) (cport : Nat) (w : World) (q : OpRef) :
    World → Prop where
  | intro {op last : Operation} {s s' : Operations} {w₁ : World} :
    w.heap q = some op → (w.removeTx cport q).Called q op s →
    run step { w with toOperations := s, completing := q :: w.completing }
      (callbackCalls callbacks q { w with toOperations := s, completing := q :: w.completing })
        = some w₁ →
    w₁.heap q = some last → Released w₁.toOperations q last s' →
    Completion callbacks cport w q
      { w₁ with toOperations := s', completing := w₁.completing.erase q }

/-- What the completion of an operation leaves of the others. -/
structure Completed (cport : Nat) (w : World) (q : OpRef) (w' : World) : Prop where
  inv : w'.Inv
  txFifo : w'.txFifo cport = (w.txFifo cport).erase q
  sent : ∀ x ∈ (w.txFifo cport).erase q, ∀ op', w'.heap x = some op' →
    ∃ op, w.heap x = some op ∧ SameSend op op'
  called : ∀ ops, q ∈ ops → OfCport cport ops w → OfCport cport ops w' ∧
    w'.calledBack ops = w.calledBack ops ++ ((w.callbackOf q).map (q, ·)).toList

theorem completeTimedout_spec {callbacks : Callbacks} {cport : Nat}
    (hcallbacks : LeaveFifo callbacks cport) {w : World} (hw : w.Inv) {q : OpRef}
    (hin : q ∈ w.txFifo cport) :
    ∃ w', w.completeTimedout callbacks cport q = some w' ∧ Completion callbacks cport w q w' ∧
      Completed cport w q w' := by
  obtain ⟨op, hop, hcport⟩ := hw.fifo cport q hin
  obtain ⟨s₁, hcall, hs₁, hcalled⟩ := runCallback_sound (hw.removeTx hin) hop
  have hinv : Inv { w with toOperations := s₁, completing := q :: w.completing } := by
    simp only [Inv, held, holders_cons] at hs₁ ⊢
    convert hs₁ using 1
    ac_rfl
  obtain ⟨w₂, hrun, hleft⟩ := callbackCalls_left hcallbacks hinv List.mem_cons_self
  have hallowed : w₂.allowed (.release q) = true := by simpa [allowed] using hleft.completing
  obtain ⟨w₃, hrelease, hstepped⟩ := exec_spec hleft.inv hallowed
  have hstep : step w₂ (.release q) = some w₃ := by rw [step, if_pos hallowed, hrelease]
  obtain ⟨last, hlast⟩ := hleft.inv.live_of_mem (.inr (.inr (.inr hleft.completing)))
  obtain ⟨s₃, hunref, rfl⟩ := Option.map_eq_some_iff.mp hrelease
  have hfifo₁ : s₁.txFifo cport = (w.txFifo cport).erase q := by
    rw [hcalled.txFifo, removeTx, setTxFifo_txFifo, Function.update_self]
  have hfifo₂ : w₂.txFifo cport = (w.txFifo cport).erase q := hleft.txFifo.trans hfifo₁
  have hfifo₃ : s₃.txFifo cport = w₂.txFifo cport :=
    congrFun (gbOperationUnref_txFifo hunref) cport
  refine ⟨_, ?_, .intro hop hcalled hrun hlast (gbOperationUnref_released hlast hunref),
    hstepped.inv, hfifo₃.trans hfifo₂, fun x hx op' hop' => ?_, fun ops hq hops => ?_⟩
  · rw [completeTimedout, hcall, Option.bind_some]
    dsimp only
    rw [hrun, Option.bind_some, hrelease]
  · obtain ⟨op₂, hop₂, hsent₂⟩ := step_sameSend hleft.inv hstep (hfifo₂ ▸ hx) hop'
    obtain ⟨op₁, hop₁, hsent₁⟩ := hleft.sent x (hfifo₁ ▸ hx) op₂ hop₂
    obtain ⟨op₀, hop₀, htime₀⟩ := runCallback_times hcall x op₁ hop₁
    obtain ⟨op₀', hop₀', hsame⟩ := hcalled.keeps hop x op₁ hop₁
    obtain rfl := Option.some.inj (hop₀'.symm.trans hop₀)
    have hsent₀ : SameSend op₀' op₁ := ⟨htime₀, hsame.callback⟩
    exact ⟨op₀', hop₀', (hsent₀.trans hsent₁).trans hsent₂⟩
  · have hops₁ : OfCport cport ops { w with toOperations := s₁, completing := q :: w.completing } :=
      fun x hx => ⟨by
        show _ ∈ s₁.trace
        rw [hcalled.trace]
        exact List.mem_append_right _ (hops x hx).1, fun op₁ hop₁ => by
        obtain ⟨op₀, hop₀, hsame⟩ := hcalled.keeps hop x op₁ hop₁
        exact hsame.cport.trans ((hops x hx).2 op₀ hop₀)⟩
    obtain ⟨hops₂, hcalled₂⟩ := hleft.called ops hops₁
    refine ⟨step_ofCport hleft.inv hstep hops₂, ?_⟩
    have hcallback : w.callbackOf q = op.callback := by rw [callbackOf, hop, Option.bind_some]
    rw [step_calledBack hleft.inv hstep hfifo₃ hops₂, hcalled₂, hcallback]
    exact hcalled.calledBack hq

/-! ## The walk -/

/-- The operation was sent more than a second ago. -/
def overdue (w : World) (currentTime : Timespec) (q : OpRef) : Bool :=
  (w.heap q).any fun op => 1000000000 < currentTime.nanoseconds - op.time.nanoseconds

/-- The operations that are overdue when the clock is read for them, in order. -/
def expired (w : World) (clock : Nat → Timespec) (ops : List OpRef) : List OpRef :=
  (ops.zipIdx.filter fun p => w.overdue (clock p.2) p.1).map Prod.fst

/-- The others, in order. -/
def waiting (w : World) (clock : Nat → Timespec) (ops : List OpRef) : List OpRef :=
  (ops.zipIdx.filter fun p => !w.overdue (clock p.2) p.1).map Prod.fst

theorem expired_concat (w : World) (clock : Nat → Timespec) (ops : List OpRef) (q : OpRef) :
    w.expired clock (ops ++ [q]) = w.expired clock ops ++
      if w.overdue (clock ops.length) q then [q] else [] := by
  rw [expired, List.zipIdx_append, List.filter_append, List.map_append]
  cases h : w.overdue (clock ops.length) q <;> simp [h, expired]

theorem waiting_concat (w : World) (clock : Nat → Timespec) (ops : List OpRef) (q : OpRef) :
    w.waiting clock (ops ++ [q]) = w.waiting clock ops ++
      if w.overdue (clock ops.length) q then [] else [q] := by
  rw [waiting, List.zipIdx_append, List.filter_append, List.map_append]
  cases h : w.overdue (clock ops.length) q <;> simp [h, waiting]

/-- The operations are completed, the first one first. -/
inductive Completions (callbacks : Callbacks) (cport : Nat) (w : World) :
    List OpRef → World → Prop where
  | nil : Completions callbacks cport w [] w
  | concat {ops : List OpRef} {q : OpRef} {w₁ w₂ : World} :
    Completions callbacks cport w ops w₁ → Completion callbacks cport w₁ q w₂ →
    Completions callbacks cport w (ops ++ [q]) w₂

/-- The callbacks that the operations were sent with, in order. -/
def callbacksOf (w : World) (ops : List OpRef) : List (OpRef × Callback) :=
  ops.filterMap fun q => (w.callbackOf q).map (q, ·)

theorem callbacksOf_concat (w : World) (ops : List OpRef) (q : OpRef) :
    w.callbacksOf (ops ++ [q]) = w.callbacksOf ops ++ ((w.callbackOf q).map (q, ·)).toList := by
  rw [callbacksOf, List.filterMap_append]
  cases h : w.callbackOf q with
  | none => simp [h, callbacksOf]
  | some cb => simp [h, callbacksOf]

/-- The walk has come to the operations `rest` in the `tx_fifo` of `w₀`. -/
structure Walked (callbacks : Callbacks) (cport : Nat) (clock : Nat → Timespec) (w₀ : World)
    (rest : List OpRef) (c : World × Nat) (done : List OpRef) : Prop where
  split : w₀.txFifo cport = done ++ rest
  readings : c.2 = done.length
  inv : c.1.Inv
  txFifo : c.1.txFifo cport = w₀.waiting clock done ++ rest
  completions : Completions callbacks cport w₀ (w₀.expired clock done) c.1
  sent : ∀ q ∈ rest, ∀ op, c.1.heap q = some op →
    ∃ op₀, w₀.heap q = some op₀ ∧ SameSend op₀ op
  ofCport : OfCport cport (w₀.txFifo cport) c.1
  called : c.1.calledBack (w₀.txFifo cport) =
    w₀.calledBack (w₀.txFifo cport) ++ w₀.callbacksOf (w₀.expired clock done)

section Walk

variable {callbacks : Callbacks} {cport : Nat} {clock : Nat → Timespec} {w₀ : World}

theorem Walked.round (hcallbacks : LeaveFifo callbacks cport)
    (hsent : ∀ q ∈ w₀.txFifo cport, ∀ op, w₀.heap q = some op → op.time.Normalised)
    (hclock : ∀ n, (clock n).Normalised) {q : OpRef} {rest : List OpRef} {c : World × Nat}
    {done : List OpRef} (h : Walked callbacks cport clock w₀ (q :: rest) c done) :
    ∃ w', c.1.cleanTimedout callbacks cport (clock c.2) q = some w' ∧
      Walked callbacks cport clock w₀ rest (w', c.2 + 1) (done ++ [q]) := by
  have hin : q ∈ c.1.txFifo cport := h.txFifo ▸ List.mem_append_right _ List.mem_cons_self
  have hin₀ : q ∈ w₀.txFifo cport := h.split ▸ List.mem_append_right _ List.mem_cons_self
  obtain ⟨op, hop, -⟩ := h.inv.fifo cport q hin
  obtain ⟨op₀, hop₀, hsend⟩ := h.sent q List.mem_cons_self op hop
  have hnormal : op.time.Normalised := hsend.time ▸ hsent q hin₀ op₀ hop₀
  have hage : gbOperationHasTimedout op (clock c.2) = w₀.overdue (clock done.length) q := by
    rw [Bool.eq_iff_iff, gbOperationHasTimedout_iff hnormal (hclock _), overdue, hop₀,
      Option.any_some, decide_eq_true_iff, hsend.time, h.readings]
  have hsplit : w₀.txFifo cport = (done ++ [q]) ++ rest := by
    rw [h.split, List.append_assoc, List.singleton_append]
  have hreadings : c.2 + 1 = (done ++ [q]).length := by
    rw [h.readings, List.length_append, List.length_singleton]
  rw [cleanTimedout, hop, Option.bind_some, hage]
  cases hdue : w₀.overdue (clock done.length) q with
  | false =>
    have hexpired : w₀.expired clock (done ++ [q]) = w₀.expired clock done := by
      rw [expired_concat, hdue]
      exact List.append_nil _
    refine ⟨c.1, rfl, hsplit, hreadings, h.inv, ?_, hexpired ▸ h.completions,
      fun x hx => h.sent x (List.mem_cons_of_mem q hx), h.ofCport, hexpired ▸ h.called⟩
    rw [waiting_concat, hdue, h.txFifo, List.append_assoc]
    rfl
  | true =>
    obtain ⟨w', hrun, hcompletion, hcompleted⟩ := completeTimedout_spec hcallbacks h.inv hin
    have hexpired : w₀.expired clock (done ++ [q]) = w₀.expired clock done ++ [q] := by
      rw [expired_concat, hdue, if_pos rfl]
    have hnodup := h.inv.nodup cport
    rw [h.txFifo] at hnodup
    have hq : q ∉ w₀.waiting clock done := fun hq =>
      List.disjoint_of_nodup_append hnodup hq List.mem_cons_self
    have herase : (c.1.txFifo cport).erase q = w₀.waiting clock done ++ rest := by
      rw [h.txFifo, List.erase_append_right _ hq, List.erase_cons_head]
    -- The callback is still the one that the operation was sent with.
    have hcallback : c.1.callbackOf q = w₀.callbackOf q := by
      rw [callbackOf, callbackOf, hop, hop₀, Option.bind_some, Option.bind_some, hsend.callback]
    obtain ⟨hofCport, hcalled⟩ := hcompleted.called (w₀.txFifo cport) hin₀ h.ofCport
    refine ⟨w', hrun, hsplit, hreadings, hcompleted.inv, ?_,
      hexpired ▸ .concat h.completions hcompletion, fun x hx op' hop' => ?_, hofCport, ?_⟩
    · rw [waiting_concat, hdue, hcompleted.txFifo, herase]
      simp
    · obtain ⟨op₁, hop₁, hsend₁⟩ :=
        hcompleted.sent x (herase ▸ List.mem_append_right _ hx) op' hop'
      obtain ⟨op₀, hop₀, hsend₀⟩ := h.sent x (List.mem_cons_of_mem q hx) op₁ hop₁
      exact ⟨op₀, hop₀, hsend₀.trans hsend₁⟩
    · rw [hcalled, h.called, hexpired, callbacksOf_concat, hcallback, List.append_assoc]

theorem ofCport_txFifo {w : World} (hw : w.Inv) (cport : Nat) :
    OfCport cport (w.txFifo cport) w := by
  intro x hx
  obtain ⟨op, hop, hcport⟩ := hw.fifo cport x hx
  refine ⟨?_, fun op' hop' => Option.some.inj (hop.symm.trans hop') ▸ hcport⟩
  rw [← List.count_pos_iff, hw.operations x, if_pos (hw.balanced.bound x op hop)]
  exact Nat.one_pos

/-- The walk ends.  It has completed the operations that were overdue when it came to them: each of
them has been called back once, in the order of the `tx_fifo`, and one reference to it has been
dropped.  The others are left in their order. -/
theorem gbCleanTimedoutOperation_spec {w : World} (hw : w.Inv)
    (hcallbacks : LeaveFifo callbacks cport)
    (hsent : ∀ q ∈ w.txFifo cport, ∀ op, w.heap q = some op → op.time.Normalised)
    (hclock : ∀ n, (clock n).Normalised) {fuel : Nat} (hfuel : (w.txFifo cport).length ≤ fuel) :
    ∃ w', w.gbCleanTimedoutOperation callbacks cport clock fuel
        = some (w', w'.gbWatchdogUpdate cport) ∧
      Completions callbacks cport w (w.expired clock (w.txFifo cport)) w' ∧
      w'.calledBack (w.txFifo cport) = w.calledBack (w.txFifo cport) ++
        w.callbacksOf (w.expired clock (w.txFifo cport)) ∧
      w'.txFifo cport = w.waiting clock (w.txFifo cport) ∧ w'.Inv := by
  have hitems : ∀ rest (c : World × Nat), (∃ done, Walked callbacks cport clock w rest c done) →
      ∃ front, c.1.txFifo cport = front ++ rest ∧ (front ++ rest).Nodup := by
    rintro rest c ⟨done, h⟩
    exact ⟨_, h.txFifo, h.txFifo ▸ h.inv.nodup cport⟩
  have hround : ∀ q rest (c : World × Nat),
      (∃ done, Walked callbacks cport clock w (q :: rest) c done) →
      ∃ c', cleanRound callbacks cport clock q c = some c' ∧
        ∃ done, Walked callbacks cport clock w rest c' done := by
    rintro q rest c ⟨done, h⟩
    obtain ⟨w', hrun, h'⟩ := h.round hcallbacks hsent hclock
    exact ⟨(w', c.2 + 1), by rw [cleanRound, hrun, Option.map_some], _, h'⟩
  have hstart : Walked callbacks cport clock w (w.txFifo cport) (w, 0) [] :=
    ⟨rfl, rfl, hw, rfl, .nil, fun q _ op hop => ⟨op, hop, rfl, rfl⟩, ofCport_txFifo hw cport,
      (List.append_nil _).symm⟩
  obtain ⟨c, hrun, done, hend⟩ := @forEachSafe_induct _ _ _ _ _ _ hitems hround fuel (w, 0)
    ⟨[], hstart⟩ hfuel
  have hall : w.txFifo cport = done := by rw [hend.split, List.append_nil]
  have hcompletions := hend.completions
  have hcalled := hend.called
  have htxFifo := hend.txFifo
  rw [← hall] at hcompletions hcalled htxFifo
  exact ⟨c.1, by rw [gbCleanTimedoutOperation, hrun, Option.map_some], hcompletions, hcalled,
    htxFifo.trans (List.append_nil _), hend.inv⟩

end Walk

/-- The first callback drops the creator's reference, the others do nothing. -/
def destroyOwned : Callbacks := fun cb q w => if cb = 0 ∧ q ∈ w.owned then [.destroy q] else []

theorem destroyOwned_leaveFifo (cport : Nat) : LeaveFifo destroyOwned cport where
  returns cb q w hw := by
    unfold destroyOwned
    split
    next hq =>
      have hallowed : w.allowed (.destroy q) = true := by simpa [allowed] using hq.2
      obtain ⟨w', hrun, -⟩ := exec_spec hw hallowed
      simp [run, step, hallowed, hrun]
    next => rfl
  keeps cb q w := by
    unfold destroyOwned
    split
    next =>
      intro w' hstep
      simp only [step, Option.ite_none_right_eq_some] at hstep
      obtain ⟨s', hunref, rfl⟩ := Option.map_eq_some_iff.mp hstep.2
      exact ⟨congrFun (gbOperationUnref_txFifo hunref) cport, trivial⟩
    next => exact trivial
  releases cb q w p hp := by
    unfold destroyOwned at hp
    split at hp <;> simp at hp

/-- Three requests are sent, the last one four seconds after the second. -/
def sendsThrice : List Call :=
  [.create true true 0 0x02 0, .create true true 0 0x03 0, .create true true 0 0x04 0,
    .send 0 (some (.user 0)) true ⟨0, 900000000⟩ 0, .send 1 (some (.user 1)) true ⟨1, 0⟩ 0,
    .send 2 (some (.user 2)) true ⟨5, 0⟩ 0]

/-- The clock is read after two, two and a half, and five and a half seconds. -/
def threeReadings : Nat → Timespec
  | 0 => ⟨2, 0⟩
  | 1 => ⟨2, 500000000⟩
  | _ => ⟨5, 500000000⟩

/-- What can be seen of the three requests. -/
def seen (w : World) : List OpRef × List (OpRef × Callback) × List (Option Int) :=
  (w.txFifo 0, w.calledBack [0, 1, 2], [0, 1, 2].map fun q => (w.heap q).map Operation.refCount)

-- The first two are called back in order.  The first one is freed, as its callback has dropped the
-- other reference; the second one keeps that of its creator.
theorem gbCleanTimedoutOperation_twice :
    ∃ w w', run step (.initial 1) sendsThrice = some w ∧
      w.seen = ([0, 1, 2], [], [some 2, some 2, some 2]) ∧
      w.gbCleanTimedoutOperation destroyOwned 0 threeReadings 3 = some (w', .started) ∧
      Completions destroyOwned 0 w [0, 1] w' ∧
      w'.seen = ([2], [(0, .user 0), (1, .user 1)], [none, some 1, some 2]) := by
  obtain ⟨w, hrun⟩ := Option.isSome_iff_exists.mp
    (show (run step (.initial 1) sendsThrice).isSome by decide)
  have hw : w.Inv := run_induct (fun w a w' hw h => (step_spec hw h).inv) (initial_inv 1) hrun
  have hbefore : (run step (.initial 1) sendsThrice).map seen
      = some ([0, 1, 2], [], [some 2, some 2, some 2]) := by decide
  have hoverdue : (run step (.initial 1) sendsThrice).map (fun w =>
      (w.expired threeReadings [0, 1, 2], w.waiting threeReadings [0, 1, 2],
        w.callbacksOf [0, 1])) = some ([0, 1], [2], [(0, .user 0), (1, .user 1)]) := by decide
  have htimes : (run step (.initial 1) sendsThrice).map (fun w =>
      ((w.heap 0).map (·.time), (w.heap 1).map (·.time), (w.heap 2).map (·.time)))
        = some (some ⟨0, 900000000⟩, some ⟨1, 0⟩, some ⟨5, 0⟩) := by decide
  rw [hrun, Option.map_some, Option.some.injEq] at hbefore hoverdue htimes
  simp only [Prod.mk.injEq] at hoverdue htimes
  obtain ⟨hexpired, hwaiting, hcallbacks⟩ := hoverdue
  obtain ⟨hop₀, hop₁, hop₂⟩ := htimes
  have hfifo : w.txFifo 0 = [0, 1, 2] := congrArg Prod.fst hbefore
  have hcalledBack : w.calledBack [0, 1, 2] = [] := congrArg (·.2.1) hbefore
  obtain ⟨w', hclean, hcompletions, hcalled, hleft, -⟩ := @gbCleanTimedoutOperation_spec
    destroyOwned 0 threeReadings w hw (destroyOwned_leaveFifo 0)
    (fun q hq op hop => by
      rw [hfifo] at hq
      simp only [List.mem_cons, List.not_mem_nil, or_false] at hq
      rcases hq with rfl | rfl | rfl
      · rw [hop, Option.map_some, Option.some.injEq] at hop₀
        exact hop₀ ▸ (by decide)
      · rw [hop, Option.map_some, Option.some.injEq] at hop₁
        exact hop₁ ▸ (by decide)
      · rw [hop, Option.map_some, Option.some.injEq] at hop₂
        exact hop₂ ▸ (by decide))
    (fun n => by
      unfold threeReadings
      split <;> decide) 3 (by rw [hfifo]; decide)
  have hafter : ((run step (.initial 1) sendsThrice).bind fun w =>
      w.gbCleanTimedoutOperation destroyOwned 0 threeReadings 3).map (fun c =>
        [0, 1, 2].map fun q => (c.1.heap q).map Operation.refCount)
          = some [none, some 1, some 2] := by decide
  rw [hrun, Option.bind_some, hclean, Option.map_some, Option.some.injEq] at hafter
  have htwo : w'.txFifo 0 = [2] := by rw [hleft, hfifo, hwaiting]
  rw [hfifo, hexpired] at hcompletions hcalled
  rw [hcalledBack, hcallbacks] at hcalled
  refine ⟨w, w', hrun, hbefore, by rw [hclean, gbWatchdogUpdate, htwo]; rfl, hcompletions, ?_⟩
  rw [seen, htwo, hcalled, hafter]
  rfl

end World

end Greybus
