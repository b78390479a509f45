import Greybus.Core.Steps

/-!
# Who holds an operation

When no operation is sent twice with `need_response`, the reference count of an operation is the
number of its holders in every state that the calls reach, and it is freed once, with its last
reference.
-/

namespace Greybus

open Reasoning.RefCount Reasoning.Transition

namespace Operations

/-- What has been sent with `need_response`. -/
def sent (s : Operations) : List OpRef := s.assigned.map Prod.fst

end Operations

namespace World

open Operations

/-- An operation is sent at most once with `need_response`. -/
def SendsOnce (w : World) (a : Call) (_ : World) : Prop := ∀ q ∈ a.sends, q ∉ w.sent

instance (w : World) (a : Call) (w' : World) : Decidable (w.SendsOnce a w') :=
  inferInstanceAs (Decidable (∀ q ∈ a.sends, q ∉ w.sent))

/-! ## What every state of such a run has -/

/-- Nothing is held twice in the same way. -/
structure Once (w : World) : Prop where
  owned : w.owned.Nodup
  messages : (w.received ++ w.processing).Nodup
  completing : w.completing.Nodup
  completed : ∀ q ∈ w.completing, q ∈ w.sent ∧ ∀ c, q ∉ w.txFifo c
  queued : ∀ c, ∀ q ∈ w.txFifo c, q ∈ w.sent ∧ w.responseOf q = none
  answered : ∀ q r, w.responseOf q = some r → q ∈ w.sent
  unattached : ∀ q, ∀ r ∈ w.received, w.responseOf q ≠ some r
  single : ∀ p q r, w.responseOf p = some r → w.responseOf q = some r → p = q
  leaked : w.leaked = []

theorem initial_once (cportCount : Nat) : (World.initial cportCount).Once := by
  constructor <;> simp [World.initial, Operations.gbInit, responseOf]

theorem sent_mono {w w' : World} {a : Call} (hstep : w.Stepped a w') {q : OpRef}
    (hq : q ∈ w.sent) : q ∈ w'.sent := by
  rcases hstep.change.assigned with ⟨-, h⟩ | ⟨p, -, -, -, h⟩
  · rwa [sent, h]
  · rw [sent, h]
    exact List.mem_cons_of_mem _ hq

-- What is sent again has not been sent before, and is queued now.
theorem mem_txFifo {w w' : World} {a : Call} (hstep : w.Stepped a w')
    (honce : w.SendsOnce a w') {c : Nat} {q : OpRef} (hq : q ∈ w'.txFifo c) :
    q ∈ w.txFifo c ∨ a.sends = some q ∧ q ∉ w.sent ∧ q ∈ w'.sent := by
  refine (hstep.change.fifo hq).imp_right fun ⟨hsends, hassigned, _⟩ =>
    ⟨hsends, honce q hsends, ?_⟩
  rw [sent, hassigned]
  exact List.mem_cons_self

theorem answered_unique {s s' : Operations} {outer : OpRef → Nat} (hs : s.Sound outer)
    {r p q : OpRef} {op op' : Operation} (hp : p ∈ s.txFifo op.cport) (h : s.Answered r p op s')
    (h' : s.Answered r q op' s') : p = q := by
  by_contra hne
  have hgone : p ∉ s'.txFifo op.cport := h.txFifo ▸ hs.not_mem_removeTx hp op.cport
  exact hgone (h'.txFifo ▸ mem_removeTx_of_ne hp hne)

theorem nodup_of_subperm {xs ys : List OpRef} (h : xs.Subperm ys) (hys : ys.Nodup) :
    xs.Nodup := by
  obtain ⟨zs, hperm, hsub⟩ := h
  exact hperm.nodup_iff.mp (hys.sublist hsub)

theorem step_once {w w' : World} {a : Call} (hw : w.Inv) (ho : w.Once)
    (h : step w a = some w') (honce : w.SendsOnce a w') : w'.Once := by
  have hstep := step_spec hw h
  have hnext : ∀ q, (q ∈ w.owned ∨ q ∈ w.received ∨ q ∈ w.processing ∨ q ∈ w.completing) →
      w.next ≠ q := by
    rintro _ hq rfl
    obtain ⟨op, hop⟩ := hw.live_of_mem hq
    rw [hw.heap_next] at hop
    cases hop
  have hqueued : ∀ c, ∀ q ∈ w.txFifo c, q ∈ w'.sent := fun c q hq =>
    sent_mono hstep (ho.queued c q hq).1
  have hcompleted : ∀ q ∈ w.completing, q ∈ w'.sent ∧ ∀ c, q ∉ w'.txFifo c := by
    intro q hq
    obtain ⟨hsent, hgone⟩ := ho.completed q hq
    refine ⟨sent_mono hstep hsent, fun c hc => ?_⟩
    rcases mem_txFifo hstep honce hc with hold | ⟨-, hfresh, -⟩
    · exact hgone c hold
    · exact hfresh hsent
  constructor
  case owned =>
    exact nodup_of_subperm hstep.owned
      (List.nodup_cons.mpr ⟨fun hq => hnext _ (.inl hq) rfl, ho.owned⟩)
  case messages =>
    refine nodup_of_subperm hstep.messages (List.nodup_cons.mpr ⟨fun hq => ?_, ho.messages⟩)
    rcases List.mem_append.mp hq with hq | hq
    · exact hnext _ (.inr (.inl hq)) rfl
    · exact hnext _ (.inr (.inr (.inl hq))) rfl
  case completing =>
    rcases hstep.completing with hsub | ⟨c, q, hq, -, heq⟩
    · exact nodup_of_subperm hsub ho.completing
    · rw [heq, List.nodup_cons]
      exact ⟨fun hin => (ho.completed q hin).2 c hq, ho.completing⟩
  case completed =>
    rcases hstep.completing with hsub | ⟨c, q, hq, hgone, heq⟩
    · exact fun x hx => hcompleted x (hsub.subset hx)
    · intro x hx
      rw [heq] at hx
      rcases List.mem_cons.mp hx with rfl | hx
      · exact ⟨hqueued c x hq, hgone⟩
      · exact hcompleted x hx
  case queued =>
    intro c q hq
    rcases mem_txFifo hstep honce hq with hold | ⟨hsends, hfresh, hsent⟩
    · refine ⟨hqueued c q hold, ?_⟩
      rcases hstep.change.response q with hnone | hsame | ⟨r, op, -, -, hin, hanswered⟩
      · exact hnone
      · exact hsame.trans (ho.queued c q hold).2
      · rw [hanswered.txFifo] at hq
        exact absurd hq (hw.not_mem_removeTx hin c)
    · refine ⟨hsent, ?_⟩
      rcases hstep.change.response q with hnone | hsame | ⟨r, op, rfl, -⟩
      · exact hnone
      · rw [hsame]
        exact Option.eq_none_iff_forall_ne_some.mpr fun r hr => hfresh (ho.answered q r hr)
      · cases hsends
  case answered =>
    intro q r hr
    rcases hstep.change.attached hr with hold | ⟨op, -, hin, -⟩
    · exact sent_mono hstep (ho.answered q r hold)
    · exact hqueued _ q hin
  case unattached =>
    intro q r hr hattached
    rcases hstep.change.attached hattached with hold | ⟨op, rfl, -⟩
    · rcases List.mem_cons.mp (hstep.received hr) with rfl | hr
      · obtain ⟨op, hop⟩ := hw.attached_live hold
        rw [hw.heap_next] at hop
        cases hop
      · exact ho.unattached q r hr hold
    · -- the worker has taken the message that it attaches
      rw [(step_process h).2.1] at hr
      exact ho.messages.of_append_left.not_mem_erase hr
  case single =>
    intro p q r hp hq
    rcases hstep.change.attached hp with hp | ⟨op, rfl, hin, hanswered⟩ <;>
      rcases hstep.change.attached hq with hq | ⟨op', ha, hin', hanswered'⟩
    · exact ho.single p q r hp hq
    · subst ha
      exact absurd hp (ho.unattached p r (step_process h).1)
    · exact absurd hq (ho.unattached q r (step_process h).1)
    · exact answered_unique hw hin hanswered hanswered'
  case leaked =>
    rcases hstep.leaked with hsame | ⟨c, q, hq, heq⟩
    · rw [hsame, ho.leaked]
    · rw [heq, ho.leaked, (ho.queued c q hq).2]
      rfl

theorem run_once {cportCount : Nat} {w : World} {as : List Call}
    (honce : EachStep step SendsOnce (.initial cportCount) as)
    (hrun : run step (.initial cportCount) as = some w) : w.Inv ∧ w.Once :=
  run_induct_of_eachStep (P := fun w => w.Inv ∧ w.Once)
    (fun _ _ _ hw h hsends => ⟨(step_spec hw.1 h).inv, step_once hw.1 hw.2 h hsends⟩)
    ⟨initial_inv cportCount, initial_once cportCount⟩ honce hrun

/-! ## The holders of an operation -/

/-- The creator, the `tx_fifo`, the operation whose response it is, the worker, and a function that
has just taken it off the `tx_fifo`. -/
def holderCount (w : World) (q : OpRef) : Nat :=
  (if q ∈ w.owned then 1 else 0) +
  (if ∃ c, c < w.cportCount ∧ q ∈ w.txFifo c then 1 else 0) +
  (if ∃ p, p < w.next ∧ w.responseOf p = some q then 1 else 0) +
  (if q ∈ w.received ++ w.processing then 1 else 0) +
  (if q ∈ w.completing then 1 else 0)

theorem pendingCount_eq {s : Operations} {outer : OpRef → Nat} (hs : s.Sound outer) (q : OpRef) :
    s.pendingCount q = if ∃ c, c < s.cportCount ∧ q ∈ s.txFifo c then 1 else 0 := by
  have hone : ∀ c c', q ∈ s.txFifo c → q ∈ s.txFifo c' → c = c' := by
    intro c c' hc hc'
    obtain ⟨op, hop, hcport⟩ := hs.fifo c q hc
    obtain ⟨op', hop', hcport'⟩ := hs.fifo c' q hc'
    rw [hop, Option.some.injEq] at hop'
    rw [← hcport, ← hcport', hop']
  rw [← sum_indicator hone]
  exact Finset.sum_congr rfl fun c _ => (hs.nodup c).count

theorem held_eq {w : World} (ho : w.Once) (q : OpRef) :
    w.held q = (if q ∈ w.owned then 1 else 0) + (if q ∈ w.received ++ w.processing then 1 else 0) +
      (if q ∈ w.completing then 1 else 0) := by
  rw [← ho.owned.count, ← ho.messages.count, ← ho.completing.count, List.count_append]
  simp only [held, holders, Pi.add_apply, ho.leaked, List.count_nil]
  omega

-- Everything that is owed to an operation comes from its holders.
theorem owed_eq {w : World} (hw : w.Inv) (ho : w.Once) (q : OpRef) :
    (w.held + w.pendingCount) q + counted.indegree w.next w.heap q = w.holderCount q := by
  have hattached : counted.indegree w.next w.heap q
      = if ∃ p, p < w.next ∧ w.responseOf p = some q then 1 else 0 :=
    sum_indicator fun p p' hp hp' => ho.single p p' q hp hp'
  rw [Pi.add_apply, held_eq ho, pendingCount_eq hw, hattached, holderCount]
  omega

/-! ## What has been freed -/

/-- The operation that a resource is freed with. -/
def ownerOf : Resource → OpRef
  | .operation q => q
  | .requestBuffer q => q
  | .responseBuffer q => q

theorem ownerOf_of_mem_owns {q : OpRef} {op : Operation} {r : Resource}
    (h : r ∈ counted.owns q op) : ownerOf r = q := by
  rw [counted_owns] at h
  simp only [List.cons_append, List.mem_cons, List.mem_append, List.not_mem_nil, or_false] at h
  rcases h with rfl | h | rfl
  · rfl
  · split at h
    · rw [List.mem_singleton.mp h]
      rfl
    · cases h
  · rfl

theorem alloc_le_one {s : Operations} {outer : OpRef → Nat} (hs : s.Sound outer) (r : Resource) :
    s.trace.count (.alloc r) ≤ 1 := by
  cases r with
  | operation q =>
    rw [hs.operations q]
    split <;> omega
  | requestBuffer q =>
    rw [hs.requests q]
    split <;> omega
  | responseBuffer q => rcases hs.responses q with h | ⟨h, -⟩ <;> omega

-- What has been allocated with an operation that is there is still there.
theorem mem_owns_of_alloc {s : Operations} {outer : OpRef → Nat} (hs : s.Sound outer) {r : Resource}
    {op : Operation} (hop : s.heap (ownerOf r) = some op) (halloc : 0 < s.trace.count (.alloc r)) :
    r ∈ counted.owns (ownerOf r) op := by
  cases r with
  | operation q => simp [counted_owns, ownerOf]
  | requestBuffer q => simp [counted_owns, ownerOf]
  | responseBuffer q =>
    rcases hs.responses q with h | ⟨-, -, hsome⟩
    · omega
    · simp [counted_owns, ownerOf, hsome op hop]

-- What is freed with an operation that is there has not been freed.
theorem free_eq_zero {s : Operations} {outer : OpRef → Nat} (hs : s.Sound outer) {r : Resource}
    {op : Operation} (hop : s.heap (ownerOf r) = some op) : s.trace.count (.free r) = 0 := by
  have hfreed := hs.freed r
  have hone := alloc_le_one hs r
  rcases Nat.eq_zero_or_pos (s.trace.count (.alloc r)) with halloc | halloc
  · omega
  · have hin := List.count_pos_iff.mpr (mem_owns_of_alloc hs hop halloc)
    have hheld := count_owns_le_held (C := counted) (hs.balanced.bound _ op hop) hop r
    omega

-- What was freed with an operation that is gone has been freed as often as it was allocated.
theorem free_eq_alloc {s : Operations} {outer : OpRef → Nat} (hs : s.Sound outer) {r : Resource}
    (hnone : s.heap (ownerOf r) = none) :
    s.trace.count (.free r) = s.trace.count (.alloc r) := by
  have hheld : counted.held s.next s.heap r = 0 := by
    refine held_eq_zero fun p op hp hmem => ?_
    rw [← ownerOf_of_mem_owns hmem, hnone] at hp
    cases hp
  have hfreed := hs.freed r
  omega

/-- Every reference is counted, and everything is freed once. -/
structure Accounted (w : World) : Prop where
  counts : ∀ q op, w.heap q = some op → op.refCount = w.holderCount q ∧ 0 < op.refCount
  queued : ∀ c, ∀ q ∈ w.txFifo c, ∃ op, w.heap q = some op
  attached : ∀ p q, w.responseOf p = some q → ∃ op, w.heap q = some op
  -- Nothing is freed while its operation has a holder.
  kept : ∀ q op, w.heap q = some op → ∀ r, ownerOf r = q → w.trace.count (.free r) = 0
  -- An operation without a holder has been freed with its buffers, each of them once.
  freed : ∀ q, q < w.next → w.heap q = none → w.holderCount q = 0 ∧
    w.trace.count (.free (.operation q)) = 1 ∧ w.trace.count (.free (.requestBuffer q)) = 1 ∧
    w.trace.count (.free (.responseBuffer q)) = w.trace.count (.alloc (.responseBuffer q)) ∧
    w.trace.count (.alloc (.responseBuffer q)) ≤ 1
  -- No call touches an operation that has been freed.
  goesThrough : ∀ a, w.allowed a = true → (step w a).isSome = true

theorem accounted {w : World} (hw : w.Inv) (ho : w.Once) : w.Accounted where
  counts q op hq := by
    have hcount := hw.balanced.count q op hq
    refine ⟨?_, hw.balanced.pos q op hq⟩
    rw [← owed_eq hw ho q]
    exact_mod_cast hcount
  queued c q hq := by
    obtain ⟨op, hop, -⟩ := hw.fifo c q hq
    exact ⟨op, hop⟩
  attached p q hq := hw.attached_live hq
  kept q op hq r hr := free_eq_zero hw (hr ▸ hq)
  freed q hlt hq := by
    obtain ⟨howed, hdeg⟩ := hw.balanced.dead q hq
    have hfreed : ∀ r, ownerOf r = q → w.trace.count (.free r) = w.trace.count (.alloc r) :=
      fun r hr => free_eq_alloc hw (hr ▸ hq)
    refine ⟨by rw [← owed_eq hw ho q, howed, hdeg], ?_, ?_, hfreed _ rfl, alloc_le_one hw _⟩
    · rw [hfreed (.operation q) rfl, hw.operations, if_pos hlt]
    · rw [hfreed (.requestBuffer q) rfl, hw.requests, if_pos hlt]
  goesThrough a ha := by
    obtain ⟨w', hrun, -⟩ := exec_spec hw ha
    simp [step, ha, hrun]

/-- In every state of a run that sends no operation twice with `need_response`, the reference counts
are the numbers of holders, and what is freed is freed once and with the last reference. -/
theorem run_accounted {cportCount : Nat} {w : World} {as : List Call}
    (hrun : run step (.initial cportCount) as = some w)
    (honce : EachStep step SendsOnce (.initial cportCount) as) : w.Accounted :=
  have hw := run_once honce hrun
  accounted hw.1 hw.2

/-- A request that is answered: the response is freed with it. -/
def exchange : List Call :=
  [.create true true 0 2 1, .send 0 (some (.user 0)) true ⟨0, 0⟩ 0,
   .receive true true 0 { hdr := ⟨9, 1, 0x82, 0, 0⟩, payload := [7] }, .process 1, .release 0,
   .finish 1, .destroy 0]

theorem run_accounted_exchange : ∃ w, run step (.initial 1) exchange = some w ∧ w.Accounted := by
  have hsome : (run step (.initial 1) exchange).isSome := by decide
  obtain ⟨w, hrun⟩ := Option.isSome_iff_exists.mp hsome
  exact ⟨w, hrun, run_accounted hrun (by decide)⟩

end World

end Greybus
