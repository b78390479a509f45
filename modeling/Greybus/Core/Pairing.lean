import Greybus.Core.Exchange

/-!
# Replies reach their own requests

The client tells the replies apart by their 16-bit ids alone.  As long as no reply, and no request
that waits, is more than 65535 ids old when a reply is processed, that is enough.
-/

namespace Greybus

open Operations Reasoning.Transition Reasoning.Counter

/-! ## What the client's calls leave alone -/

theorem Change.trace_suffix {s s' : Operations} {a : Call} (h : Change s a s') :
    s.trace <:+ s'.trace := by
  cases h with
  | quiet hquiet =>
    obtain ⟨es, htrace, -⟩ := hquiet.trace
    exact ⟨es, htrace.symm⟩
  | unanswered => exact List.suffix_rfl
  | accepted => exact List.suffix_cons ..
  | refused _ _ _ _ hdropped =>
    obtain ⟨freed, htrace⟩ := hdropped.trace
    rw [htrace]
    exact (List.suffix_cons ..).trans (List.suffix_append ..)
  | answered _ _ _ _ _ hanswered => exact ⟨_, hanswered.trace.symm⟩
  | expired _ _ _ hcalled => exact ⟨_, hcalled.trace.symm⟩
  | flushed hdropped =>
    obtain ⟨freed, htrace⟩ := hdropped.trace
    exact ⟨_, htrace.symm⟩

-- A message changes only when it is sent.
theorem Change.requestBuffer {s s' : Operations} {a : Call} (h : Change s a s') {x : OpRef}
    (hx : ∀ e ∈ a.request?, e.1 ≠ x) {op op' : Operation} (hop : s.heap x = some op)
    (hop' : s'.heap x = some op') : op'.requestBuffer = op.requestBuffer := by
  have hkept : ∀ {t : Operations}, s.Keeps t → t.heap x = some op' →
      op'.requestBuffer = op.requestBuffer := by
    intro t hkeeps ht
    obtain ⟨op₀, hop₀, hsame⟩ := hkeeps x op' ht
    obtain rfl := Option.some.inj (hop.symm.trans hop₀)
    exact hsame.requestBuffer
  have hsends : ∀ {q : OpRef}, a.sends = some q → x ≠ q := by
    rintro q ha rfl
    cases a with
    | send p callback needResponse now sendRet =>
      cases needResponse with
      | true => exact hx (p, true) rfl (Option.some.inj ha)
      | false => cases ha
    | sendSync p now sendRet => exact hx (p, true) rfl (Option.some.inj ha)
    | _ => cases ha
  cases h with
  | quiet hquiet =>
    rcases hquiet.heap x op' hop' with ⟨op₀, hop₀, hsame⟩ | ⟨hnone, -⟩
    · obtain rfl := Option.some.inj (hop.symm.trans hop₀)
      exact hsame.requestBuffer
    · rw [hop] at hnone
      cases hnone
  | @unanswered q op₀ callback now sendRet =>
    have hne : x ≠ q := fun h => hx (q, false) rfl h.symm
    simp only [Operations.setOp, Function.update_of_ne hne] at hop'
    obtain rfl := Option.some.inj (hop.symm.trans hop')
    rfl
  | accepted ha =>
    rw [s.queueRequest_heap_of_ne (hsends ha)] at hop'
    obtain rfl := Option.some.inj (hop.symm.trans hop')
    rfl
  | @refused _ q op₀ op₁ callback now _ ha _ _ _ hdropped =>
    obtain ⟨op₂, hop₂, hsame⟩ := hdropped.keeps x op' hop'
    have hqueued : s.heap x = some op₂ := by
      rw [← s.queueRequest_heap_of_ne (hsends ha) op₁ callback now]
      exact hop₂
    obtain rfl := Option.some.inj (hop.symm.trans hqueued)
    exact hsame.requestBuffer
  | @answered r q rop op₀ _ hr _ hq _ _ hanswered =>
    by_cases hxq : x = q
    · subst hxq
      obtain ⟨op₁, hop₁, -, -, hbuffer, -⟩ := hanswered.attached
      obtain rfl := Option.some.inj (hop'.symm.trans hop₁)
      obtain rfl := Option.some.inj (hop.symm.trans hq)
      exact hbuffer
    · by_cases hxr : x = r
      · subst hxr
        rw [hanswered.response hxq, hop, Option.map_some, Option.some.injEq] at hop'
        rw [← hop']
      · rw [hanswered.others x hxq hxr] at hop'
        obtain rfl := Option.some.inj (hop.symm.trans hop')
        rfl
  | expired _ hq _ hcalled => exact hkept (hcalled.keeps hq) hop'
  | flushed hdropped => exact hkept hdropped.keeps hop'

namespace World

-- A call sends what the caller owns.
theorem step_request {w w' : World} {a : Call} (h : step w a = some w') :
    ∀ e ∈ a.request?, e.1 ∈ w.owned := by
  simp only [step, Option.ite_none_right_eq_some] at h
  cases a <;> simp_all [allowed, Call.request?]

theorem Inv.lt_next {w : World} (hw : w.Inv) {q : OpRef} (hq : q ∈ w.owned ∨ q ∈ w.received) :
    q < w.next := by
  obtain ⟨op, hop⟩ := hw.live_of_mem (hq.imp_right .inl)
  exact hw.balanced.bound q op hop

-- References are not used again.
theorem step_next {w w' : World} {a : Call} (hw : w.Inv) (h : step w a = some w') :
    w.next ≤ w'.next := by
  have hstep := step_spec hw h
  by_contra hge
  have hlt : w'.next < w.next := Nat.not_le.mp hge
  have hbefore := hw.operations w'.next
  have hafter := hstep.inv.operations w'.next
  rw [if_pos hlt] at hbefore
  rw [if_neg (Nat.lt_irrefl _)] at hafter
  have hle := hstep.change.trace_suffix.sublist.count_le (.alloc (.operation w'.next))
  omega

-- What is received is new, carries the message, and belongs to nobody else.
theorem step_received {w w' : World} {a : Call} (h : step w a = some w') {r : OpRef}
    (hr : r ∈ w'.received) : r ∈ w.received ∨
      ∃ mallocOk allocBufOk cport data, a = .receive mallocOk allocBufOk cport data ∧
        r = w.next ∧ w'.heap r = some (.fresh cport data) ∧ w'.owned = w.owned ∧
        w.next < w'.next := by
  simp only [step, Option.ite_none_right_eq_some] at h
  cases a with
  | receive mallocOk allocBufOk cport data =>
    obtain ⟨-, h⟩ := h
    obtain rfl := Option.some.inj h
    rcases gbRxCreateOperation_cases w.toOperations mallocOk allocBufOk cport data with
      hres | ⟨-, hres⟩
    · simp only [hres, Option.toList_none, List.nil_append] at hr
      exact .inl hr
    · simp only [hres, Option.toList_some, List.singleton_append, List.mem_cons] at hr
      rcases hr with rfl | hr
      · refine .inr ⟨mallocOk, allocBufOk, cport, data, rfl, rfl, ?_, rfl, ?_⟩ <;>
          simp [hres, Operations.addOperation]
      · exact .inl hr
  | create =>
    obtain ⟨-, h⟩ := h
    obtain rfl := Option.some.inj h
    exact .inl hr
  | process r' =>
    obtain ⟨-, h⟩ := h
    obtain ⟨res, -, rfl⟩ := Option.map_eq_some_iff.mp h
    exact .inl (List.mem_of_mem_erase hr)
  | _ =>
    obtain ⟨-, h⟩ := h
    simp only [exec, Option.map_eq_some_iff, Option.some.injEq] at h
    grind

-- What a call creates belongs to its caller.
theorem step_owned {w w' : World} {a : Call} (hw : w.Inv) (h : step w a = some w') {q : OpRef}
    (hq : q ∈ w'.owned) : q ∈ w.owned ∨ q = w.next := by
  simpa [or_comm] using (step_spec hw h).owned.subset hq

/-! ## What a call sends -/

theorem gbOperationUnref_assigned {s s' : Operations} {q : OpRef}
    (h : s.gbOperationUnref q = some s') : s'.assigned = s.assigned := by
  obtain ⟨res, -, rfl⟩ := Option.map_eq_some_iff.mp h
  rw [Operations.assigned, List.filterMap_append, filterMap_memory (by simp [Event.isMemory]),
    List.nil_append]
  rfl

-- A request that asks for a response gets the next id.
theorem gbOperationSendRequest_assigned {s : Operations} {q : OpRef} {op : Operation}
    (hq : s.heap q = some op) (hexit : s.exitWorker op.cport = false) {callback : Option Callback}
    {now : Timespec} {sendRet : Int} {res : Int × Operations}
    (h : s.gbOperationSendRequest q callback true now sendRet = some res) :
    res.2.assigned = (q, (takeRequestId s.requestId).1) :: s.assigned := by
  simp only [gbOperationSendRequest, hq, Option.bind_some, hexit, Bool.false_eq_true, if_false,
    if_true] at h
  split at h
  next => cases h
  next =>
    split at h
    next =>
      obtain ⟨s', hunref, rfl⟩ := Option.map_eq_some_iff.mp h
      exact gbOperationUnref_assigned hunref
    next =>
      obtain rfl := Option.some.inj h
      rfl

theorem handsOver_eq_some {w : World} {q : OpRef} {needResponse : Bool} {m : Message}
    (h : w.handsOver q needResponse = some m) : ∃ op, w.heap q = some op ∧
      w.exitWorker op.cport = false ∧
      m.hdr.id = if needResponse then (takeRequestId w.requestId).1 else 0 := by
  obtain ⟨op, hop, h⟩ := Option.bind_eq_some_iff.mp h
  split at h
  next => cases h
  next hexit =>
    obtain rfl := Option.some.inj h
    exact ⟨op, hop, by simpa using hexit, rfl⟩

-- What goes out has no id, or has the one that it has been given.
theorem step_outgoing {w w' : World} {a : Call} (h : step w a = some w') {e : Outgoing}
    (he : e ∈ w.outgoing a) : e.message.hdr.id = 0 ∨
      w'.assigned.reverse[e.number]? = some (e.sender, e.message.hdr.id) := by
  obtain ⟨⟨q, needResponse⟩, ha, hmap⟩ := Option.bind_eq_some_iff.mp he
  obtain ⟨m, hm, rfl⟩ := Option.map_eq_some_iff.mp hmap
  obtain ⟨op, hop, hexit, hid⟩ := handsOver_eq_some hm
  cases needResponse with
  | false => exact .inl hid
  | true =>
    right
    suffices hassigned : w'.assigned = (q, m.hdr.id) :: w.assigned by
      rw [hassigned, getElem?_reverse_cons_self]
    rw [hid, if_pos rfl]
    simp only [step, Option.ite_none_right_eq_some] at h
    obtain ⟨-, h⟩ := h
    cases a with
    | send p callback need now sendRet =>
      obtain ⟨rfl, rfl⟩ : p = q ∧ need = true := by simpa [Call.request?] using ha
      obtain ⟨res, hres, rfl⟩ := Option.map_eq_some_iff.mp h
      exact gbOperationSendRequest_assigned hop hexit hres
    | sendSync p now sendRet =>
      obtain rfl : p = q := by simpa [Call.request?] using ha
      obtain ⟨res, hres, rfl⟩ := Option.map_eq_some_iff.mp h
      simp only [gbOperationSendRequestSync, hop, Option.bind_some] at hres
      have hinit := setOp_heap_self w.toOperations p { op with syncSem := 0 }
      exact gbOperationSendRequest_assigned hinit hexit hres
    | _ => cases ha

-- A request that asks for no response leaves the ids alone, if it is not waiting for one.
theorem step_ids_oneway {w w' : World} {q : OpRef} {callback : Option Callback} {now : Timespec}
    {sendRet : Int} (hw : w.Inv) (hi : w.Ids) (hpending : w.isPending q = false)
    (h : step w (.send q callback false now sendRet) = some w') : w'.Ids := by
  obtain ⟨hinv, hchange, -⟩ := step_spec hw h
  have hassigned : w'.requestId = w.requestId ∧ w'.assigned = w.assigned := by
    rcases hchange.assigned with hsame | ⟨p, hsends, -⟩
    · exact hsame
    · cases hsends
  refine ⟨by rw [hassigned.1, hassigned.2]; exact hi.counter, hassigned.2 ▸ hi.numbered, ?_⟩
  intro c p hp
  have hold : p ∈ w.txFifo c := (hchange.fifo hp).resolve_right fun hnew => by cases hnew.1
  obtain ⟨id, hid, hlatest⟩ := hi.latest c p hold
  refine ⟨id, ?_, hassigned.2 ▸ hlatest⟩
  obtain ⟨op, hop, -⟩ := hw.fifo c p hold
  obtain ⟨op', hop', -⟩ := hinv.fifo c p hp
  have hne : q ≠ p := by
    rintro rfl
    rw [hw.isPending_iff.mpr ⟨c, hold⟩] at hpending
    cases hpending
  have hbuffer := hchange.requestBuffer (by simpa [Call.request?] using hne) hop hop'
  rw [← hid, Operations.idOf, hop', Operations.idOf, hop, Option.map_some, Option.map_some, hbuffer]

-- A request that waits has an id.
theorem Ids.ne_zero {w : World} (hi : w.Ids) {c : Nat} {p : OpRef} (hp : p ∈ w.txFifo c)
    {id : UInt16} (hid : w.idOf p = some id) : id ≠ 0 := by
  obtain ⟨id', hid', hlatest⟩ := hi.latest c p hp
  obtain ⟨n, hn⟩ := hi.numbered.eq_of_mem (List.mem_of_getElem? hlatest)
  rw [Option.some.inj (hid.symm.trans hid')]
  exact ne_of_eq_of_ne hn (nthId_ne_zero n)

/-! ## What a response answers -/

-- A response that is attached has been before, or is a received one with the id of the operation.
theorem step_attached {w w' : World} {a : Call} (hw : w.Inv) (h : step w a = some w')
    {p r : OpRef} (hp : w'.responseOf p = some r) : w.responseOf p = some r ∨
      ∃ rop op, a = .process r ∧ r ∈ w.received ∧ w.heap r = some rop ∧
        rop.requestBuffer.hdr.type &&& responseFlag ≠ 0 ∧ p ∈ w.txFifo rop.cport ∧
        w.heap p = some op ∧ op.requestBuffer.hdr.id = rop.requestBuffer.hdr.id := by
  have hstep := step_spec hw h
  rcases hstep.change.attached hp with hold | ⟨-, rfl, -⟩
  · exact .inl hold
  obtain ⟨hr, -, res, hrun, hops⟩ := step_process h
  obtain ⟨rop, hrop⟩ := hw.live_of_mem (.inr (.inl hr))
  simp only [processMessage, hrop, Option.bind_some] at hrun
  split at hrun
  next hflag =>
    rcases gbProcessResponse_sound hw hrop with ⟨hnone, -⟩ | ⟨q, op, s', hsome, hin, hq, -, hid, -,
      hanswered⟩
    · rw [hnone, Option.some.injEq] at hrun
      rw [hops, ← hrun] at hp
      exact .inl hp
    · rw [hsome, Option.some.injEq] at hrun
      rw [hops, ← hrun] at hp
      by_cases hpq : p = q
      · subst hpq
        exact .inr ⟨rop, op, rfl, hr, hrop, hflag, hin, hq, hid⟩
      · left
        by_cases hpr : p = r
        · subst hpr
          simpa [responseOf, hanswered.response hpq, hrop] using hp
        · rwa [responseOf, hanswered.others p hpq hpr] at hp
  next =>
    obtain rfl := Option.some.inj hrun
    rw [hops] at hp
    exact .inl hp

end World

namespace Exchange

/-! ## The invariant -/

/-- The reply `e` has come in as the operation `r`. -/
def Carries (x : Exchange) (r : OpRef) (e : Reply) : Prop :=
  x.origin r = some e ∧ ∀ op, x.client.heap r = some op → op.requestBuffer = e.message

/-- If the operation `r` has received a response, `origin` tells which reply that is. -/
def Tells (x : Exchange) (r : OpRef) : Prop :=
  ∀ op, x.client.heap r = some op →
    (op.requestBuffer.hdr.type &&& responseFlag ≠ 0 → ∃ e, x.origin r = some e) ∧
      ∀ e, x.origin r = some e → op.requestBuffer = e.message

structure Inv (x : Exchange) : Prop where
  client : x.client.Inv
  ids : x.client.Ids
  requests : ∀ e ∈ x.requests, e.message.hdr.id = 0 ∨
    x.client.assigned.reverse[e.number]? = some (e.sender, e.message.hdr.id)
  replies : ∀ e ∈ x.replies, e.request ∈ x.requests ∧ SendsReply e.request.message e.message
  origin : ∀ r e, x.origin r = some e →
    e ∈ x.replies ∧ r < x.client.next ∧ r ∉ x.client.owned
  received : ∀ r ∈ x.client.received, r ∉ x.client.owned ∧ x.Tells r
  attached : ∀ p r, x.client.responseOf p = some r → ∃ e, x.Carries r e ∧ e.request.sender = p

theorem initial_inv (cportCount : Nat) : (Exchange.initial cportCount).Inv where
  client := World.initial_inv cportCount
  ids := World.initial_ids cportCount
  requests := by simp [Exchange.initial]
  replies := by simp [Exchange.initial]
  origin := by simp [Exchange.initial]
  received := by simp [Exchange.initial, World.initial]
  attached := by simp [Exchange.initial, World.initial, Operations.gbInit, Operations.responseOf]

/-- The message that the client's worker takes. -/
def Action.processed? : Action → Option OpRef
  | .call (.process r) => some r
  | _ => none

/-- When the worker comes to a reply, fewer than 65535 ids have been assigned since its request got
one, and since any request got its own that waits on the same cport. -/
def Timely (x : Exchange) (a : Action) (_ : Exchange) : Prop :=
  ∀ r ∈ a.processed?, ∀ e ∈ x.origin r, e.message.hdr.id ≠ 0 →
    x.client.assigned.length ≤ e.request.number + 65535 ∧
      ∀ op ∈ x.client.heap r, ∀ q ∈ x.client.txFifo op.cport, since x.client.assigned q < 65535

instance (x : Exchange) (a : Action) (x' : Exchange) : Decidable (x.Timely a x') :=
  inferInstanceAs (Decidable (∀ r ∈ a.processed?, ∀ e ∈ x.origin r, _ → _ ∧ _))

-- The request that a reply belongs to, when the reply has the id of an operation that waits.
theorem Inv.number_eq {x : Exchange} (hx : x.Inv) {e : Reply} (he : e ∈ x.replies) {c : Nat}
    {p : OpRef} (hp : p ∈ x.client.txFifo c) (hid : x.client.idOf p = some e.message.hdr.id)
    (hold : x.client.assigned.length ≤ e.request.number + 65535) (hrecent : x.client.Recent c) :
    e.request.sender = p ∧
      e.request.number + 1 + since x.client.assigned p = x.client.assigned.length := by
  obtain ⟨id, hid', hlatest⟩ := hx.ids.latest c p hp
  obtain rfl := Option.some.inj (hid.symm.trans hid')
  obtain ⟨hrequest, hsends⟩ := hx.replies e he
  have hanswers := hsends.answersTo.id
  have hgiven := hlatest.getElem?_reverse
  have hpassed : since x.client.assigned p < 65535 := hrecent p hp
  have hlt : since x.client.assigned p < x.client.assigned.length :=
    (List.getElem?_eq_some_iff.mp hlatest).1
  have hnonzero : e.request.message.hdr.id ≠ 0 := hanswers ▸ hx.ids.ne_zero hp hid
  have hentry := (hx.requests e.request hrequest).resolve_left hnonzero
  have hsame : e.request.number = x.client.assigned.length - 1 - since x.client.assigned p :=
    hx.ids.numbered.eq_of_recent (fun _ _ => nthId_ne) hentry hgiven hold (by omega) hanswers.symm
  rw [hsame, hgiven, Option.some.injEq, Prod.mk.injEq] at hentry
  exact ⟨hentry.1.symm, by omega⟩

/-! ## What a step keeps -/

-- A reply that has come in stays what it is.
theorem Inv.carries {x x' : Exchange} (hx : x.Inv) {a : Call}
    (hstep : x.client.step a = some x'.client)
    (horigin : ∀ r, r ≠ x.client.next → x'.origin r = x.origin r) {r : OpRef} {e : Reply}
    (he : x.Carries r e) {op : Operation} (hop : x.client.heap r = some op) : x'.Carries r e := by
  obtain ⟨-, hlt, howned⟩ := hx.origin r e he.1
  refine ⟨(horigin r (Nat.ne_of_lt hlt)).trans he.1, fun op' hop' => ?_⟩
  have hsent : ∀ e ∈ a.request?, e.1 ≠ r := by
    rintro e hrequest rfl
    exact howned (World.step_request hstep e hrequest)
  rw [(World.step_spec hx.client hstep).change.requestBuffer hsent hop hop']
  exact he.2 op hop

/-- What a call may do to `origin`: it tells about what the client receives with that call. -/
structure Extends (x x' : Exchange) : Prop where
  old : ∀ r, r ≠ x.client.next → x'.origin r = x.origin r
  new : ∀ e, x'.origin x.client.next = some e → e ∈ x.replies ∧
    x.client.next < x'.client.next ∧ x.client.next ∉ x'.client.owned
  received : x.client.next ∈ x'.client.received → x'.Tells x.client.next

theorem Inv.of_client {x x' : Exchange} (hx : x.Inv) {a : Call}
    (hstep : x.client.step a = some x'.client) (hids : x'.client.Ids)
    (hrequests : x'.requests = (x.client.outgoing a).toList ++ x.requests)
    (hreplies : x'.replies = x.replies) (hextends : x.Extends x') (htimely : x.Timely (.call a) x') :
    x'.Inv := by
  have hspec := World.step_spec hx.client hstep
  refine ⟨hspec.inv, hids, ?_, ?_, ?_, ?_, ?_⟩
  case refine_1 =>
    intro e he
    rw [hrequests, List.mem_append, Option.mem_toList] at he
    rcases he with hnew | hold
    · exact World.step_outgoing hstep hnew
    · refine (hx.requests e hold).imp_right fun hentry => ?_
      rcases hspec.change.assigned with ⟨-, hsame⟩ | ⟨q, -, -, -, hcons⟩
      · rw [hsame]
        exact hentry
      · rw [hcons]
        exact getElem?_reverse_cons hentry _
  case refine_2 =>
    intro e he
    obtain ⟨hrequest, hsends⟩ := hx.replies e (hreplies ▸ he)
    exact ⟨hrequests ▸ List.mem_append_right _ hrequest, hsends⟩
  case refine_3 =>
    intro r e he
    by_cases hr : r = x.client.next
    · subst hr
      exact hreplies ▸ hextends.new e he
    · obtain ⟨hmem, hlt, howned⟩ := hx.origin r e (hextends.old r hr ▸ he)
      refine ⟨hreplies ▸ hmem, hlt.trans_le (World.step_next hx.client hstep), fun hin => ?_⟩
      exact (World.step_owned hx.client hstep hin).elim howned hr
  case refine_4 =>
    intro r hr
    rcases World.step_received hstep hr with hold | ⟨_, _, _, _, -, rfl, -, howned, -⟩
    · obtain ⟨hown, htold⟩ := hx.received r hold
      have hlt := hx.client.lt_next (.inr hold)
      refine ⟨fun hin => ?_, fun op' hop' => ?_⟩
      · exact (World.step_owned hx.client hstep hin).elim hown (Nat.ne_of_lt hlt)
      · obtain ⟨op, hop⟩ := hx.client.live_of_mem (.inr (.inl hold))
        have hsent : ∀ e ∈ a.request?, e.1 ≠ r := by
          rintro e hrequest rfl
          exact hown (World.step_request hstep e hrequest)
        rw [hspec.change.requestBuffer hsent hop hop', hextends.old r (Nat.ne_of_lt hlt)]
        exact htold op hop
    · refine ⟨fun hin => ?_, hextends.received hr⟩
      rw [howned] at hin
      exact Nat.lt_irrefl _ (hx.client.lt_next (.inl hin))
  case refine_5 =>
    intro p r hp
    rcases World.step_attached hx.client hstep hp with
      hold | ⟨rop, op, rfl, hr, hrop, hflag, hin, hop, hid⟩
    · obtain ⟨e, he, hsender⟩ := hx.attached p r hold
      obtain ⟨op, hop⟩ := hx.client.attached_live hold
      exact ⟨e, hx.carries hstep hextends.old he hop, hsender⟩
    · obtain ⟨e, he⟩ := ((hx.received r hr).2 rop hrop).1 hflag
      have hbuffer := ((hx.received r hr).2 rop hrop).2 e he
      have hpid : x.client.idOf p = some e.message.hdr.id := by
        rw [Operations.idOf, hop, Option.map_some, hid, hbuffer]
      obtain ⟨hold, hrecent⟩ := htimely r rfl e he (hx.ids.ne_zero hin hpid)
      have hsender := (hx.number_eq (hx.origin r e he).1 hin hpid hold (hrecent rop hrop)).1
      have hcarries : x.Carries r e := ⟨he, fun op' hop' => by
        obtain rfl := Option.some.inj (hrop.symm.trans hop')
        exact hbuffer⟩
      exact ⟨e, hx.carries hstep hextends.old hcarries hrop, hsender⟩

theorem Inv.message_eq {x : Exchange} (hx : x.Inv) {r : OpRef} {e : Reply}
    (he : x.origin r = some e) (hr : r ∈ x.client.received) {op : Operation}
    (hop : x.client.heap r = some op) : op.requestBuffer = e.message :=
  ((hx.received r hr).2 op hop).2 e he

theorem Inv.origin_next {x : Exchange} (hx : x.Inv) : x.origin x.client.next = none := by
  cases h : x.origin x.client.next with
  | none => rfl
  | some e => exact absurd (hx.origin _ e h).2.1 (Nat.lt_irrefl _)

theorem inv_call {x x' : Exchange} {a : Call} (hx : x.Inv) (h : x.step (.call a) = some x')
    (htimely : x.Timely (.call a) x') : x'.Inv := by
  simp only [step, Option.ite_none_right_eq_some] at h
  obtain ⟨hallowed, hmap⟩ := h
  obtain ⟨w, hstep, rfl⟩ := Option.map_eq_some_iff.mp hmap
  have hids : w.Ids := by
    cases hneeds : a.needsResponse with
    | true => exact World.step_ids hx.client hx.ids hstep hneeds
    | false =>
      cases a with
      | send q callback needResponse now sendRet =>
        obtain rfl : needResponse = false := hneeds
        exact World.step_ids_oneway hx.client hx.ids (by simpa [allowed] using hallowed) hstep
      | _ => cases hneeds
  refine hx.of_client hstep hids rfl rfl ⟨fun _ _ => rfl, fun e he => ?_, ?_⟩ htimely
  · cases hx.origin_next.symm.trans he
  · intro hr op hop
    rcases World.step_received hstep hr with hold | ⟨_, _, cport, data, rfl, -, hfresh, -⟩
    · exact absurd (hx.client.lt_next (.inr hold)) (Nat.lt_irrefl _)
    · obtain rfl := Option.some.inj (hop.symm.trans hfresh)
      have hrequest : data.hdr.type &&& responseFlag = 0 := by simpa [allowed] using hallowed
      exact ⟨fun hflag => absurd hrequest hflag, fun e he => by cases hx.origin_next.symm.trans he⟩

-- Only the payload is stored.
theorem fillRequest_spec {s s' : Operations} {q : OpRef} {bytes : List UInt8}
    (h : s.fillRequest q bytes = some s') : ∃ op op', s.heap q = some op ∧ s' = s.setOp q op' ∧
      op'.cport = op.cport ∧ op'.response = op.response ∧
      op'.responseBuffer = op.responseBuffer ∧ op'.refCount = op.refCount ∧
      op'.requestBuffer.hdr = op.requestBuffer.hdr := by
  obtain ⟨op, hop, rfl⟩ := Option.map_eq_some_iff.mp h
  exact ⟨op, _, hop, rfl, rfl, rfl, rfl, rfl, rfl⟩

theorem inv_fill {x x' : Exchange} {q : OpRef} {bytes : List UInt8} (hx : x.Inv)
    (h : x.step (.fill q bytes) = some x') : x'.Inv := by
  simp only [step, Option.ite_none_right_eq_some] at h
  obtain ⟨howned, hmap⟩ := h
  obtain ⟨s, hfill, rfl⟩ := Option.map_eq_some_iff.mp hmap
  obtain ⟨op, op', hop, rfl, hcport, hresponse, hbuffer, hcount, hhdr⟩ := fillRequest_spec hfill
  have hpos : 0 < op'.refCount := hcount ▸ hx.client.balanced.pos q op hop
  have hkeep : ∀ r e, x.Carries r e → r ≠ q → ∀ x' : Exchange, x'.origin = x.origin →
      (∀ r, r ≠ q → x'.client.heap r = x.client.heap r) → x'.Carries r e := by
    intro r e he hr x' horigin hheap
    exact ⟨horigin ▸ he.1, fun op' hop' => he.2 op' (hheap r hr ▸ hop')⟩
  refine ⟨hx.client.modify hop hcport hresponse (hbuffer ▸ rfl) hpos (fun _ _ => rfl)
    (congrArg (· + _) hcount), ⟨hx.ids.counter,
    hx.ids.numbered, fun c p hp => ?_⟩, hx.requests, hx.replies, hx.origin, fun r hr => ?_,
    fun p r hp => ?_⟩
  · obtain ⟨id, hid, hlatest⟩ := hx.ids.latest c p hp
    refine ⟨id, ?_, hlatest⟩
    by_cases hpq : p = q
    · subst hpq
      simpa [Operations.idOf, Operations.setOp, hop, hhdr] using hid
    · simpa [Operations.idOf, Operations.setOp, hpq] using hid
  · obtain ⟨hown, htold⟩ := hx.received r hr
    have hrq : r ≠ q := fun hsame => hown (hsame ▸ howned)
    refine ⟨hown, fun op' hop' => ?_⟩
    simp only [Operations.setOp, Function.update_of_ne hrq] at hop'
    exact htold op' hop'
  · have hold : x.client.responseOf p = some r := (responseOf_setOp hop hresponse p).symm.trans hp
    obtain ⟨e, he, hsender⟩ := hx.attached p r hold
    have hrq : r ≠ q := fun hsame => (hx.origin r e he.1).2.2 (hsame ▸ howned)
    exact ⟨e, hkeep r e he hrq _ rfl fun r hr => Function.update_of_ne hr .., hsender⟩

theorem inv_serve {x x' : Exchange} {i : Nat} {core : Core} {tr : Transport} {cport : Nat}
    (hx : x.Inv) (h : x.step (.serve i core tr cport) = some x') : x'.Inv := by
  simp only [step, Option.bind_eq_some_iff, Option.ite_none_right_eq_some,
    Option.map_eq_some_iff] at h
  obtain ⟨request, hrequest, -, p, hrun, rfl⟩ := h
  refine ⟨hx.client, hx.ids, hx.requests, fun e he => ?_, fun r e he => ?_, hx.received,
    hx.attached⟩
  · rcases List.mem_append.mp he with hnew | hold
    · obtain ⟨sent, hsent, rfl⟩ := List.mem_map.mp hnew
      exact ⟨List.mem_of_getElem? hrequest, core, tr, cport, p, hrun, sent, hsent, rfl⟩
    · exact hx.replies e hold
  · obtain ⟨hmem, hrest⟩ := hx.origin r e he
    exact ⟨List.mem_append_right _ hmem, hrest⟩

theorem inv_deliver {x x' : Exchange} {i : Nat} {mallocOk allocBufOk : Bool} {cport : Nat}
    (hx : x.Inv) (h : x.step (.deliver i mallocOk allocBufOk cport) = some x') : x'.Inv := by
  simp only [step, Option.bind_eq_some_iff, Option.map_eq_some_iff] at h
  obtain ⟨reply, hreply, w, hstep, rfl⟩ := h
  refine hx.of_client hstep (World.step_ids hx.client hx.ids hstep rfl) rfl rfl
    ⟨fun r hr => ?_, fun e he => ?_, fun hr op hop => ?_⟩ (fun _ hr => by cases hr)
  · split
    next => exact Function.update_of_ne hr ..
    next => rfl
  · split at he
    next hlt =>
      simp only [Function.update_self, Option.some.injEq] at he
      refine ⟨he ▸ List.mem_of_getElem? hreply, hlt, fun hin => ?_⟩
      obtain ⟨-, rfl⟩ : _ ∧ _ = w := by
        simpa only [World.step, Option.ite_none_right_eq_some, World.exec, Option.some.injEq]
          using hstep
      exact Nat.lt_irrefl _ (hx.client.lt_next (.inl hin))
    next => cases hx.origin_next.symm.trans he
  · rcases World.step_received hstep hr with hold | ⟨_, _, _, data, hsame, -, hfresh, -, hlt⟩
    · exact absurd (hx.client.lt_next (.inr hold)) (Nat.lt_irrefl _)
    · obtain ⟨-, -, -, rfl⟩ := Call.receive.inj hsame
      obtain rfl := Option.some.inj (hop.symm.trans hfresh)
      simp only [if_pos hlt, Function.update_self, Option.some.injEq]
      exact ⟨fun _ => ⟨reply, rfl⟩, fun e he => he ▸ rfl⟩

theorem step_inv {x x' : Exchange} {a : Action} (hx : x.Inv) (h : x.step a = some x')
    (htimely : x.Timely a x') : x'.Inv := by
  cases a with
  | call a => exact inv_call hx h htimely
  | fill => exact inv_fill hx h
  | serve => exact inv_serve hx h
  | deliver => exact inv_deliver hx h

/-! ## Every run -/

/-- The operation that has sent the request waits for this reply on the cport. -/
def Awaits (x : Exchange) (e : Reply) (cport : Nat) : Prop :=
  e.request.sender ∈ x.client.txFifo cport ∧
    e.request.number + 1 + since x.client.assigned e.request.sender = x.client.assigned.length

structure OwnReplies (x : Exchange) : Prop where
  -- A response is what a server has sent when it processed a request of that very operation.
  own : ∀ p r, x.client.responseOf p = some r → ∃ e op, e ∈ x.replies ∧ e.request ∈ x.requests ∧
    e.request.sender = p ∧ SendsReply e.request.message e.message ∧
    e.message.AnswersTo e.request.message.hdr ∧
    x.client.heap r = some op ∧ op.requestBuffer = e.message
  -- A reply that is waited for completes its operation.
  completes : ∀ r rop e x', x.step (.call (.process r)) = some x' →
    x.Timely (.call (.process r)) x' → x.client.heap r = some rop → x.origin r = some e →
    e.message.hdr.id ≠ 0 → x.Awaits e rop.cport →
    x'.client.responseOf e.request.sender = some r
  -- Any other reply, a duplicate or one that is late, is attached to nothing.
  ignores : ∀ r rop e x', x.step (.call (.process r)) = some x' →
    x.Timely (.call (.process r)) x' → x.client.heap r = some rop → x.origin r = some e →
    ¬ x.Awaits e rop.cport → ∀ p, x'.client.responseOf p = x.client.responseOf p

-- A reply that is processed has been received, and is a response.
theorem step_process_spec {x x' : Exchange} {r : OpRef} (h : x.step (.call (.process r)) = some x') :
    x.client.step (.process r) = some x'.client ∧ r ∈ x.client.received := by
  simp only [step, Option.ite_none_right_eq_some] at h
  obtain ⟨w, hstep, rfl⟩ := Option.map_eq_some_iff.mp h.2
  exact ⟨hstep, (World.step_process hstep).1⟩

theorem Inv.ownReplies {x : Exchange} (hx : x.Inv) : x.OwnReplies where
  own p r hp := by
    obtain ⟨e, he, hsender⟩ := hx.attached p r hp
    obtain ⟨op, hop⟩ := hx.client.attached_live hp
    have hmem := (hx.origin r e he.1).1
    obtain ⟨hrequest, hsends⟩ := hx.replies e hmem
    exact ⟨e, op, hmem, hrequest, hsender, hsends, hsends.answersTo, hop, he.2 op hop⟩
  completes r rop e x' h htimely hrop he hnonzero hawaits := by
    obtain ⟨hstep, hr⟩ := step_process_spec h
    obtain ⟨hin, hnumber⟩ := hawaits
    have hmem := (hx.origin r e he).1
    obtain ⟨hrequest, hsends⟩ := hx.replies e hmem
    have hbuffer : rop.requestBuffer = e.message := hx.message_eq he hr hrop
    -- the operation still has the id that its request was given
    have hid : x.client.idOf e.request.sender = some rop.requestBuffer.hdr.id := by
      obtain ⟨id, hid, hlatest⟩ := hx.ids.latest _ _ hin
      have hentry := (hx.requests e.request hrequest).resolve_left
        (hsends.answersTo.id ▸ hnonzero)
      have hgiven := hlatest.getElem?_reverse
      rw [show x.client.assigned.length - 1 - since x.client.assigned e.request.sender
        = e.request.number by omega, hentry, Option.some.injEq, Prod.mk.injEq] at hgiven
      rw [hid, hbuffer, hsends.answersTo.id, ← hgiven.2]
    have hflag : rop.requestBuffer.hdr.type &&& responseFlag ≠ 0 :=
      hbuffer ▸ hsends.answersTo.isResponse
    obtain ⟨q, op, -, -, -, -, hanswered, hq⟩ :=
      (World.pairsResponses hx.client hx.ids).answers r rop _ hstep hrop hflag _ hin hid
    obtain rfl := hq ((htimely r rfl e he hnonzero).2 rop hrop)
    exact hanswered.responseOf
  ignores r rop e x' h htimely hrop he hawaits p := by
    obtain ⟨hstep, hr⟩ := step_process_spec h
    have hmem := (hx.origin r e he).1
    have hbuffer : rop.requestBuffer = e.message := hx.message_eq he hr hrop
    have hflag : rop.requestBuffer.hdr.type &&& responseFlag ≠ 0 :=
      hbuffer ▸ (hx.replies e hmem).2.answersTo.isResponse
    have hnone : ∀ q ∈ x.client.txFifo rop.cport,
        x.client.idOf q ≠ some rop.requestBuffer.hdr.id := by
      intro q hq hid
      rw [hbuffer] at hid
      obtain ⟨hold, hrecent⟩ := htimely r rfl e he (hx.ids.ne_zero hq hid)
      obtain ⟨hsender, hnumber⟩ := hx.number_eq hmem hq hid hold (hrecent rop hrop)
      exact hawaits ⟨hsender ▸ hq, hsender ▸ hnumber⟩
    rw [(World.pairsResponses hx.client hx.ids).ignores r rop _ hstep hrop hflag hnone]

/-- In every run in which replies are processed in time, whatever order they come in, on whatever
cport and however often, a response that is attached to an operation is one that a server has sent
for a request of that operation; a reply that is waited for completes its operation, and any other
is ignored. -/
theorem run_ownReplies {cportCount : Nat} {x : Exchange} {as : List Action}
    (hrun : run step (.initial cportCount) as = some x)
    (htimely : EachStep step Timely (.initial cportCount) as) : x.OwnReplies :=
  Inv.ownReplies (run_induct_of_eachStep (fun _ _ _ hx h ht => step_inv hx h ht)
    (initial_inv cportCount) htimely hrun)

/-- Two requests, of which the later one is answered first and twice. -/
def crossing : List Action :=
  [.call (.create true true 0 1 2), .fill 0 [7, 9], .call (.create true true 0 1 0),
   .call (.send 0 none true ⟨0, 0⟩ 0), .call (.sendSync 1 ⟨0, 0⟩ 0),
   .serve 0 (oneHandlerCore versionHandler) reliableTransport 3,
   .serve 1 (oneHandlerCore versionHandler) reliableTransport 3,
   .deliver 1 true true 0, .deliver 1 true true 0, .deliver 0 true true 0,
   .call (.process 2), .call (.process 3), .call (.process 4)]

theorem run_ownReplies_crossing :
    ∃ x, run step (.initial 1) crossing = some x ∧ x.client.responseOf 0 = some 4 ∧
      x.client.responseOf 1 = some 2 ∧ x.OwnReplies := by
  have hsome : ((run step (.initial 1) crossing).map fun x =>
      (x.client.responseOf 0, x.client.responseOf 1)) = some (some 4, some 2) := by decide
  obtain ⟨x, hrun, hresponses⟩ := Option.map_eq_some_iff.mp hsome
  obtain ⟨h₀, h₁⟩ := Prod.mk.inj hresponses
  exact ⟨x, hrun, h₀, h₁, run_ownReplies hrun (by decide)⟩

end Exchange

end Greybus
