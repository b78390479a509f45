import Greybus.Core.Pairing
import Greybus.Core.References

/-!
# Servers of one kind

When every server is of one kind, a response that is attached to an operation is what a server of
that kind has computed from the operation's own request.
-/

namespace Greybus

open Operations Reasoning.Transition

/-! ## Messages but for their ids -/

/-- The message with another id. -/
def Message.withId (m : Message) (id : UInt16) : Message :=
  { m with hdr := { m.hdr with id := id } }

@[simp] theorem Message.withId_self (m : Message) : m.withId m.hdr.id = m := rfl

@[simp] theorem Message.withId_withId (m : Message) (id id' : UInt16) :
    (m.withId id).withId id' = m.withId id' := rfl

@[simp] theorem Message.withId_payload (m : Message) (id : UInt16) :
    (m.withId id).payload = m.payload := rfl

-- Sending an operation changes the id of its request, and no call changes more.
theorem Change.withId {s s' : Operations} {a : Call} (h : Change s a s') {x : OpRef}
    {op op' : Operation} (hop : s.heap x = some op) (hop' : s'.heap x = some op') :
    ∃ id, op'.requestBuffer = op.requestBuffer.withId id := by
  by_cases hx : ∀ e ∈ a.request?, e.1 ≠ x
  · exact ⟨op.requestBuffer.hdr.id, h.requestBuffer hx hop hop'⟩
  have hsame : ∀ {op₁ op₂ : Operation}, SameExchange op₁ op₂ →
      ∃ id, op₂.requestBuffer = op₁.requestBuffer.withId id :=
    fun h => ⟨_, h.requestBuffer⟩
  -- what `queueRequest` leaves in the heap
  have hqueued : ∀ {q : OpRef} {op₀ op₁ op₂ : Operation} {callback : Option Callback}
      {now : Timespec}, s.heap q = some op₀ → SameExchange op₀ op₁ →
      (s.queueRequest q op₁ callback now).heap x = some op₂ →
      ∃ id, op₂.requestBuffer = op.requestBuffer.withId id := by
    intro q op₀ op₁ op₂ callback now hq hsame₁ hop₂
    by_cases hxq : x = q
    · subst hxq
      obtain rfl := Option.some.inj (hop.symm.trans hq)
      simp only [queueRequest, appendTx, Operations.setTxFifo, Operations.setOp,
        Function.update_self, Option.some.injEq] at hop₂
      exact ⟨_, by rw [← hop₂, ← hsame₁.requestBuffer]; rfl⟩
    · rw [s.queueRequest_heap_of_ne hxq] at hop₂
      obtain rfl := Option.some.inj (hop.symm.trans hop₂)
      exact ⟨_, rfl⟩
  cases h with
  | quiet hquiet =>
    rcases hquiet.heap x op' hop' with ⟨op₀, hop₀, hkept⟩ | ⟨hnone, -⟩
    · obtain rfl := Option.some.inj (hop.symm.trans hop₀)
      exact hsame hkept
    · rw [hop] at hnone
      cases hnone
  | @unanswered q op₀ callback now sendRet hq =>
    by_cases hxq : x = q
    · subst hxq
      obtain rfl := Option.some.inj (hop.symm.trans hq)
      simp only [Operations.setOp, Function.update_self, Option.some.injEq] at hop'
      exact ⟨0, by rw [← hop']; rfl⟩
    · simp only [Operations.setOp, Function.update_of_ne hxq] at hop'
      obtain rfl := Option.some.inj (hop.symm.trans hop')
      exact ⟨_, rfl⟩
  | accepted _ hq _ hsame₁ => exact hqueued hq hsame₁ hop'
  | refused _ hq _ hsame₁ hdropped =>
    obtain ⟨op₂, hop₂, hkept⟩ := hdropped.keeps x op' hop'
    obtain ⟨id, hid⟩ := hqueued hq hsame₁ hop₂
    exact ⟨id, hkept.requestBuffer.trans hid⟩
  | answered | expired | flushed => exact absurd (fun e he => by cases he) hx

-- What goes out is the request, but for its id.
theorem World.outgoing_withId {w : World} {a : Call} {e : Outgoing} (he : e ∈ w.outgoing a) :
    ∃ op id, w.heap e.sender = some op ∧ e.message = op.requestBuffer.withId id := by
  obtain ⟨⟨q, needResponse⟩, -, hmap⟩ := Option.bind_eq_some_iff.mp he
  obtain ⟨m, hm, rfl⟩ := Option.map_eq_some_iff.mp hmap
  obtain ⟨op, hop, hm⟩ := Option.bind_eq_some_iff.mp hm
  split at hm
  next => cases hm
  next => exact ⟨op, _, hop, (Option.some.inj hm).symm⟩

-- What has been freed is not there again.
theorem World.step_gone {w w' : World} {a : Call} (hw : w.Inv) (h : step w a = some w') {q : OpRef}
    (hq : q < w.next) (hnone : w.heap q = none) : w'.heap q = none := by
  have hstep := step_spec hw h
  cases hlive : w'.heap q with
  | none => rfl
  | some op =>
    have hfreed := free_eq_alloc hw (r := .operation q) hnone
    rw [hw.operations, if_pos hq] at hfreed
    have hkept := free_eq_zero hstep.inv (r := .operation q) hlive
    have hle := hstep.change.trace_suffix.sublist.count_le (.free (.operation q))
    omega

/-! ## What a server sends -/

-- A request of a type that the table serves once is handled by that entry.
theorem gbProcessRequest_entry {core : Core} {cport : Nat} {d : DriverRef}
    {tab : List OperationHandler} (tr : Transport) {request : Message}
    (hd : (core.gCport cport).driver = some d) (htab : (core.drivers d).opHandlers = some tab)
    (hsorted : tab.Pairwise fun h₁ h₂ => gbCompareHandlers h₁ h₂ ≤ 0)
    (hping : request.hdr.type ≠ pingType) (hreserved : request.hdr.type ≠ invalidType)
    {f : Operation → HandlerProg} (hin : ⟨request.hdr.type, .handler f⟩ ∈ tab)
    (honly : ∀ h ∈ tab, h.type = request.hdr.type → h = ⟨request.hdr.type, .handler f⟩) :
    gbProcessRequest core tr (.start (.fresh cport request))
      = some (if request.hdr.id ≠ 0 then
          (gbOperationSendResponse core tr (callHandler core tr f (.start (.fresh cport request))).1
            (callHandler core tr f (.start (.fresh cport request))).2).2
        else (callHandler core tr f (.start (.fresh cport request))).2) := by
  obtain ⟨res, hres, hsound, hcomplete⟩ := findOperationHandler_sorted hd htab hsorted hreserved
  have hfound : res = some ⟨request.hdr.type, .handler f⟩ := by
    cases res with
    | none => exact absurd rfl (hcomplete rfl _ hin)
    | some h =>
      obtain ⟨hmem, htype⟩ := hsound h rfl
      rw [honly h hmem htype]
  rw [hfound] at hres
  have hbuffer : (Processing.start (.fresh cport request)).operation.requestBuffer = request := rfl
  have hcport : (Processing.start (.fresh cport request)).operation.cport = cport := rfl
  simp only [gbProcessRequest, hbuffer, hcport, if_neg hping, hres]
  split <;> rfl

-- What is sent is the response that has been prepared, or has no payload.
theorem gbOperationSendResponse_sends {core : Core} {tr : Transport} {result : UInt8}
    {p : Processing} {cport : Nat} {request : Message} (h : p.Prepared cport request) {sent : Sent}
    (hsent : sent ∈ (gbOperationSendResponse core tr result p).2.sends) :
    (∃ resp, p.operation.responseBuffer = some resp ∧
      sent.buf = { resp with hdr := { resp.hdr with result } }) ∨
    p.operation.responseBuffer = none ∧ sent.buf.payload = [] ∧ sent.buf.hdr.size = 8 ∧
      (sent.buf.hdr.result = result ∨ sent.buf.hdr.result = OperationResult.noMemory.code) := by
  have hcase := gbOperationSendResponse_responded core tr result p
  generalize gbOperationSendResponse core tr result p = res at hcase hsent
  cases hcase with
  | refused =>
    rw [h.unsent] at hsent
    cases hsent
  | buffer _ _ hresp hsends =>
    rw [hsends, h.unsent, List.nil_append, List.mem_singleton] at hsent
    subst hsent
    rcases hresp with hown | ⟨hnone, -, rfl⟩
    · exact .inl ⟨_, hown, rfl⟩
    · exact .inr ⟨hnone, rfl, rfl, .inl rfl⟩
  | oom _ _ hnone _ hsends =>
    rw [hsends, h.unsent, List.nil_append, List.mem_singleton] at hsent
    subst hsent
    exact .inr ⟨hnone, rfl, rfl, .inr rfl⟩

namespace Exchange

variable {Kind : Core → Transport → Nat → Prop} {x x' : Exchange} {a : Action}

/-! ## The invariant -/

/-- Who processes a request is a server of this kind. -/
def Action.ServedBy (Kind : Core → Transport → Nat → Prop) : Action → Prop
  | .serve _ core tr cport => Kind core tr cport
  | _ => True

/-- The operation whose request is filled in. -/
def Action.filled? : Action → Option OpRef
  | .fill q _ => some q
  | _ => none

/-- Nothing is stored into a request that has been sent. -/
def FillsUnsent (x : Exchange) (a : Action) (_ : Exchange) : Prop :=
  ∀ q ∈ a.filled?, ∀ e ∈ x.requests, e.sender ≠ q

instance (x : Exchange) (a : Action) (x' : Exchange) : Decidable (x.FillsUnsent a x') :=
  inferInstanceAs (Decidable (∀ q ∈ a.filled?, ∀ e ∈ x.requests, e.sender ≠ q))

/-- A server of this kind sends `reply` when it processes `request`. -/
def Computes (Kind : Core → Transport → Nat → Prop) (request reply : Message) : Prop :=
  ∃ core tr cport p, Kind core tr cport ∧
    gbProcessRequest core tr (.start (.fresh cport request)) = some p ∧
    ∃ sent ∈ p.sends, sent.buf = reply

structure Served (Kind : Core → Transport → Nat → Prop) (x : Exchange) : Prop where
  inv : x.Inv
  replies : ∀ e ∈ x.replies, Computes Kind e.request.message e.message
  sender : ∀ e ∈ x.requests, e.sender < x.client.next ∧
    ∀ op, x.client.heap e.sender = some op → ∃ id, e.message = op.requestBuffer.withId id

theorem initial_served (cportCount : Nat) : (Exchange.initial cportCount).Served Kind where
  inv := initial_inv cportCount
  replies := by simp [Exchange.initial]
  sender := by simp [Exchange.initial]

-- A call of the client adds what it sends to the requests.
theorem Served.of_client (hx : x.Served Kind) (hinv : x'.Inv) {a : Call}
    (hstep : x.client.step a = some x'.client) (hreplies : x'.replies = x.replies)
    (hrequests : ∀ e ∈ x'.requests, e ∈ x.client.outgoing a ∨ e ∈ x.requests) :
    x'.Served Kind := by
  have hspec := World.step_spec hx.inv.client hstep
  have hnext := World.step_next hx.inv.client hstep
  refine ⟨hinv, fun e he => hx.replies e (hreplies ▸ he), fun e he => ?_⟩
  rcases hrequests e he with hnew | hold
  · obtain ⟨op, id, hop, hmessage⟩ := World.outgoing_withId hnew
    refine ⟨(hx.inv.client.balanced.bound _ op hop).trans_le hnext, fun op' hop' => ?_⟩
    obtain ⟨id', hid'⟩ := hspec.change.withId hop hop'
    exact ⟨id, by rw [hid', Message.withId_withId, hmessage]⟩
  · obtain ⟨hlt, hkept⟩ := hx.sender e hold
    refine ⟨hlt.trans_le hnext, fun op' hop' => ?_⟩
    cases hop : x.client.heap e.sender with
    | none =>
      rw [World.step_gone hx.inv.client hstep hlt hop] at hop'
      cases hop'
    | some op =>
      obtain ⟨id, hid⟩ := hkept op hop
      obtain ⟨id', hid'⟩ := hspec.change.withId hop hop'
      exact ⟨id, by rw [hid', Message.withId_withId, hid]⟩

-- A request that has not been sent yet is filled in.
theorem Served.fill (hx : x.Served Kind) (hinv : x'.Inv) {q : OpRef} {bytes : List UInt8}
    (h : x.step (.fill q bytes) = some x') (hunsent : ∀ e ∈ x.requests, e.sender ≠ q) :
    x'.Served Kind := by
  simp only [step, Option.ite_none_right_eq_some] at h
  obtain ⟨-, hmap⟩ := h
  obtain ⟨s, hfill, rfl⟩ := Option.map_eq_some_iff.mp hmap
  obtain ⟨op, op', -, rfl, -⟩ := fillRequest_spec hfill
  refine ⟨hinv, hx.replies, fun e he => ?_⟩
  obtain ⟨hlt, hkept⟩ := hx.sender e he
  refine ⟨hlt, fun op' hop' => hkept op' ?_⟩
  simpa only [Operations.setOp, Function.update_of_ne (hunsent e he)] using hop'

theorem Served.serve (hx : x.Served Kind) (hinv : x'.Inv) {i : Nat} {core : Core} {tr : Transport}
    {cport : Nat} (h : x.step (.serve i core tr cport) = some x') (hkind : Kind core tr cport) :
    x'.Served Kind := by
  simp only [step, Option.bind_eq_some_iff, Option.ite_none_right_eq_some,
    Option.map_eq_some_iff] at h
  obtain ⟨request, hrequest, -, p, hrun, rfl⟩ := h
  refine ⟨hinv, fun e he => ?_, hx.sender⟩
  rcases List.mem_append.mp he with hnew | hold
  · obtain ⟨sent, hsent, rfl⟩ := List.mem_map.mp hnew
    exact ⟨core, tr, cport, p, hkind, hrun, sent, hsent, rfl⟩
  · exact hx.replies e hold

theorem step_served (hx : x.Served Kind) (h : x.step a = some x') (htimely : x.Timely a x')
    (hfills : x.FillsUnsent a x') (hserved : a.ServedBy Kind) : x'.Served Kind := by
  have hinv := step_inv hx.inv h htimely
  cases a with
  | call a =>
    simp only [step, Option.ite_none_right_eq_some] at h
    obtain ⟨w, hstep, rfl⟩ := Option.map_eq_some_iff.mp h.2
    refine hx.of_client hinv hstep rfl fun e he => ?_
    exact (List.mem_append.mp he).imp_left Option.mem_toList.mp
  | fill q bytes => exact hx.fill hinv h (hfills q rfl)
  | serve i core tr cport => exact hx.serve hinv h hserved
  | deliver i mallocOk allocBufOk cport =>
    simp only [step, Option.bind_eq_some_iff, Option.map_eq_some_iff] at h
    obtain ⟨reply, -, w, hstep, rfl⟩ := h
    exact hx.of_client hinv hstep rfl fun e he => .inr he

-- A response that is attached is what a server of the kind computes from the operation's request.
theorem Served.computes (hx : x.Served Kind) {p r : OpRef} {op rop : Operation}
    (hattached : x.client.responseOf p = some r) (hop : x.client.heap p = some op)
    (hrop : x.client.heap r = some rop) :
    ∃ id, Computes Kind (op.requestBuffer.withId id) rop.requestBuffer := by
  obtain ⟨e, he, rfl⟩ := hx.inv.attached p r hattached
  have hmem := (hx.inv.origin r e he.1).1
  obtain ⟨id, hid⟩ := (hx.sender e.request (hx.inv.replies e hmem).1).2 op hop
  exact ⟨id, hid ▸ he.2 rop hrop ▸ hx.replies e hmem⟩

theorem run_answered {cportCount : Nat} {as : List Action}
    (hrun : run step (.initial cportCount) as = some x)
    (htimely : EachStep step Timely (.initial cportCount) as)
    (hfills : EachStep step FillsUnsent (.initial cportCount) as)
    (hserved : ∀ a ∈ as, a.ServedBy Kind) : x.Served Kind :=
  run_induct_of_eachStep (fun _ _ _ hx h hall => step_served hx h hall.1 hall.2.1 hall.2.2)
    (initial_served cportCount)
    (eachStep_and htimely (eachStep_and hfills
      (eachStep_of_forall (fun a ha _ _ => hserved a ha) _))) hrun

end Exchange

end Greybus
