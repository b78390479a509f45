import Greybus.Core.Driver

/-!
# Processing a request

`gb_process_request` and the functions that answer it.  A `Processing` is the state of one call:
the operation, and what the core has asked of the transport and of the handlers so far.
-/

namespace Greybus

/-- The transport's answers: whether the n-th `alloc_buf` gives a buffer, and what the n-th `send`
returns. -/
structure Transport where
  allocBuf : Nat → Bool
  send : Nat → Int

/-- One call of `transport_backend->send`. -/
structure Sent where
  cport : Nat
  buf : Message
  len : Nat
  deriving DecidableEq, Repr

/-- The state of one `gb_process_request`. -/
structure Processing where
  operation : Operation
  -- Calls of `alloc_buf` so far.
  allocs : Nat
  -- Calls of `send`, oldest first.
  sends : List Sent
  -- The bundle each handler call found in its operation, oldest first.
  handled : List (Option BundleRef)
  deriving DecidableEq, Repr

/-- A call that starts on `operation`. -/
def Processing.start (operation : Operation) : Processing :=
  { operation := operation, allocs := 0, sends := [], handled := [] }

def Processing.setResponseBuffer (p : Processing) (buf : Option Message) : Processing :=
  { p with operation := { p.operation with responseBuffer := buf } }

def gbOperationAllocResponse (tr : Transport) (size : Nat) (p : Processing) : Processing :=
  { p.setResponseBuffer
      (if tr.allocBuf p.allocs then some (Message.response p.operation.requestBuffer.hdr size)
      else none) with
    allocs := p.allocs + 1 }

/-- `transport_backend->send`. -/
def transportSend (tr : Transport) (cport : Nat) (buf : Message) (len : Nat) (p : Processing) :
    Int × Processing :=
  (tr.send p.sends.length,
    { p with sends := p.sends ++ [{ cport := cport, buf := buf, len := len }] })

/-- `oom_hdr`, filled in for the request `req`. -/
def oomHdr (req : OperationHdr) : Message where
  hdr := { size := 8, id := req.id, type := responseFlag ||| req.type,
           result := OperationResult.noMemory.code, pad := 0 }
  payload := []

def gbOperationSendOomResponse (core : Core) (tr : Transport) (p : Processing) : Int × Processing :=
  if (core.gCport p.operation.cport).exitWorker then (-ENETDOWN, p)
  else transportSend tr p.operation.cport (oomHdr p.operation.requestBuffer.hdr) sizeofHdr p

/-- `gb_operation_send_response` from `resp_hdr->result = result` on. -/
def sendResponseBuffer (tr : Transport) (result : UInt8) (hasAllocatedResponse : Bool)
    (resp : Message) (p : Processing) : Int × Processing :=
  let resp := { resp with hdr := { resp.hdr with result := result } }
  let (retval, p) := transportSend tr p.operation.cport resp resp.hdr.size.toNat
    (p.setResponseBuffer (some resp))
  if retval ≠ 0 then
    (retval, if hasAllocatedResponse then p.setResponseBuffer none else p)
  else (retval, { p with operation := { p.operation with hasResponded := true } })

def gbOperationSendResponse (core : Core) (tr : Transport) (result : UInt8) (p : Processing) :
    Int × Processing :=
  if (core.gCport p.operation.cport).exitWorker then (-ENETDOWN, p)
  else if p.operation.hasResponded then (-EINVAL, p)
  else
    match p.operation.responseBuffer with
    | some resp => sendResponseBuffer tr result false resp p
    | none =>
      let p := gbOperationAllocResponse tr 0 p
      match p.operation.responseBuffer with
      | none => gbOperationSendOomResponse core tr p
      | some resp => sendResponseBuffer tr result true resp p

/-- A handler's stores into its response payload; they stay inside it. -/
def Processing.fillResponse (bytes : List UInt8) (p : Processing) : Processing :=
  p.setResponseBuffer (p.operation.responseBuffer.map fun m =>
    { m with payload := bytes.take m.payload.length ++ m.payload.drop bytes.length })

/-- A handler runs to its result. -/
def HandlerProg.run (tr : Transport) : HandlerProg → Processing → UInt8 × Processing
  | .done result, p => (result, p)
  | .allocResponse size k, p =>
    let p := gbOperationAllocResponse tr size p
    (k p.operation.responseBuffer.isSome).run tr p
  | .fillResponse bytes k, p => k.run tr (p.fillResponse bytes)

/-- `operation->bundle = g_cport[operation->cport].driver->bundle`, and the handler's call. -/
def callHandler (core : Core) (tr : Transport) (f : Operation → HandlerProg) (p : Processing) :
    UInt8 × Processing :=
  let bundle := (core.gCport p.operation.cport).driver.bind fun d => (core.drivers d).bundle
  let p := { p with operation := { p.operation with bundle := bundle },
                    handled := p.handled ++ [bundle] }
  (f p.operation).run tr p

/-- `gb_process_request`; calling the NULL `handler` of a fast entry is undefined. -/
def gbProcessRequest (core : Core) (tr : Transport) (p : Processing) : Option Processing :=
  let hdr := p.operation.requestBuffer.hdr
  if hdr.type = pingType then
    some (gbOperationSendResponse core tr OperationResult.success.code p).2
  else
    match findOperationHandler core hdr.type p.operation.cport with
    | none => none
    | some none => some (gbOperationSendResponse core tr OperationResult.invalid.code p).2
    | some (some h) =>
      match h.fn with
      | .fastHandler => none
      | .handler f =>
        let (result, p) := callHandler core tr f p
        if hdr.id ≠ 0 then some (gbOperationSendResponse core tr result p).2 else some p

/-! ## Preparing the response -/

/-- `m` is a response to the request `req`. -/
structure Message.AnswersTo (m : Message) (req : OperationHdr) : Prop where
  id : m.hdr.id = req.id
  type : m.hdr.type = req.type ||| responseFlag

theorem Message.response_answersTo (req : OperationHdr) (size : Nat) :
    (Message.response req size).AnswersTo req :=
  ⟨rfl, UInt8.or_comm _ _⟩

theorem oomHdr_answersTo (req : OperationHdr) : (oomHdr req).AnswersTo req :=
  ⟨rfl, UInt8.or_comm _ _⟩

/-- Nothing has been sent yet, and the response buffer, if there is one, answers the request. -/
structure Processing.Prepared (p : Processing) (cport : Nat) (request : Message) : Prop where
  cport_eq : p.operation.cport = cport
  request_eq : p.operation.requestBuffer = request
  unanswered : p.operation.hasResponded = false
  unsent : p.sends = []
  buffer : ∀ m, p.operation.responseBuffer = some m → m.AnswersTo request.hdr

theorem Processing.start_prepared (cport : Nat) (request : Message) :
    (Processing.start (.fresh cport request)).Prepared cport request :=
  ⟨rfl, rfl, rfl, rfl, fun _ h => nomatch h⟩

theorem Processing.Prepared.setResponseBuffer {p : Processing} {cport : Nat} {request : Message}
    (h : p.Prepared cport request) {buf : Option Message}
    (hbuf : ∀ m, buf = some m → m.AnswersTo request.hdr) :
    (p.setResponseBuffer buf).Prepared cport request :=
  ⟨h.cport_eq, h.request_eq, h.unanswered, h.unsent, hbuf⟩

theorem Processing.Prepared.allocResponse {p : Processing} {cport : Nat} {request : Message}
    (h : p.Prepared cport request) (tr : Transport) (size : Nat) :
    (gbOperationAllocResponse tr size p).Prepared cport request := by
  refine ⟨h.cport_eq, h.request_eq, h.unanswered, h.unsent, fun m hm => ?_⟩
  simp only [gbOperationAllocResponse, Processing.setResponseBuffer, h.request_eq,
    Option.ite_none_right_eq_some, Option.some.injEq] at hm
  exact hm.2 ▸ Message.response_answersTo _ _

theorem Processing.Prepared.fillResponse {p : Processing} {cport : Nat} {request : Message}
    (h : p.Prepared cport request) (bytes : List UInt8) :
    (p.fillResponse bytes).Prepared cport request := by
  refine h.setResponseBuffer fun m hm => ?_
  obtain ⟨m', hm', rfl⟩ := Option.map_eq_some_iff.mp hm
  exact ⟨(h.buffer m' hm').id, (h.buffer m' hm').type⟩

-- Whatever a handler does, its operation stays ready to be answered.
theorem HandlerProg.run_prepared (tr : Transport) (prog : HandlerProg) {p : Processing}
    {cport : Nat} {request : Message} (h : p.Prepared cport request) :
    (prog.run tr p).2.Prepared cport request := by
  induction prog generalizing p with
  | done result => exact h
  | allocResponse size k ih => exact ih _ (h.allocResponse tr size)
  | fillResponse bytes k ih => exact ih (h.fillResponse bytes)

theorem callHandler_prepared (core : Core) (tr : Transport) (f : Operation → HandlerProg)
    {p : Processing} {cport : Nat} {request : Message} (h : p.Prepared cport request) :
    (callHandler core tr f p).2.Prepared cport request :=
  HandlerProg.run_prepared tr _ ⟨h.cport_eq, h.request_eq, h.unanswered, h.unsent, h.buffer⟩

/-! ## One call of `gb_operation_send_response` -/

/-- What a call of `gb_operation_send_response` does: it refuses, it sends a response buffer, its
own or the operation's, or it sends the out-of-memory header. -/
inductive Responded (core : Core) (tr : Transport) (result : UInt8) (p : Processing) :
    Int × Processing → Prop where
  | refused {retval : Int} : retval ≠ 0 →
      (core.gCport p.operation.cport).exitWorker = true ∨ p.operation.hasResponded = true →
      Responded core tr result p (retval, p)
  | buffer {resp : Message} {p' : Processing} :
      (core.gCport p.operation.cport).exitWorker = false → p.operation.hasResponded = false →
      p.operation.responseBuffer = some resp ∨
        p.operation.responseBuffer = none ∧ tr.allocBuf p.allocs = true ∧
          resp = Message.response p.operation.requestBuffer.hdr 0 →
      p'.sends = p.sends ++ [{
        cport := p.operation.cport
        buf := { resp with hdr := { resp.hdr with result := result } }
        len := resp.hdr.size.toNat }] →
      p'.operation.cport = p.operation.cport →
      p'.operation.hasResponded = decide (tr.send p.sends.length = 0) →
      p'.operation.responseBuffer.isSome =
        (p.operation.responseBuffer.isSome || decide (tr.send p.sends.length = 0)) →
      p'.handled = p.handled →
      Responded core tr result p (tr.send p.sends.length, p')
  | oom {p' : Processing} :
      (core.gCport p.operation.cport).exitWorker = false → p.operation.hasResponded = false →
      p.operation.responseBuffer = none → tr.allocBuf p.allocs = false →
      p'.sends = p.sends ++ [{
        cport := p.operation.cport, buf := oomHdr p.operation.requestBuffer.hdr,
        len := sizeofHdr }] →
      p'.operation = p.operation → p'.handled = p.handled →
      Responded core tr result p (tr.send p.sends.length, p')

-- A buffer is sent as it is but for its result; a failed send takes back a buffer of its own.
theorem sendResponseBuffer_sent (tr : Transport) (result : UInt8) (allocated : Bool)
    (resp : Message) {p : Processing} (hfresh : p.operation.hasResponded = false) :
    ∃ p', sendResponseBuffer tr result allocated resp p = (tr.send p.sends.length, p') ∧
      p'.sends = p.sends ++ [{
        cport := p.operation.cport
        buf := { resp with hdr := { resp.hdr with result := result } }
        len := resp.hdr.size.toNat }] ∧
      p'.operation.cport = p.operation.cport ∧
      p'.operation.hasResponded = decide (tr.send p.sends.length = 0) ∧
      p'.operation.responseBuffer.isSome = (!allocated || decide (tr.send p.sends.length = 0)) ∧
      p'.handled = p.handled := by
  by_cases hret : tr.send p.sends.length = 0
  · simp [sendResponseBuffer, transportSend, Processing.setResponseBuffer, hret]
  · cases allocated <;>
      simp [sendResponseBuffer, transportSend, Processing.setResponseBuffer, hret, hfresh]

theorem gbOperationSendResponse_responded (core : Core) (tr : Transport) (result : UInt8)
    (p : Processing) :
    Responded core tr result p (gbOperationSendResponse core tr result p) := by
  unfold gbOperationSendResponse
  split
  next hexit => exact .refused (by simp [ENETDOWN]) (.inl hexit)
  next hexit =>
    have hpass : (core.gCport p.operation.cport).exitWorker = false := by simpa using hexit
    split
    next hresponded => exact .refused (by simp [EINVAL]) (.inr hresponded)
    next hresponded =>
      have hfresh : p.operation.hasResponded = false := by simpa using hresponded
      split
      next resp hresp =>
        obtain ⟨p', hsend, hsends, hcport, hflag, hbuf, hhandled⟩ :=
          sendResponseBuffer_sent tr result false resp hfresh
        rw [hsend]
        exact .buffer hpass hfresh (.inl hresp) hsends hcport hflag (by simp [hbuf, hresp]) hhandled
      next hnone =>
        cases halloc : tr.allocBuf p.allocs with
        | false =>
          have hoom : (gbOperationAllocResponse tr 0 p).operation = p.operation := by
            simp [gbOperationAllocResponse, Processing.setResponseBuffer, halloc, ← hnone]
          simp only [hoom, hnone, gbOperationSendOomResponse, hpass, Bool.false_eq_true, if_false]
          exact .oom hpass hfresh hnone halloc rfl hoom rfl
        | true =>
          have hresp : (gbOperationAllocResponse tr 0 p).operation.responseBuffer
              = some (Message.response p.operation.requestBuffer.hdr 0) := by
            simp [gbOperationAllocResponse, Processing.setResponseBuffer, halloc]
          obtain ⟨p', hsend, hsends, hcport, hflag, hbuf, hhandled⟩ :=
            sendResponseBuffer_sent tr result true
              (Message.response p.operation.requestBuffer.hdr 0)
              (p := gbOperationAllocResponse tr 0 p) hfresh
          simp only [hresp, hsend]
          exact .buffer hpass hfresh (.inr ⟨hnone, halloc, rfl⟩) hsends hcport hflag
            (by rw [hbuf, hnone]; rfl) hhandled

namespace Responded

variable {core : Core} {tr : Transport} {result : UInt8} {p : Processing} {res : Int × Processing}

-- Only a refused call sends nothing.
theorem sends_eq_iff (h : Responded core tr result p res) :
    res.2.sends = p.sends ↔
      (core.gCport p.operation.cport).exitWorker = true ∨ p.operation.hasResponded = true := by
  cases h with
  | refused _ hwhy => simp [hwhy]
  | buffer hpass hfresh _ hsends => simp [hpass, hfresh, hsends]
  | oom hpass hfresh _ _ hsends => simp [hpass, hfresh, hsends]

theorem handled_eq (h : Responded core tr result p res) : res.2.handled = p.handled := by
  cases h with
  | refused => rfl
  | buffer _ _ _ _ _ _ _ hhandled => exact hhandled
  | oom _ _ _ _ _ _ hhandled => exact hhandled

end Responded

/-! ## Sending the response -/

/-- The response of an operation that has no buffer and gets none either. -/
def Processing.outOfMemory (tr : Transport) (p : Processing) : Prop :=
  p.operation.responseBuffer = none ∧ tr.allocBuf p.allocs = false

instance (tr : Transport) (p : Processing) : Decidable (p.outOfMemory tr) :=
  inferInstanceAs (Decidable (_ ∧ _))

/-- `sends` is one message that answers `request` with `result`. -/
structure SentOne (sends : List Sent) (cport : Nat) (request : Message) (m : Message) : Prop where
  sends_eq : sends = [{ cport := cport, buf := m, len := m.hdr.size.toNat }]
  answers : m.AnswersTo request.hdr

-- With a transport that takes every message, `gb_operation_send_response` sends exactly one
-- answer: the response buffer with `result`, or the bare header when no buffer could be had.
theorem gbOperationSendResponse_sentOne (core : Core) (tr : Transport)
    (hsend : ∀ n, tr.send n = 0) (result : UInt8) {p : Processing} {cport : Nat}
    {request : Message} (hexit : (core.gCport cport).exitWorker = false)
    (h : p.Prepared cport request) :
    ∃ m, (gbOperationSendResponse core tr result p).1 = 0 ∧
      SentOne (gbOperationSendResponse core tr result p).2.sends cport request m ∧
      if p.outOfMemory tr then m = oomHdr request.hdr else m.hdr.result = result := by
  have hcase := gbOperationSendResponse_responded core tr result p
  generalize gbOperationSendResponse core tr result p = res at hcase ⊢
  cases hcase with
  | refused _ hwhy => simp [h.cport_eq, hexit, h.unanswered] at hwhy
  | @buffer resp p' _ _ hresp hsends =>
    have hanswers : resp.AnswersTo request.hdr ∧ ¬ p.outOfMemory tr := by
      rcases hresp with hown | ⟨-, halloc, rfl⟩
      · exact ⟨h.buffer resp hown, by simp [Processing.outOfMemory, hown]⟩
      · exact ⟨h.request_eq ▸ Message.response_answersTo _ _,
          by simp [Processing.outOfMemory, halloc]⟩
    refine ⟨{ resp with hdr := { resp.hdr with result := result } }, hsend _,
      ⟨?_, hanswers.1.id, hanswers.1.type⟩, by rw [if_neg hanswers.2]⟩
    rw [hsends, h.unsent, h.cport_eq]
    rfl
  | oom _ _ hnone halloc hsends =>
    refine ⟨oomHdr request.hdr, hsend _, ⟨?_, oomHdr_answersTo _⟩, by rw [if_pos ⟨hnone, halloc⟩]⟩
    rw [hsends, h.unsent, h.cport_eq, h.request_eq]
    rfl

/-! ## The response contract -/

/-- The handler table of a driver; a NULL table serves nothing. -/
def Driver.handlers (driver : Driver) : List OperationHandler := driver.opHandlers.getD []

/-- The result a request of `type` is answered with, and the call's state when the answer starts:
success for a ping, the invalid code for a type that `tab` does not serve, and otherwise what a
handler of that type returned.  The reserved type is never served. -/
inductive RequestResult (core : Core) (tr : Transport) (tab : List OperationHandler) (type : UInt8)
    (p : Processing) : UInt8 → Processing → Prop where
  | ping : type = pingType → RequestResult core tr tab type p OperationResult.success.code p
  | unserved : type ≠ pingType → (type = invalidType ∨ ∀ h ∈ tab, h.type ≠ type) →
      RequestResult core tr tab type p OperationResult.invalid.code p
  | handled (h : OperationHandler) (f : Operation → HandlerProg) : type ≠ pingType →
      type ≠ invalidType → h ∈ tab → h.type = type → h.fn = .handler f →
      RequestResult core tr tab type p (callHandler core tr f p).1 (callHandler core tr f p).2

theorem RequestResult.prepared {core : Core} {tr : Transport} {tab : List OperationHandler}
    {type result : UInt8} {p pre : Processing} {cport : Nat} {request : Message}
    (hres : RequestResult core tr tab type p result pre) (h : p.Prepared cport request) :
    pre.Prepared cport request := by
  cases hres with
  | ping => exact h
  | unserved => exact h
  | handled _ f => exact callHandler_prepared core tr f h

-- What `gb_process_request` does with a request that wants an answer: it computes a result and
-- hands it to `gb_operation_send_response`.
theorem gbProcessRequest_eq {core : Core} (tr : Transport) {d : DriverRef} (p : Processing)
    (hd : (core.gCport p.operation.cport).driver = some d)
    (hsorted : (core.drivers d).handlers.Pairwise fun h₁ h₂ => gbCompareHandlers h₁ h₂ ≤ 0)
    (hslow : ∀ h ∈ (core.drivers d).handlers,
      h.type = p.operation.requestBuffer.hdr.type → h.fn ≠ .fastHandler)
    (hid : p.operation.requestBuffer.hdr.id ≠ 0) :
    ∃ result pre, RequestResult core tr (core.drivers d).handlers p.operation.requestBuffer.hdr.type
        p result pre ∧
      gbProcessRequest core tr p = some (gbOperationSendResponse core tr result pre).2 := by
  unfold gbProcessRequest
  by_cases hping : p.operation.requestBuffer.hdr.type = pingType
  · exact ⟨_, p, .ping hping, by rw [if_pos hping]⟩
  simp only [if_neg hping]
  by_cases hreserved : p.operation.requestBuffer.hdr.type = invalidType
  · refine ⟨_, p, .unserved hping (.inl hreserved), ?_⟩
    cases htab : (core.drivers d).opHandlers <;>
      simp [findOperationHandler, hd, htab, hreserved]
  cases htab : (core.drivers d).opHandlers with
  | none =>
    refine ⟨_, p, .unserved hping (.inr (by simp [Driver.handlers, htab])), ?_⟩
    simp [findOperationHandler, hd, htab]
  | some tab =>
    have hhandlers : (core.drivers d).handlers = tab := by simp [Driver.handlers, htab]
    rw [hhandlers] at hsorted hslow ⊢
    obtain ⟨res, hres, hsound, hcomplete⟩ :=
      findOperationHandler_sorted hd htab hsorted hreserved
    rw [hres]
    cases res with
    | none => exact ⟨_, p, .unserved hping (.inr (hcomplete rfl)), rfl⟩
    | some h =>
      obtain ⟨hmem, htype⟩ := hsound h rfl
      cases hfn : h.fn with
      | fastHandler => exact absurd hfn (hslow h hmem htype)
      | handler f =>
        refine ⟨_, _, .handled h f hping hreserved hmem htype hfn, ?_⟩
        simp only [hfn, if_pos hid, ne_eq]

/-- A core whose cport 0 is bound to a driver with the one-entry table `h`. -/
def oneHandlerCore (h : OperationHandler) : Core where
  cportCount := 1
  gCport := fun _ => { driver := some 0, exitWorker := false }
  gBundle := [none]
  bundles := []
  drivers := fun _ =>
    { hasInit := false, opHandlers := some [h], opHandlersCount := 1, bundle := none,
      count_eq := by intro tab htab; cases htab; rfl }

/-- A transport that never fails. -/
def reliableTransport : Transport := { allocBuf := fun _ => true, send := fun _ => 0 }

/-- A request of 8 bytes with id 1. -/
def bareRequest (type : UInt8) : Message where
  hdr := { size := 8, id := 1, type := type, result := 0, pad := 0 }
  payload := []

/-- A handler that answers with four payload bytes. -/
def versionHandler : OperationHandler :=
  ⟨1, .handler fun _ => .allocResponse 4 fun ok => .done (if ok then 0 else 3)⟩

/-- An entry of the reserved type, with a handler that succeeds. -/
def reservedHandler : OperationHandler :=
  ⟨invalidType, .handler fun _ => .done OperationResult.success.code⟩

end Greybus
