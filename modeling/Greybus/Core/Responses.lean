import Greybus.Core.Response

/-!
# How often a request is answered

`gb_operation_send_response` keeps a flag against a second response, but only the path through a
response buffer sets it.  `gb_process_request` leaves out the response to a unidirectional request
only after a handler has run.
-/

namespace Greybus

/-! ## Unidirectional requests -/

/-- `gb_process_request` sends nothing for this request. -/
def Silent (core : Core) (tr : Transport) (cport : Nat) (request : Message) : Prop :=
  ∀ p', gbProcessRequest core tr (.start (.fresh cport request)) = some p' → p'.sends = []

theorem HandlerProg.run_sends (tr : Transport) (prog : HandlerProg) (p : Processing) :
    (prog.run tr p).2.sends = p.sends := by
  induction prog generalizing p with
  | done result => rfl
  | allocResponse size k ih => exact ih _ _
  | fillResponse bytes k ih => exact ih _

theorem callHandler_sends (core : Core) (tr : Transport) (f : Operation → HandlerProg)
    (p : Processing) : (callHandler core tr f p).2.sends = p.sends :=
  HandlerProg.run_sends ..

section Unidirectional

variable {core : Core} {tr : Transport} {cport : Nat} {d : DriverRef} {request : Message}

-- An answer that is sent at once is kept back by `exit_worker` alone.
theorem silent_of_answer (result : UInt8)
    (h : gbProcessRequest core tr (.start (.fresh cport request)) =
      some (gbOperationSendResponse core tr result (.start (.fresh cport request))).2) :
    Silent core tr cport request ↔ (core.gCport cport).exitWorker = true := by
  have hiff := (gbOperationSendResponse_responded core tr result
    (.start (.fresh cport request))).sends_eq_iff
  simp only [Silent, h, Option.some.injEq, forall_eq']
  simpa [Processing.start, Operation.fresh] using hiff

-- A handler sends nothing itself, and no response follows it.
theorem silent_of_handler {h : OperationHandler} (hping : request.hdr.type ≠ pingType)
    (hfind : findOperationHandler core request.hdr.type cport = some (some h))
    (hid : request.hdr.id = 0) : Silent core tr cport request := by
  intro p' hp'
  simp only [gbProcessRequest, Processing.start, Operation.fresh, if_neg hping, hfind] at hp'
  cases hfn : h.fn with
  | fastHandler => simp [hfn] at hp'
  | handler f =>
    simp only [hfn, hid, ne_eq, not_true, if_false, Option.some.injEq] at hp'
    rw [← hp', callHandler_sends]

/-- A request with id 0 is processed without a message exactly when the driver's table serves its
type, or the worker has been told to exit. -/
theorem silent_iff (hd : (core.gCport cport).driver = some d)
    (hsorted : (core.drivers d).handlers.Pairwise fun h₁ h₂ => gbCompareHandlers h₁ h₂ ≤ 0)
    (hid : request.hdr.id = 0) :
    Silent core tr cport request ↔
      (core.gCport cport).exitWorker = true ∨
        request.hdr.type ≠ pingType ∧ request.hdr.type ≠ invalidType ∧
          ∃ h ∈ (core.drivers d).handlers, h.type = request.hdr.type := by
  by_cases hping : request.hdr.type = pingType
  · rw [silent_of_answer OperationResult.success.code]
    · simp [hping]
    · simp [gbProcessRequest, Processing.start, Operation.fresh, hping]
  have hunknown : findOperationHandler core request.hdr.type cport = some none →
      (Silent core tr cport request ↔ (core.gCport cport).exitWorker = true) := by
    intro hfind
    refine silent_of_answer OperationResult.invalid.code ?_
    simp [gbProcessRequest, Processing.start, Operation.fresh, hping, hfind]
  by_cases hreserved : request.hdr.type = invalidType
  · rw [hunknown]
    · simp [hreserved]
    · cases htab : (core.drivers d).opHandlers <;>
        simp [findOperationHandler, hd, htab, hreserved]
  cases htab : (core.drivers d).opHandlers with
  | none =>
    rw [hunknown (by simp [findOperationHandler, hd, htab])]
    simp [Driver.handlers, htab]
  | some tab =>
    have hhandlers : (core.drivers d).handlers = tab := by simp [Driver.handlers, htab]
    rw [hhandlers] at hsorted ⊢
    obtain ⟨res, hres, hsound, hcomplete⟩ := findOperationHandler_sorted hd htab hsorted hreserved
    cases res with
    | none =>
      have hnone := hcomplete rfl
      rw [hunknown hres]
      simpa using fun _ _ h hh heq => absurd heq (hnone h hh)
    | some h =>
      obtain ⟨hmem, htype⟩ := hsound h rfl
      exact iff_of_true (silent_of_handler hping hres hid)
        (.inr ⟨hping, hreserved, h, hmem, htype⟩)

end Unidirectional

/-- A unidirectional request of 8 bytes. -/
def unidirectionalRequest (type : UInt8) : Message where
  hdr := { size := 8, id := 0, type := type, result := 0, pad := 0 }
  payload := []

theorem silent_iff_version :
    Silent (oneHandlerCore versionHandler) reliableTransport 0 (unidirectionalRequest 1) :=
  (@silent_iff (oneHandlerCore versionHandler) reliableTransport 0 0 (unidirectionalRequest 1) rfl
    (List.pairwise_singleton _ _) rfl).mpr
    (.inr ⟨by decide, by decide, versionHandler, .head _, rfl⟩)

theorem not_silent_of_sends {core : Core} {tr : Transport} {cport n : Nat} {request : Message}
    (h : (gbProcessRequest core tr (.start (.fresh cport request))).map (·.sends.length)
      = some (n + 1)) : ¬ Silent core tr cport request := by
  intro hsilent
  obtain ⟨p', hp', hlen⟩ := Option.map_eq_some_iff.mp h
  rw [hsilent p' hp'] at hlen
  cases hlen

-- A ping and a request of an unknown type are answered although they have no id.
theorem silent_pingOrUnknown :
    ¬ Silent (oneHandlerCore versionHandler) reliableTransport 0
        (unidirectionalRequest pingType) ∧
      ¬ Silent (oneHandlerCore versionHandler) reliableTransport 0 (unidirectionalRequest 2) :=
  ⟨not_silent_of_sends (show _ = some (0 + 1) by decide),
    not_silent_of_sends (show _ = some (0 + 1) by decide)⟩

/-! ## Repeated calls -/

/-- A call of `gb_operation_send_response` and what it meets: whether the worker has been told to
exit, whether `alloc_buf` gives a buffer, and what `send` returns. -/
structure ResponseCall where
  result : UInt8
  exitWorker : Bool
  allocOk : Bool
  sendRet : Int
  deriving DecidableEq, Repr

/-- An operation and the responses to it that the transport has accepted. -/
structure Answering where
  processing : Processing
  accepted : List Sent

def Answering.start (operation : Operation) : Answering := ⟨.start operation, []⟩

/-- `send` accepts a message by returning 0. -/
def Answering.call (core : Core) (s : Answering) (c : ResponseCall) : Answering :=
  let cport := s.processing.operation.cport
  let res := gbOperationSendResponse
    (core.setCport cport { core.gCport cport with exitWorker := c.exitWorker })
    ⟨fun _ => c.allocOk, fun _ => c.sendRet⟩ c.result s.processing
  { processing := res.2
    accepted := s.accepted ++
      if c.sendRet = 0 then res.2.sends.drop s.processing.sends.length else [] }

/-- A call whose message the transport would accept. -/
def ResponseCall.goesOut (c : ResponseCall) : Bool := !c.exitWorker && c.sendRet = 0

/-- The responses that go out, of an operation that has not been answered, in calls whose messages
the transport would all accept: an operation without a buffer sends one header after another until
`alloc_buf` gives it a buffer. -/
def responsesOut (buffered : Bool) : List ResponseCall → Nat
  | [] => 0
  | c :: cs => if buffered || c.allocOk then 1 else 1 + responsesOut false cs

namespace Answering

variable (core : Core) (s : Answering) (c : ResponseCall)

def responded (s : Answering) : Bool := s.processing.operation.hasResponded

def buffered (s : Answering) : Bool := s.processing.operation.responseBuffer.isSome

-- What one call does to the flag, the buffer and the number of accepted responses.
theorem call_spec :
    (s.call core c).responded = (s.responded || c.goesOut && (s.buffered || c.allocOk)) ∧
      (s.responded = false →
        (s.call core c).buffered = (s.buffered || c.goesOut && c.allocOk)) ∧
      (s.call core c).accepted.length
        = s.accepted.length + if c.goesOut && !s.responded then 1 else 0 := by
  have hcase := gbOperationSendResponse_responded
    (core.setCport s.processing.operation.cport
      { core.gCport s.processing.operation.cport with exitWorker := c.exitWorker })
    ⟨fun _ => c.allocOk, fun _ => c.sendRet⟩ c.result s.processing
  simp only [call, responded, buffered, ResponseCall.goesOut]
  generalize gbOperationSendResponse _ _ c.result s.processing = res at hcase ⊢
  cases hcase with
  | refused _ hwhy =>
    simp only [Core.setCport, Function.update_self] at hwhy
    rcases hwhy with hexit | hresponded
    · simp [hexit]
    · simp [hresponded]
  | buffer hpass hfresh hresp hsends _ hflag hbuf =>
    simp only [Core.setCport, Function.update_self] at hpass
    simp only [hpass, hfresh, hflag, hbuf, hsends]
    rcases hresp with hown | ⟨hnone, halloc, -⟩
    · by_cases hret : c.sendRet = 0 <;> simp [hret, hown]
    · have hok : c.allocOk = true := halloc
      by_cases hret : c.sendRet = 0 <;> simp [hret, hok, hnone]
  | oom hpass hfresh hnone halloc hsends hop =>
    simp only [Core.setCport, Function.update_self] at hpass
    have hfail : c.allocOk = false := halloc
    simp only [hop, hpass, hfresh, hnone, hfail, hsends]
    by_cases hret : c.sendRet = 0 <;> simp [hret]

theorem length_accepted_of_responded (calls : List ResponseCall) (h : s.responded = true) :
    (calls.foldl (call core) s).accepted.length = s.accepted.length := by
  induction calls generalizing s with
  | nil => rfl
  | cons c calls ih =>
    obtain ⟨hresponded, -, hlen⟩ := call_spec core s c
    rw [List.foldl_cons, ih _ (by simp [hresponded, h]), hlen]
    simp [h]

-- The calls whose messages would not be accepted change nothing that matters.
theorem length_accepted (calls : List ResponseCall) (h : s.responded = false) :
    (calls.foldl (call core) s).accepted.length
      = s.accepted.length + responsesOut s.buffered (calls.filter ResponseCall.goesOut) := by
  induction calls generalizing s with
  | nil => rfl
  | cons c calls ih =>
    obtain ⟨hresponded, hbuffered, hlen⟩ := call_spec core s c
    rw [List.foldl_cons]
    cases hout : c.goesOut with
    | false =>
      simp only [h, hout, Bool.false_and, Bool.or_false] at hresponded hbuffered hlen
      rw [ih _ hresponded, hbuffered trivial, hlen, List.filter_cons_of_neg (by simp [hout])]
      simp
    | true =>
      rw [List.filter_cons_of_pos hout, responsesOut]
      simp only [h, hout, Bool.true_and, Bool.false_or, Bool.not_false, if_true]
        at hresponded hbuffered hlen
      by_cases hbuf : (s.buffered || c.allocOk) = true
      · rw [if_pos hbuf, length_accepted_of_responded core _ _ (hresponded.trans hbuf), hlen]
      · rw [if_neg hbuf, ih _ (by simpa [hbuf] using hresponded), hlen, hbuffered trivial]
        have hnone : (s.buffered || c.allocOk) = false := by simpa using hbuf
        rw [hnone, Nat.add_assoc]

end Answering

theorem responsesOut_le_one (buffered : Bool) (cs : List ResponseCall) :
    responsesOut buffered cs ≤ 1 ↔
      buffered = true ∨ cs.length ≤ 1 ∨ ∀ c ∈ cs.head?, c.allocOk = true := by
  cases cs with
  | nil => simp [responsesOut]
  | cons c cs =>
    rw [responsesOut]
    by_cases hbuf : (buffered || c.allocOk) = true
    · rw [if_pos hbuf]
      have hor : buffered = true ∨ c.allocOk = true := by simpa using hbuf
      simp only [le_refl, List.head?_cons, Option.mem_def, Option.some.injEq, forall_eq', true_iff]
      exact hor.imp_right .inr
    · rw [if_neg hbuf]
      have hnot : buffered = false ∧ c.allocOk = false := by simpa using hbuf
      cases cs with
      | nil => simp [responsesOut]
      | cons c' cs =>
        have hmore : 1 ≤ responsesOut false (c' :: cs) := by
          rw [responsesOut]
          split <;> omega
        simp only [hnot.1, List.length_cons, List.head?_cons, Option.mem_def, Option.some.injEq,
          forall_eq', hnot.2, Bool.false_eq_true, or_false, false_or]
        omega

/-- At most one response to an operation is accepted exactly when the operation has been answered
before or has a buffer, or at most one of the calls meets a transport that accepts, or the first of
these gets a buffer for its response. -/
theorem accepted_atMostOnce_iff (core : Core) (operation : Operation) (calls : List ResponseCall) :
    (calls.foldl (Answering.call core) (.start operation)).accepted.length ≤ 1 ↔
      operation.hasResponded = true ∨ operation.responseBuffer.isSome = true ∨
        (calls.filter ResponseCall.goesOut).length ≤ 1 ∨
        ∀ c ∈ (calls.filter ResponseCall.goesOut).head?, c.allocOk = true := by
  cases hresponded : operation.hasResponded with
  | true =>
    rw [Answering.length_accepted_of_responded core (.start operation) calls hresponded]
    simp [Answering.start]
  | false =>
    rw [Answering.length_accepted core (.start operation) calls hresponded]
    simp only [Bool.false_eq_true, false_or]
    rw [← responsesOut_le_one]
    simp [Answering.start, Answering.buffered, Processing.start]

/-- The first call finds no memory and sends the header, the second one sends a buffer. -/
def oomThenBuffer : List ResponseCall := [⟨0, false, false, 0⟩, ⟨0, false, true, 0⟩]

theorem accepted_atMostOnce_oom :
    (oomThenBuffer.foldl (Answering.call (oneHandlerCore versionHandler))
      (.start (.fresh 0 (bareRequest 1)))).accepted.map (fun s => (s.buf.hdr.id, s.buf.hdr.result))
      = [(1, OperationResult.noMemory.code), (1, OperationResult.success.code)] := by
  decide

end Greybus
