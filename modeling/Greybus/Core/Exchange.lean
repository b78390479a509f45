import Greybus.Core.RequestIds
import Greybus.Core.Response

/-!
# Two parties

A client sends requests and a server answers them, and what they send may arrive late, in another
order, on another cport, more than once or never.  What each message belongs to is written beside
it; neither party reads that.
-/

namespace Greybus

open Operations Reasoning.Transition Reasoning.Counter

/-! ## What travels -/

/-- A request that the client's transport has been given: who sent it, and how many ids had been
assigned before. -/
structure Outgoing where
  sender : OpRef
  number : Nat
  message : Message
  deriving DecidableEq, Repr

/-- A message that the server has sent, and the request it was processing. -/
structure Reply where
  request : Outgoing
  message : Message
  deriving DecidableEq, Repr

/-- Some server, with handlers, memory and a transport of its own, sends `reply` when it processes
`request`. -/
def SendsReply (request reply : Message) : Prop :=
  ∃ core tr cport p, gbProcessRequest core tr (.start (.fresh cport request)) = some p ∧
    ∃ sent ∈ p.sends, sent.buf = reply

structure Exchange where
  client : World
  requests : List Outgoing
  replies : List Reply
  -- The replies that the client has received.
  origin : OpRef → Option Reply

def Exchange.initial (cportCount : Nat) : Exchange := ⟨.initial cportCount, [], [], fun _ => none⟩

/-! ## The steps -/

/-- The operation that a call sends, and whether it asks for a response. -/
def Call.request? : Call → Option (OpRef × Bool)
  | .send q _ needResponse _ _ => some (q, needResponse)
  | .sendSync q _ _ => some (q, true)
  | _ => none

/-- The message that `gb_operation_send_request` gives to the transport. -/
def World.handsOver (w : World) (q : OpRef) (needResponse : Bool) : Option Message :=
  (w.heap q).bind fun op =>
  if w.exitWorker op.cport then none
  else
    let id := if needResponse then (takeRequestId w.requestId).1 else 0
    some { op.requestBuffer with hdr := { op.requestBuffer.hdr with id } }

/-- The request that a call puts on its way. -/
def World.outgoing (w : World) (a : Call) : Option Outgoing :=
  a.request?.bind fun (q, needResponse) =>
  (w.handsOver q needResponse).map fun message => ⟨q, w.assigned.length, message⟩

/-- The creator stores the payload of its request. -/
def Operations.fillRequest (s : Operations) (q : OpRef) (bytes : List UInt8) : Option Operations :=
  (s.heap q).map fun op =>
  let payload := bytes.take op.requestBuffer.payload.length ++
    op.requestBuffer.payload.drop bytes.length
  s.setOp q { op with requestBuffer := { op.requestBuffer with payload } }

inductive Exchange.Action where
  -- The client does something; what it receives here is a request of the server.
  | call (a : Call)
  | fill (q : OpRef) (bytes : List UInt8)
  -- The server processes a request that has been sent.
  | serve (i : Nat) (core : Core) (tr : Transport) (cport : Nat)
  -- The client receives a reply.
  | deliver (i : Nat) (mallocOk allocBufOk : Bool) (cport : Nat)

namespace Exchange

/-- An operation is not sent again while it waits for its response, with or without asking for
another one. -/
def allowed (x : Exchange) : Call → Bool
  | .receive _ _ _ data => data.hdr.type &&& responseFlag = 0
  | .send q _ false _ _ => !x.client.isPending q
  | _ => true

def step (x : Exchange) : Action → Option Exchange
  | .call a =>
    if x.allowed a then
      (x.client.step a).map fun client =>
      { x with client, requests := (x.client.outgoing a).toList ++ x.requests }
    else none
  | .fill q bytes =>
    if q ∈ x.client.owned then
      (x.client.fillRequest q bytes).map fun s =>
      { x with client := { x.client with toOperations := s } }
    else none
  | .serve i core tr cport =>
    (x.requests[i]?).bind fun request =>
    -- the server takes any other message as a response
    if request.message.hdr.type &&& responseFlag = 0 then
      (gbProcessRequest core tr (.start (.fresh cport request.message))).map fun p =>
      { x with replies := p.sends.map (fun sent => ⟨request, sent.buf⟩) ++ x.replies }
    else none
  | .deliver i mallocOk allocBufOk cport =>
    (x.replies[i]?).bind fun reply =>
    (x.client.step (.receive mallocOk allocBufOk cport reply.message)).map fun client =>
    { x with
      client
      origin := if x.client.next < client.next then
          Function.update x.origin x.client.next (some reply)
        else x.origin }

end Exchange

/-! ## What a server sends -/

theorem Message.AnswersTo.isResponse {m : Message} {req : OperationHdr} (h : m.AnswersTo req) :
    m.hdr.type &&& responseFlag ≠ 0 := by
  rw [h.type, responseFlag, ne_eq, ← UInt8.toBitVec_inj]
  simp only [UInt8.toBitVec_and, UInt8.toBitVec_or]
  intro hzero
  have hbit := congrArg (·.getLsbD 7) hzero
  simp at hbit

theorem gbOperationSendResponse_answersTo (core : Core) (tr : Transport) (result : UInt8)
    {p : Processing} {cport : Nat} {request : Message} (h : p.Prepared cport request) :
    ∀ sent ∈ (gbOperationSendResponse core tr result p).2.sends,
      sent.buf.AnswersTo request.hdr := by
  have hcase := gbOperationSendResponse_responded core tr result p
  generalize gbOperationSendResponse core tr result p = res at hcase ⊢
  cases hcase with
  | refused => simp [h.unsent]
  | @buffer resp p' _ _ hresp hsends =>
    have hanswers : resp.AnswersTo request.hdr := by
      rcases hresp with hown | ⟨-, -, rfl⟩
      · exact h.buffer resp hown
      · exact h.request_eq ▸ Message.response_answersTo _ _
    simp only [hsends, h.unsent, List.nil_append, List.mem_singleton, forall_eq]
    exact ⟨hanswers.id, hanswers.type⟩
  | oom _ _ _ _ hsends =>
    simp only [hsends, h.unsent, List.nil_append, List.mem_singleton, forall_eq, h.request_eq]
    exact oomHdr_answersTo _

-- Whatever a server does with a request, what it sends has the request's id, and its type marked
-- as a response.
theorem SendsReply.answersTo {request reply : Message} (h : SendsReply request reply) :
    reply.AnswersTo request.hdr := by
  obtain ⟨core, tr, cport, p, hrun, sent, hsent, rfl⟩ := h
  have hstart := Processing.start_prepared cport request
  have hanswer : ∀ {result : UInt8} {pre : Processing}, pre.Prepared cport request →
      sent ∈ (gbOperationSendResponse core tr result pre).2.sends →
      sent.buf.AnswersTo request.hdr := by
    intro result pre hpre hin
    exact gbOperationSendResponse_answersTo core tr result hpre sent hin
  simp only [gbProcessRequest] at hrun
  split at hrun
  next =>
    obtain rfl := Option.some.inj hrun
    exact hanswer hstart hsent
  next =>
    split at hrun
    next => cases hrun
    next =>
      obtain rfl := Option.some.inj hrun
      exact hanswer hstart hsent
    next h _ =>
      split at hrun
      next => cases hrun
      next f hf =>
        have hcalled := callHandler_prepared core tr f hstart
        split at hrun
        next =>
          obtain rfl := Option.some.inj hrun
          exact hanswer hcalled hsent
        next =>
          obtain rfl := Option.some.inj hrun
          rw [hcalled.unsent] at hsent
          cases hsent

end Greybus
