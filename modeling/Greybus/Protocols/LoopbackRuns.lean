import Greybus.Core.Servers
import Greybus.Protocols.Loopback

/-!
# Loopback between two parties

What `gb_loopback_send_req` sends is answered by the loopback driver of the peer, over a transport
that loses, repeats and reorders, and is counted when its response has come back.
-/

namespace Greybus

open Operations Exchange Reasoning.Transition Reasoning.Memory

/-! ## The driver -/

/-- `gb_loopback_protocol_ver_cb`. -/
def gbLoopbackProtocolVerCb (_ : Operation) : HandlerProg :=
  .allocResponse 2 fun ok =>
    if !ok then .done OperationResult.noMemory.code
    else .fillResponse [0, 1] (.done OperationResult.success.code)

/-- `gb_loopback_ping_sink_req_cb`. -/
def gbLoopbackPingSinkReqCb (_ : Operation) : HandlerProg := .done OperationResult.success.code

/-- `gb_loopback_handlers`. -/
def gbLoopbackHandlers (after : Nat → UInt8) : List OperationHandler :=
  [⟨0x01, .handler gbLoopbackProtocolVerCb⟩,
   ⟨loopbackTypePing, .handler gbLoopbackPingSinkReqCb⟩,
   ⟨loopbackTypeTransfer, .handler (gbLoopbackTransferReqCb after)⟩,
   ⟨loopbackTypeSink, .handler gbLoopbackPingSinkReqCb⟩]

/-- On this cport the server has registered `loopback_driver`. -/
def ServesLoopback (core : Core) (_ : Transport) (cport : Nat) : Prop :=
  ∃ d after, (core.gCport cport).driver = some d ∧
    (core.drivers d).opHandlers = some (gbLoopbackHandlers after)

theorem gbLoopbackHandlers_sorted (after : Nat → UInt8) :
    (gbLoopbackHandlers after).Pairwise fun h₁ h₂ => gbCompareHandlers h₁ h₂ ≤ 0 := by
  simp [gbLoopbackHandlers, gbCompareHandlers, loopbackTypePing, loopbackTypeTransfer,
    loopbackTypeSink]

theorem gbLoopbackHandlers_only {after : Nat → UInt8} {h h' : OperationHandler}
    (hmem : h ∈ gbLoopbackHandlers after) (hmem' : h' ∈ gbLoopbackHandlers after)
    (htype : h'.type = h.type) : h' = h := by
  simp only [gbLoopbackHandlers, List.mem_cons, List.not_mem_nil, or_false] at hmem hmem'
  rcases hmem with rfl | rfl | rfl | rfl <;> rcases hmem' with rfl | rfl | rfl | rfl <;>
    first
      | rfl
      | simp [loopbackTypePing, loopbackTypeTransfer, loopbackTypeSink] at htype

/-- The function of `gb_loopback_handlers` for what `gb_loopback_send_req` sends. -/
def loopbackReqCb (after : Nat → UInt8) (type : UInt8) : Operation → HandlerProg :=
  if type = loopbackTypeTransfer then gbLoopbackTransferReqCb after else gbLoopbackPingSinkReqCb

theorem loopbackReqCb_mem {type : UInt8} (after : Nat → UInt8)
    (htype : type = loopbackTypePing ∨ type = loopbackTypeTransfer ∨ type = loopbackTypeSink) :
    ⟨type, .handler (loopbackReqCb after type)⟩ ∈ gbLoopbackHandlers after := by
  rcases htype with rfl | rfl | rfl <;> simp [gbLoopbackHandlers, loopbackReqCb, loopbackTypePing,
    loopbackTypeTransfer, loopbackTypeSink]

-- What the driver sends is prepared by the handler of the request.
theorem sends_of_loopback {request reply : Message} (h : Computes ServesLoopback request reply)
    (htype : request.hdr.type = loopbackTypePing ∨ request.hdr.type = loopbackTypeTransfer ∨
      request.hdr.type = loopbackTypeSink) :
    ∃ core tr cport after, ∃ sent ∈ (gbOperationSendResponse core tr
        (callHandler core tr (loopbackReqCb after request.hdr.type)
          (.start (.fresh cport request))).1
        (callHandler core tr (loopbackReqCb after request.hdr.type)
          (.start (.fresh cport request))).2).2.sends, sent.buf = reply := by
  obtain ⟨core, tr, cport, p, ⟨d, after, hd, htab⟩, hrun, sent, hsent, hreply⟩ := h
  have hmem := loopbackReqCb_mem after htype
  have hreserved : request.hdr.type ≠ pingType ∧ request.hdr.type ≠ invalidType := by
    rcases htype with h | h | h <;> rw [h] <;> decide
  rw [gbProcessRequest_entry tr hd htab (gbLoopbackHandlers_sorted after) hreserved.1
    hreserved.2 hmem fun h hh => gbLoopbackHandlers_only hmem hh, Option.some.injEq] at hrun
  split at hrun
  next =>
    subst hrun
    exact ⟨core, tr, cport, after, sent, hsent, hreply⟩
  next =>
    subst hrun
    rw [(callHandler_prepared core tr _ (Processing.start_prepared cport request)).unsent] at hsent
    cases hsent

/-! ## What comes back -/

/-- The request is one that `gb_loopback_send_req` fills in; a transfer's length fits the header. -/
def IsLoopback (request : Message) (type : UInt8) (size : Nat) : Prop :=
  (∃ rand id sent, gbLoopbackSendReq rand size type = some sent ∧ request = sent.withId id) ∧
    (type = loopbackTypeTransfer → 20 + size < 2 ^ 16)

variable {type : UInt8} {size : Nat} {request reply : Message}

theorem gbLoopbackSendReq_type_cases {rand : Nat → UInt8}
    (hsent : gbLoopbackSendReq rand size type = some request) :
    type = loopbackTypePing ∨ type = loopbackTypeTransfer ∨ type = loopbackTypeSink := by
  rw [gbLoopbackSendReq] at hsent
  by_contra hnone
  rw [not_or, not_or] at hnone
  rw [if_neg hnone.1, if_neg hnone.2.1, if_neg hnone.2.2] at hsent
  cases hsent

theorem IsLoopback.withId (h : IsLoopback request type size) (id : UInt16) :
    IsLoopback (request.withId id) type size := by
  obtain ⟨⟨rand, id', sent, hsent, rfl⟩, hfits⟩ := h
  exact ⟨⟨rand, id, sent, hsent, rfl⟩, hfits⟩

theorem IsLoopback.type_eq (h : IsLoopback request type size) : request.hdr.type = type := by
  obtain ⟨⟨rand, id, sent, hsent, rfl⟩, -⟩ := h
  exact show sent.hdr.type = type from gbLoopbackSendReq_type hsent

/-- The fields and the length of a transfer that `gb_loopback_send_req` fills in. -/
theorem IsLoopback.transfer (h : IsLoopback request loopbackTypeTransfer size) :
    request.payloadSize = 12 + size ∧ request.payload.length = 12 + size ∧
      ∀ after, u32At (request.payloadByte after) 0 = size := by
  obtain ⟨⟨rand, id, sent, hsent, rfl⟩, hfits⟩ := h
  have hlt := hfits rfl
  have hsize : sent.hdr.size = hdrSize (12 + size) := by
    rw [gbLoopbackSendReq, if_neg (by decide), if_pos rfl] at hsent
    split at hsent
    next => cases hsent
    next =>
      cases hsent
      show hdrSize ((12 + size) % 2 ^ 32) = _
      rw [Nat.mod_eq_of_lt (by omega)]
  obtain ⟨hlt', hpayload⟩ := gbLoopbackSendReq_transfer hsent
  refine ⟨?_, ?_, fun after => ?_⟩
  · show sent.hdr.size.toNat - sizeofHdr = 12 + size
    rw [hsize, hdrSize, UInt16.toNat_ofNat', Nat.mod_eq_of_lt (by rw [sizeofHdr]; omega),
      Nat.add_sub_cancel]
  · show sent.payload.length = 12 + size
    rw [hpayload, List.length_append, List.length_append, List.length_replicate, List.length_map,
      List.length_range]
    rfl
  · have hbytes : (sent.withId id).payload
        = bytes32 size ++ (List.replicate 8 0 ++ (List.range size).map rand) := by
      rw [Message.withId_payload, hpayload, List.append_assoc]
    exact u32At_bytes32 hbytes hlt'

/-- The response of a loopback driver: an acknowledgement, an echo, or a lack of memory. -/
inductive LoopbackReply (request reply : Message) : Prop where
  | done : request.hdr.type ≠ loopbackTypeTransfer →
      reply.hdr.result = OperationResult.success.code → reply.hdr.size = 8 →
      LoopbackReply request reply
  | echo {after : Nat → UInt8} : request.hdr.type = loopbackTypeTransfer →
      reply.hdr.result = OperationResult.success.code →
      reply.payload = loopbackEcho (request.payloadByte after) → LoopbackReply request reply
  | noMemory : reply.hdr.result = OperationResult.noMemory.code → reply.hdr.size = 8 →
      reply.payload = [] → LoopbackReply request reply

-- A transfer prepares its echo, if there is a buffer for it.
theorem run_gbLoopbackTransferReqCb (h : IsLoopback request loopbackTypeTransfer size)
    (after : Nat → UInt8) (tr : Transport) {p : Processing}
    (hp : p.operation.requestBuffer = request) :
    ∃ buf, ((gbLoopbackTransferReqCb after p.operation).run tr p).2.operation.responseBuffer = buf ∧
      (((gbLoopbackTransferReqCb after p.operation).run tr p).1 = OperationResult.noMemory.code ∧
          buf = none ∨
        ((gbLoopbackTransferReqCb after p.operation).run tr p).1 = OperationResult.success.code ∧
          ∃ response, buf = some response ∧
            response.payload = loopbackEcho (request.payloadByte after)) := by
  obtain ⟨hpayloadSize, -, hlen⟩ := h.transfer
  have hlt := h.2 rfl
  refine ⟨_, rfl, ?_⟩
  rw [gbLoopbackTransferReqCb, hp, if_neg (by omega), HandlerProg.run_allocResponse]
  cases halloc : tr.allocBuf p.allocs with
  | false =>
    refine .inl ⟨rfl, ?_⟩
    show (gbOperationAllocResponse tr _ p).operation.responseBuffer = none
    simp only [gbOperationAllocResponse, Processing.setResponseBuffer, halloc, Bool.false_eq_true,
      if_false]
  | true =>
    obtain ⟨response, hpayload, hbuf⟩ :=
      fillResponse_allocResponse halloc (loopbackEcho (request.payloadByte after))
    rw [length_loopbackEcho] at hbuf
    refine .inr ⟨rfl, response, ?_, hpayload⟩
    rw [Nat.mod_eq_of_lt (by rw [hlen]; omega)]
    exact hbuf

theorem loopbackReply_of_computes (h : Computes ServesLoopback request reply)
    (hrequest : IsLoopback request type size) : LoopbackReply request reply := by
  have htypes : request.hdr.type = loopbackTypePing ∨ request.hdr.type = loopbackTypeTransfer ∨
      request.hdr.type = loopbackTypeSink := by
    obtain ⟨⟨rand, id, sent, hsent, -⟩, -⟩ := id hrequest
    exact hrequest.type_eq ▸ gbLoopbackSendReq_type_cases hsent
  obtain ⟨core, tr, cport, after, sent, hsent, rfl⟩ := sends_of_loopback h htypes
  have hprepared := callHandler_prepared core tr (loopbackReqCb after request.hdr.type)
    (Processing.start_prepared cport request)
  have hcases := gbOperationSendResponse_sends hprepared hsent
  by_cases htransfer : request.hdr.type = loopbackTypeTransfer
  · have hcb : loopbackReqCb after request.hdr.type = gbLoopbackTransferReqCb after :=
      if_pos htransfer
    have hloop : IsLoopback request loopbackTypeTransfer size :=
      hrequest.type_eq.symm.trans htransfer ▸ hrequest
    obtain ⟨buf, hbuf, hrun⟩ := @run_gbLoopbackTransferReqCb _ _ hloop after tr
      { Processing.start (.fresh cport request) with
        operation := { Operation.fresh cport request with
          bundle := (core.gCport cport).driver.bind fun d => (core.drivers d).bundle }
        handled := [(core.gCport cport).driver.bind fun d => (core.drivers d).bundle] } rfl
    rw [hcb] at hcases
    rcases hrun with ⟨hresult, rfl⟩ | ⟨hresult, response, rfl, hpayload⟩
    · rcases hcases with ⟨resp, hresp, -⟩ | ⟨-, hempty, hsize, hsame⟩
      · cases hbuf.symm.trans hresp
      · exact .noMemory (hsame.elim (fun h => h.trans hresult) id) hsize hempty
    · rcases hcases with ⟨resp, hresp, hbuf'⟩ | ⟨hnone, -⟩
      · obtain rfl := Option.some.inj (hbuf.symm.trans hresp)
        rw [hbuf']
        exact .echo htransfer hresult hpayload
      · cases hbuf.symm.trans hnone
  · have hcb : loopbackReqCb after request.hdr.type = gbLoopbackPingSinkReqCb := if_neg htransfer
    rw [hcb] at hcases
    rcases hcases with ⟨resp, hresp, -⟩ | ⟨-, hempty, hsize, hresult | hresult⟩
    · cases hresp
    · exact .done htransfer hresult hsize
    · exact .noMemory hresult hsize hempty

/-! ## What is counted -/

/-- The callback of a registered cport goes through, reads what the messages carry, and counts with
`count`. -/
def Counts (count : Nat → List Loopback → List Loopback) (operation response : Operation) : Prop :=
  ∀ after behind list, (loopbackFromCport operation.cport list).isSome →
    ∃ done, loopbackRespCb after behind operation (some response) list = some done ∧
      LoopbackCompleted operation (some response) list done ∧
      done.list = count operation.cport list

variable {operation response : Operation}

-- Pings and sinks count what the header says.
theorem counts_pingSink (htype : operation.requestBuffer.hdr.type ≠ loopbackTypeTransfer)
    (hsize : response.requestBuffer.hdr.size = 8) :
    if response.requestBuffer.hdr.result = OperationResult.success.code then
      Counts loopbackRecvInc operation response
    else Counts loopbackErrorNotify operation response := by
  have hresult : gbOperationGetRequestResult (some response)
      = response.requestBuffer.hdr.result := by
    simp only [gbOperationGetRequestResult, hsize]
    exact if_neg (by decide)
  have hcb : ∀ after behind list, loopbackRespCb after behind operation (some response) list
      = some (gbLoopbackPingSinkRespCb operation (some response) list) := by
    intro after behind list
    exact if_neg htype
  split
  next hsuccess =>
    intro after behind list hregistered
    refine ⟨_, hcb .., gbLoopbackPingSinkRespCb_completed hregistered htype, ?_⟩
    exact if_neg (by rw [hresult, hsuccess]; exact fun h => h rfl)
  next hfailed =>
    intro after behind list hregistered
    refine ⟨_, hcb .., gbLoopbackPingSinkRespCb_completed hregistered htype, ?_⟩
    exact if_pos (by rw [hresult]; exact hfailed)

-- The echo of a transfer's own bytes compares equal to them.
theorem counts_echo (hloop : IsLoopback operation.requestBuffer loopbackTypeTransfer size)
    {id : UInt16} {behindRequest : Nat → UInt8}
    (hecho : response.requestBuffer.payload
      = loopbackEcho ((operation.requestBuffer.withId id).payloadByte behindRequest)) :
    Counts loopbackRecvInc operation response := by
  intro after behind list hregistered
  obtain ⟨-, hlength, hlen⟩ := hloop.transfer
  obtain ⟨-, -, hlen'⟩ := (hloop.withId id).transfer
  have hanswer : response.requestBuffer.payload.length = 12 + size := by
    rw [hecho, length_loopbackEcho, hlen']
  have htake : response.requestBuffer.payload.take 4 = (List.range 4).map
      ((operation.requestBuffer.withId id).payloadByte behindRequest) := by
    rw [hecho]
    rfl
  have hdrop : response.requestBuffer.payload.drop 12 = (List.range size).map fun i =>
      (operation.requestBuffer.withId id).payloadByte behindRequest (12 + i) := by
    rw [hecho, ← hlen' behindRequest]
    rfl
  have hsize : u32At (response.requestBuffer.payloadByte behind) 0 = size := by
    have hread := @take_drop_payload response.requestBuffer behind 0 4 (by omega)
    simp only [List.drop_zero, Nat.zero_add] at hread
    rw [← hlen' behindRequest, u32At_eq_iff, ← htake, hread]
  have hsame : memcmpDiffers (fun i => operation.requestBuffer.payloadByte after (12 + i))
      (fun i => response.requestBuffer.payloadByte behind (12 + i)) size = false := by
    have hall : (response.requestBuffer.payload.drop 12).take size
        = response.requestBuffer.payload.drop 12 :=
      List.take_of_length_le (by rw [List.length_drop]; omega)
    have hown := @take_drop_payload (operation.requestBuffer.withId id) behindRequest 12 size
      (Nat.le_of_eq hlength.symm)
    rw [memcmpDiffers_eq_false_iff, ← take_drop_payload (Nat.le_of_eq hlength.symm),
      ← take_drop_payload (Nat.le_of_eq hanswer.symm), hall, hdrop]
    exact hown
  have htype := hloop.type_eq
  have hresponse : ∃ r, some response = some r ∧ 4 ≤ r.requestBuffer.payload.length ∧
      (u32At (r.requestBuffer.payloadByte behind) 0 = size →
        size = 0 ∨ 12 + size ≤ r.requestBuffer.payload.length) :=
    ⟨response, rfl, by omega, fun _ => .inr (Nat.le_of_eq hanswer.symm)⟩
  obtain ⟨done, hdone, hcompleted⟩ :=
    (gbLoopbackTransferRespCb_completed_iff hregistered htype hlength (hlen after)).mpr hresponse
  have hcb : loopbackRespCb after behind operation (some response) list = some done := by
    rw [loopbackRespCb, if_pos htype, hdone]
  refine ⟨done, hcb, hcompleted, ?_⟩
  simp only [gbLoopbackTransferRespCb, Option.map_some, hlen, hsize, hsame, ne_eq,
    not_true_eq_false, if_false, Bool.false_eq_true, Option.some.injEq] at hdone
  rw [← hdone]

/-! ## Every run -/

/-- The response says success, and the operation counts as received; or the server had no memory
and says so, and a ping or a sink counts as failed. -/
def LoopbackCounted (operation response : Operation) (type : UInt8) : Prop :=
  response.requestBuffer.hdr.result = OperationResult.success.code ∧
      Counts loopbackRecvInc operation response ∨
    response.requestBuffer.hdr.result = OperationResult.noMemory.code ∧
      (type ≠ loopbackTypeTransfer → Counts loopbackErrorNotify operation response)

theorem LoopbackReply.counted {id : UInt16}
    (h : LoopbackReply (operation.requestBuffer.withId id) response.requestBuffer)
    (hloop : IsLoopback operation.requestBuffer type size) :
    LoopbackCounted operation response type := by
  have htype := hloop.type_eq
  cases h with
  | done hother hresult hsize =>
    have hcounts := counts_pingSink hother hsize
    rw [if_pos hresult] at hcounts
    exact .inl ⟨hresult, hcounts⟩
  | echo htransfer hresult hecho =>
    have htransfer' : IsLoopback operation.requestBuffer loopbackTypeTransfer size :=
      (htype.symm.trans htransfer) ▸ hloop
    exact .inl ⟨hresult, counts_echo htransfer' hecho⟩
  | noMemory hresult hsize hempty =>
    refine .inr ⟨hresult, fun hother => ?_⟩
    have hcounts := counts_pingSink (htype.symm ▸ hother) hsize
    rwa [hresult, if_neg (by decide)] at hcounts

/-- In every run in which the peer's loopback driver answers, and in which replies are processed in
time, a ping, a sink or a transfer of at most 65515 bytes that has its response counts as received
if that says success, which it does unless the peer had no memory. -/
theorem run_loopbackCounted {cportCount : Nat} {x : Exchange} {as : List Action}
    (hrun : run Exchange.step (.initial cportCount) as = some x)
    (htimely : EachStep Exchange.step Timely (.initial cportCount) as)
    (hfills : EachStep Exchange.step FillsUnsent (.initial cportCount) as)
    (hserved : ∀ a ∈ as, a.ServedBy ServesLoopback)
    {p r : OpRef} {operation response : Operation} {type : UInt8} {size : Nat}
    (hattached : x.client.responseOf p = some r) (hop : x.client.heap p = some operation)
    (hresponse : x.client.heap r = some response)
    (hloop : IsLoopback operation.requestBuffer type size) :
    LoopbackCounted operation response type := by
  obtain ⟨id, hcomputes⟩ := (run_answered hrun htimely hfills hserved).computes hattached hop hresponse
  exact (loopbackReply_of_computes hcomputes (hloop.withId id)).counted hloop

/-- A core whose cport 0 is bound to the loopback driver. -/
def loopbackCore : Core where
  cportCount := 1
  gCport := fun _ => { driver := some 0, exitWorker := false }
  gBundle := [none]
  bundles := []
  drivers := fun _ =>
    { hasInit := false, opHandlers := some (gbLoopbackHandlers fun _ => 0), opHandlersCount := 4,
      bundle := none, count_eq := by intro tab htab; cases htab; rfl }

/-- A transfer of the byte 7 and a ping; the ping's response comes first, and twice. -/
def loopbackPair : List Exchange.Action :=
  [.call (.create true true 0 3 13), .fill 0 (loopbackTransfer 1 [7]).payload,
   .call (.create true true 0 2 1), .call (.send 0 (some (.user 0)) true ⟨0, 0⟩ 0),
   .call (.send 1 (some (.user 1)) true ⟨0, 0⟩ 0), .serve 0 loopbackCore reliableTransport 0,
   .serve 1 loopbackCore reliableTransport 0, .deliver 1 true true 0, .deliver 1 true true 0,
   .deliver 0 true true 0, .call (.process 2), .call (.process 3), .call (.process 4)]

theorem run_loopbackCounted_pair : ∃ x operation response,
    run Exchange.step (.initial 1) loopbackPair = some x ∧
      x.client.heap 0 = some operation ∧ x.client.heap 4 = some response ∧
      LoopbackCounted operation response loopbackTypeTransfer := by
  have hsome : ((run Exchange.step (.initial 1) loopbackPair).map fun x =>
      (x.client.responseOf 0, (x.client.heap 0).map (·.requestBuffer),
        (x.client.heap 4).isSome))
      = some (some 4, some ((loopbackTransfer 1 [7]).withId 1), true) := by decide
  obtain ⟨x, hrun, hstate⟩ := Option.map_eq_some_iff.mp hsome
  obtain ⟨hattached, hstate⟩ := Prod.mk.inj hstate
  obtain ⟨hheap, hlive⟩ := Prod.mk.inj hstate
  obtain ⟨operation, hop, hrequest⟩ := Option.map_eq_some_iff.mp hheap
  obtain ⟨response, hresponse⟩ := Option.isSome_iff_exists.mp hlive
  have hserved : ∀ a ∈ loopbackPair, a.ServedBy ServesLoopback := by
    have hcore : ServesLoopback loopbackCore reliableTransport 0 := ⟨0, fun _ => 0, rfl, rfl⟩
    simp [loopbackPair, Exchange.Action.ServedBy, hcore]
  have hloop : IsLoopback operation.requestBuffer loopbackTypeTransfer 1 :=
    ⟨⟨fun _ => 7, 1, _, loopbackSent_of_sendReq, hrequest⟩, fun _ => by decide⟩
  exact ⟨x, operation, response, hrun, hop, hresponse, run_loopbackCounted hrun (by decide)
    (by decide) hserved hattached hop hresponse hloop⟩

end Greybus
