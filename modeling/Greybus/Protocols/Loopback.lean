import Greybus.Protocols.Transfers
import Greybus.Reasoning.Slices

/-!
# The loopback protocol

`gb_loopback_transfer_req_cb` echoes a request; `gb_loopback_send_req` sends one, and the callbacks
of its completion compare the response with it and count.  Neither side relates the length field of
the peer to the length of the peer's message.
-/

namespace Greybus

open Reasoning.Memory Reasoning.Slices

/-! ## Bytes of a payload -/

-- As long as they are in the payload, it makes no difference what lies behind it.
theorem take_drop_payload {m : Message} {after : Nat → UInt8} {start len : Nat}
    (h : start + len ≤ m.payload.length) :
    (m.payload.drop start).take len
      = (List.range len).map fun i => m.payloadByte after (start + i) := by
  apply List.ext_getElem
  · simp only [List.length_take, List.length_drop, List.length_map, List.length_range]
    omega
  · intro i hi hi'
    have hlt : start + i < m.payload.length := by
      rw [List.length_map, List.length_range] at hi'
      omega
    rw [List.getElem_take, List.getElem_drop, List.getElem_map, List.getElem_range,
      Message.payloadByte, List.getElem?_eq_getElem hlt, Option.getD_some]

theorem u32At_eq_iff {f g : Nat → UInt8} :
    u32At f 0 = u32At g 0 ↔ (List.range 4).map f = (List.range 4).map g := by
  have hf := fun i => (f i).toNat_lt
  have hg := fun i => (g i).toNat_lt
  have h0 := hf 0; have h1 := hf 1; have h2 := hf 2; have h3 := hf 3
  have g0 := hg 0; have g1 := hg 1; have g2 := hg 2; have g3 := hg 3
  show _ ↔ [f 0, f 1, f 2, f 3] = [g 0, g 1, g 2, g 3]
  simp only [u32At, u16At, le16, Nat.zero_add, Nat.reduceAdd, List.cons.injEq, and_true,
    ← UInt8.toNat_inj]
  omega

/-! ## Echoing -/

/-- The response has the request's length and the data that the request carries. -/
structure LoopbackEcho (bytes : Nat → UInt8) (requestSize : Nat) (response : Message) : Prop where
  len : response.payload.take 4 = (List.range 4).map bytes
  data : response.payload.drop 12 = (List.range (u32At bytes 0)).map fun i => bytes (12 + i)
  inside : 12 + u32At bytes 0 ≤ requestSize

/-- A loopback transfer is refused, or answered with an echo. -/
def LoopbackAnswered (request : Message) (after : Nat → UInt8) (run : UInt8 × Processing) : Prop :=
  run.1 = OperationResult.invalid.code ∨ run.1 = OperationResult.noMemory.code ∨
    run.1 = OperationResult.success.code ∧ ∃ response,
      run.2.operation.responseBuffer = some response ∧
        LoopbackEcho (request.payloadByte after) request.payloadSize response

/-- What `gb_loopback_transfer_req_cb` stores into its response. -/
def loopbackEcho (bytes : Nat → UInt8) : List UInt8 :=
  (List.range 4).map bytes ++ List.replicate 8 0 ++
    (List.range (u32At bytes 0)).map fun i => bytes (12 + i)

theorem length_loopbackEcho (bytes : Nat → UInt8) :
    (loopbackEcho bytes).length = 12 + u32At bytes 0 := by
  simp only [loopbackEcho, List.length_append, List.length_map, List.length_range,
    List.length_replicate]

theorem loopbackEcho_spec {bytes : Nat → UInt8} {requestSize : Nat} {response : Message}
    (hpayload : response.payload = loopbackEcho bytes)
    (hinside : 12 + u32At bytes 0 ≤ requestSize) : LoopbackEcho bytes requestSize response where
  len := hpayload ▸ rfl
  data := hpayload ▸ rfl
  inside := hinside

/-- A loopback transfer is refused or echoes what its request carries, exactly if the request is too
short for its fixed fields, or there is no memory, or it carries as much as its length says. -/
theorem loopbackAnswered_iff (tr : Transport) (after : Nat → UInt8) (p : Processing) :
    let request := p.operation.requestBuffer
    LoopbackAnswered request after ((gbLoopbackTransferReqCb after p.operation).run tr p) ↔
      request.payloadSize < 12 ∨ tr.allocBuf p.allocs = false ∨
        12 + u32At (request.payloadByte after) 0 ≤ request.payloadSize := by
  intro request
  rw [gbLoopbackTransferReqCb]
  by_cases hhdr : request.payloadSize < 12
  · rw [if_pos hhdr]
    exact iff_of_true (.inl rfl) (.inl hhdr)
  rw [if_neg hhdr, or_iff_right hhdr, HandlerProg.run_allocResponse]
  cases halloc : tr.allocBuf p.allocs with
  | false => exact iff_of_true (.inr (.inl rfl)) (.inl rfl)
  | true =>
    rw [or_iff_right Bool.true_eq_false.mp]
    constructor
    · rintro (h | h | ⟨-, response, -, hecho⟩)
      · exact absurd (show OperationResult.success.code = _ from h) (by decide)
      · exact absurd (show OperationResult.success.code = _ from h) (by decide)
      · exact hecho.inside
    · intro hinside
      have hlt : request.payloadSize < 2 ^ 16 :=
        lt_of_le_of_lt (Nat.sub_le _ _) (UInt16.toNat_lt _)
      obtain ⟨response, hpayload, hbuf⟩ :=
        fillResponse_allocResponse halloc (loopbackEcho (request.payloadByte after))
      rw [length_loopbackEcho] at hbuf
      rw [Nat.mod_eq_of_lt (show 12 + u32At (request.payloadByte after) 0 < 2 ^ 32 by omega)]
      exact .inr (.inr ⟨rfl, response, hbuf, loopbackEcho_spec hpayload hinside⟩)

/-- A loopback transfer of these data bytes that gives `len` as their number. -/
def loopbackTransfer (len : Nat) (data : List UInt8) : Message :=
  requestOf 3 (bytes32 len ++ List.replicate 8 0 ++ data)

-- One byte is asked for and none is carried: what lies behind the request is sent.
theorem loopback_leaks :
    (loopbackTransfer 1 []).payloadSize = 12 ∧
    ((gbLoopbackTransferReqCb (fun _ => 0x2a) (.fresh 0 (loopbackTransfer 1 []))).run
      reliableTransport (.start (.fresh 0 (loopbackTransfer 1 [])))).1
        = OperationResult.success.code ∧
    ((gbLoopbackTransferReqCb (fun _ => 0x2a) (.fresh 0 (loopbackTransfer 1 []))).run
      reliableTransport (.start (.fresh 0 (loopbackTransfer 1 [])))).2.operation.responseBuffer.map
        (·.payload) = some [1, 0, 0, 0, 0, 0, 0, 0, 0, 0, 0, 0, 0x2a] ∧
    ¬ LoopbackAnswered (loopbackTransfer 1 []) (fun _ => 0x2a)
      ((gbLoopbackTransferReqCb (fun _ => 0x2a) (.fresh 0 (loopbackTransfer 1 []))).run
        reliableTransport (.start (.fresh 0 (loopbackTransfer 1 [])))) := by
  refine ⟨by decide, by decide, by decide, ?_⟩
  rintro (h | h | ⟨-, response, -, hecho⟩)
  · exact absurd h (by decide)
  · exact absurd h (by decide)
  · exact absurd hecho.inside (by decide)

/-! ## Statistics -/

/-- The counters of `struct gb_loopback_statistics`. -/
structure LoopbackStats where
  recv : UInt32
  recvErr : UInt32
  deriving DecidableEq, Repr

/-- `struct gb_loopback`, an entry of `gb_loopback_list`. -/
structure Loopback where
  cport : Nat
  stats : LoopbackStats
  deriving DecidableEq, Repr

/-- `loopback_from_cport`. -/
def loopbackFromCport (cport : Nat) (list : List Loopback) : Option Loopback :=
  list.find? fun loopback => loopback.cport = cport

/-- `gb_loopback_get_stats`. -/
def gbLoopbackGetStats (cport : Nat) (list : List Loopback) : Option LoopbackStats :=
  (loopbackFromCport cport list).map (·.stats)

/-- Changes the statistics of the entry that `loopback_from_cport` finds. -/
def setLoopbackStats (f : LoopbackStats → LoopbackStats) (cport : Nat) :
    List Loopback → List Loopback
  | [] => []
  | loopback :: list =>
    if loopback.cport = cport then { loopback with stats := f loopback.stats } :: list
    else loopback :: setLoopbackStats f cport list

/-- `loopback_error_notify`. -/
def loopbackErrorNotify : Nat → List Loopback → List Loopback :=
  setLoopbackStats fun stats => { stats with recvErr := stats.recvErr + 1 }

/-- `loopback_recv_inc`. -/
def loopbackRecvInc : Nat → List Loopback → List Loopback :=
  setLoopbackStats fun stats => { stats with recv := stats.recv + 1 }

section Statistics

variable {f : LoopbackStats → LoopbackStats} {cport other : Nat} {list : List Loopback}

theorem gbLoopbackGetStats_self :
    gbLoopbackGetStats cport (setLoopbackStats f cport list)
      = (gbLoopbackGetStats cport list).map f := by
  induction list with
  | nil => rfl
  | cons loopback list ih =>
    rw [setLoopbackStats]
    by_cases hcport : loopback.cport = cport
    · simp [gbLoopbackGetStats, loopbackFromCport, hcport]
    · simpa [gbLoopbackGetStats, loopbackFromCport, hcport] using ih

theorem gbLoopbackGetStats_of_ne (hne : other ≠ cport) :
    gbLoopbackGetStats other (setLoopbackStats f cport list) = gbLoopbackGetStats other list := by
  induction list with
  | nil => rfl
  | cons loopback list ih =>
    rw [setLoopbackStats]
    by_cases hcport : loopback.cport = cport
    · simp [gbLoopbackGetStats, loopbackFromCport, hcport, hne.symm]
    by_cases hother : loopback.cport = other
    · simp [gbLoopbackGetStats, loopbackFromCport, hother, hne]
    · simpa [gbLoopbackGetStats, loopbackFromCport, hcport, hother] using ih

end Statistics

/-! ## Requests -/

/-- `GB_LOOPBACK_TYPE_PING`. -/
def loopbackTypePing : UInt8 := 0x02

/-- `GB_LOOPBACK_TYPE_TRANSFER`. -/
def loopbackTypeTransfer : UInt8 := 0x03

/-- `GB_LOOPBACK_TYPE_SINK`. -/
def loopbackTypeSink : UInt8 := 0x04

/-- The request that `gb_loopback_send_req` sends, with the bytes that `rand` gives; `none` when
there is no such type, or when the stores leave the buffer because the size does not fit the 32 bits
of `req_size`. -/
def gbLoopbackSendReq (rand : Nat → UInt8) (size : Nat) (type : UInt8) : Option Message :=
  let reqSize := (12 + size) % 2 ^ 32
  let request := Message.request type reqSize
  if type = loopbackTypePing then some (.request loopbackTypePing 1)
  else if type = loopbackTypeTransfer then
    if reqSize < 12 + size then none
    else
      some { request with
        payload := bytes32 size ++ List.replicate 8 0 ++ (List.range size).map rand }
  else if type = loopbackTypeSink then
    if reqSize < 4 then none
    else some { request with payload := bytes32 size ++ List.replicate (reqSize - 4) 0 }
  else none

/-! ## Completions -/

/-- What a completion callback reads of the two payloads, and the entries it leaves. -/
structure LoopbackCompletion where
  requestRead : List Slice
  responseRead : List Slice
  list : List Loopback
  deriving DecidableEq, Repr

/-- `gb_operation_get_request_result`, where `response` is what `operation->response` points to. -/
def gbOperationGetRequestResult (response : Option Operation) : UInt8 :=
  match response with
  | none => OperationResult.timeout.code
  | some response =>
    let hdr := response.requestBuffer.hdr
    if hdr.size.toNat < sizeofHdr then OperationResult.internal.code else hdr.result

/-- `gb_loopback_ping_sink_resp_cb`. -/
def gbLoopbackPingSinkRespCb (operation : Operation) (response : Option Operation)
    (list : List Loopback) : LoopbackCompletion where
  requestRead := []
  responseRead := []
  list :=
    if gbOperationGetRequestResult response ≠ OperationResult.success.code then
      loopbackErrorNotify operation.cport list
    else loopbackRecvInc operation.cport list

/-- `memcmp` is not 0. -/
def memcmpDiffers (f g : Nat → UInt8) (n : Nat) : Bool := (List.range n).any fun i => f i ≠ g i

/-- `gb_loopback_transfer_resp_cb`; `none` when it reads through a NULL `operation->response`. -/
def gbLoopbackTransferRespCb (after behind : Nat → UInt8) (operation : Operation)
    (response : Option Operation) (list : List Loopback) : Option LoopbackCompletion :=
  response.map fun response =>
    let request := operation.requestBuffer.payloadByte after
    let answer := response.requestBuffer.payloadByte behind
    let len := u32At request 0
    if len ≠ u32At answer 0 then
      ⟨[⟨0, 4⟩], [⟨0, 4⟩], loopbackErrorNotify operation.cport list⟩
    else
      ⟨[⟨0, 4⟩, ⟨12, len⟩], [⟨0, 4⟩, ⟨12, len⟩],
        if memcmpDiffers (fun i => request (12 + i)) (fun i => answer (12 + i)) len then
          loopbackErrorNotify operation.cport list
        else loopbackRecvInc operation.cport list⟩

/-- The callback that `gb_loopback_send_req` gives to `gb_operation_send_request`. -/
def loopbackRespCb (after behind : Nat → UInt8) (operation : Operation)
    (response : Option Operation) (list : List Loopback) : Option LoopbackCompletion :=
  if operation.requestBuffer.hdr.type = loopbackTypeTransfer then
    gbLoopbackTransferRespCb after behind operation response list
  else some (gbLoopbackPingSinkRespCb operation response list)

/-- The response to a transfer carries its length and its data; any other response, success. -/
def LoopbackReceived (request : Message) (response : Option Operation) : Prop :=
  if request.hdr.type = loopbackTypeTransfer then
    ∃ r, response = some r ∧
      r.requestBuffer.payload.take 4 = request.payload.take 4 ∧
      (r.requestBuffer.payload.drop 12).take (request.payload.length - 12)
        = request.payload.drop 12
  else gbOperationGetRequestResult response = OperationResult.success.code

/-- The callback reads only what the messages carry, and counts one of received and failed on the
cport of the operation. -/
structure LoopbackCompleted (operation : Operation) (response : Option Operation)
    (list : List Loopback) (done : LoopbackCompletion) : Prop where
  requestRead : ∀ s ∈ done.requestRead, s.Inside operation.requestBuffer.payload.length
  responseRead : ∀ s ∈ done.responseRead, ∃ r, response = some r ∧
    s.Inside r.requestBuffer.payload.length
  counted : ∃ stats, gbLoopbackGetStats operation.cport list = some stats ∧
    (LoopbackReceived operation.requestBuffer response ∧
        gbLoopbackGetStats operation.cport done.list
          = some { stats with recv := stats.recv + 1 } ∨
      ¬ LoopbackReceived operation.requestBuffer response ∧
        gbLoopbackGetStats operation.cport done.list
          = some { stats with recvErr := stats.recvErr + 1 })
  others : ∀ cport, cport ≠ operation.cport →
    gbLoopbackGetStats cport done.list = gbLoopbackGetStats cport list

section Completion

variable {rand after behind : Nat → UInt8} {size : Nat} {type : UInt8} {request answer : Message}
  {operation : Operation} {response : Option Operation} {list : List Loopback}
  {done : LoopbackCompletion}

theorem gbLoopbackSendReq_type (hsent : gbLoopbackSendReq rand size type = some request) :
    request.hdr.type = type := by
  rw [gbLoopbackSendReq] at hsent
  split at hsent
  next htype => cases hsent; exact htype.symm
  split at hsent
  next =>
    split at hsent
    next => cases hsent
    next => cases hsent; rfl
  split at hsent
  next =>
    split at hsent
    next => cases hsent
    next => cases hsent; rfl
  next => cases hsent

theorem gbLoopbackSendReq_transfer
    (hsent : gbLoopbackSendReq rand size loopbackTypeTransfer = some request) :
    size < 2 ^ 32 ∧
      request.payload = bytes32 size ++ List.replicate 8 0 ++ (List.range size).map rand := by
  rw [gbLoopbackSendReq, if_neg (by decide), if_pos rfl] at hsent
  split at hsent
  next => cases hsent
  next hfits =>
    cases hsent
    exact ⟨by omega, rfl⟩

theorem u32At_bytes32 {rest : List UInt8} (hpayload : request.payload = bytes32 size ++ rest)
    (hsize : size < 2 ^ 32) : u32At (request.payloadByte after) 0 = size := by
  have hfields : u32At (request.payloadByte after) 0
      = size % 2 ^ 16 + 2 ^ 16 * (size / 2 ^ 16 % 2 ^ 16) := by
    rw [← le16_bytes16, ← le16_bytes16]
    simp [u32At, u16At, Message.payloadByte, hpayload, bytes32, bytes16]
  rw [hfields]
  omega

theorem memcmpDiffers_eq_false_iff {f g : Nat → UInt8} {n : Nat} :
    memcmpDiffers f g n = false ↔ (List.range n).map f = (List.range n).map g := by
  simp [memcmpDiffers]

-- The lengths are compared byte for byte.
theorem take_four_eq_iff (hrequest : 4 ≤ request.payload.length)
    (hanswer : 4 ≤ answer.payload.length) :
    answer.payload.take 4 = request.payload.take 4 ↔
      u32At (request.payloadByte after) 0 = u32At (answer.payloadByte behind) 0 := by
  have hr := @take_drop_payload request after 0 4 hrequest
  have ha := @take_drop_payload answer behind 0 4 hanswer
  simp only [List.drop_zero, Nat.zero_add] at hr ha
  rw [hr, ha, u32At_eq_iff]
  exact eq_comm

theorem data_eq_iff (hrequest : request.payload.length = 12 + size)
    (hanswer : size = 0 ∨ 12 + size ≤ answer.payload.length) :
    (answer.payload.drop 12).take (request.payload.length - 12) = request.payload.drop 12 ↔
      memcmpDiffers (fun i => request.payloadByte after (12 + i))
        (fun i => answer.payloadByte behind (12 + i)) size = false := by
  have hall : request.payload.drop 12 = (request.payload.drop 12).take size := by
    rw [List.take_of_length_le]
    rw [List.length_drop]
    omega
  rw [hrequest, Nat.add_sub_cancel_left]
  rcases hanswer with rfl | hanswer
  · refine iff_of_true ?_ rfl
    rw [hall, List.take_zero, List.take_zero]
  · rw [hall, take_drop_payload (Nat.le_of_eq hrequest.symm), take_drop_payload hanswer,
      memcmpDiffers_eq_false_iff]
    exact eq_comm

-- What the callback compares tells whether a transfer has been received.
theorem loopbackReceived_transfer_iff {r : Operation}
    (htype : request.hdr.type = loopbackTypeTransfer)
    (hlength : request.payload.length = 12 + size)
    (hsize : u32At (request.payloadByte after) 0 = size)
    (h4 : 4 ≤ r.requestBuffer.payload.length)
    (hfits : u32At (r.requestBuffer.payloadByte behind) 0 = size →
      size = 0 ∨ 12 + size ≤ r.requestBuffer.payload.length) :
    LoopbackReceived request (some r) ↔
      size = u32At (r.requestBuffer.payloadByte behind) 0 ∧
        memcmpDiffers (fun i => request.payloadByte after (12 + i))
          (fun i => r.requestBuffer.payloadByte behind (12 + i)) size = false := by
  have hlens : r.requestBuffer.payload.take 4 = request.payload.take 4 ↔
      size = u32At (r.requestBuffer.payloadByte behind) 0 := by
    rw [← hsize]
    exact take_four_eq_iff (by omega) h4
  simp only [LoopbackReceived, if_pos htype, Option.some.injEq, exists_eq_left', hlens]
  exact and_congr_right fun hsame => data_eq_iff hlength (hfits hsame.symm)

theorem exists_inside_iff {r : Operation} {s : Slice} :
    (∃ r', some r = some r' ∧ s.Inside r'.requestBuffer.payload.length) ↔
      s.len = 0 ∨ s.stop ≤ r.requestBuffer.payload.length := by
  simp only [Option.some.injEq, exists_eq_left', Slice.inside_iff]

theorem LoopbackCompleted.of_list (hregistered : (loopbackFromCport operation.cport list).isSome)
    (hrequest : ∀ s ∈ done.requestRead, s.Inside operation.requestBuffer.payload.length)
    (hresponse : ∀ s ∈ done.responseRead, ∃ r, response = some r ∧
      s.Inside r.requestBuffer.payload.length)
    (hlist : LoopbackReceived operation.requestBuffer response ∧
        done.list = loopbackRecvInc operation.cport list ∨
      ¬ LoopbackReceived operation.requestBuffer response ∧
        done.list = loopbackErrorNotify operation.cport list) :
    LoopbackCompleted operation response list done := by
  obtain ⟨loopback, hfound⟩ := Option.isSome_iff_exists.mp hregistered
  have hstats : gbLoopbackGetStats operation.cport list = some loopback.stats := by
    rw [gbLoopbackGetStats, hfound, Option.map_some]
  refine ⟨hrequest, hresponse, ⟨loopback.stats, hstats, hlist.imp ?_ ?_⟩, fun cport hne => ?_⟩
  · rintro ⟨hreceived, hlist⟩
    refine ⟨hreceived, ?_⟩
    rw [hlist, loopbackRecvInc, gbLoopbackGetStats_self, hstats, Option.map_some]
  · rintro ⟨hfailed, hlist⟩
    refine ⟨hfailed, ?_⟩
    rw [hlist, loopbackErrorNotify, gbLoopbackGetStats_self, hstats, Option.map_some]
  · rcases hlist with ⟨-, hlist⟩ | ⟨-, hlist⟩ <;> rw [hlist] <;> exact gbLoopbackGetStats_of_ne hne

-- Pings and sinks look at the header of the response only.
theorem gbLoopbackPingSinkRespCb_completed
    (hregistered : (loopbackFromCport operation.cport list).isSome)
    (htype : operation.requestBuffer.hdr.type ≠ loopbackTypeTransfer) :
    LoopbackCompleted operation response list
      (gbLoopbackPingSinkRespCb operation response list) := by
  refine .of_list hregistered (List.forall_mem_nil _) (List.forall_mem_nil _) ?_
  rw [LoopbackReceived, if_neg htype]
  by_cases hresult : gbOperationGetRequestResult response = OperationResult.success.code
  · exact .inl ⟨hresult, if_neg (not_not.mpr hresult)⟩
  · exact .inr ⟨hresult, if_pos hresult⟩

-- A transfer looks at as much of the response as its own length says.
theorem gbLoopbackTransferRespCb_completed_iff
    (hregistered : (loopbackFromCport operation.cport list).isSome)
    (htype : operation.requestBuffer.hdr.type = loopbackTypeTransfer)
    (hlength : operation.requestBuffer.payload.length = 12 + size)
    (hsize : u32At (operation.requestBuffer.payloadByte after) 0 = size) :
    (∃ done, gbLoopbackTransferRespCb after behind operation response list = some done ∧
        LoopbackCompleted operation response list done) ↔
      ∃ r, response = some r ∧ 4 ≤ r.requestBuffer.payload.length ∧
        (u32At (r.requestBuffer.payloadByte behind) 0 = size →
          size = 0 ∨ 12 + size ≤ r.requestBuffer.payload.length) := by
  rw [gbLoopbackTransferRespCb]
  cases response with
  | none =>
    refine iff_of_false ?_ ?_
    · rintro ⟨done, hdone, -⟩
      cases hdone
    · rintro ⟨r, hr, -⟩
      cases hr
  | some r =>
    simp only [Option.map_some, Option.some.injEq, exists_eq_left', hsize]
    have hlenRead : Slice.Inside ⟨0, 4⟩ operation.requestBuffer.payload.length :=
      Slice.inside_iff.mpr (.inr (show 0 + 4 ≤ _ by omega))
    by_cases hanswer : size = u32At (r.requestBuffer.payloadByte behind) 0
    · rw [if_neg (not_not.mpr hanswer)]
      constructor
      · intro hdone
        have hlen := exists_inside_iff.mp (hdone.responseRead ⟨0, 4⟩ List.mem_cons_self)
        have hdata := exists_inside_iff.mp (hdone.responseRead ⟨12, size⟩
          (List.mem_cons_of_mem _ List.mem_cons_self))
        exact ⟨hlen.resolve_left (by decide), fun _ => hdata⟩
      · rintro ⟨h4, hdata⟩
        refine .of_list hregistered ?_ ?_ ?_
        · exact List.forall_mem_cons.mpr ⟨hlenRead, List.forall_mem_singleton.mpr
            (Slice.inside_iff.mpr (.inr (Nat.le_of_eq hlength.symm)))⟩
        · exact List.forall_mem_cons.mpr ⟨exists_inside_iff.mpr (.inr h4),
            List.forall_mem_singleton.mpr (exists_inside_iff.mpr (hdata hanswer.symm))⟩
        · rw [loopbackReceived_transfer_iff htype hlength hsize h4 hdata, and_iff_right hanswer]
          split
          next hdiffers => exact .inr ⟨fun h => Bool.false_ne_true (h.symm.trans hdiffers), rfl⟩
          next hsame => exact .inl ⟨Bool.eq_false_of_not_eq_true hsame, rfl⟩
    · rw [if_pos hanswer]
      constructor
      · intro hdone
        have hlen := exists_inside_iff.mp (hdone.responseRead ⟨0, 4⟩ List.mem_cons_self)
        exact ⟨hlen.resolve_left (by decide), fun h => absurd h.symm hanswer⟩
      · rintro ⟨h4, hdata⟩
        refine .of_list hregistered (List.forall_mem_singleton.mpr hlenRead) ?_
          (.inr ⟨fun h => ?_, rfl⟩)
        · exact List.forall_mem_singleton.mpr (exists_inside_iff.mpr (.inr h4))
        · exact hanswer ((loopbackReceived_transfer_iff htype hlength hsize h4 hdata).mp h).1

end Completion

/-- A ping, sink or transfer that has been sent from a registered cport reads only what the messages
carry when it completes, and counts once, as received exactly if a transfer's response has its
length and data, if and only if it is no transfer, or there is a response that is long enough for
its length field and, if that is the request's length, for so many data bytes. -/
theorem loopbackCompleted_iff {rand after behind : Nat → UInt8} {size : Nat} {type : UInt8}
    {request : Message} {operation : Operation} {response : Option Operation}
    {list : List Loopback} {id : UInt16}
    (hsent : gbLoopbackSendReq rand size type = some request)
    (hrequest : operation.requestBuffer = { request with hdr := { request.hdr with id := id } })
    (hregistered : (loopbackFromCport operation.cport list).isSome) :
    (∃ done, loopbackRespCb after behind operation response list = some done ∧
        LoopbackCompleted operation response list done) ↔
      type ≠ loopbackTypeTransfer ∨ ∃ r, response = some r ∧
        4 ≤ r.requestBuffer.payload.length ∧
        (u32At (r.requestBuffer.payloadByte behind) 0 = size →
          size = 0 ∨ 12 + size ≤ r.requestBuffer.payload.length) := by
  have htypes : operation.requestBuffer.hdr.type = type := by
    rw [hrequest]
    show request.hdr.type = type
    exact gbLoopbackSendReq_type hsent
  rw [loopbackRespCb]
  by_cases htype : type = loopbackTypeTransfer
  · rw [if_pos (htypes.trans htype), or_iff_right (not_not.mpr htype)]
    rw [htype] at hsent
    obtain ⟨hsize, hpayload⟩ := gbLoopbackSendReq_transfer hsent
    have hpayload' : operation.requestBuffer.payload
        = bytes32 size ++ (List.replicate 8 0 ++ (List.range size).map rand) := by
      rw [hrequest, ← List.append_assoc]
      exact hpayload
    refine gbLoopbackTransferRespCb_completed_iff hregistered (htypes.trans htype) ?_
      (u32At_bytes32 hpayload' hsize)
    rw [hpayload', List.length_append, List.length_append, List.length_replicate, List.length_map,
      List.length_range, ← Nat.add_assoc]
    rfl
  · rw [if_neg fun h => htype (htypes.symm.trans h)]
    refine iff_of_true ⟨_, rfl, gbLoopbackPingSinkRespCb_completed hregistered fun h => ?_⟩
      (.inl htype)
    exact htype (htypes.symm.trans h)

/-- A transfer of the byte 7 that waits for its response on cport 0. -/
def loopbackSent : Operation := .fresh 0 (loopbackTransfer 1 [7])

/-- A received response with this payload. -/
def loopbackAnswer (payload : List UInt8) : Operation := .fresh 0 (requestOf 0x83 payload)

/-- Cport 0 is registered. -/
def loopbackOnZero (stats : LoopbackStats) : List Loopback := [⟨0, stats⟩]

theorem loopbackSent_of_sendReq : gbLoopbackSendReq (fun _ => 7) 1 loopbackTypeTransfer
    = some { loopbackTransfer 1 [7] with hdr := { (loopbackTransfer 1 [7]).hdr with id := 0 } } := by
  decide

theorem loopbackCompleted_iff_echoed :
    ∃ done, loopbackRespCb (fun _ => 0) (fun _ => 0) loopbackSent
        (some (loopbackAnswer (loopbackTransfer 1 [7]).payload)) (loopbackOnZero ⟨0, 0⟩) = some done ∧
      LoopbackCompleted loopbackSent (some (loopbackAnswer (loopbackTransfer 1 [7]).payload))
        (loopbackOnZero ⟨0, 0⟩) done := by
  have hlong : 4 ≤ (loopbackAnswer (loopbackTransfer 1 [7]).payload).requestBuffer.payload.length ∧
      12 + 1 ≤ (loopbackAnswer (loopbackTransfer 1 [7]).payload).requestBuffer.payload.length := by
    decide
  exact (@loopbackCompleted_iff (fun _ => 7) (fun _ => 0) (fun _ => 0) 1 loopbackTypeTransfer _
    loopbackSent _ _ 1 loopbackSent_of_sendReq rfl rfl).mpr
    (.inr ⟨_, rfl, hlong.1, fun _ => .inr hlong.2⟩)

-- A timeout reads through NULL; a response of the length alone is compared with a byte behind it.
theorem loopbackCompleted_fails :
    loopbackRespCb (fun _ => 0) (fun _ => 0) loopbackSent none (loopbackOnZero ⟨0, 0⟩) = none ∧
    loopbackRespCb (fun _ => 0) (fun _ => 7) loopbackSent (some (loopbackAnswer (bytes32 1)))
        (loopbackOnZero ⟨0, 0⟩)
      = some ⟨[⟨0, 4⟩, ⟨12, 1⟩], [⟨0, 4⟩, ⟨12, 1⟩], loopbackOnZero ⟨1, 0⟩⟩ ∧
    ¬ LoopbackCompleted loopbackSent (some (loopbackAnswer (bytes32 1))) (loopbackOnZero ⟨0, 0⟩)
      ⟨[⟨0, 4⟩, ⟨12, 1⟩], [⟨0, 4⟩, ⟨12, 1⟩], loopbackOnZero ⟨1, 0⟩⟩ := by
  refine ⟨rfl, by decide, fun h => ?_⟩
  obtain ⟨r, hr, hinside⟩ := h.responseRead ⟨12, 1⟩ (by decide)
  cases hr
  exact absurd (Slice.inside_iff.mp hinside) (by decide)

end Greybus
