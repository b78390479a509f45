import Greybus.Core.Effects
import Greybus.Core.Responses

/-!
# The size of a response

What is sent for a request whose handler asks for at most one response buffer.  The core does not
look at the size: the header keeps 16 bits of it, and the transport is given what the header says.
It is the same with the size of a request.
-/

namespace Greybus

/-! ## Handlers that ask for one buffer -/

/-- The program ends with `result` and asks for no response buffer. -/
inductive HandlerProg.Ends : HandlerProg → UInt8 → Prop
  | done {result : UInt8} : Ends (.done result) result
  | fillResponse {bytes : List UInt8} {k : HandlerProg} {result : UInt8} :
      Ends k result → Ends (.fillResponse bytes k) result

/-- The program asks for no response buffer, or for one with a payload of `need` bytes, of which
`size_t` keeps 32 bits.  It ends with an error when it gets none, and after it has got one when
`fails`. -/
inductive HandlerProg.Asks : HandlerProg → Option Nat → Bool → Prop
  | nothing {prog : HandlerProg} {result : UInt8} {fails : Bool} :
      prog.Ends result → Asks prog none fails
  | buffer {need : Nat} {k : Bool → HandlerProg} {denied result : UInt8} {fails : Bool} :
      (k false).Ends denied → denied ≠ OperationResult.success.code →
      (k true).Ends result → (result = OperationResult.success.code ↔ fails = false) →
      Asks (.allocResponse (need % 2 ^ 32) k) (some need) fails

theorem HandlerProg.Asks.of_lt {need : Nat} {k : Bool → HandlerProg} {denied result : UInt8}
    {fails : Bool} (hneed : need < 2 ^ 32) (hdenied : (k false).Ends denied)
    (herror : denied ≠ OperationResult.success.code) (hends : (k true).Ends result)
    (hresult : result = OperationResult.success.code ↔ fails = false) :
    Asks (.allocResponse need k) (some need) fails := by
  have hasks := @Asks.buffer need k denied result fails hdenied herror hends hresult
  rwa [Nat.mod_eq_of_lt hneed] at hasks

-- The program goes on with the outcome of the allocation.
theorem HandlerProg.run_allocResponse (tr : Transport) (size : Nat) (k : Bool → HandlerProg)
    (p : Processing) :
    (HandlerProg.allocResponse size k).run tr p
      = (k (tr.allocBuf p.allocs)).run tr (gbOperationAllocResponse tr size p) := by
  have hsome : (gbOperationAllocResponse tr size p).operation.responseBuffer.isSome
      = tr.allocBuf p.allocs := by
    simp only [gbOperationAllocResponse, Processing.setResponseBuffer]
    cases tr.allocBuf p.allocs <;> rfl
  rw [HandlerProg.run, hsome]

-- A response of the right size is filled with the bytes that are stored.
theorem fillResponse_allocResponse {tr : Transport} {p : Processing}
    (halloc : tr.allocBuf p.allocs = true) (bytes : List UInt8) :
    ∃ response, response.payload = bytes ∧
      ((gbOperationAllocResponse tr bytes.length p).fillResponse bytes).operation.responseBuffer
        = some response := by
  rw [gbOperationAllocResponse, if_pos halloc]
  refine ⟨_, ?_, rfl⟩
  show bytes.take (List.replicate _ 0).length ++ (List.replicate _ 0).drop bytes.length = bytes
  rw [List.length_replicate, List.take_length, List.drop_replicate, Nat.sub_self,
    List.replicate_zero, List.append_nil]

-- Storing into the payload leaves everything else as it is.
theorem HandlerProg.Ends.run {prog : HandlerProg} {result : UInt8} (h : prog.Ends result)
    (tr : Transport) (p : Processing) :
    ∃ p', prog.run tr p = (result, p') ∧ p'.sends = p.sends ∧
      p'.operation.cport = p.operation.cport ∧
      p'.operation.hasResponded = p.operation.hasResponded ∧
      p'.operation.responseBuffer.map (·.hdr) = p.operation.responseBuffer.map (·.hdr) := by
  induction h generalizing p with
  | done => exact ⟨p, rfl, rfl, rfl, rfl, rfl⟩
  | @fillResponse bytes k result _ ih =>
    obtain ⟨p', hrun, hsends, hcport, hflag, hhdr⟩ := ih (p.fillResponse bytes)
    refine ⟨p', hrun, hsends, hcport, hflag, hhdr.trans ?_⟩
    simp only [Processing.fillResponse, Processing.setResponseBuffer, Option.map_map]
    rfl

/-! ## The messages that are sent -/

/-- A message that a receiver accepts, and an error if the response would need more. -/
def Sent.Within (sent : Sent) (need : Option Nat) : Prop :=
  sent.len ≤ gbMtu ∧
    ∀ n, need = some n → gbMaxPayloadSize < n → sent.buf.hdr.result ≠ OperationResult.success.code

instance (sent : Sent) (need : Option Nat) : Decidable (sent.Within need) :=
  match need with
  | none => decidable_of_iff (sent.len ≤ gbMtu) (by simp [Sent.Within])
  | some n =>
    decidable_of_iff (sent.len ≤ gbMtu ∧
      (gbMaxPayloadSize < n → sent.buf.hdr.result ≠ OperationResult.success.code))
      (by simp [Sent.Within])

section SendResponse

variable {core : Core} {tr : Transport} {result : UInt8} {p : Processing} {need : Option Nat}

-- An operation that has no response buffer is answered with a bare header.
theorem sends_within_of_none (hsends : p.sends = []) (hnone : p.operation.responseBuffer = none)
    (hresult : ∀ n, need = some n → result ≠ OperationResult.success.code) :
    ∀ sent ∈ (gbOperationSendResponse core tr result p).2.sends, sent.Within need := by
  have hcase := gbOperationSendResponse_responded core tr result p
  generalize gbOperationSendResponse core tr result p = res at hcase ⊢
  cases hcase with
  | refused => simp [hsends]
  | buffer _ _ hresp hall =>
    obtain hsome | ⟨-, -, rfl⟩ := hresp
    · simp [hnone] at hsome
    · rw [hall, hsends]
      simp only [List.nil_append, List.mem_singleton, forall_eq]
      exact ⟨show (hdrSize 0).toNat ≤ gbMtu by decide, fun n hn _ => hresult n hn⟩
  | oom _ _ _ _ hall =>
    rw [hall, hsends]
    simp [Sent.Within, oomHdr, OperationResult.code, sizeofHdr, gbMtu]

-- A response buffer is sent as it is, with the handler's result.
theorem sends_within_iff_of_some {m : Message}
    (hpass : (core.gCport p.operation.cport).exitWorker = false) (hsends : p.sends = [])
    (hfresh : p.operation.hasResponded = false)
    (hsome : p.operation.responseBuffer = some m) :
    (∀ sent ∈ (gbOperationSendResponse core tr result p).2.sends, sent.Within need) ↔
      m.hdr.size.toNat ≤ gbMtu ∧
        ∀ n, need = some n → gbMaxPayloadSize < n → result ≠ OperationResult.success.code := by
  have hcase := gbOperationSendResponse_responded core tr result p
  generalize gbOperationSendResponse core tr result p = res at hcase ⊢
  cases hcase with
  | refused _ hwhy => simp [hpass, hfresh] at hwhy
  | buffer _ _ hresp hall =>
    obtain hsome' | ⟨hnone, -⟩ := hresp
    · obtain rfl := Option.some.inj (hsome.symm.trans hsome')
      rw [hall, hsends]
      simp [Sent.Within]
    · simp [hsome] at hnone
  | oom _ _ hnone => simp [hsome] at hnone

end SendResponse

theorem hdrSize_toNat (n : Nat) : (hdrSize n).toNat = (n + sizeofHdr) % 2 ^ 16 :=
  UInt16.toNat_ofNat'

theorem toNat_hdrSize (n : Nat) : (hdrSize (n % 2 ^ 32)).toNat = (n + sizeofHdr) % 2 ^ 16 := by
  rw [hdrSize_toNat]
  simp only [sizeofHdr]
  omega

/-- A handler is about to be called for an operation that nothing has been done with. -/
structure Processing.Untouched (p : Processing) (cport : Nat) (request : Message) : Prop
    extends p.Prepared cport request where
  unbuffered : p.operation.responseBuffer = none
  unallocated : p.allocs = 0

-- The buffer that such a handler gets.
theorem Processing.Untouched.allocResponse (tr : Transport) {p : Processing} {cport : Nat}
    {request : Message} (hp : p.Untouched cport request) (size : Nat) :
    (gbOperationAllocResponse tr size p).operation.responseBuffer =
      if tr.allocBuf 0 then some (Message.response request.hdr size) else none := by
  rw [gbOperationAllocResponse, hp.unallocated, ← hp.request_eq]
  cases tr.allocBuf 0 <;> simp [Processing.setResponseBuffer]

-- The response to a handler that asks for at most one buffer.
theorem response_within_iff {core : Core} {tr : Transport} {cport : Nat} {request : Message}
    {p : Processing} {prog : HandlerProg} {need : Option Nat} {fails : Bool}
    (hpass : (core.gCport cport).exitWorker = false) (hp : p.Untouched cport request)
    (hasks : prog.Asks need fails) :
    (∀ sent ∈ (gbOperationSendResponse core tr (prog.run tr p).1 (prog.run tr p).2).2.sends,
        sent.Within need) ↔
      tr.allocBuf 0 = false ∨ ∀ n, need = some n → n ≤ gbMaxPayloadSize ∨
        (n + sizeofHdr) % 2 ^ 16 ≤ gbMtu ∧ fails = true := by
  cases hasks with
  | nothing hends =>
    obtain ⟨p', hrun, hsends, -, -, hhdr⟩ := hends.run tr p
    have hnone : p'.operation.responseBuffer = none := by simpa [hp.unbuffered] using hhdr
    rw [hrun]
    exact iff_of_true
      (sends_within_of_none (hsends.trans hp.unsent) hnone fun n hn => nomatch hn)
      (.inr fun n hn => nomatch hn)
  | @buffer n k denied result fails hdenied herror hresult hfails =>
    rw [HandlerProg.run]
    have hbuf := hp.allocResponse tr (n % 2 ^ 32)
    cases halloc : tr.allocBuf 0 with
    | false =>
      rw [halloc, if_neg (by simp)] at hbuf
      obtain ⟨p', hrun, hsends, -, -, hhdr⟩ :=
        hdenied.run tr (gbOperationAllocResponse tr (n % 2 ^ 32) p)
      rw [hbuf, Option.map_none, Option.map_eq_none_iff] at hhdr
      simp only [hbuf, Option.isSome_none, hrun]
      exact iff_of_true
        (sends_within_of_none (hsends.trans hp.unsent) hhdr fun _ _ => herror) (.inl trivial)
    | true =>
      rw [halloc, if_pos rfl] at hbuf
      obtain ⟨p', hrun, hsends, hcport, hflag, hhdr⟩ :=
        hresult.run tr (gbOperationAllocResponse tr (n % 2 ^ 32) p)
      rw [hbuf, Option.map_some, Option.map_eq_some_iff] at hhdr
      obtain ⟨m, hm, hmhdr⟩ := hhdr
      have hsize : m.hdr.size.toNat = (n + sizeofHdr) % 2 ^ 16 := by
        rw [hmhdr, ← toNat_hdrSize]
        rfl
      simp only [hbuf, Option.isSome_some, hrun]
      rw [sends_within_iff_of_some (hcport.trans hp.cport_eq ▸ hpass) (hsends.trans hp.unsent)
        (hflag.trans hp.unanswered) hm, hsize]
      simp only [Option.some.injEq, forall_eq', ne_eq, hfails, Bool.not_eq_false,
        Bool.true_eq_false, false_or]
      by_cases hbig : gbMaxPayloadSize < n
      · simp only [hbig, true_imp_iff, Nat.not_le.mpr hbig, false_or]
      · have hfit : n + sizeofHdr ≤ gbMtu := Nat.add_le_add_right (Nat.not_lt.mp hbig) sizeofHdr
        exact iff_of_true ⟨(Nat.mod_le _ _).trans hfit, fun h => absurd h hbig⟩
          (.inl (Nat.not_lt.mp hbig))

/-- The request is answered within the limit. -/
def AnsweredWithin (core : Core) (tr : Transport) (cport : Nat) (request : Message)
    (need : Option Nat) : Prop :=
  ∀ p', gbProcessRequest core tr (.start (.fresh cport request)) = some p' →
    ∀ sent ∈ p'.sends, sent.Within need

theorem answeredWithin_iff {core : Core} {tr : Transport} {cport : Nat} {request : Message}
    {h : OperationHandler} {f : Operation → HandlerProg} {need : Option Nat} {fails : Bool}
    (hping : request.hdr.type ≠ pingType)
    (hfind : findOperationHandler core request.hdr.type cport = some (some h))
    (hfn : h.fn = .handler f)
    (hasks : ∀ op : Operation, op.requestBuffer = request → (f op).Asks need fails) :
    AnsweredWithin core tr cport request need ↔
      request.hdr.id = 0 ∨ (core.gCport cport).exitWorker = true ∨ tr.allocBuf 0 = false ∨
        ∀ n, need = some n → n ≤ gbMaxPayloadSize ∨
          (n + sizeofHdr) % 2 ^ 16 ≤ gbMtu ∧ fails = true := by
  obtain ⟨p, hcall, hp⟩ : ∃ p : Processing,
      callHandler core tr f (.start (.fresh cport request)) = (f p.operation).run tr p ∧
        p.Untouched cport request :=
    ⟨_, rfl, ⟨rfl, rfl, rfl, rfl, fun _ hm => absurd hm.symm (Option.some_ne_none _)⟩, rfl, rfl⟩
  have hprocess : gbProcessRequest core tr (.start (.fresh cport request)) =
      if request.hdr.id ≠ 0 then
        some (gbOperationSendResponse core tr ((f p.operation).run tr p).1
          ((f p.operation).run tr p).2).2
      else some ((f p.operation).run tr p).2 := by
    have hhdr :
        (Processing.start (.fresh cport request)).operation.requestBuffer.hdr = request.hdr :=
      rfl
    have hcport : (Processing.start (.fresh cport request)).operation.cport = cport := rfl
    simp only [gbProcessRequest, hhdr, hcport, if_neg hping, hfind, hfn, hcall]
  rw [AnsweredWithin, hprocess]
  by_cases hid : request.hdr.id = 0
  · have hunsent := (HandlerProg.run_sends tr (f p.operation) p).trans hp.unsent
    simp [hid, hunsent]
  simp only [hid, ne_eq, not_false_eq_true, if_true, Option.some.injEq, forall_eq', false_or]
  cases hpass : (core.gCport cport).exitWorker with
  | true =>
    have hprepared := HandlerProg.run_prepared tr (f p.operation) hp.toPrepared
    have hunsent := (gbOperationSendResponse_responded core tr ((f p.operation).run tr p).1
      ((f p.operation).run tr p).2).sends_eq_iff.mpr (.inl (hprepared.cport_eq.symm ▸ hpass))
    simp [hunsent, hprepared.unsent]
  | false =>
    rw [response_within_iff hpass hp (hasks p.operation hp.request_eq)]
    simp

/-! ## What the header says -/

namespace Operations

/-- A request with `n` payload bytes, if it is created, says so. -/
def RequestSized (s : Operations) (mallocOk allocBufOk : Bool) (cport : Nat) (type : UInt8)
    (n : Nat) : Prop :=
  ∀ q s', s.gbOperationCreate mallocOk allocBufOk cport type n = (some q, s') →
    ∃ op, s'.heap q = some op ∧ op.requestBuffer.hdr.size.toNat = n + sizeofHdr ∧
      op.requestBuffer.payloadSize = n

/-- A response with `n` payload bytes, if it is allocated, says so. -/
def ResponseSized (s : Operations) (allocBufOk : Bool) (q : OpRef) (n : Nat) : Prop :=
  ∀ s' op resp, s.gbOperationAllocResponse allocBufOk q n = some s' → s'.heap q = some op →
    op.responseBuffer = some resp → resp.hdr.size.toNat = n + sizeofHdr

end Operations

theorem hdrSize_toNat_eq_iff (n : Nat) :
    (hdrSize n).toNat = n + sizeofHdr ↔ n + sizeofHdr < 2 ^ 16 := by
  rw [hdrSize_toNat]
  exact Nat.mod_eq_iff_lt (by decide)

theorem Operations.requestSized_iff (s : Operations) (mallocOk allocBufOk : Bool) (cport : Nat)
    (type : UInt8) (n : Nat) :
    s.RequestSized mallocOk allocBufOk cport type n ↔
      (cport < s.cportCount → mallocOk = true → allocBufOk = true → n + sizeofHdr < 2 ^ 16) := by
  constructor
  · intro hsized hcport hmalloc halloc
    have hcreate : s.gbOperationCreate mallocOk allocBufOk cport type n
        = (some s.next, s.addOperation (.fresh cport (.request type n))) := by
      rw [gbOperationCreate, if_neg (Nat.not_le.mpr hcport), hmalloc, halloc]
      rfl
    obtain ⟨op, hop, hsize, -⟩ := hsized s.next _ hcreate
    obtain rfl := Option.some.inj ((addOperation_heap_next s _).symm.trans hop)
    exact (hdrSize_toNat_eq_iff n).mp hsize
  · intro hfits q s' hcreate
    have hreached : cport < s.cportCount ∧ mallocOk = true ∧ allocBufOk = true := by
      unfold gbOperationCreate at hcreate
      split at hcreate
      next => cases hcreate
      next hcport =>
        cases mallocOk <;> cases allocBufOk <;> cases hcreate
        exact ⟨Nat.not_le.mp hcport, rfl, rfl⟩
    obtain ⟨hcport, hmalloc, halloc⟩ := hreached
    have hsize := (hdrSize_toNat_eq_iff n).mpr (hfits hcport hmalloc halloc)
    rcases gbOperationCreate_cases s mallocOk allocBufOk cport type n with hnone | ⟨-, hsome⟩
    · cases hnone.symm.trans hcreate
    · obtain ⟨hq, rfl⟩ := Prod.mk.inj (hsome.symm.trans hcreate)
      obtain rfl := Option.some.inj hq
      refine ⟨_, addOperation_heap_next s _, hsize, ?_⟩
      show (hdrSize n).toNat - sizeofHdr = n
      rw [hsize, Nat.add_sub_cancel]

theorem Operations.responseSized_iff (s : Operations) (allocBufOk : Bool) (q : OpRef) (n : Nat) :
    s.ResponseSized allocBufOk q n ↔
      ((s.heap q).isSome → allocBufOk = true → n + sizeofHdr < 2 ^ 16) := by
  unfold ResponseSized gbOperationAllocResponse
  cases hq : s.heap q with
  | none => simp
  | some op =>
    cases allocBufOk with
    | false =>
      refine iff_of_true ?_ fun _ h => absurd h (by decide)
      rintro s' op' resp hs' hop hresp
      obtain rfl := Option.some.inj hs'
      obtain rfl := Option.some.inj ((setOp_heap_self s q _).symm.trans hop)
      cases hresp
    | true =>
      rw [← hdrSize_toNat_eq_iff]
      simp only [Option.map_some, if_true, Option.some.injEq, Option.isSome_some, true_imp_iff]
      constructor
      · intro hsized
        exact hsized _ _ _ rfl (setOp_heap_self s q _) rfl
      · rintro hsize s' op' resp rfl hop hresp
        obtain rfl := Option.some.inj ((setOp_heap_self s q _).symm.trans hop)
        obtain rfl := Option.some.inj hresp
        exact hsize

/-- A request that is created and a response that is allocated say how long they are exactly if the
length and the header's fit 16 bits. -/
theorem Operations.sized_iff (s : Operations) (allocBufOk : Bool) (n : Nat) :
    (∀ mallocOk cport type, s.RequestSized mallocOk allocBufOk cport type n ↔
      (cport < s.cportCount → mallocOk = true → allocBufOk = true → n + sizeofHdr < 2 ^ 16)) ∧
    ∀ q, s.ResponseSized allocBufOk q n ↔
      ((s.heap q).isSome → allocBufOk = true → n + sizeofHdr < 2 ^ 16) :=
  ⟨fun mallocOk cport type => s.requestSized_iff mallocOk allocBufOk cport type n,
    fun q => s.responseSized_iff allocBufOk q n⟩

-- The size of a request with 65528 payload bytes is written as 0.
theorem Operations.gbInit_not_requestSized :
    ¬ (Operations.gbInit 1).RequestSized true true 0 0x02 65528 := by
  intro hsized
  obtain ⟨op, hop, hsize, -⟩ := hsized 0 _ rfl
  obtain rfl := Option.some.inj ((addOperation_heap_next (.gbInit 1) _).symm.trans hop)
  exact absurd hsize (by decide)

end Greybus
