import Greybus.Core.Responses
import Greybus.Transport.Tcpip
import Greybus.Reasoning.Transition
import Mathlib.Data.Int.Order.Basic
import Mathlib.Data.List.Nodup

/-!
# The connections of the per-CPort TCP/IP transport

A CPort's listening socket accepts any number of clients.  The core knows a request by its CPort
number, and `gb_xport_send` looks that number up again in the list of sockets.
-/

namespace Greybus.Tcpip

open Reasoning.PartialIO Reasoning.Transition

/-! ## The code -/

/-- `enum fd_context_type`. -/
inductive FdContextType where
  | server | client | any
  deriving DecidableEq, Repr

def FdContextType.mask : FdContextType → Nat
  | .server => 1
  | .client => 2
  | .any => 3

/-- `struct fd_context`, with the number of the insertion that made it. -/
structure FdContext where
  fd : Int
  cport : Int
  type : FdContextType
  conn : Nat
  deriving DecidableEq, Repr

/-- `CPORT_ID_MAX`. -/
def cportIdMax : Int := 4095

/-- A request that the core has been given, and the connection it was received on. -/
structure Request where
  conn : Nat
  operation : Operation
  deriving DecidableEq, Repr

/-- The transport with the requests that wait for a response. -/
structure Connections where
  -- `fd_list`.
  fdList : List FdContext
  -- Insertions so far.
  inserted : Nat
  requests : List Request
  -- What has been written to each connection.
  streams : Nat → List UInt8

def Connections.initial : Connections := ⟨[], 0, [], fun _ => []⟩

/-- `fd_context_insert`; `memory` says whether `calloc` gives a context. -/
def Connections.fdContextInsert (s : Connections) (fd cport : Int) (type : FdContextType)
    (memory : Bool) : Connections :=
  if fd < 0 ∨ cport < 0 ∨ cportIdMax < cport ∨ type = .any ∨ memory = false then s
  else if s.fdList.any fun c => c.fd = fd then s
  else { s with fdList := s.fdList ++ [⟨fd, cport, type, s.inserted⟩], inserted := s.inserted + 1 }

/-- `fd_context_find`. -/
def fdContextFind (fdList : List FdContext) (fd cport : Int) (type : FdContextType) :
    Option FdContext :=
  fdList.find? fun c =>
    (fd = -1 ∨ fd = c.fd) ∧ (cport = -1 ∨ cport = c.cport) ∧ type.mask &&& c.type.mask ≠ 0

/-- `fd_context_erase`. -/
def Connections.fdContextErase (s : Connections) (fd : Int) : Connections :=
  { s with fdList := s.fdList.eraseP fun c => c.fd = fd }

/-- `gb_xport_send`, where `answers` is what the socket does with the bytes. -/
def gbXportSend (answers : Nat → Except Stop Nat) (s : Connections) (sent : Sent) :
    Option (Int × Connections) :=
  if msgSize sent.buf.bytes ≠ sent.len ∨ sent.len < sizeofHdr then some (-EINVAL, s)
  else
    match fdContextFind s.fdList (-1) sent.cport .client with
    | none => some (-EINVAL, s)
    | some ctx =>
      (sendMessage ⟨s.streams ctx.conn, answers, 0⟩ sent.buf.bytes).map fun (r : Int × Sink UInt8) =>
        let s := { s with streams := Function.update s.streams ctx.conn r.2.written }
        (r.1, if r.1 ≠ 0 then s.fdContextErase ctx.fd else s)

/-- What a readable socket has: on a listening socket the descriptor that `accept` returns, if
`accept` and `inet_ntop` succeed; on a connection the message, if `getMessage` receives one, and
what `greybus_rx_handler` returns for it. -/
structure Input where
  accepted : Option Int
  memory : Bool
  message : Option Message
  handled : Int
  deriving DecidableEq, Repr

/-- `handle_client_input`; a message that is not itself a response becomes an operation. -/
def Connections.handleClientInput (s : Connections) (ctx : FdContext) (input : Input) :
    Connections :=
  match input.message with
  | none => s.fdContextErase ctx.fd
  | some msg =>
    if input.handled ≠ 0 then s.fdContextErase ctx.fd
    else if msg.hdr.type &&& responseFlag ≠ 0 then s
    else { s with requests := s.requests ++ [⟨ctx.conn, .fresh ctx.cport.toNat msg⟩] }

/-- The messages that `gb_operation_send_response` passes to the transport for an operation whose
handler has left the response buffer `resp`. -/
def Request.responses (q : Request) (core : Core) (tr : Transport) (result : UInt8)
    (resp : Option Message) : List Sent :=
  (gbOperationSendResponse core tr result
    (.start { q.operation with responseBuffer := resp })).2.sends

/-- The response to a request on its way out. -/
structure Answer where
  core : Core
  tr : Transport
  result : UInt8
  resp : Option Message
  answers : Nat → Except Stop Nat

inductive Event where
  -- `netsetup` makes a listening socket.
  | listen (fd : Int) (cport : Int) (memory : Bool)
  -- `poll` reports the socket to `service_thread`.
  | pollin (fd : Int) (input : Input)
  -- The i-th of the waiting requests is answered.
  | respond (i : Nat) (a : Answer)
  -- `service_thread` ends with `fd_context_clear`.
  | quit

/-- Each message in turn is passed to `gb_xport_send`. -/
def sendEach (answers : Nat → Except Stop Nat) : List Sent → Connections → Option Connections
  | [], s => some s
  | sent :: sents, s =>
    (gbXportSend answers s sent).bind fun (r : Int × Connections) => sendEach answers sents r.2

def step (s : Connections) : Event → Option Connections
  | .listen fd cport memory => some (s.fdContextInsert fd cport .server memory)
  | .pollin fd input =>
    match fdContextFind s.fdList fd (-1) .any with
    | none => some s
    | some ctx =>
      match ctx.type with
      | .server =>
        match input.accepted with
        | none => some s
        | some newFd => some (s.fdContextInsert newFd ctx.cport .client input.memory)
      | .client => some (s.handleClientInput ctx input)
      | .any => some s
  | .respond i a =>
    match s.requests[i]? with
    | none => none
    | some q =>
      sendEach a.answers (q.responses a.core a.tr a.result a.resp)
        { s with requests := s.requests.eraseIdx i }
  | .quit => some { s with fdList := [] }

/-! ## The list of sockets -/

-- The first of the entries that match comes before the others.
theorem rel_of_find? {α : Type} {R : α → α → Prop} {l : List α} {p : α → Bool} {x y : α}
    (hl : l.Pairwise R) (hx : l.find? p = some x) (hy : y ∈ l) (hpy : p y = true) :
    y = x ∨ R x y := by
  obtain ⟨-, front, back, rfl, hfront⟩ := List.find?_eq_some_iff_append.mp hx
  rcases List.mem_append.mp hy with hmem | hmem
  · have hno := hfront y hmem
    simp [hpy] at hno
  · rcases List.mem_cons.mp hmem with heq | hmem
    · exact .inl heq
    · exact .inr ((List.pairwise_cons.mp (List.pairwise_append.mp hl).2.1).1 y hmem)

/-- The open connections of a CPort's clients. -/
def Connections.openOn (s : Connections) (cport : Nat) : List Nat :=
  (s.fdList.filter fun c => c.type = .client ∧ c.cport = (cport : Int)).map (·.conn)

/-- What holds of the sockets and of the waiting requests. -/
structure Connections.Consistent (s : Connections) : Prop where
  ordered : s.fdList.Pairwise fun c c' => c.conn < c'.conn
  conn_lt : ∀ c ∈ s.fdList, c.conn < s.inserted
  cport_nonneg : ∀ c ∈ s.fdList, 0 ≤ c.cport
  type_ne : ∀ c ∈ s.fdList, c.type ≠ .any
  request_lt : ∀ q ∈ s.requests, q.conn < s.inserted
  request_eq : ∀ q ∈ s.requests, ∀ c ∈ s.fdList, c.conn = q.conn →
    c.type = .client ∧ c.cport = q.operation.cport

namespace Connections.Consistent

variable {s : Connections}

theorem initial : Connections.initial.Consistent where
  ordered := .nil
  conn_lt := by simp [Connections.initial]
  cport_nonneg := by simp [Connections.initial]
  type_ne := by simp [Connections.initial]
  request_lt := by simp [Connections.initial]
  request_eq := by simp [Connections.initial]

-- Closing sockets, answering requests and writing keep the list consistent.
theorem shrink (h : s.Consistent) {fdList : List FdContext} {requests : List Request}
    (hfds : fdList.Sublist s.fdList) (hrequests : requests.Sublist s.requests)
    (streams : Nat → List UInt8) :
    Connections.Consistent ⟨fdList, s.inserted, requests, streams⟩ where
  ordered := h.ordered.sublist hfds
  conn_lt c hc := h.conn_lt c (hfds.subset hc)
  cport_nonneg c hc := h.cport_nonneg c (hfds.subset hc)
  type_ne c hc := h.type_ne c (hfds.subset hc)
  request_lt q hq := h.request_lt q (hrequests.subset hq)
  request_eq q hq c hc := h.request_eq q (hrequests.subset hq) c (hfds.subset hc)

theorem insert (h : s.Consistent) (fd cport : Int) (type : FdContextType) (memory : Bool) :
    (s.fdContextInsert fd cport type memory).Consistent := by
  unfold Connections.fdContextInsert
  split
  next => exact h
  next hargs =>
    split
    next => exact h
    next =>
      simp only [not_or, Int.not_lt] at hargs
      obtain ⟨-, hcport, -, htype, -⟩ := hargs
      have hmem : ∀ c, c ∈ s.fdList ++ [⟨fd, cport, type, s.inserted⟩] →
          c ∈ s.fdList ∨ c = ⟨fd, cport, type, s.inserted⟩ := by simp
      refine ⟨?_, fun c hc => ?_, fun c hc => ?_, fun c hc => ?_, fun q hq => ?_,
        fun q hq c hc heq => ?_⟩
      · refine List.pairwise_append.mpr
          ⟨h.ordered, List.pairwise_singleton _ _, fun c hc c' hc' => ?_⟩
        rw [List.mem_singleton.mp hc']
        exact h.conn_lt c hc
      · rcases hmem c hc with hc | rfl
        · exact Nat.lt_succ_of_lt (h.conn_lt c hc)
        · exact Nat.lt_succ_self _
      · rcases hmem c hc with hc | rfl
        · exact h.cport_nonneg c hc
        · exact hcport
      · rcases hmem c hc with hc | rfl
        · exact h.type_ne c hc
        · exact htype
      · exact Nat.lt_succ_of_lt (h.request_lt q hq)
      · rcases hmem c hc with hc | rfl
        · exact h.request_eq q hq c hc heq
        · exact absurd heq (Nat.ne_of_gt (h.request_lt q hq))

theorem erase (h : s.Consistent) (fd : Int) : (s.fdContextErase fd).Consistent :=
  h.shrink List.eraseP_sublist (List.Sublist.refl _) s.streams

theorem input (h : s.Consistent) {ctx : FdContext} (hctx : ctx ∈ s.fdList)
    (htype : ctx.type = .client) (input : Input) : (s.handleClientInput ctx input).Consistent := by
  unfold Connections.handleClientInput
  split
  next => exact h.erase ctx.fd
  next msg _ =>
    split
    next => exact h.erase ctx.fd
    next =>
      split
      next => exact h
      next =>
        have hmem : ∀ q, q ∈ s.requests ++ [⟨ctx.conn, .fresh ctx.cport.toNat msg⟩] →
            q ∈ s.requests ∨ q = ⟨ctx.conn, .fresh ctx.cport.toNat msg⟩ := by simp
        refine ⟨h.ordered, h.conn_lt, h.cport_nonneg, h.type_ne, fun q hq => ?_,
          fun q hq c hc heq => ?_⟩
        · rcases hmem q hq with hq | rfl
          · exact h.request_lt q hq
          · exact h.conn_lt ctx hctx
        · rcases hmem q hq with hq | rfl
          · exact h.request_eq q hq c hc heq
          -- two entries with one number are one entry
          · have hnodup : (s.fdList.map (·.conn)).Nodup :=
              List.pairwise_map.mpr (h.ordered.imp Nat.ne_of_lt)
            obtain rfl := List.inj_on_of_nodup_map hnodup hc hctx heq
            exact ⟨htype, (Int.toNat_of_nonneg (h.cport_nonneg c hc)).symm⟩

end Connections.Consistent

/-! ## Sending a response -/

/-- What `gb_xport_send` does: it refuses the message, or sends it on the first connection of the
CPort, which may be closed then. -/
inductive XportSend (answers : Nat → Except Stop Nat) (s : Connections) (sent : Sent) :
    Int × Connections → Prop
  | refused : (msgSize sent.buf.bytes ≠ sent.len ∨ sent.len < sizeofHdr ∨
        fdContextFind s.fdList (-1) sent.cport .client = none) →
      XportSend answers s sent (-EINVAL, s)
  | written {ctx : FdContext} {ret : Int} {sink : Sink UInt8} {fdList : List FdContext} :
      fdContextFind s.fdList (-1) sent.cport .client = some ctx →
      msgSize sent.buf.bytes = sent.len →
      sendMessage ⟨s.streams ctx.conn, answers, 0⟩ sent.buf.bytes = some (ret, sink) →
      fdList.Sublist s.fdList →
      XportSend answers s sent
        (ret, ⟨fdList, s.inserted, s.requests, Function.update s.streams ctx.conn sink.written⟩)

theorem gbXportSend_xportSend {answers : Nat → Except Stop Nat} {s : Connections} {sent : Sent}
    {res : Int × Connections} (h : gbXportSend answers s sent = some res) :
    XportSend answers s sent res := by
  unfold gbXportSend at h
  split at h
  next hsize =>
    cases h
    exact .refused (hsize.imp_right .inl)
  next hsize =>
    have hlen : msgSize sent.buf.bytes = sent.len := by
      by_contra hne
      exact hsize (.inl hne)
    split at h
    next hnone =>
      cases h
      exact .refused (.inr (.inr hnone))
    next ctx hctx =>
      obtain ⟨⟨ret, sink⟩, hsend, rfl⟩ := Option.map_eq_some_iff.mp h
      by_cases hret : ret ≠ 0
      · simp only [if_pos hret]
        exact .written hctx hlen hsend List.eraseP_sublist
      · simp only [if_neg hret]
        exact .written hctx hlen hsend (List.Sublist.refl _)

theorem XportSend.consistent {answers : Nat → Except Stop Nat} {s : Connections} {sent : Sent}
    {res : Int × Connections} (h : XportSend answers s sent res) (hs : s.Consistent) :
    res.2.Consistent := by
  cases h with
  | refused _ => exact hs
  | written _ _ _ hfds => exact hs.shrink hfds (List.Sublist.refl _) _

theorem sendEach_consistent {answers : Nat → Except Stop Nat} {sents : List Sent}
    {s s' : Connections} (hs : s.Consistent) (h : sendEach answers sents s = some s') :
    s'.Consistent := by
  induction sents generalizing s with
  | nil => cases h; exact hs
  | cons sent sents ih =>
    obtain ⟨res, hres, hrest⟩ := Option.bind_eq_some_iff.mp h
    exact ih ((gbXportSend_xportSend hres).consistent hs) hrest

theorem step_consistent {s s' : Connections} {e : Event} (hs : s.Consistent)
    (h : step s e = some s') : s'.Consistent := by
  cases e with
  | listen fd cport memory =>
    cases h
    exact hs.insert fd cport .server memory
  | pollin fd input =>
    simp only [step] at h
    split at h
    next => cases h; exact hs
    next ctx hctx =>
      have hmem : ctx ∈ s.fdList := List.mem_of_find?_eq_some hctx
      cases htype : ctx.type with
      | server =>
        simp only [htype] at h
        split at h
        next => cases h; exact hs
        next newFd _ => cases h; exact hs.insert newFd ctx.cport .client input.memory
      | client =>
        simp only [htype] at h
        cases h
        exact hs.input hmem htype input
      | any => exact absurd htype (hs.type_ne ctx hmem)
  | respond i a =>
    simp only [step] at h
    split at h
    next => cases h
    next q _ =>
      exact sendEach_consistent
        (hs.shrink (List.Sublist.refl _) (List.eraseIdx_sublist ..) s.streams) h
  | quit =>
    cases h
    exact hs.shrink (List.nil_sublist _) (List.Sublist.refl _) s.streams

theorem run_consistent {events : List Event} {s : Connections}
    (hrun : run step .initial events = some s) : s.Consistent :=
  run_induct (fun _ _ _ hs h => step_consistent hs h) .initial hrun

/-- The open connection that was accepted first among those of the CPort's clients. -/
def Connections.FirstOpen (s : Connections) (cport c : Nat) : Prop :=
  c ∈ s.openOn cport ∧ ∀ c' ∈ s.openOn cport, c ≤ c'

theorem Connections.mem_openOn {s : Connections} {cport c : Nat} :
    c ∈ s.openOn cport ↔
      ∃ ctx ∈ s.fdList, ctx.type = .client ∧ ctx.cport = (cport : Int) ∧ ctx.conn = c := by
  simp only [Connections.openOn, List.mem_map, List.mem_filter, decide_eq_true_eq, and_assoc]

-- A search for a client of a CPort looks at the clients of that CPort.
theorem Connections.Consistent.match_iff {s : Connections} (hs : s.Consistent) {cport : Nat}
    {ctx : FdContext} (hctx : ctx ∈ s.fdList) :
    (((-1 : Int) = -1 ∨ (-1 : Int) = ctx.fd) ∧ ((cport : Int) = -1 ∨ (cport : Int) = ctx.cport) ∧
      FdContextType.client.mask &&& ctx.type.mask ≠ 0) ↔
      ctx.type = .client ∧ ctx.cport = (cport : Int) := by
  have hne := hs.type_ne ctx hctx
  have hneg : (cport : Int) ≠ -1 := by omega
  cases htype : ctx.type with
  | any => exact absurd htype hne
  | server => simp [FdContextType.mask]
  | client => simp [FdContextType.mask, hneg, eq_comm]

theorem Connections.Consistent.find_firstOpen {s : Connections} (hs : s.Consistent) {cport : Nat}
    {ctx : FdContext} (h : fdContextFind s.fdList (-1) cport .client = some ctx) :
    s.FirstOpen cport ctx.conn := by
  have hmem : ctx ∈ s.fdList := List.mem_of_find?_eq_some h
  obtain ⟨htype, hcport⟩ := (hs.match_iff hmem).mp (by simpa using List.find?_some h)
  refine ⟨mem_openOn.mpr ⟨ctx, hmem, htype, hcport, rfl⟩, fun c' hc' => ?_⟩
  obtain ⟨ctx', hmem', htype', hcport', rfl⟩ := mem_openOn.mp hc'
  have hmatch := (hs.match_iff hmem').mpr ⟨htype', hcport'⟩
  rcases rel_of_find? hs.ordered h hmem' (by simpa using hmatch) with rfl | hlt
  · exact Nat.le_refl _
  · exact Nat.le_of_lt hlt

theorem Connections.Consistent.find_none {s : Connections} (hs : s.Consistent) {cport : Nat}
    (h : fdContextFind s.fdList (-1) cport .client = none) : s.openOn cport = [] := by
  rw [List.eq_nil_iff_forall_not_mem]
  intro c hc
  obtain ⟨ctx, hmem, htype, hcport, -⟩ := mem_openOn.mp hc
  have hmatch := (hs.match_iff hmem).mpr ⟨htype, hcport⟩
  have hno := List.find?_eq_none.mp h ctx hmem
  exact hno (by simpa using hmatch)

-- A request is answered with at most one message, and it is for the request's CPort.
theorem Request.responses_cases (q : Request) (core : Core) (tr : Transport) (result : UInt8)
    (resp : Option Message) :
    q.responses core tr result resp = [] ∨
      ∃ sent, q.responses core tr result resp = [sent] ∧ sent.cport = q.operation.cport ∧
        sent.len = msgSize sent.buf.bytes := by
  have hcase := gbOperationSendResponse_responded core tr result
    (.start { q.operation with responseBuffer := resp })
  unfold Request.responses
  generalize gbOperationSendResponse core tr result _ = res at hcase ⊢
  cases hcase with
  | refused => exact .inl rfl
  | buffer _ _ _ hsends => exact .inr ⟨_, hsends, rfl, (Message.msgSize_bytes _).symm⟩
  | oom _ _ _ _ hsends => exact .inr ⟨_, hsends, rfl, by rw [Message.msgSize_bytes]; rfl⟩

/-- What has been written in `s'` and not yet in `s` is the message `sent`, on the connection `c`,
or the beginning of it that the socket has taken. -/
def WrittenTo (answers : Nat → Except Stop Nat) (s s' : Connections) (sent : Sent) (c : Nat) :
    Prop :=
  ∃ piece, s'.streams = Function.update s.streams c (s.streams c ++ piece) ∧
    piece <+: sent.buf.bytes.take sent.len ∧
    ((∀ n, ∃ size, answers n = .ok size) → piece = sent.buf.bytes.take sent.len)

theorem sendMessage_written {s : Sink UInt8} {msg : List UInt8} {r : Int × Sink UInt8}
    (h : sendMessage s msg = some r) :
    ∃ piece, r.2.written = s.written ++ piece ∧ piece <+: msg.take (msgSize msg) ∧
      (s.Accepts → piece = msg.take (msgSize msg)) := by
  simp only [sendMessage, Option.ite_none_right_eq_some, Option.map_eq_some_iff] at h
  obtain ⟨-, r', hr', rfl⟩ := h
  obtain ⟨r'', hr'', hdrained⟩ := drain_drained s (List.length_take_le (msgSize msg) msg)
  obtain rfl := Option.some.inj (hr'.symm.trans hr'')
  have haccepts := hdrained.of_accepts
  cases hdrained with
  | complete hwritten _ => exact ⟨_, hwritten, List.prefix_refl _, fun _ => rfl⟩
  | stopped hpre _ hwritten _ _ =>
    exact ⟨_, hwritten, hpre, fun h => absurd (haccepts h).1 (Option.some_ne_none _)⟩

/-- The core has no response to `q`, or the response that it passes to `gb_xport_send` is written to
the connection that was accepted first among those of its CPort that are open.  It goes back to the
client that made the request exactly when that client's connection is this one.  Without an open
connection, and for a message whose size was cut below 8, nothing is written. -/
def AnsweredFirst (s : Connections) (q : Request) (a : Answer) (s' : Connections) : Prop :=
  (q.responses a.core a.tr a.result a.resp = [] ∧ s'.streams = s.streams) ∨
    ∃ sent, q.responses a.core a.tr a.result a.resp = [sent] ∧
      ((s.openOn q.operation.cport = [] ∨ sent.len < sizeofHdr) ∧ s'.streams = s.streams ∨
        ∃ c, s.FirstOpen q.operation.cport c ∧ WrittenTo a.answers s s' sent c ∧
          (c = q.conn ↔ (∃ ctx ∈ s.fdList, ctx.conn = q.conn) ∧
            ∀ c' ∈ s.openOn q.operation.cport, q.conn ≤ c'))

/-- Whatever clients have connected, asked and left before, a response goes to the first open
connection of its CPort. -/
theorem respond_answeredFirst {events : List Event} {s s' : Connections} {i : Nat} {q : Request}
    {a : Answer} (hrun : run step .initial events = some s) (hq : s.requests[i]? = some q)
    (hstep : step s (.respond i a) = some s') : AnsweredFirst s q a s' := by
  have hs := run_consistent hrun
  simp only [step, hq] at hstep
  rcases q.responses_cases a.core a.tr a.result a.resp with hnil | ⟨sent, hsent, hcport, hlen⟩
  · rw [hnil, sendEach, Option.some.injEq] at hstep
    exact .inl ⟨hnil, hstep ▸ rfl⟩
  refine .inr ⟨sent, hsent, ?_⟩
  rw [hsent] at hstep
  obtain ⟨res, hres, hlast⟩ := Option.bind_eq_some_iff.mp hstep
  obtain rfl : res.2 = s' := Option.some.inj hlast
  have hcase := gbXportSend_xportSend hres
  rw [← hcport]
  cases hcase with
  | refused hwhy =>
    refine .inl ⟨?_, rfl⟩
    rcases hwhy with hsize | hsize | hnone
    · exact absurd hlen.symm hsize
    · exact .inr hsize
    · exact .inl (hs.find_none hnone)
  | @written ctx ret sink fdList hfind hsize hsend hfds =>
    obtain ⟨piece, hwritten, hpre, haccepts⟩ := sendMessage_written hsend
    have hfirst : s.FirstOpen sent.cport ctx.conn := hs.find_firstOpen hfind
    refine .inr ⟨ctx.conn, hfirst, ⟨piece, ?_, hsize ▸ hpre, hsize ▸ haccepts⟩, ?_⟩
    · exact congrArg (Function.update s.streams ctx.conn) hwritten
    · have hmem : ctx ∈ s.fdList := List.mem_of_find?_eq_some hfind
      constructor
      · intro hconn
        exact ⟨⟨ctx, hmem, hconn⟩, hconn ▸ hfirst.2⟩
      · rintro ⟨⟨ctx', hmem', hconn'⟩, hleast⟩
        obtain ⟨htype, hcport'⟩ := hs.request_eq q (List.mem_of_getElem? hq) ctx' hmem' hconn'
        have hopen : q.conn ∈ s.openOn sent.cport :=
          Connections.mem_openOn.mpr ⟨ctx', hmem', htype, hcport ▸ hcport', hconn'⟩
        exact Nat.le_antisymm (hfirst.2 _ hopen) (hleast _ hfirst.1)

/-- A client asks on the CPort's only connection. -/
def oneClient : List Event :=
  [.listen 3 0 true, .pollin 3 ⟨some 4, true, none, 0⟩,
    .pollin 4 ⟨none, true, some (bareRequest 1), 0⟩]

/-- A second client connects, and it is the one that asks. -/
def twoClients : List Event :=
  [.listen 3 0 true, .pollin 3 ⟨some 4, true, none, 0⟩, .pollin 3 ⟨some 5, true, none, 0⟩,
    .pollin 5 ⟨none, true, some (bareRequest 1), 0⟩]

def bareAnswer : Answer :=
  ⟨oneHandlerCore versionHandler, reliableTransport, 0, none, fun _ => .ok 3⟩

theorem respond_answeredFirst_oneClient :
    ∃ s q s', run step .initial oneClient = some s ∧ s.requests[0]? = some q ∧
      step s (.respond 0 bareAnswer) = some s' ∧ AnsweredFirst s q bareAnswer s' := by
  obtain ⟨s, hs⟩ := Option.isSome_iff_exists.mp
    (show (run step .initial oneClient).isSome by decide)
  have hq : (run step .initial oneClient).map (fun s => s.requests[0]?.isSome) = some true := by
    decide
  have hs' : (run step .initial oneClient).map (fun s => (step s (.respond 0 bareAnswer)).isSome)
      = some true := by decide
  rw [hs, Option.map_some, Option.some.injEq] at hq hs'
  obtain ⟨q, hq⟩ := Option.isSome_iff_exists.mp hq
  obtain ⟨s', hs'⟩ := Option.isSome_iff_exists.mp hs'
  exact ⟨s, q, s', hs, hq, hs', respond_answeredFirst hs hq hs'⟩

-- The second client asks, and the response is written to the first one.
theorem respond_otherClient :
    (run step .initial twoClients).map (fun s => s.requests.map (·.conn)) = some [2] ∧
      (run step .initial (twoClients ++ [.respond 0 bareAnswer])).map
        (fun s => (s.streams 1, s.streams 2)) = some ([8, 0, 1, 0, 0x81, 0, 0, 0], []) :=
  ⟨by decide, by decide⟩

end Greybus.Tcpip
