import Greybus.Protocols.Transfers
import Greybus.Reasoning.Packed

/-!
# Handlers that call a device

A handler checks the size of its request, reads the arguments of a device call from it, makes the
call and writes what comes back into its response.  The kinds of handlers that the lights protocol
has are here, each with what a run of it does.
-/

namespace Greybus

open Reasoning.Packed

variable {Call : Type} {Value : Call → Type} {δ : Type*}

/-- A handler with its calls of the device, each of which returns a number and a value. -/
inductive DeviceProg (Call : Type) (Value : Call → Type) where
  | done (result : UInt8)
  | allocResponse (size : Nat) (k : Bool → DeviceProg Call Value)
  | fillResponse (bytes : List UInt8) (k : DeviceProg Call Value)
  | call (c : Call) (k : Int → Value c → DeviceProg Call Value)

/-- The operations of a device whose state is in `δ`. -/
abbrev Device (Call : Type) (Value : Call → Type) (δ : Type*) := (c : Call) → δ → Int × Value c × δ

/-- The device, its calls so far, and the payload of the response. -/
structure Serving (Call : Type) (δ : Type*) where
  device : δ
  calls : List Call
  response : Option (List UInt8)
  deriving DecidableEq, Repr

/-- A handler runs; `memory` says whether there is a buffer for its response. -/
def DeviceProg.run (dev : Device Call Value δ) (memory : Bool) :
    DeviceProg Call Value → Serving Call δ → UInt8 × Serving Call δ
  | .done result, s => (result, s)
  | .allocResponse size k, s =>
    (k memory).run dev memory
      { s with response := if memory then some (List.replicate size 0) else none }
  | .fillResponse bytes k, s =>
    k.run dev memory { s with
      response := s.response.map fun payload =>
        bytes.take payload.length ++ payload.drop bytes.length }
  | .call c k, s =>
    let (ret, value, device) := dev c s.device
    (k ret value).run dev memory { s with device, calls := s.calls ++ [c] }

/-! ## Kinds of handlers -/

section Kinds

variable {α β : Type}

/-- Passes its request on to the device. -/
def passOn (request : Codec α) (call : α → Call) (operation : Operation) : DeviceProg Call Value :=
  if operation.requestBuffer.payloadSize < request.size then .done OperationResult.invalid.code
  else
    .call (call (request.decode operation.requestBuffer.payload)) fun ret _ =>
      if ret ≠ 0 then .done (gbErrnoToOpResult ret).code else .done OperationResult.success.code

/-- Asks the device and copies its answer into the response. -/
def query (request : Codec α) (response : Codec β) (call : α → Call)
    (answer : (a : α) → Value (call a) → β) (operation : Operation) : DeviceProg Call Value :=
  if operation.requestBuffer.payloadSize < request.size then .done OperationResult.invalid.code
  else
    .allocResponse response.size fun ok =>
      if !ok then .done OperationResult.noMemory.code
      else
        .call (call (request.decode operation.requestBuffer.payload)) fun ret value =>
          if ret ≠ 0 then .done (gbErrnoToOpResult ret).code
          else .fillResponse (response.encode (answer _ value)) (.done OperationResult.success.code)

/-- Has the device store its answer into the response, also when it fails. -/
def queryInPlace (request : Codec α) (response : Codec β) (call : α → Call)
    (answer : (a : α) → Value (call a) → β) (operation : Operation) : DeviceProg Call Value :=
  if operation.requestBuffer.payloadSize < request.size then .done OperationResult.invalid.code
  else
    .allocResponse response.size fun ok =>
      if !ok then .done OperationResult.noMemory.code
      else
        .call (call (request.decode operation.requestBuffer.payload)) fun ret value =>
          .fillResponse (response.encode (answer _ value)) (.done (gbErrnoToOpResult ret).code)

end Kinds

/-! ## What they do -/

/-- The device is called once, with `c`; the result says whether it has failed, and if not, the
response holds what `encode` makes of its answer. -/
structure Performs (dev : Device Call Value δ) (c : Call)
    (encode : Value c → Option (List UInt8)) (s : Serving Call δ) (res : UInt8 × Serving Call δ) :
    Prop where
  result : res.1 = (gbErrnoToOpResult (dev c s.device).1).code
  device : res.2.device = (dev c s.device).2.2
  calls : res.2.calls = s.calls ++ [c]
  response : (dev c s.device).1 = 0 → res.2.response = encode (dev c s.device).2.1

/-- The handler gives up before it has called the device. -/
structure GivesUp (result : OperationResult) (s : Serving Call δ) (res : UInt8 × Serving Call δ) :
    Prop where
  result : res.1 = result.code
  device : res.2.device = s.device
  calls : res.2.calls = s.calls
  response : res.2.response = none

section Kinds

variable {α β : Type}

/-- A request that is long enough makes its call, if there is the memory that the handler needs. -/
def Answers (needsMemory : Bool) (request : Codec α) (call : α → Call)
    (encode : (a : α) → Value (call a) → Option (List UInt8)) (operation : Operation)
    (dev : Device Call Value δ) (memory : Bool) (s : Serving Call δ)
    (res : UInt8 × Serving Call δ) : Prop :=
  if operation.requestBuffer.payloadSize < request.size then GivesUp .invalid s res
  else if needsMemory && !memory then GivesUp .noMemory s res
  else
    let a := request.decode operation.requestBuffer.payload
    Performs dev (call a) (encode a) s res

variable {request : Codec α} {response : Codec β} {call : α → Call}
  {answer : (a : α) → Value (call a) → β} {operation : Operation} {dev : Device Call Value δ}
  {memory : Bool} {s : Serving Call δ}

-- A response of the right size takes the bytes of a structure.
theorem fill_replicate (response : Codec β) (b : β) :
    (response.encode b).take (List.replicate response.size (0 : UInt8)).length
      ++ (List.replicate response.size (0 : UInt8)).drop (response.encode b).length
      = response.encode b := by
  rw [List.length_replicate, response.length_encode, List.drop_replicate, Nat.sub_self,
    List.replicate_zero, List.append_nil, List.take_of_length_le (response.length_encode b).le]

theorem passOn_answers (hnone : s.response = none) :
    Answers false request call (fun _ _ => none) operation dev memory s
      ((passOn request call operation).run dev memory s) := by
  rw [Answers, passOn]
  split
  next => exact ⟨rfl, rfl, rfl, hnone⟩
  rw [Bool.false_and, if_neg Bool.false_ne_true, DeviceProg.run]
  dsimp only
  split
  next => exact ⟨rfl, rfl, rfl, fun _ => hnone⟩
  next hret =>
    refine ⟨?_, rfl, rfl, fun _ => hnone⟩
    rw [not_not.mp hret]
    rfl

theorem query_answers (hnone : s.response = none) :
    Answers true request call (fun a value => some (response.encode (answer a value))) operation dev
      memory s ((query request response call answer operation).run dev memory s) := by
  rw [Answers, query]
  split
  next => exact ⟨rfl, rfl, rfl, hnone⟩
  cases memory with
  | false => exact ⟨rfl, rfl, rfl, rfl⟩
  | true =>
    simp only [Bool.not_true, Bool.and_false, Bool.false_eq_true, if_false, if_true,
      DeviceProg.run]
    split
    next hret => exact ⟨rfl, rfl, rfl, fun h => absurd h hret⟩
    next hret =>
      refine ⟨?_, rfl, rfl, fun _ => congrArg some (fill_replicate response _)⟩
      rw [not_not.mp hret]
      rfl

theorem queryInPlace_answers (hnone : s.response = none) :
    Answers true request call (fun a value => some (response.encode (answer a value))) operation dev
      memory s ((queryInPlace request response call answer operation).run dev memory s) := by
  rw [Answers, queryInPlace]
  split
  next => exact ⟨rfl, rfl, rfl, hnone⟩
  cases memory with
  | false => exact ⟨rfl, rfl, rfl, rfl⟩
  | true => exact ⟨rfl, rfl, rfl, fun _ => congrArg some (fill_replicate response _)⟩

end Kinds

/-! ## Tables of handlers -/

/-- A table of handlers, with the types of their requests. -/
abbrev DeviceTable (Call : Type) (Value : Call → Type) :=
  List (UInt8 × (Operation → DeviceProg Call Value))

/-- A request type with the structure of its payload, the call that it stands for, and its
handler. -/
structure CallEntry (Call : Type) (Value : Call → Type) where
  type : UInt8
  Args : Type
  request : Codec Args
  call : Args → Call
  needsMemory : Bool
  encode : (a : Args) → Value (call a) → Option (List UInt8)
  handler : Operation → DeviceProg Call Value
  answers : ∀ {δ : Type} (operation : Operation) (dev : Device Call Value δ) (memory : Bool)
    (s : Serving Call δ), s.response = none →
      Answers needsMemory request call encode operation dev memory s
        ((handler operation).run dev memory s)

section Entries

variable {α β : Type}

/-- A request that is passed on. -/
def CallEntry.setter (type : UInt8) (request : Codec α) (call : α → Call) :
    CallEntry Call Value where
  type := type
  Args := α
  request := request
  call := call
  needsMemory := false
  encode _ _ := none
  handler := passOn request call
  answers _ _ _ _ hnone := passOn_answers hnone

/-- A request that is answered. -/
def CallEntry.getter (type : UInt8) (request : Codec α) (response : Codec β) (call : α → Call)
    (answer : (a : α) → Value (call a) → β) : CallEntry Call Value where
  type := type
  Args := α
  request := request
  call := call
  needsMemory := true
  encode a value := some (response.encode (answer a value))
  handler := query request response call answer
  answers _ _ _ _ hnone := query_answers hnone

/-- A request that the device answers in its response. -/
def CallEntry.getterInPlace (type : UInt8) (request : Codec α) (response : Codec β)
    (call : α → Call) (answer : (a : α) → Value (call a) → β) : CallEntry Call Value where
  type := type
  Args := α
  request := request
  call := call
  needsMemory := true
  encode a value := some (response.encode (answer a value))
  handler := queryInPlace request response call answer
  answers _ _ _ _ hnone := queryInPlace_answers hnone

end Entries

/-- A request, and whether there is a buffer for its response. -/
structure Arrival where
  operation : Operation
  memory : Bool
  deriving DecidableEq, Repr

/-- What the core answers to a request without a handler. -/
def withoutHandler (type : UInt8) : UInt8 :=
  if type = pingType then OperationResult.success.code else OperationResult.invalid.code

/-- The handler of a request runs, or the core answers the request itself. -/
def serve {δ : Type} (table : DeviceTable Call Value) (dev : Device Call Value δ) (r : Arrival)
    (s : Serving Call δ) : UInt8 × Serving Call δ :=
  match table.find? fun h => h.1 = r.operation.requestBuffer.hdr.type with
  | none => (withoutHandler r.operation.requestBuffer.hdr.type, { s with response := none })
  | some h => (h.2 r.operation).run dev r.memory { s with response := none }

/-- The requests are served one after another. -/
def serveAll {δ : Type} (table : DeviceTable Call Value) (dev : Device Call Value δ)
    (s : Serving Call δ) (rs : List Arrival) : Serving Call δ :=
  rs.foldl (fun s r => (serve table dev r s).2) s

/-- The entry of a request. -/
def entryOf (entries : List (CallEntry Call Value)) (operation : Operation) :
    Option (CallEntry Call Value) :=
  entries.find? fun e => e.type = operation.requestBuffer.hdr.type

/-- The call that a request asks for, if it is long enough to. -/
def CallEntry.asks (e : CallEntry Call Value) (operation : Operation) : Option Call :=
  if operation.requestBuffer.payloadSize < e.request.size then none
  else some (e.call (e.request.decode operation.requestBuffer.payload))

/-- The call that the device gets for a request. -/
def performed (entries : List (CallEntry Call Value)) (r : Arrival) : Option Call :=
  (entryOf entries r.operation).bind fun e =>
  if e.needsMemory && !r.memory then none else e.asks r.operation

section Tables

variable {δ : Type} {entries : List (CallEntry Call Value)} {table : DeviceTable Call Value}
  {version : Operation → DeviceProg Call Value} {dev : Device Call Value δ} {s : Serving Call δ}
  {r : Arrival}

/-- The table has a handler that calls no device, and the handlers of the entries. -/
structure Tabulates (entries : List (CallEntry Call Value)) (type : UInt8)
    (version : Operation → DeviceProg Call Value) (table : DeviceTable Call Value) : Prop where
  table_eq : table = (type, version) :: entries.map fun e => (e.type, e.handler)
  nodup : (type :: entries.map (·.type)).Nodup
  quiet : ∀ {δ : Type} (operation : Operation) (dev : Device Call Value δ) (memory : Bool)
    (s : Serving Call δ), ((version operation).run dev memory s).2.device = s.device ∧
      ((version operation).run dev memory s).2.calls = s.calls

theorem find?_handlers (operation : Operation) :
    ((entries.map fun e => (e.type, e.handler)).find? fun h =>
        h.1 = operation.requestBuffer.hdr.type)
      = (entryOf entries operation).map fun e => (e.type, e.handler) :=
  List.find?_map ..

theorem serve_entry {type : UInt8} (h : Tabulates entries type version table)
    {e : CallEntry Call Value} (he : entryOf entries r.operation = some e) :
    Answers e.needsMemory e.request e.call e.encode r.operation dev r.memory
      { s with response := none } (serve table dev r s) := by
  have htype : e.type = r.operation.requestBuffer.hdr.type := by
    simpa using List.find?_some he
  have hfind : table.find? (fun h => h.1 = r.operation.requestBuffer.hdr.type)
      = some (e.type, e.handler) := by
    have hne : type ≠ e.type := fun hsame => (List.nodup_cons.mp h.nodup).1
      (hsame ▸ List.mem_map_of_mem (List.mem_of_find?_eq_some he))
    rw [h.table_eq, List.find?_cons_of_neg (by simpa [← htype] using hne), find?_handlers, he,
      Option.map_some]
  rw [serve, hfind]
  exact e.answers r.operation dev r.memory _ rfl

-- A request without an entry has no handler, or one that calls no device.
theorem serve_other {type : UInt8} (h : Tabulates entries type version table)
    (he : entryOf entries r.operation = none) :
    (serve table dev r s).2.device = s.device ∧ (serve table dev r s).2.calls = s.calls := by
  rw [serve]
  split
  next => exact ⟨rfl, rfl⟩
  next found hfind =>
    rw [h.table_eq, List.find?_cons] at hfind
    split at hfind
    next =>
      obtain rfl := Option.some.inj hfind
      exact h.quiet r.operation dev r.memory _
    next =>
      rw [find?_handlers, he] at hfind
      cases hfind

-- The device moves by the call that it gets, if there is one.
theorem serve_moves {type : UInt8} (h : Tabulates entries type version table) :
    (serve table dev r s).2.calls = s.calls ++ (performed entries r).toList ∧
      (serve table dev r s).2.device
        = (performed entries r).toList.foldl (fun d c => (dev c d).2.2) s.device := by
  rw [performed]
  cases he : entryOf entries r.operation with
  | none =>
    obtain ⟨hdevice, hcalls⟩ := @serve_other _ _ _ _ _ _ dev s _ _ h he
    exact ⟨by rw [hcalls]; simp, hdevice⟩
  | some e =>
    have hanswers := @serve_entry _ _ _ _ _ _ dev s _ _ h _ he
    rw [Answers] at hanswers
    rw [Option.bind_some, CallEntry.asks]
    split at hanswers
    next hshort =>
      rw [if_pos hshort, ite_self]
      exact ⟨by rw [hanswers.calls]; simp, hanswers.device⟩
    next hlong =>
      rw [if_neg hlong]
      split at hanswers
      next hmemory =>
        rw [if_pos hmemory]
        exact ⟨by rw [hanswers.calls]; simp, hanswers.device⟩
      next hmemory =>
        rw [if_neg hmemory]
        exact ⟨hanswers.calls, hanswers.device⟩

/-- Whatever requests come, the device gets the calls that they ask for, in their order. -/
theorem serveAll_moves {type : UInt8} (h : Tabulates entries type version table)
    (rs : List Arrival) :
    (serveAll table dev s rs).calls = s.calls ++ rs.filterMap (performed entries) ∧
      (serveAll table dev s rs).device
        = (rs.filterMap (performed entries)).foldl (fun d c => (dev c d).2.2) s.device := by
  induction rs generalizing s with
  | nil => exact ⟨(List.append_nil _).symm, rfl⟩
  | cons r rs ih =>
    obtain ⟨hcalls, hdevice⟩ := @serve_moves _ _ _ _ _ _ dev s r _ h
    obtain ⟨hcalls', hdevice'⟩ := @ih (serve table dev r s).2
    rw [serveAll, List.foldl_cons, ← serveAll, hcalls', hdevice', hcalls, hdevice]
    cases hperformed : performed entries r with
    | none => simp [List.filterMap_cons_none hperformed]
    | some c => simp [List.filterMap_cons_some hperformed]

-- A request of the type of an entry is the entry's.
theorem entryOf_of_mem (hnodup : (entries.map (·.type)).Nodup) {e : CallEntry Call Value}
    (he : e ∈ entries) {operation : Operation} (htype : operation.requestBuffer.hdr.type = e.type) :
    entryOf entries operation = some e := by
  rw [entryOf, htype]
  induction entries with
  | nil => cases he
  | cons e' entries ih =>
    rw [List.map_cons, List.nodup_cons] at hnodup
    rcases List.mem_cons.mp he with rfl | hmem
    · exact List.find?_cons_of_pos (by simp)
    · rw [List.find?_cons_of_neg, ih hnodup.2 hmem]
      have hne : e'.type ≠ e.type := fun hsame => hnodup.1 (hsame ▸ List.mem_map_of_mem hmem)
      simpa using hne

/-- The request carries these arguments. -/
def CallEntry.Carries (e : CallEntry Call Value) (a : e.Args) (request : Message) : Prop :=
  request.hdr.type = e.type ∧ request.payloadSize = request.payload.length ∧
    e.request.encode a <+: request.payload

/-- After the requests `rs`, the device has got the calls that they ask for and no others; and a
request that carries arguments calls the device with these, and returns its answer. -/
structure CalledAsAsked (entries : List (CallEntry Call Value)) (table : DeviceTable Call Value)
    (dev : Device Call Value δ) (device : δ) (rs : List Arrival) (s : Serving Call δ) : Prop where
  calls : s.calls = rs.filterMap (performed entries)
  device : s.device = (rs.filterMap (performed entries)).foldl (fun d c => (dev c d).2.2) device
  answers : ∀ e ∈ entries, ∀ a r, e.Carries a r.operation.requestBuffer →
    if e.needsMemory && !r.memory then
      GivesUp .noMemory { s with response := none } (serve table dev r s)
    else Performs dev (e.call a) (e.encode a) { s with response := none } (serve table dev r s)

theorem serveAll_calledAsAsked {type : UInt8} (h : Tabulates entries type version table)
    (dev : Device Call Value δ) (device : δ) (rs : List Arrival) :
    CalledAsAsked entries table dev device rs (serveAll table dev ⟨device, [], none⟩ rs) where
  calls := (serveAll_moves h rs).1
  device := (serveAll_moves h rs).2
  answers e he a r hcarries := by
    obtain ⟨htype, hsize, rest, hpayload⟩ := hcarries
    have hentry := entryOf_of_mem (List.nodup_cons.mp h.nodup).2 he htype
    have hanswers := @serve_entry _ _ _ _ _ _ dev (serveAll table dev ⟨device, [], none⟩ rs) r _ h
      _ hentry
    have hlong : ¬ r.operation.requestBuffer.payloadSize < e.request.size := by
      rw [hsize, ← hpayload, List.length_append, e.request.length_encode]
      omega
    have hargs : e.request.decode r.operation.requestBuffer.payload = a := by
      rw [← hpayload, e.request.decode_append]
    rw [Answers, if_neg hlong, hargs] at hanswers
    exact hanswers

end Tables

end Greybus
