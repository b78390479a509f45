import Greybus.Protocols.DeviceCalls

/-!
# The PWM protocol

The driver keeps the number of generators that it has told the peer about, and passes a request for
a generator on to the device when the number covers it.
-/

namespace Greybus.Pwm

open Reasoning.Packed Codec

/-! ## The device and the driver -/

/-- The functions of the device, with their arguments. -/
inductive PwmCall where
  | getCount
  | activate (which : UInt8)
  | deactivate (which : UInt8)
  | config (which : UInt8) (duty period : UInt32)
  | setPolarity (which polarity : UInt8)
  | enable (which : UInt8)
  | disable (which : UInt8)
  deriving DecidableEq, Repr

/-- What a function stores besides what it returns. -/
abbrev PwmCall.Value : PwmCall → Type
  | .getCount => UInt16
  | _ => Unit

/-- `struct gb_pwm_info`, as far as the handlers read it. -/
structure PwmInfo where
  numPwms : UInt16
  deriving DecidableEq, Repr

/-- The bundle's `priv` and `dev`, with the state of the device, its calls so far, and the payload
of the response. -/
structure Driver (δ : Type) where
  priv : Option PwmInfo
  dev : Option δ
  calls : List PwmCall
  response : Option (List UInt8)
  deriving DecidableEq, Repr

variable {δ : Type}

abbrev PwmDevice (δ : Type) := Device PwmCall PwmCall.Value δ

/-- The device is called. -/
def Driver.called (s : Driver δ) (c : PwmCall) (device : δ) : Driver δ :=
  { s with dev := some device, calls := s.calls ++ [c] }

/-- `gb_pwm_init`: whether `zalloc` has memory, and what `device_open` gives. -/
def gbPwmInit (memory : Bool) (deviceOpen : Option δ) : Int × Driver δ :=
  if !memory then (-ENOMEM, ⟨none, none, [], none⟩)
  else
    match deviceOpen with
    | none => (- EIO, ⟨none, none, [], none⟩)
    | some device => (0, ⟨some ⟨0⟩, some device, [], none⟩)

/-! ## Handlers -/

/-- A handler: whether there is a buffer for the response, and the request. -/
abbrev Handler (δ : Type) := Bool → Operation → Driver δ → UInt8 × Driver δ

/-- `gb_pwm_protocol_version`. -/
def gbPwmProtocolVersion : Handler δ := fun memory _ s =>
  if !memory then (OperationResult.noMemory.code, s)
  else (OperationResult.success.code, { s with response := some [0, 1] })

/-- `gb_pwm_protocol_count`. -/
def gbPwmProtocolCount (dev : PwmDevice δ) : Handler δ := fun memory _ s =>
  match s.priv, s.dev with
  | some _, some device =>
    if !memory then (OperationResult.noMemory.code, s)
    else
      let (ret, count, device) := dev .getCount device
      let s := { s.called .getCount device with response := some [0] }
      if ret ≠ 0 then (OperationResult.unknownError.code, s)
      else if count = 0 ∨ 256 < count then (OperationResult.unknownError.code, s)
      else
        -- One less than the number of generators.
        (OperationResult.success.code,
          { s with priv := some ⟨count⟩, response := some [count.toUInt8 - 1] })
  | _, _ => (OperationResult.unknownError.code, s)

/-- Passes a request for a generator on to the device. -/
def onGenerator {α : Type} (request : Codec α) (which : α → UInt8) (call : α → PwmCall)
    (dev : PwmDevice δ) : Handler δ := fun _ operation s =>
  if operation.requestBuffer.payloadSize < request.size then (OperationResult.invalid.code, s)
  else
    match s.priv, s.dev with
    | some info, some device =>
      let a := request.decode operation.requestBuffer.payload
      if info.numPwms.toNat ≤ (which a).toNat then (OperationResult.invalid.code, s)
      else
        let (ret, _, device) := dev (call a) device
        if ret ≠ 0 then (OperationResult.unknownError.code, s.called (call a) device)
        else (OperationResult.success.code, s.called (call a) device)
    | _, _ => (OperationResult.unknownError.code, s)

/-- `struct gb_pwm_config_request`. -/
def configRequest : Codec (UInt8 × UInt32 × UInt32) := byte.pair (le32.pair le32)

/-- `struct gb_pwm_polarity_request`. -/
def polarityRequest : Codec (UInt8 × UInt8) := byte.pair byte

/-- `gb_pwm_protocol_activate`. -/
def gbPwmProtocolActivate : PwmDevice δ → Handler δ := onGenerator byte id .activate

/-- `gb_pwm_protocol_deactivate`. -/
def gbPwmProtocolDeactivate : PwmDevice δ → Handler δ := onGenerator byte id .deactivate

/-- `gb_pwm_protocol_config`. -/
def gbPwmProtocolConfig : PwmDevice δ → Handler δ :=
  onGenerator configRequest (·.1) fun a => .config a.1 a.2.1 a.2.2

/-- `gb_pwm_protocol_polarity`. -/
def gbPwmProtocolPolarity : PwmDevice δ → Handler δ :=
  onGenerator polarityRequest (·.1) fun a => .setPolarity a.1 a.2

/-- `gb_pwm_protocol_enable`. -/
def gbPwmProtocolEnable : PwmDevice δ → Handler δ := onGenerator byte id .enable

/-- `gb_pwm_protocol_disable`. -/
def gbPwmProtocolDisable : PwmDevice δ → Handler δ := onGenerator byte id .disable

/-- `gb_pwm_handlers`. -/
def gbPwmHandlers (dev : PwmDevice δ) : List (UInt8 × Handler δ) :=
  [(0x01, gbPwmProtocolVersion), (0x02, gbPwmProtocolCount dev), (0x03, gbPwmProtocolActivate dev),
    (0x04, gbPwmProtocolDeactivate dev), (0x05, gbPwmProtocolConfig dev),
    (0x06, gbPwmProtocolPolarity dev), (0x07, gbPwmProtocolEnable dev),
    (0x08, gbPwmProtocolDisable dev)]

/-- The handler of a request runs, or the core answers the request itself. -/
def serve (dev : PwmDevice δ) (r : Arrival) (s : Driver δ) : UInt8 × Driver δ :=
  match (gbPwmHandlers dev).find? fun h => h.1 = r.operation.requestBuffer.hdr.type with
  | none => (withoutHandler r.operation.requestBuffer.hdr.type, { s with response := none })
  | some h => h.2 r.memory r.operation { s with response := none }

/-! ## What the peer sees -/

/-- A request with its result and the payload of its response. -/
structure Exchanged where
  arrival : Arrival
  result : UInt8
  response : Option (List UInt8)
  deriving DecidableEq, Repr

abbrev Exchanged.type (x : Exchanged) : UInt8 := x.arrival.operation.requestBuffer.hdr.type

/-- The count that a response announces. -/
def Exchanged.count (x : Exchanged) : Option UInt8 :=
  if x.type = 0x02 ∧ x.result = OperationResult.success.code then x.response.bind List.head?
  else none

/-- The count that was announced last, if it was `last` before. -/
def announced (last : Option UInt8) (log : List Exchanged) : Option UInt8 :=
  log.foldl (fun last x => x.count.or last) last

/-- A count, which is one less than the number of generators, covers a generator. -/
def Covers (count : Option UInt8) (which : UInt8) : Prop := ∃ n ∈ count, which ≤ n

instance (count : Option UInt8) (which : UInt8) : Decidable (Covers count which) :=
  match count with
  | none => .isFalse (by simp [Covers])
  | some n => decidable_of_iff (which ≤ n) (by simp [Covers])

/-- A request for a generator: its type and payload, the generator, and the call. -/
structure GeneratorEntry where
  type : UInt8
  Args : Type
  request : Codec Args
  which : Args → UInt8
  call : Args → PwmCall

def generatorEntries : List GeneratorEntry :=
  [⟨0x03, UInt8, byte, id, .activate⟩, ⟨0x04, UInt8, byte, id, .deactivate⟩,
    ⟨0x05, _, configRequest, (·.1), fun a => .config a.1 a.2.1 a.2.2⟩,
    ⟨0x06, _, polarityRequest, (·.1), fun a => .setPolarity a.1 a.2⟩,
    ⟨0x07, UInt8, byte, id, .enable⟩, ⟨0x08, UInt8, byte, id, .disable⟩]

/-- The generator that a request is for, and the call that it asks for. -/
def asked (operation : Operation) : Option (UInt8 × PwmCall) :=
  (generatorEntries.find? fun e => e.type = operation.requestBuffer.hdr.type).bind fun e =>
    if operation.requestBuffer.payloadSize < e.request.size then none
    else
      let a := e.request.decode operation.requestBuffer.payload
      some (e.which a, e.call a)

/-- The call that the peer can tell the device has got, going by the count announced last. -/
def callOf (last : Option UInt8) (x : Exchanged) : Option PwmCall :=
  if x.type = 0x02 then if x.result = OperationResult.noMemory.code then none else some .getCount
  else (asked x.arrival.operation).bind fun asks => if Covers last asks.1 then some asks.2 else none

def callsOf : Option UInt8 → List Exchanged → List PwmCall
  | _, [] => []
  | last, x :: log => (callOf last x).toList ++ callsOf (x.count.or last) log

theorem callsOf_append_singleton (last : Option UInt8) (log : List Exchanged) (x : Exchanged) :
    callsOf last (log ++ [x]) = callsOf last log ++ (callOf (announced last log) x).toList := by
  induction log generalizing last with
  | nil => simp [callsOf, announced]
  | cons y log ih =>
    rw [List.cons_append, callsOf, ih, callsOf, List.append_assoc]
    rfl

/-- The driver, and what the peer has seen of it. -/
structure Session (δ : Type) where
  driver : Driver δ
  log : List Exchanged

def exchange (dev : PwmDevice δ) (s : Session δ) (r : Arrival) : Session δ :=
  let (result, driver) := serve dev r s.driver
  ⟨driver, s.log ++ [⟨r, result, driver.response⟩]⟩

/-- Requests are served one after another. -/
def exchangeAll (dev : PwmDevice δ) (s : Session δ) (rs : List Arrival) : Session δ :=
  rs.foldl (exchange dev) s

/-- The number that goes with an announced count. -/
def numberOf : Option UInt8 → Nat
  | none => 0
  | some n => n.toNat + 1

/-- The device is called once, and the result says whether it has failed. -/
structure Passed (dev : PwmDevice δ) (device : δ) (c : PwmCall) (s : Driver δ)
    (res : UInt8 × Driver δ) : Prop where
  result : res.1 = if (dev c device).1 = 0 then OperationResult.success.code
    else OperationResult.unknownError.code
  priv : res.2.priv = s.priv
  moves : res.2.dev = some (dev c device).2.2
  calls : res.2.calls = s.calls ++ [c]

/-- Only the response may change. -/
structure Untouched (s s' : Driver δ) : Prop where
  priv : s'.priv = s.priv
  dev : s'.dev = s.dev
  calls : s'.calls = s.calls

/-- The driver goes by the count that the peer has been told last, and the device has got the calls
that the peer can tell it has. -/
structure InStep (dev : PwmDevice δ) (device : δ) (s : Session δ) : Prop where
  numPwms : ∃ info, s.driver.priv = some info ∧
    info.numPwms.toNat = numberOf (announced none s.log)
  calls : s.driver.calls = callsOf none s.log
  moves : s.driver.dev = some (s.driver.calls.foldl (fun d c => (dev c d).2.2) device)

/-! ## A request -/

section Requests

variable (dev : PwmDevice δ) {s : Driver δ} {r : Arrival} {last : Option UInt8}

theorem covers_iff {which : UInt8} : Covers last which ↔ ¬ numberOf last ≤ which.toNat := by
  cases last with
  | none => simp [Covers, numberOf]
  | some n =>
    simp only [Covers, Option.mem_some_iff, exists_eq_left', numberOf, UInt8.le_iff_toNat_le]
    omega

theorem gbPwmHandlers_eq :
    gbPwmHandlers dev = (0x01, gbPwmProtocolVersion) :: (0x02, gbPwmProtocolCount dev) ::
      generatorEntries.map fun e => (e.type, onGenerator e.request e.which e.call dev) := rfl

theorem serve_count (htype : r.operation.requestBuffer.hdr.type = 0x02) :
    serve dev r s = gbPwmProtocolCount dev r.memory r.operation { s with response := none } := by
  simp [serve, gbPwmHandlers_eq, htype]

theorem serve_generator {e : GeneratorEntry}
    (he : generatorEntries.find? (fun e => e.type = r.operation.requestBuffer.hdr.type) = some e) :
    serve dev r s = onGenerator e.request e.which e.call dev r.memory r.operation
      { s with response := none } := by
  have htype : e.type = r.operation.requestBuffer.hdr.type := by simpa using List.find?_some he
  have hother : e.type ≠ 0x01 ∧ e.type ≠ 0x02 := by
    have hmem := List.mem_of_find?_eq_some he
    simp only [generatorEntries, List.mem_cons, List.not_mem_nil, or_false] at hmem
    rcases hmem with rfl | rfl | rfl | rfl | rfl | rfl <;> decide
  rw [serve, gbPwmHandlers_eq, ← htype, List.find?_cons_of_neg (by simpa using hother.1.symm),
    List.find?_cons_of_neg (by simpa using hother.2.symm), List.find?_map]
  simp only [Function.comp_def, htype, he, Option.map_some]

theorem asked_eq_some {operation : Operation} {which : UInt8} {c : PwmCall}
    (h : asked operation = some (which, c)) :
    ∃ e, generatorEntries.find? (fun e => e.type = operation.requestBuffer.hdr.type) = some e ∧
      ¬ operation.requestBuffer.payloadSize < e.request.size ∧
      e.which (e.request.decode operation.requestBuffer.payload) = which ∧
      e.call (e.request.decode operation.requestBuffer.payload) = c := by
  obtain ⟨e, he, hasks⟩ := Option.bind_eq_some_iff.mp h
  split at hasks
  next => cases hasks
  next hlong =>
    obtain ⟨hwhich, hcall⟩ := Prod.mk.inj (Option.some.inj hasks)
    exact ⟨e, he, hlong, hwhich, hcall⟩

variable {info : PwmInfo} {device : δ} {which : UInt8} {c : PwmCall}

-- A request for a generator that the number covers.
theorem serve_passed (hasked : asked r.operation = some (which, c)) (hpriv : s.priv = some info)
    (hdev : s.dev = some device) (hcovered : ¬ info.numPwms.toNat ≤ which.toNat) :
    Passed dev device c s (serve dev r s) := by
  obtain ⟨e, he, hlong, rfl, rfl⟩ := asked_eq_some hasked
  rw [serve_generator dev he, onGenerator, if_neg hlong]
  simp only [hpriv, hdev]
  rw [if_neg hcovered]
  split
  next hret => exact ⟨(if_neg hret).symm, hpriv.symm, rfl, rfl⟩
  next hret => exact ⟨(if_pos (not_not.mp hret)).symm, hpriv.symm, rfl, rfl⟩

theorem serve_refused (hasked : asked r.operation = some (which, c)) (hpriv : s.priv = some info)
    (hdev : s.dev = some device) (hbeyond : info.numPwms.toNat ≤ which.toNat) :
    (serve dev r s).1 = OperationResult.invalid.code ∧ Untouched s (serve dev r s).2 := by
  obtain ⟨e, he, hlong, rfl, rfl⟩ := asked_eq_some hasked
  rw [serve_generator dev he, onGenerator, if_neg hlong]
  simp only [hpriv, hdev]
  rw [if_pos hbeyond]
  exact ⟨rfl, hpriv.symm, hdev.symm, rfl⟩

-- A request that asks for no call of a generator and does not count them.
theorem serve_unasked (htype : r.operation.requestBuffer.hdr.type ≠ 0x02)
    (hasked : asked r.operation = none) : Untouched s (serve dev r s).2 := by
  cases he : generatorEntries.find? fun e => e.type = r.operation.requestBuffer.hdr.type with
  | none =>
    rw [serve, gbPwmHandlers_eq]
    by_cases hversion : r.operation.requestBuffer.hdr.type = 0x01
    · rw [List.find?_cons_of_pos (by simp [hversion])]
      cases r.memory <;> exact ⟨rfl, rfl, rfl⟩
    · rw [List.find?_cons_of_neg (by simpa using Ne.symm hversion),
        List.find?_cons_of_neg (by simpa using Ne.symm htype), List.find?_map]
      simp only [Function.comp_def, he, Option.map_none]
      exact ⟨rfl, rfl, rfl⟩
  | some e =>
    rw [asked, he, Option.bind_some] at hasked
    split at hasked
    next hshort =>
      rw [serve_generator dev he, onGenerator, if_pos hshort]
      exact ⟨rfl, rfl, rfl⟩
    next => cases hasked

/-- The device is asked for its count, which is kept and announced if it is from 1 to 256. -/
structure Counted (dev : PwmDevice δ) (device : δ) (s : Driver δ) (res : UInt8 × Driver δ) :
    Prop where
  moves : res.2.dev = some (dev .getCount device).2.2
  calls : res.2.calls = s.calls ++ [.getCount]
  known : let count : UInt16 := (dev .getCount device).2.1
    if (dev .getCount device).1 = 0 ∧ 1 ≤ count.toNat ∧ count.toNat ≤ 256 then
      res.1 = OperationResult.success.code ∧ res.2.priv = some ⟨count⟩ ∧
        res.2.response = some [count.toUInt8 - 1]
    else res.1 = OperationResult.unknownError.code ∧ res.2.priv = s.priv

theorem inRange_iff {count : UInt16} :
    ¬ (count = 0 ∨ 256 < count) ↔ 1 ≤ count.toNat ∧ count.toNat ≤ 256 := by
  rw [← UInt16.toNat_inj, UInt16.lt_iff_toNat_lt]
  show ¬ (count.toNat = 0 ∨ 256 < count.toNat) ↔ _
  omega

theorem serve_counted (htype : r.operation.requestBuffer.hdr.type = 0x02)
    (hpriv : s.priv = some info) (hdev : s.dev = some device) (hmemory : r.memory = true) :
    Counted dev device s (serve dev r s) := by
  rw [serve_count dev htype, gbPwmProtocolCount]
  simp only [hpriv, hdev, hmemory, Bool.not_true, Bool.false_eq_true, if_false]
  split
  next hret =>
    refine ⟨rfl, rfl, ?_⟩
    dsimp only
    rw [if_neg fun h => hret h.1]
    exact ⟨rfl, hpriv.symm⟩
  next hret =>
    split
    next hout =>
      refine ⟨rfl, rfl, ?_⟩
      dsimp only
      rw [if_neg fun h => inRange_iff.mpr h.2 hout]
      exact ⟨rfl, hpriv.symm⟩
    next hin =>
      refine ⟨rfl, rfl, ?_⟩
      dsimp only
      rw [if_pos ⟨not_not.mp hret, inRange_iff.mp hin⟩]
      exact ⟨rfl, rfl, rfl⟩

theorem serve_uncounted (htype : r.operation.requestBuffer.hdr.type = 0x02)
    (hpriv : s.priv = some info) (hdev : s.dev = some device) (hmemory : r.memory = false) :
    (serve dev r s).1 = OperationResult.noMemory.code ∧ Untouched s (serve dev r s).2 := by
  rw [serve_count dev htype, gbPwmProtocolCount]
  simp only [hpriv, hdev, hmemory, Bool.not_false, if_true]
  exact ⟨trivial, hpriv.symm, hdev.symm, rfl⟩

end Requests

/-! ## Every session -/

section Sessions

variable {dev : PwmDevice δ} {device : δ} {s : Session δ} {r : Arrival}

theorem announced_append_singleton (last : Option UInt8) (log : List Exchanged) (x : Exchanged) :
    announced last (log ++ [x]) = x.count.or (announced last log) := by
  rw [announced, List.foldl_append]
  rfl

theorem count_of_type_ne {x : Exchanged} (h : x.type ≠ 0x02) : x.count = none :=
  if_neg fun hcount => h hcount.1

-- Nothing has reached the device, and nothing was announced.
theorem InStep.untouched (h : InStep dev device s) {driver : Driver δ} {x : Exchanged}
    (hsame : Untouched s.driver driver) (hcount : x.count = none)
    (hcall : callOf (announced none s.log) x = none) :
    InStep dev device ⟨driver, s.log ++ [x]⟩ where
  numPwms := by
    rw [announced_append_singleton, hcount, Option.none_or, hsame.priv]
    exact h.numPwms
  calls := by
    rw [callsOf_append_singleton, hcall, hsame.calls, h.calls]
    exact (List.append_nil _).symm
  moves := by rw [hsame.dev, h.moves, hsame.calls]

-- The device has got a call, and nothing was announced.
theorem InStep.called (h : InStep dev device s) {driver : Driver δ} {x : Exchanged} {c : PwmCall}
    {state : δ} (hstate : s.driver.dev = some state) (hpriv : driver.priv = s.driver.priv)
    (hmoves : driver.dev = some (dev c state).2.2) (hcalls : driver.calls = s.driver.calls ++ [c])
    (hcount : x.count = none) (hcall : callOf (announced none s.log) x = some c) :
    InStep dev device ⟨driver, s.log ++ [x]⟩ where
  numPwms := by
    rw [announced_append_singleton, hcount, Option.none_or, hpriv]
    exact h.numPwms
  calls := by
    rw [callsOf_append_singleton, hcall, hcalls, h.calls]
    rfl
  moves := by
    obtain rfl := Option.some.inj (hstate.symm.trans h.moves)
    rw [hmoves, hcalls, List.foldl_append]
    rfl

theorem count_of_result_ne {x : Exchanged} (h : x.result ≠ OperationResult.success.code) :
    x.count = none := if_neg fun hcount => h hcount.2

-- The byte in the response, which wraps round for 256 generators, and the number that is kept.
theorem toNat_count {count : UInt16} (hlow : 1 ≤ count.toNat) (hhigh : count.toNat ≤ 256) :
    (count.toUInt8 - 1).toNat + 1 = count.toNat := by
  rw [UInt8.toNat_sub, UInt16.toNat_toUInt8]
  show (2 ^ 8 - 1 + count.toNat % 2 ^ 8) % 2 ^ 8 + 1 = _
  omega

theorem InStep.exchange_count (h : InStep dev device s)
    (htype : r.operation.requestBuffer.hdr.type = 0x02) :
    InStep dev device (exchange dev s r) := by
  obtain ⟨info, hpriv, -⟩ := h.numPwms
  show InStep dev device ⟨(serve dev r s.driver).2, s.log ++ [⟨r, (serve dev r s.driver).1,
    (serve dev r s.driver).2.response⟩]⟩
  cases hmemory : r.memory with
  | false =>
    obtain ⟨hresult, hsame⟩ := serve_uncounted dev htype hpriv h.moves hmemory
    have hne : OperationResult.noMemory.code ≠ OperationResult.success.code := by decide
    refine h.untouched hsame (count_of_result_ne ?_) ?_
    · rw [hresult]
      exact hne
    · rw [callOf, if_pos htype, if_pos hresult]
  | true =>
    obtain ⟨hmoves, hcalls, hknown⟩ := serve_counted dev htype hpriv h.moves hmemory
    dsimp only at hknown
    split at hknown
    next hcount =>
      obtain ⟨hresult, hnumber, hresponse⟩ := hknown
      obtain ⟨-, hlow, hhigh⟩ := hcount
      refine ⟨⟨_, hnumber, ?_⟩, ?_, ?_⟩
      · rw [announced_append_singleton, Exchanged.count, if_pos ⟨htype, hresult⟩]
        simp only [hresponse, Option.bind_some, List.head?_cons, Option.some_or, numberOf]
        exact (toNat_count hlow hhigh).symm
      · have hne : OperationResult.success.code ≠ OperationResult.noMemory.code := by decide
        rw [callsOf_append_singleton, callOf, if_pos htype, hresult, if_neg hne, hcalls, h.calls]
        rfl
      · rw [hmoves, hcalls, List.foldl_append]
        rfl
    next =>
      have hne : OperationResult.unknownError.code ≠ OperationResult.success.code := by decide
      have hne' : OperationResult.unknownError.code ≠ OperationResult.noMemory.code := by decide
      refine h.called h.moves hknown.2 hmoves hcalls (count_of_result_ne ?_) ?_
      · rw [hknown.1]
        exact hne
      · rw [callOf, if_pos htype, hknown.1, if_neg hne']

theorem InStep.exchange (h : InStep dev device s) (r : Arrival) :
    InStep dev device (exchange dev s r) := by
  by_cases htype : r.operation.requestBuffer.hdr.type = 0x02
  · exact h.exchange_count htype
  obtain ⟨info, hpriv, hnumber⟩ := h.numPwms
  show InStep dev device ⟨(serve dev r s.driver).2, s.log ++ [⟨r, (serve dev r s.driver).1,
    (serve dev r s.driver).2.response⟩]⟩
  cases hasked : asked r.operation with
  | none =>
    refine h.untouched (serve_unasked dev htype hasked) (count_of_type_ne htype) ?_
    rw [callOf, if_neg htype, hasked, Option.bind_none]
  | some asks =>
    obtain ⟨which, c⟩ := asks
    by_cases hcovers : Covers (announced none s.log) which
    · have hpassed := serve_passed dev hasked hpriv h.moves
        (hnumber ▸ covers_iff.mp hcovers)
      refine h.called h.moves hpassed.priv hpassed.moves hpassed.calls (count_of_type_ne htype) ?_
      rw [callOf, if_neg htype, hasked, Option.bind_some, if_pos hcovers]
    · have hbeyond := not_not.mp (mt covers_iff.mpr hcovers)
      have hrefused := serve_refused dev hasked hpriv h.moves (hnumber ▸ hbeyond)
      refine h.untouched hrefused.2 (count_of_type_ne htype) ?_
      rw [callOf, if_neg htype, hasked, Option.bind_some, if_neg hcovers]

/-- The request carries these arguments. -/
def GeneratorEntry.Carries (e : GeneratorEntry) (a : e.Args) (request : Message) : Prop :=
  request.hdr.type = e.type ∧ request.payloadSize = request.payload.length ∧
    e.request.encode a <+: request.payload

theorem asked_of_carries {e : GeneratorEntry} (he : e ∈ generatorEntries) {a : e.Args}
    (h : e.Carries a r.operation.requestBuffer) :
    asked r.operation = some (e.which a, e.call a) := by
  obtain ⟨htype, hsize, rest, hpayload⟩ := h
  have hfind : generatorEntries.find? (fun e => e.type = r.operation.requestBuffer.hdr.type)
      = some e := by
    rw [htype]
    simp only [generatorEntries, List.mem_cons, List.not_mem_nil, or_false] at he
    rcases he with rfl | rfl | rfl | rfl | rfl | rfl <;> rfl
  have hlong : ¬ r.operation.requestBuffer.payloadSize < e.request.size := by
    rw [hsize, ← hpayload, List.length_append, e.request.length_encode]
    omega
  rw [asked, hfind, Option.bind_some, if_neg hlong, ← hpayload, e.request.decode_append]

/-- The driver and the peer go by the same count: a request for a generator that the last count
covers is passed on with its arguments, and any other one is refused and reaches no device. -/
structure GoesByCount (dev : PwmDevice δ) (device : δ) (s : Session δ) : Prop
    extends InStep dev device s where
  answers : ∀ e ∈ generatorEntries, ∀ a r, e.Carries a r.operation.requestBuffer →
    if Covers (announced none s.log) (e.which a) then
      ∃ state, s.driver.dev = some state ∧
        Passed dev state (e.call a) s.driver (serve dev r s.driver)
    else
      (serve dev r s.driver).1 = OperationResult.invalid.code ∧
        Untouched s.driver (serve dev r s.driver).2

end Sessions

end Greybus.Pwm
