import Greybus.Protocols.Transfers

/-!
# GPIO lines

The handlers of the GPIO protocol and the interrupt path.  A request names a line; the handlers
check the line against the number of pins of the port and use it as the position of a pin.
-/

namespace Greybus.Gpio

/-! ## Pins -/

/-- `gpio_port_pins_t`. -/
abbrev PortPins := BitVec 32

/-- `GPIO_MAX_PINS_PER_PORT`. -/
def gpioMaxPinsPerPort : Nat := 32

/-- `POPCOUNT`. -/
def popcount (pins : PortPins) : Nat := (List.range gpioMaxPinsPerPort).countP pins.getLsbD

theorem popcount_le (pins : PortPins) : popcount pins ≤ gpioMaxPinsPerPort := by
  have hle := List.countP_le_length (p := pins.getLsbD) (l := List.range gpioMaxPinsPerPort)
  rwa [List.length_range] at hle

/-- What the flags of `gpio_pin_configure` say of a pin. -/
structure PinFlags where
  input : Bool
  output : Bool
  debounce : Bool
  deriving DecidableEq, Repr

/-- `GPIO_INPUT`. -/
def gpioInput : PinFlags := ⟨true, false, false⟩

/-- `GPIO_OUTPUT`. -/
def gpioOutput : PinFlags := ⟨false, true, false⟩

/-- `enum gpio_int_mode`. -/
inductive IntMode where
  | disabled
  | level
  | edge
  deriving DecidableEq, Repr

/-- `enum gpio_int_trig`, or none. -/
inductive IntTrig where
  | none
  | low
  | high
  | both
  deriving DecidableEq, Repr

/-- What a handler asks of the pins of its port. -/
inductive PinOp where
  | configure (pin : UInt8) (flags : PinFlags)
  | isInput (pin : UInt8)
  | get (pin : UInt8)
  | set (pin : UInt8) (value : UInt8)
  | interruptConfigure (pin : UInt8) (mode : IntMode) (trig : IntTrig)
  deriving DecidableEq, Repr

def PinOp.pin : PinOp → UInt8
  | .configure pin _ => pin
  | .isInput pin => pin
  | .get pin => pin
  | .set pin _ => pin
  | .interruptConfigure pin _ _ => pin

/-- What a handler does before it returns its result; an operation on a pin has a value. -/
inductive GpioProg where
  | done (result : OperationResult)
  | allocResponse (size : Nat) (k : Bool → GpioProg)
  | fillResponse (bytes : List UInt8) (k : GpioProg)
  | pin (op : PinOp) (k : Int → GpioProg)

/-- What is answered to a request. -/
structure Reply where
  result : OperationResult
  payload : Option (List UInt8)
  deriving DecidableEq, Repr

/-- `perform` is the driver of the pins, and `memory` says whether responses can be allocated. -/
def GpioProg.run {σ : Type*} (perform : PinOp → σ → Int × σ) (memory : Bool) :
    GpioProg → Option (List UInt8) → σ → Reply × σ
  | .done result, payload, s => (⟨result, payload⟩, s)
  | .allocResponse size k, payload, s =>
    (k memory).run perform memory (if memory then some (List.replicate size 0) else payload) s
  | .fillResponse bytes k, payload, s => k.run perform memory (payload.map fun _ => bytes) s
  | .pin op k, payload, s =>
    let (ret, s) := perform op s
    (k ret).run perform memory payload s

/-- Some outcome of the allocation and of the operations before it leads to this operation. -/
inductive GpioProg.Performs : GpioProg → PinOp → Prop
  | allocResponse {size : Nat} {k : Bool → GpioProg} {ok : Bool} {op : PinOp} :
      (k ok).Performs op → Performs (.allocResponse size k) op
  | fillResponse {bytes : List UInt8} {k : GpioProg} {op : PinOp} :
      k.Performs op → Performs (.fillResponse bytes k) op
  | now {op : PinOp} {k : Int → GpioProg} : Performs (.pin op k) op
  | later {op op' : PinOp} {k : Int → GpioProg} {ret : Int} :
      (k ret).Performs op' → Performs (.pin op k) op'

/-- Every operation is on this pin. -/
def GpioProg.OnPin (pin : UInt8) : GpioProg → Prop
  | .done _ => True
  | .allocResponse _ k => ∀ ok, (k ok).OnPin pin
  | .fillResponse _ k => k.OnPin pin
  | .pin op k => op.pin = pin ∧ ∀ ret, (k ret).OnPin pin

theorem GpioProg.OnPin.pin_eq {pin : UInt8} {prog : GpioProg} {op : PinOp} (h : prog.OnPin pin)
    (hop : prog.Performs op) : op.pin = pin := by
  induction hop with
  | allocResponse _ ih => exact ih (h _)
  | fillResponse _ ih => exact ih h
  | now => exact h.1
  | later _ ih => exact ih (h.2 _)

/-! ## The handlers -/

section Handlers

-- The mask of the device's port, when there is a device; what lies behind the request's buffer.
variable (port : Option PortPins) (after : Nat → UInt8) (operation : Operation)

/-- `gb_gpio_protocol_version`. -/
def gbGpioProtocolVersion : GpioProg :=
  .allocResponse 2 fun ok => if !ok then .done .noMemory else .fillResponse [0, 1] (.done .success)

/-- `gb_gpio_line_count`. -/
def gbGpioLineCount : GpioProg :=
  match port with
  | none => .done .invalid
  | some mask =>
    .allocResponse 1 fun ok =>
      if !ok then .done .noMemory
      else if popcount mask = 0 then .done .unknownError
      else .fillResponse [UInt8.ofNat (popcount mask - 1)] (.done .success)

/-- What the handlers that name a line begin with; `size` is the size of the request and `k` gets
its bytes. -/
def withLine (size : Nat) (k : (Nat → UInt8) → GpioProg) : GpioProg :=
  match port with
  | none => .done .invalid
  | some mask =>
    let request := operation.requestBuffer.payloadByte after
    if operation.requestBuffer.payloadSize < size then .done .invalid
    else if popcount mask ≤ (request 0).toNat then .done .invalid
    else k request

/-- `gb_gpio_activate`. -/
def gbGpioActivate : GpioProg := withLine port after operation 1 fun _ => .done .success

/-- `gb_gpio_deactivate`. -/
def gbGpioDeactivate : GpioProg := withLine port after operation 1 fun _ => .done .success

/-- `gb_gpio_get_direction`. -/
def gbGpioGetDirection : GpioProg :=
  withLine port after operation 1 fun request =>
    .allocResponse 1 fun ok =>
      if !ok then .done .noMemory
      else
        .pin (.isInput (request 0)) fun dir =>
          .fillResponse [if dir ≠ 0 then 0 else 1] (.done .success)

/-- `gb_gpio_direction_in`. -/
def gbGpioDirectionIn : GpioProg :=
  withLine port after operation 1 fun request =>
    .pin (.configure (request 0) gpioInput) fun ret => .done (gbErrnoToOpResult ret)

/-- `gb_gpio_direction_out`. -/
def gbGpioDirectionOut : GpioProg :=
  withLine port after operation 2 fun request =>
    .pin (.configure (request 0) gpioOutput) fun ret =>
      if ret ≠ 0 then .done (gbErrnoToOpResult (-ret))
      else
        .pin (.set (request 0) (request 1)) fun ret =>
          if ret ≠ 0 then .done (gbErrnoToOpResult (-ret)) else .done .success

/-- `gb_gpio_get_value`; the value is cut to a byte. -/
def gbGpioGetValue : GpioProg :=
  withLine port after operation 1 fun request =>
    .allocResponse 1 fun ok =>
      if !ok then .done .noMemory
      else
        .pin (.get (request 0)) fun value =>
          .fillResponse [UInt8.ofNat (value % 256).toNat] (.done .success)

/-- `gb_gpio_set_value`. -/
def gbGpioSetValue : GpioProg :=
  withLine port after operation 2 fun request =>
    .pin (.set (request 0) (request 1)) fun ret => .done (gbErrnoToOpResult ret)

/-- `gb_gpio_set_debounce`; `debounce` says whether `CC13XX_CC26XX_GPIO_DEBOUNCE` is built in. -/
def gbGpioSetDebounce (debounce : Bool) : GpioProg :=
  withLine port after operation 3 fun request =>
    if 0 < u16At request 1 then
      .pin (.configure (request 0) ⟨false, false, debounce⟩) fun ret => .done (gbErrnoToOpResult ret)
    else .done .success

/-- `gb_gpio_irq_mask`. -/
def gbGpioIrqMask : GpioProg :=
  withLine port after operation 1 fun request =>
    .pin (.interruptConfigure (request 0) .disabled .none) fun ret => .done (gbErrnoToOpResult ret)

/-- `gb_gpio_irq_unmask`. -/
def gbGpioIrqUnmask : GpioProg :=
  withLine port after operation 1 fun request =>
    .pin (.interruptConfigure (request 0) .edge .high) fun ret => .done (gbErrnoToOpResult ret)

/-- The `switch` of `gb_gpio_irq_type`. -/
def irqType (type : UInt8) : Option (IntMode × IntTrig) :=
  match type.toNat with
  | 0 => some (.disabled, .none)
  | 1 => some (.edge, .high)
  | 2 => some (.edge, .low)
  | 3 => some (.edge, .both)
  | 4 => some (.level, .high)
  -- The low level has the trigger of the high level.
  | 8 => some (.level, .high)
  | _ => none

/-- `gb_gpio_irq_type`. -/
def gbGpioIrqType : GpioProg :=
  withLine port after operation 2 fun request =>
    match irqType (request 1) with
    | none => .done .invalid
    | some (mode, trig) =>
      .pin (.interruptConfigure (request 0) mode trig) fun ret => .done (gbErrnoToOpResult ret)

end Handlers

/-- A handler with the port that it acts on. -/
abbrev Handler := Option PortPins → (Nat → UInt8) → Operation → GpioProg

/-- `gb_gpio_handlers`. -/
def gbGpioHandlers (debounce : Bool) : List (UInt8 × Handler) :=
  [(0x01, fun _ _ _ => gbGpioProtocolVersion),
   (0x02, fun port _ _ => gbGpioLineCount port),
   (0x03, gbGpioActivate),
   (0x04, gbGpioDeactivate),
   (0x05, gbGpioGetDirection),
   (0x06, gbGpioDirectionIn),
   (0x07, gbGpioDirectionOut),
   (0x08, gbGpioGetValue),
   (0x09, gbGpioSetValue),
   (0x0a, fun port after operation => gbGpioSetDebounce port after operation debounce),
   (0x0b, gbGpioIrqType),
   (0x0c, gbGpioIrqMask),
   (0x0d, gbGpioIrqUnmask)]

/-! ## Interrupts -/

/-- The loop of `gpio_callback_handler`: the lines of the events that it sends. -/
def callbackLoop : Nat → Nat → PortPins → List UInt8
  | 0, _, _ => []
  | n + 1, i, pins =>
    if pins = 0 then []
    else if pins.getLsbD 0 then UInt8.ofNat i :: callbackLoop n (i + 1) (pins >>> 1)
    else callbackLoop n (i + 1) (pins >>> 1)

/-- `gpio_callback_handler`. -/
def gpioCallbackHandler (pins : PortPins) : List UInt8 := callbackLoop gpioMaxPinsPerPort 0 pins

/-- An interrupt at `pins`: the callback is registered for the pins of `mask`, and is given those of
them that triggered. -/
def interrupt (mask pins : PortPins) : List UInt8 := gpioCallbackHandler (mask &&& pins)

/-! ## Lines and pins -/

/-- The line that a request names. -/
def which (after : Nat → UInt8) (operation : Operation) : UInt8 :=
  operation.requestBuffer.payloadByte after 0

/-- Every operation is on the pin at the position of the line that the request names, and the line
is below the number of pins. -/
def Handler.ActsOnLine (h : Handler) : Prop :=
  ∀ port after operation op, (h port after operation).Performs op →
    ∃ mask, port = some mask ∧ (which after operation).toNat < popcount mask ∧
      op.pin = which after operation

/-- The checks of a handler that names a line are passed. -/
structure Accepts (port : Option PortPins) (after : Nat → UInt8) (operation : Operation)
    (size : Nat) : Prop where
  line_lt : ∃ mask, port = some mask ∧ (which after operation).toNat < popcount mask
  size_le : size ≤ operation.requestBuffer.payloadSize

section Checks

variable {port : Option PortPins} {after : Nat → UInt8} {operation : Operation} {size : Nat}

theorem withLine_accepted (h : Accepts port after operation size)
    (k : (Nat → UInt8) → GpioProg) :
    withLine port after operation size k = k (operation.requestBuffer.payloadByte after) := by
  obtain ⟨⟨mask, rfl, hline⟩, hsize⟩ := h
  unfold withLine
  dsimp only
  rw [if_neg (Nat.not_lt.mpr hsize)]
  exact if_neg (Nat.not_le.mpr hline)

theorem withLine_refused (h : ¬ Accepts port after operation size)
    (k : (Nat → UInt8) → GpioProg) :
    withLine port after operation size k = .done .invalid := by
  unfold withLine
  cases port with
  | none => rfl
  | some mask =>
    dsimp only
    split
    next => rfl
    next hsize =>
      split
      next => rfl
      next hline =>
        exact absurd ⟨⟨mask, rfl, Nat.not_le.mp hline⟩, Nat.not_lt.mp hsize⟩ h

theorem withLine_performs {k : (Nat → UInt8) → GpioProg} {op : PinOp}
    (h : (withLine port after operation size k).Performs op) :
    Accepts port after operation size ∧
      (k (operation.requestBuffer.payloadByte after)).Performs op := by
  by_cases hacc : Accepts port after operation size
  · rw [withLine_accepted hacc] at h
    exact ⟨hacc, h⟩
  · rw [withLine_refused hacc] at h
    cases h

end Checks

theorem withLine_actsOnLine {size : Nat} {k : (Nat → UInt8) → GpioProg}
    (hk : ∀ request, (k request).OnPin (request 0)) :
    Handler.ActsOnLine fun port after operation => withLine port after operation size k := by
  intro port after operation op h
  obtain ⟨⟨⟨mask, hport, hline⟩, -⟩, hop⟩ := withLine_performs h
  exact ⟨mask, hport, hline, (hk _).pin_eq hop⟩

theorem actsOnLine_of_not_performs {h : Handler}
    (hnone : ∀ port after operation op, ¬ (h port after operation).Performs op) :
    h.ActsOnLine :=
  fun port after operation op hop => absurd hop (hnone port after operation op)

theorem gbGpioLineCount_not_performs (port : Option PortPins) (op : PinOp) :
    ¬ (gbGpioLineCount port).Performs op := by
  intro hop
  unfold gbGpioLineCount at hop
  cases port with
  | none => cases hop
  | some mask =>
    cases hop with
    | @allocResponse _ _ ok _ hop =>
      cases ok with
      | false => cases hop
      | true =>
        simp only [Bool.not_true, Bool.false_eq_true, if_false] at hop
        split at hop
        next => cases hop
        next =>
          cases hop with
          | fillResponse hop => cases hop

theorem gbGpioProtocolVersion_not_performs (op : PinOp) : ¬ gbGpioProtocolVersion.Performs op := by
  intro hop
  unfold gbGpioProtocolVersion at hop
  cases hop with
  | @allocResponse _ _ ok _ hop =>
    cases ok with
    | false => cases hop
    | true =>
      cases hop with
      | fillResponse hop => cases hop

theorem gbGpioHandlers_actsOnLine {debounce : Bool} {type : UInt8} {h : Handler}
    (hmem : (type, h) ∈ gbGpioHandlers debounce) : h.ActsOnLine := by
  simp only [gbGpioHandlers, List.mem_cons, List.not_mem_nil, or_false, Prod.mk.injEq] at hmem
  rcases hmem with ⟨-, rfl⟩ | ⟨-, rfl⟩ | ⟨-, rfl⟩ | ⟨-, rfl⟩ | ⟨-, rfl⟩ | ⟨-, rfl⟩ | ⟨-, rfl⟩ |
    ⟨-, rfl⟩ | ⟨-, rfl⟩ | ⟨-, rfl⟩ | ⟨-, rfl⟩ | ⟨-, rfl⟩ | ⟨-, rfl⟩
  · exact actsOnLine_of_not_performs fun _ _ _ op => gbGpioProtocolVersion_not_performs op
  · exact actsOnLine_of_not_performs fun port _ _ op => gbGpioLineCount_not_performs port op
  -- activate and deactivate
  · exact withLine_actsOnLine fun _ => trivial
  · exact withLine_actsOnLine fun _ => trivial
  -- the direction
  · apply withLine_actsOnLine
    intro request ok
    cases ok with
    | false => exact trivial
    | true => exact ⟨rfl, fun _ => trivial⟩
  · exact withLine_actsOnLine fun _ => ⟨rfl, fun _ => trivial⟩
  · apply withLine_actsOnLine
    intro request
    refine ⟨rfl, fun ret => ?_⟩
    dsimp only
    split
    next => exact trivial
    next =>
      refine ⟨rfl, fun ret => ?_⟩
      dsimp only
      split <;> exact trivial
  -- the value
  · apply withLine_actsOnLine
    intro request ok
    cases ok with
    | false => exact trivial
    | true => exact ⟨rfl, fun _ => trivial⟩
  · exact withLine_actsOnLine fun _ => ⟨rfl, fun _ => trivial⟩
  -- debouncing
  · apply withLine_actsOnLine
    intro request
    split
    next => exact ⟨rfl, fun _ => trivial⟩
    next => exact trivial
  -- interrupts
  · apply withLine_actsOnLine
    intro request
    split
    next => exact trivial
    next => exact ⟨rfl, fun _ => trivial⟩
  · exact withLine_actsOnLine fun _ => ⟨rfl, fun _ => trivial⟩
  · exact withLine_actsOnLine fun _ => ⟨rfl, fun _ => trivial⟩

/-- The number of lines that the answer to LINE_COUNT reports. -/
def reportedLines (mask : PortPins) : Nat :=
  match ((gbGpioLineCount (some mask)).run (fun _ s => (0, s)) true none ()).1 with
  | ⟨.success, some [count]⟩ => count.toNat + 1
  | _ => 0

theorem reportedLines_eq (mask : PortPins) : reportedLines mask = popcount mask := by
  have hle := popcount_le mask
  unfold gpioMaxPinsPerPort at hle
  unfold reportedLines gbGpioLineCount
  by_cases hzero : popcount mask = 0
  · simp only [GpioProg.run, hzero, Bool.not_true, Bool.false_eq_true, if_false, if_true]
  · simp only [GpioProg.run, hzero, Bool.not_true, Bool.false_eq_true, if_false, if_true,
      Option.map_some, UInt8.toNat_ofNat']
    omega

theorem toNat_pin {pin : Nat} (h : pin < gpioMaxPinsPerPort) : (UInt8.ofNat pin).toNat = pin := by
  unfold gpioMaxPinsPerPort at h
  rw [UInt8.toNat_ofNat']
  omega

theorem mem_callbackLoop {n i : Nat} {pins : PortPins} {line : UInt8} :
    line ∈ callbackLoop n i pins ↔ ∃ j < n, pins.getLsbD j = true ∧ line = UInt8.ofNat (i + j) := by
  induction n generalizing i pins with
  | zero => simp [callbackLoop]
  | succ n ih =>
    have hshift : ∀ j, (pins >>> 1).getLsbD j = pins.getLsbD (j + 1) := by
      intro j
      rw [BitVec.getLsbD_ushiftRight, Nat.add_comm]
    have hsplit : (∃ j < n + 1, pins.getLsbD j = true ∧ line = UInt8.ofNat (i + j)) ↔
        (pins.getLsbD 0 = true ∧ line = UInt8.ofNat i) ∨
          line ∈ callbackLoop n (i + 1) (pins >>> 1) := by
      rw [ih, Nat.exists_lt_succ_left]
      simp only [hshift, Nat.add_zero, Nat.add_assoc, Nat.add_comm 1]
    rw [hsplit, callbackLoop]
    by_cases hnone : pins = 0
    · rw [if_pos hnone, hnone, ih]
      simp
    · rw [if_neg hnone]
      by_cases hbit : pins.getLsbD 0 = true
      · rw [if_pos hbit, List.mem_cons, and_iff_right hbit]
      · rw [if_neg hbit, or_iff_right fun h => hbit h.1]

-- The events are those of the pins that triggered.
theorem mem_interrupt {mask pins : PortPins} {line : UInt8} :
    line ∈ interrupt mask pins ↔
      mask.getLsbD line.toNat = true ∧ pins.getLsbD line.toNat = true := by
  unfold interrupt gpioCallbackHandler
  rw [mem_callbackLoop]
  constructor
  · rintro ⟨j, hj, hbit, rfl⟩
    rw [Nat.zero_add, toNat_pin hj]
    rwa [BitVec.getLsbD_and, Bool.and_eq_true] at hbit
  · rintro ⟨hmask, hpins⟩
    refine ⟨line.toNat, BitVec.lt_of_getLsbD hmask, ?_, ?_⟩
    · rw [BitVec.getLsbD_and, hmask, hpins, Bool.and_true]
    · rw [Nat.zero_add, UInt8.ofNat_toNat]

/-- The law of lines and pins for the ports with this mask. -/
structure LinesArePins (mask : PortPins) : Prop where
  -- A pin operation is performed on a pin of the port only.
  onMask : ∀ debounce type h, (type, h) ∈ gbGpioHandlers debounce → ∀ after operation op,
    (h (some mask) after operation).Performs op → mask.getLsbD op.pin.toNat = true
  -- Every pin of the port is the pin of a request for one of the reported lines.
  addressed : ∀ pin, mask.getLsbD pin = true →
    ∃ debounce type h, (type, h) ∈ gbGpioHandlers debounce ∧
      ∃ after operation op, (which after operation).toNat < reportedLines mask ∧
        (h (some mask) after operation).Performs op ∧ op.pin.toNat = pin
  -- The events are for reported lines.
  events : ∀ pins line, line ∈ interrupt mask pins → line.toNat < reportedLines mask

/-- GET_VALUE for a line. -/
def getValueRequest (line : UInt8) : Operation :=
  .fresh 0 ⟨{ size := 9, id := 1, type := 0x08, result := 0, pad := 0 }, [line]⟩

theorem getValueRequest_performs {mask : PortPins} {line : UInt8}
    (hline : line.toNat < popcount mask) :
    (gbGpioGetValue (some mask) (fun _ => 0) (getValueRequest line)).Performs (.get line) := by
  have hacc : Accepts (some mask) (fun _ => 0) (getValueRequest line) 1 :=
    ⟨⟨mask, rfl, hline⟩, show 1 ≤ 9 - 8 by decide⟩
  unfold gbGpioGetValue
  rw [withLine_accepted hacc]
  exact @GpioProg.Performs.allocResponse _ _ true _ .now

/-- The pins of the port are the first ones. -/
def Dense (mask : PortPins) : Prop := ∀ pin, mask.getLsbD pin = true ↔ pin < popcount mask

theorem LinesArePins.dense {mask : PortPins} (h : LinesArePins mask) : Dense mask := by
  have hle := popcount_le mask
  intro pin
  constructor
  · intro hbit
    have hline : (UInt8.ofNat pin).toNat = pin := toNat_pin (BitVec.lt_of_getLsbD hbit)
    have hevent := h.events mask (UInt8.ofNat pin) (mem_interrupt.mpr (by
      rw [hline]
      exact ⟨hbit, hbit⟩))
    rwa [hline, reportedLines_eq] at hevent
  · intro hpin
    have hline : (UInt8.ofNat pin).toNat = pin := toNat_pin (Nat.lt_of_lt_of_le hpin hle)
    have hlt : (UInt8.ofNat pin).toNat < popcount mask := hline.symm ▸ hpin
    have hop := getValueRequest_performs hlt
    have hmask := h.onMask false 0x08 gbGpioGetValue (by simp [gbGpioHandlers]) _ _ _ hop
    rwa [show PinOp.pin (.get (UInt8.ofNat pin)) = UInt8.ofNat pin from rfl, hline] at hmask

theorem Dense.linesArePins {mask : PortPins} (h : Dense mask) : LinesArePins mask := by
  have hle := popcount_le mask
  constructor
  case onMask =>
    intro debounce type f hmem after operation op hop
    obtain ⟨mask', hport, hline, hpin⟩ := gbGpioHandlers_actsOnLine hmem _ _ _ _ hop
    obtain rfl := Option.some.inj hport
    rw [hpin]
    exact (h _).mpr hline
  case addressed =>
    intro pin hbit
    have hpin := (h pin).mp hbit
    have hline : (UInt8.ofNat pin).toNat = pin := toNat_pin (Nat.lt_of_lt_of_le hpin hle)
    have hlt : (UInt8.ofNat pin).toNat < popcount mask := hline.symm ▸ hpin
    refine ⟨false, 0x08, gbGpioGetValue, by simp [gbGpioHandlers], _, _, _, ?_,
      getValueRequest_performs hlt, hline⟩
    rw [reportedLines_eq]
    exact hlt
  case events =>
    intro pins line hevent
    rw [reportedLines_eq]
    exact (h _).mp (mem_interrupt.mp hevent).1

/-- Line numbers are pin positions exactly for the masks whose pins are the first ones. -/
theorem linesArePins_iff (mask : PortPins) : LinesArePins mask ↔ Dense mask :=
  ⟨LinesArePins.dense, Dense.linesArePins⟩

-- A port whose only pin is the second: one line is reported; the value of line 0 is that of a pin
-- outside the port, the pin has no line, and its event is for line 1.
theorem linesArePins_gap :
    reportedLines 0b10 = 1 ∧
      (gbGpioGetValue (some 0b10) (fun _ => 0) (getValueRequest 0)).Performs (.get 0) ∧
      ¬ (0b10 : PortPins).getLsbD 0 = true ∧ interrupt 0b10 0b10 = [1] ∧
      ¬ LinesArePins 0b10 := by
  have hcount : popcount 0b10 = 1 := by decide
  refine ⟨by decide, getValueRequest_performs (by decide), by decide, by decide, fun hlaw => ?_⟩
  have hpin := (hlaw.dense 0).mpr (by omega)
  exact absurd hpin (by decide)

end Greybus.Gpio
