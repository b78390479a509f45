import Greybus.Protocols.DeviceCalls
import Greybus.Reasoning.BitFlags
import Mathlib.Data.List.Basic

/-!
# The commands of the UART protocol

The peer sends data, sets the line coding and the control lines, and sends a break.  The handlers
turn each of these into calls of the UART, of which the control lines take two: the modem control
register is read, and written back with two of its bits changed.
-/

namespace Greybus.UartCommands

open Reasoning Reasoning.Packed

/-! ## The UART -/

/-- `enum uart_stopbit`. -/
inductive StopBit where
  | one
  | one5
  | two
  deriving DecidableEq, Repr

/-- `enum uart_parity`. -/
inductive Parity where
  | no
  | odd
  | even
  | mark
  | space
  deriving DecidableEq, Repr

/-- What `device_uart_set_configuration` is given, but for the flow control, which is always on. -/
structure LineCoding where
  baud : UInt32
  parity : Parity
  databits : UInt8
  stopbit : StopBit
  deriving DecidableEq, Repr

/-- The functions of the UART; the count that `device_uart_start_transmitter` stores is not read. -/
inductive UartCall where
  | startTransmitter (data : List UInt8)
  | setConfiguration (coding : LineCoding)
  | getModemCtrl
  | setModemCtrl (modemCtrl : BitVec 8)
  | setBreak (state : UInt8)
  deriving DecidableEq, Repr

/-- What a function stores besides what it returns. -/
abbrev UartCall.Value : UartCall → Type
  | .getModemCtrl => BitVec 8
  | _ => Unit

/-- The bits `MCR_DTR` and `MCR_RTS`, which come with the UART driver. -/
structure McrBits where
  dtr : Fin 8
  rts : Fin 8
  ne : dtr ≠ rts

/-! ## Handlers -/

abbrev Handler := Operation → DeviceProg UartCall UartCall.Value

/-- `gb_uart_protocol_version`. -/
def gbUartProtocolVersion : Handler := fun _ =>
  .allocResponse 2 fun ok =>
    if !ok then .done OperationResult.noMemory.code
    else .fillResponse [0, 1] (.done OperationResult.success.code)

/-- The call is the last one of its handler. -/
def finish (c : UartCall) : DeviceProg UartCall UartCall.Value :=
  .call c fun ret _ =>
    if ret ≠ 0 then .done OperationResult.unknownError.code
    else .done OperationResult.success.code

/-- `gb_uart_send_data`. -/
def gbUartSendData : Handler := fun operation =>
  let requestSize := operation.requestBuffer.payloadSize
  if requestSize < 2 then .done OperationResult.invalid.code
  else
    let payload := operation.requestBuffer.payload
    let size := (Codec.le16.decode payload).toNat
    if requestSize < 2 + size then .done OperationResult.invalid.code
    else finish (.startTransmitter ((payload.drop 2).take size))

/-- The packed `struct gb_serial_line_coding_request`. -/
def lineCodingRequest : Codec (UInt32 × UInt8 × UInt8 × UInt8) :=
  .pair .le32 (.pair .byte (.pair .byte .byte))

/-- The `switch` over `request->format`. -/
def stopBit : UInt8 → Option StopBit
  | 0 => some .one
  | 1 => some .one5
  | 2 => some .two
  | _ => none

/-- The `switch` over `request->parity`. -/
def parity : UInt8 → Option Parity
  | 0 => some .no
  | 1 => some .odd
  | 2 => some .even
  | 3 => some .mark
  | 4 => some .space
  | _ => none

/-- `gb_uart_set_line_coding`. -/
def gbUartSetLineCoding : Handler := fun operation =>
  if operation.requestBuffer.payloadSize < lineCodingRequest.size then
    .done OperationResult.invalid.code
  else
    let (rate, format, parityField, data) :=
      lineCodingRequest.decode operation.requestBuffer.payload
    match stopBit format with
    | none => .done OperationResult.invalid.code
    | some stopbit =>
      match parity parityField with
      | none => .done OperationResult.invalid.code
      | some parity =>
        if data > 8 ∨ data < 5 then .done OperationResult.invalid.code
        else finish (.setConfiguration ⟨rate, parity, data, stopbit⟩)

/-- One bit of the modem control register is set or cleared. -/
def putBit (modemCtrl : BitVec 8) (bit : Fin 8) (on : Bool) : BitVec 8 :=
  if on then BitFlags.set modemCtrl bit else BitFlags.clear modemCtrl bit

/-- `gb_uart_set_control_line_state`. -/
def gbUartSetControlLineState (bits : McrBits) : Handler := fun operation =>
  if operation.requestBuffer.payloadSize < 1 then .done OperationResult.invalid.code
  else
    .call .getModemCtrl fun ret modemCtrl =>
      if ret ≠ 0 then .done OperationResult.unknownError.code
      else
        let control := Codec.byte.decode operation.requestBuffer.payload
        let modemCtrl := putBit modemCtrl bits.dtr (control &&& 0x01 ≠ 0)
        let modemCtrl := putBit modemCtrl bits.rts (control &&& 0x02 ≠ 0)
        finish (.setModemCtrl modemCtrl)

/-- `gb_uart_send_break`. -/
def gbUartSendBreak : Handler := fun operation =>
  if operation.requestBuffer.payloadSize < 1 then .done OperationResult.invalid.code
  else finish (.setBreak (Codec.byte.decode operation.requestBuffer.payload))

/-- `gb_uart_handlers`. -/
def gbUartHandlers (bits : McrBits) : DeviceTable UartCall UartCall.Value :=
  [(0x01, gbUartProtocolVersion),
   (0x02, gbUartSendData),
   (0x04, gbUartSetLineCoding),
   (0x05, gbUartSetControlLineState bits),
   (0x06, gbUartSendBreak)]

/-! ## What the peer asks for -/

/-- A serial port as the peer sees it: its lines, of which it controls two, its coding, whether it
sends a break, and what it has transmitted. -/
structure Port where
  lines : Fin 8 → Bool
  coding : Option LineCoding
  breaking : UInt8
  transmitted : List UInt8

/-- A command to a serial port. -/
inductive Command where
  | sendData (data : List UInt8)
  | setLineCoding (coding : LineCoding)
  | setControlLineState (dtr rts : Bool)
  | sendBreak (state : UInt8)
  deriving DecidableEq, Repr

def Command.perform (bits : McrBits) : Command → Port → Port
  | .sendData data, p => { p with transmitted := p.transmitted ++ data }
  | .setLineCoding coding, p => { p with coding := some coding }
  | .setControlLineState dtr rts, p =>
    { p with lines := Function.update (Function.update p.lines bits.dtr dtr) bits.rts rts }
  | .sendBreak state, p => { p with breaking := state }

/-- The coding that the fields of a request stand for. -/
def lineCodingOf : UInt32 × UInt8 × UInt8 × UInt8 → Option LineCoding
  | (rate, format, parityField, data) =>
    if data > 8 ∨ data < 5 then none
    else
      (stopBit format).bind fun stopbit => (parity parityField).map fun parity =>
        ⟨rate, parity, data, stopbit⟩

/-- The command that a request stands for, if it is well formed. -/
def commandOf (request : Message) : Option Command :=
  let payload := request.payload
  if request.hdr.type = 0x02 then
    let size := (Codec.le16.decode payload).toNat
    if request.payloadSize < 2 ∨ request.payloadSize < 2 + size then none
    else some (.sendData ((payload.drop 2).take size))
  else if request.hdr.type = 0x04 then
    if request.payloadSize < lineCodingRequest.size then none
    else (lineCodingOf (lineCodingRequest.decode payload)).map .setLineCoding
  else if request.hdr.type = 0x05 then
    let control := Codec.byte.decode payload
    if request.payloadSize < 1 then none
    else some (.setControlLineState (control &&& 0x01 ≠ 0) (control &&& 0x02 ≠ 0))
  else if request.hdr.type = 0x06 then
    if request.payloadSize < 1 then none else some (.sendBreak (Codec.byte.decode payload))
  else none

/-! ## What the UART does -/

/-- The registers of the UART, and what it has sent. -/
structure Uart where
  modemCtrl : BitVec 8
  coding : Option LineCoding
  breaking : UInt8
  transmitted : List UInt8
  deriving DecidableEq, Repr

def Uart.perform : UartCall → Uart → Uart
  | .startTransmitter data, u => { u with transmitted := u.transmitted ++ data }
  | .setConfiguration coding, u => { u with coding := some coding }
  | .getModemCtrl, u => u
  | .setModemCtrl modemCtrl, u => { u with modemCtrl }
  | .setBreak state, u => { u with breaking := state }

def Uart.port (u : Uart) : Port where
  lines i := u.modemCtrl.getLsbD i
  coding := u.coding
  breaking := u.breaking
  transmitted := u.transmitted

/-- A call of the device that returns 0 does what it is for, and any other does nothing. -/
structure Drives {δ : Type} (dev : Device UartCall UartCall.Value δ) (uart : δ → Uart) : Prop where
  done : ∀ c d, (dev c d).1 = 0 → uart (dev c d).2.2 = (uart d).perform c
  failed : ∀ c d, (dev c d).1 ≠ 0 → uart (dev c d).2.2 = uart d
  modemCtrl : ∀ d, (dev .getModemCtrl d).1 = 0 → (dev .getModemCtrl d).2.1 = (uart d).modemCtrl

/-- A request without a well-formed command is refused before the UART is called.  Otherwise the
port has carried out the command if the result is success, and stays as it was if it is not. -/
structure Obeys {δ : Type} (bits : McrBits) (uart : δ → Uart) (command : Option Command)
    (s : Serving UartCall δ) (res : UInt8 × Serving UartCall δ) : Prop where
  refused : command = none → res.1 = OperationResult.invalid.code ∧ res.2.device = s.device
  done : ∀ c, command = some c → res.1 = OperationResult.success.code →
    (uart res.2.device).port = c.perform bits (uart s.device).port
  failed : ∀ c, command = some c → res.1 ≠ OperationResult.success.code →
    res.1 = OperationResult.unknownError.code ∧ (uart res.2.device).port = (uart s.device).port

section Obeys

variable {δ : Type} {bits : McrBits} {dev : Device UartCall UartCall.Value δ} {uart : δ → Uart}
  {memory : Bool} {operation : Operation} {s : Serving UartCall δ}

theorem obeys_invalid :
    Obeys bits uart none s ((DeviceProg.done OperationResult.invalid.code).run dev memory s) :=
  ⟨fun _ => ⟨rfl, rfl⟩, fun _ h => (by cases h), fun _ h => (by cases h)⟩

theorem unknownError_ne_success :
    OperationResult.unknownError.code ≠ OperationResult.success.code := by
  decide

-- The last call of a handler carries its command out, or fails.
theorem finish_obeys (h : Drives dev uart) {c : UartCall} {command : Command}
    (hc : ((uart s.device).perform c).port = command.perform bits (uart s.device).port) :
    Obeys bits uart (some command) s ((finish c).run dev memory s) := by
  rw [finish, DeviceProg.run]
  dsimp only
  by_cases hret : (dev c s.device).1 = 0
  · rw [if_neg (not_not.mpr hret)]
    refine ⟨fun hnone => (by cases hnone), fun c' hc' _ => ?_, fun _ _ hres => absurd rfl hres⟩
    obtain rfl := Option.some.inj hc'
    show (uart (dev c s.device).2.2).port = _
    rw [h.done c s.device hret, hc]
  · rw [if_pos hret]
    refine ⟨fun hnone => (by cases hnone), fun _ _ hres => absurd hres unknownError_ne_success,
      fun _ _ _ => ⟨rfl, ?_⟩⟩
    show (uart (dev c s.device).2.2).port = _
    rw [h.failed c s.device hret]

theorem gbUartSendData_obeys (h : Drives dev uart)
    (htype : operation.requestBuffer.hdr.type = 0x02) :
    Obeys bits uart (commandOf operation.requestBuffer) s
      ((gbUartSendData operation).run dev memory s) := by
  simp only [commandOf, htype, if_true]
  unfold gbUartSendData
  dsimp only
  by_cases hshort : operation.requestBuffer.payloadSize < 2
  · rw [if_pos (Or.inl hshort), if_pos hshort]
    exact obeys_invalid
  rw [if_neg hshort]
  by_cases hdata : operation.requestBuffer.payloadSize
      < 2 + (Codec.le16.decode operation.requestBuffer.payload).toNat
  · rw [if_pos (Or.inr hdata), if_pos hdata]
    exact obeys_invalid
  · rw [if_neg (not_or.mpr ⟨hshort, hdata⟩), if_neg hdata]
    exact finish_obeys h rfl

theorem gbUartSetLineCoding_obeys (h : Drives dev uart)
    (htype : operation.requestBuffer.hdr.type = 0x04) :
    Obeys bits uart (commandOf operation.requestBuffer) s
      ((gbUartSetLineCoding operation).run dev memory s) := by
  have hne : ¬ (0x04 : UInt8) = 0x02 := by decide
  simp only [commandOf, htype, if_neg hne, if_true]
  unfold gbUartSetLineCoding
  by_cases hshort : operation.requestBuffer.payloadSize < lineCodingRequest.size
  · rw [if_pos hshort, if_pos hshort]
    exact obeys_invalid
  rw [if_neg hshort, if_neg hshort]
  generalize lineCodingRequest.decode operation.requestBuffer.payload = fields
  obtain ⟨rate, format, parityField, data⟩ := fields
  rw [lineCodingOf]
  dsimp only
  cases stopBit format with
  | none =>
    rw [Option.bind_none, ite_self]
    exact obeys_invalid
  | some stopbit =>
    rw [Option.bind_some]
    cases parity parityField with
    | none =>
      rw [Option.map_none, ite_self]
      exact obeys_invalid
    | some parity =>
      dsimp only
      by_cases hdata : data > 8 ∨ data < 5
      · rw [if_pos hdata, if_pos hdata]
        exact obeys_invalid
      · rw [if_neg hdata, if_neg hdata]
        exact finish_obeys h rfl

theorem getLsbD_putBit (modemCtrl : BitVec 8) (bit : Fin 8) (on : Bool) (i : Fin 8) :
    (putBit modemCtrl bit on).getLsbD i
      = Function.update (fun j : Fin 8 => modemCtrl.getLsbD j) bit on i := by
  rw [putBit, Function.update_apply, ← BitFlags.has_eq_getLsbD _ i.2]
  cases on with
  | false =>
    rw [if_neg Bool.false_ne_true, BitFlags.has_clear _ i.2, BitFlags.has_eq_getLsbD _ i.2]
    by_cases hi : i = bit
    · simp [hi]
    · have hne : ¬ (bit : Nat) = i := fun heq => hi (Fin.ext heq.symm)
      simp [hi, hne]
  | true =>
    rw [if_pos rfl, BitFlags.has_set _ i.2, BitFlags.has_eq_getLsbD _ i.2]
    by_cases hi : i = bit
    · simp [hi]
    · have hne : ¬ (bit : Nat) = i := fun heq => hi (Fin.ext heq.symm)
      simp [hi, hne]

theorem putBits_lines (modemCtrl : BitVec 8) (dtr rts : Bool) :
    (fun i : Fin 8 => (putBit (putBit modemCtrl bits.dtr dtr) bits.rts rts).getLsbD i)
      = Function.update (Function.update (fun i : Fin 8 => modemCtrl.getLsbD i) bits.dtr dtr)
          bits.rts rts := by
  funext i
  rw [getLsbD_putBit]
  simp only [getLsbD_putBit]

theorem gbUartSetControlLineState_obeys (h : Drives dev uart)
    (htype : operation.requestBuffer.hdr.type = 0x05) :
    Obeys bits uart (commandOf operation.requestBuffer) s
      ((gbUartSetControlLineState bits operation).run dev memory s) := by
  have hne : ¬ (0x05 : UInt8) = 0x02 := by decide
  have hne' : ¬ (0x05 : UInt8) = 0x04 := by decide
  simp only [commandOf, htype, if_neg hne, if_neg hne', if_true]
  unfold gbUartSetControlLineState
  by_cases hshort : operation.requestBuffer.payloadSize < 1
  · rw [if_pos hshort, if_pos hshort]
    exact obeys_invalid
  rw [if_neg hshort, if_neg hshort, DeviceProg.run]
  dsimp only
  by_cases hret : (dev .getModemCtrl s.device).1 = 0
  · -- the register has been read, and the port is as it was
    rw [if_neg (not_not.mpr hret)]
    have hread := h.modemCtrl s.device hret
    have hsame : uart (dev .getModemCtrl s.device).2.2 = uart s.device := h.done _ _ hret
    generalize (Codec.byte.decode operation.requestBuffer.payload &&& 0x01 ≠ 0 : Bool) = dtr
    generalize (Codec.byte.decode operation.requestBuffer.payload &&& 0x02 ≠ 0 : Bool) = rts
    have hlines : ((uart (dev .getModemCtrl s.device).2.2).perform (.setModemCtrl (putBit (putBit
        (dev .getModemCtrl s.device).2.1 bits.dtr dtr) bits.rts rts))).port
        = (Command.setControlLineState dtr rts).perform bits
          (uart (dev .getModemCtrl s.device).2.2).port := by
      simp only [hsame, hread, Uart.perform, Uart.port, Command.perform, putBits_lines]
    have hfinish := @finish_obeys _ bits dev uart memory
      { s with device := (dev .getModemCtrl s.device).2.2, calls := s.calls ++ [.getModemCtrl] }
      h _ _ hlines
    refine ⟨fun hnone => (by cases hnone), fun c hc hres => ?_, fun c hc hres => ?_⟩
    · rw [hfinish.done c hc hres]
      simp only [hsame]
    · obtain ⟨hres', hport⟩ := hfinish.failed c hc hres
      refine ⟨hres', ?_⟩
      rw [hport]
      simp only [hsame]
  · rw [if_pos hret]
    refine ⟨fun hnone => (by cases hnone), fun _ _ hres => absurd hres unknownError_ne_success,
      fun _ _ _ => ⟨rfl, ?_⟩⟩
    show (uart (dev .getModemCtrl s.device).2.2).port = _
    rw [h.failed _ s.device hret]

theorem gbUartSendBreak_obeys (h : Drives dev uart)
    (htype : operation.requestBuffer.hdr.type = 0x06) :
    Obeys bits uart (commandOf operation.requestBuffer) s
      ((gbUartSendBreak operation).run dev memory s) := by
  have hne : ¬ (0x06 : UInt8) = 0x02 := by decide
  have hne' : ¬ (0x06 : UInt8) = 0x04 := by decide
  have hne'' : ¬ (0x06 : UInt8) = 0x05 := by decide
  simp only [commandOf, htype, if_neg hne, if_neg hne', if_neg hne'', if_true]
  unfold gbUartSendBreak
  by_cases hshort : operation.requestBuffer.payloadSize < 1
  · rw [if_pos hshort, if_pos hshort]
    exact obeys_invalid
  · rw [if_neg hshort, if_neg hshort]
    exact finish_obeys h rfl

end Obeys

/-! ## Requests -/

/-- SEND_DATA, SET_LINE_CODING, SET_CONTROL_LINE_STATE and SEND_BREAK. -/
def commandTypes : List UInt8 := [0x02, 0x04, 0x05, 0x06]

section Runs

variable {δ : Type} {bits : McrBits} {dev : Device UartCall UartCall.Value δ} {uart : δ → Uart}
  {s : Serving UartCall δ} {r : Arrival}

theorem serve_obeys (h : Drives dev uart)
    (htype : r.operation.requestBuffer.hdr.type ∈ commandTypes) :
    Obeys bits uart (commandOf r.operation.requestBuffer) { s with response := none }
      (serve (gbUartHandlers bits) dev r s) := by
  simp only [commandTypes, List.mem_cons, List.not_mem_nil, or_false] at htype
  rcases htype with htype | htype | htype | htype
  · have hserve : serve (gbUartHandlers bits) dev r s
        = (gbUartSendData r.operation).run dev r.memory { s with response := none } := by
      rw [serve, htype]
      rfl
    rw [hserve]
    exact gbUartSendData_obeys h htype
  · have hserve : serve (gbUartHandlers bits) dev r s
        = (gbUartSetLineCoding r.operation).run dev r.memory { s with response := none } := by
      rw [serve, htype]
      rfl
    rw [hserve]
    exact gbUartSetLineCoding_obeys h htype
  · have hserve : serve (gbUartHandlers bits) dev r s
        = (gbUartSetControlLineState bits r.operation).run dev r.memory
          { s with response := none } := by
      rw [serve, htype]
      rfl
    rw [hserve]
    exact gbUartSetControlLineState_obeys h htype
  · have hserve : serve (gbUartHandlers bits) dev r s
        = (gbUartSendBreak r.operation).run dev r.memory { s with response := none } := by
      rw [serve, htype]
      rfl
    rw [hserve]
    exact gbUartSendBreak_obeys h htype

-- The other requests have no command, and call no UART.
theorem serve_noCommand (htype : r.operation.requestBuffer.hdr.type ∉ commandTypes) :
    commandOf r.operation.requestBuffer = none ∧
      (serve (gbUartHandlers bits) dev r s).2.device = s.device := by
  simp only [commandTypes, List.mem_cons, List.not_mem_nil, or_false, not_or] at htype
  obtain ⟨h2, h4, h5, h6⟩ := htype
  refine ⟨by simp [commandOf, h2, h4, h5, h6], ?_⟩
  rw [serve]
  split
  next => rfl
  next entry hfind =>
    have htype : entry.1 = r.operation.requestBuffer.hdr.type := by simpa using List.find?_some hfind
    have hmem := List.mem_of_find?_eq_some hfind
    simp only [gbUartHandlers, List.mem_cons, List.not_mem_nil, or_false] at hmem
    rcases hmem with rfl | rfl | rfl | rfl | rfl
    · unfold gbUartProtocolVersion
      cases r.memory <;> rfl
    · exact absurd htype.symm h2
    · exact absurd htype.symm h4
    · exact absurd htype.symm h5
    · exact absurd htype.symm h6

/-- The commands that the peer has been told to have succeeded. -/
def accepted (bits : McrBits) (dev : Device UartCall UartCall.Value δ) :
    Serving UartCall δ → List Arrival → List Command
  | _, [] => []
  | s, r :: rs =>
    let res := serve (gbUartHandlers bits) dev r s
    (if res.1 = OperationResult.success.code then
      (commandOf r.operation.requestBuffer).toList else []) ++ accepted bits dev res.2 rs

theorem serve_port (h : Drives dev uart) :
    (uart (serve (gbUartHandlers bits) dev r s).2.device).port
      = (if (serve (gbUartHandlers bits) dev r s).1 = OperationResult.success.code then
          (commandOf r.operation.requestBuffer).toList else []).foldl
            (fun p c => c.perform bits p) (uart s.device).port := by
  by_cases htype : r.operation.requestBuffer.hdr.type ∈ commandTypes
  · have hobeys := @serve_obeys _ bits _ _ s _ h htype
    cases hcommand : commandOf r.operation.requestBuffer with
    | none =>
      rw [(hobeys.refused hcommand).2, Option.toList_none, ite_self, List.foldl_nil]
    | some c =>
      split
      next hres =>
        rw [hobeys.done c hcommand hres]
        rfl
      next hres =>
        rw [(hobeys.failed c hcommand hres).2]
        rfl
  · obtain ⟨hnone, hdevice⟩ := @serve_noCommand _ bits dev s _ htype
    rw [hnone, hdevice, Option.toList_none, ite_self, List.foldl_nil]

theorem serveAll_port (h : Drives dev uart) (rs : List Arrival) :
    (uart (serveAll (gbUartHandlers bits) dev s rs).device).port
      = (accepted bits dev s rs).foldl (fun p c => c.perform bits p) (uart s.device).port := by
  induction rs generalizing s with
  | nil => rfl
  | cons r rs ih =>
    rw [serveAll, List.foldl_cons, ← serveAll, ih, accepted, List.foldl_append, serve_port h]

end Runs

/-! ## Encoding commands -/

/-- Its data fits the size field, and a coding has between five and eight data bits. -/
def Command.Valid : Command → Prop
  | .sendData data => data.length < 2 ^ 16
  | .setLineCoding coding => 5 ≤ coding.databits ∧ coding.databits ≤ 8
  | _ => True

def StopBit.code : StopBit → UInt8
  | .one => 0
  | .one5 => 1
  | .two => 2

def Parity.code : Parity → UInt8
  | .no => 0
  | .odd => 1
  | .even => 2
  | .mark => 3
  | .space => 4

/-- The type and the payload of the request for a command. -/
def Command.encode : Command → UInt8 × List UInt8
  | .sendData data => (0x02, Codec.le16.encode (UInt16.ofNat data.length) ++ data)
  | .setLineCoding coding => (0x04, lineCodingRequest.encode
      (coding.baud, coding.stopbit.code, coding.parity.code, coding.databits))
  | .setControlLineState dtr rts =>
    (0x05, [(if dtr then 0x01 else 0) ||| (if rts then 0x02 else 0)])
  | .sendBreak state => (0x06, [state])

/-- The request carries the command, and perhaps more bytes. -/
def Command.CarriedBy (c : Command) (request : Message) : Prop :=
  request.hdr.type = c.encode.1 ∧ request.payloadSize = request.payload.length ∧
    c.encode.2 <+: request.payload

theorem stopBit_code (b : StopBit) : stopBit b.code = some b := by cases b <;> rfl

theorem parity_code (p : Parity) : parity p.code = some p := by cases p <;> rfl

theorem commandOf_of_carriedBy {c : Command} {request : Message} (hc : c.Valid)
    (h : c.CarriedBy request) : commandOf request = some c := by
  obtain ⟨htype, hsize, rest, hpayload⟩ := h
  have hsize' : request.payloadSize = c.encode.2.length + rest.length := by
    rw [hsize, ← hpayload, List.length_append]
  cases c with
  | sendData data =>
    have hlen : (UInt16.ofNat data.length).toNat = data.length := by
      rw [UInt16.toNat_ofNat']
      exact Nat.mod_eq_of_lt hc
    simp only [Command.encode, List.length_append, Codec.length_encode] at htype hsize' hpayload
    have htwo : Codec.le16.size = 2 := rfl
    have hdecode : Codec.le16.decode request.payload = UInt16.ofNat data.length := by
      rw [← hpayload, List.append_assoc, Codec.decode_append]
    have hfield : (Codec.le16.encode (UInt16.ofNat data.length)).length = 2 :=
      Codec.le16.length_encode _
    have hdata : (request.payload.drop 2).take data.length = data := by
      rw [← hpayload, List.append_assoc, List.drop_left' hfield, List.take_left' rfl]
    simp only [commandOf, htype, if_true, hdecode, hlen, hdata]
    exact if_neg (by omega)
  | setLineCoding coding =>
    have hne : ¬ (0x04 : UInt8) = 0x02 := by decide
    simp only [Command.encode, Codec.length_encode] at htype hsize' hpayload
    have hbits : ¬ (coding.databits > 8 ∨ coding.databits < 5) :=
      not_or.mpr ⟨UInt8.not_lt.mpr hc.2, UInt8.not_lt.mpr hc.1⟩
    simp only [commandOf, htype, if_neg hne, if_true, ← hpayload, Codec.decode_append,
      lineCodingOf, if_neg hbits, stopBit_code, parity_code]
    exact if_neg (by omega)
  | setControlLineState dtr rts =>
    simp only [Command.encode, List.length_singleton] at htype hsize' hpayload
    have hone : ¬ request.payloadSize < 1 := by omega
    have hcontrol : Codec.byte.decode request.payload
        = (if dtr then 0x01 else 0) ||| (if rts then 0x02 else 0) := by
      rw [← hpayload]
      rfl
    simp only [commandOf, htype, hcontrol, if_neg hone]
    cases dtr <;> cases rts <;> rfl
  | sendBreak state =>
    simp only [Command.encode, List.length_singleton] at htype hsize' hpayload
    have hone : ¬ request.payloadSize < 1 := by omega
    have hstate : Codec.byte.decode request.payload = state := by
      rw [← hpayload]
      rfl
    simp only [commandOf, htype, hstate, if_neg hone]
    rfl

/-- The port has carried out the commands that the peer knows to have succeeded, in their order and
no others; and it obeys the next one, which every request that encodes it is. -/
structure Obedient {δ : Type} (bits : McrBits) (dev : Device UartCall UartCall.Value δ)
    (uart : δ → Uart) (device : δ) (rs : List Arrival) (s : Serving UartCall δ) : Prop where
  port : (uart s.device).port = (accepted bits dev ⟨device, [], none⟩ rs).foldl
    (fun p c => c.perform bits p) (uart device).port
  obeys : ∀ r : Arrival, r.operation.requestBuffer.hdr.type ∈ commandTypes →
    Obeys bits uart (commandOf r.operation.requestBuffer) { s with response := none }
      (serve (gbUartHandlers bits) dev r s)
  carried : ∀ c : Command, c.Valid → ∀ request, c.CarriedBy request → commandOf request = some c

/-- Whatever requests come and however the UART fails, its port is where the successful commands have
brought it. -/
theorem gbUart_obedient {δ : Type} (bits : McrBits) {dev : Device UartCall UartCall.Value δ}
    {uart : δ → Uart} (h : Drives dev uart) (device : δ) (rs : List Arrival) :
    Obedient bits dev uart device rs
      (serveAll (gbUartHandlers bits) dev ⟨device, [], none⟩ rs) where
  port := serveAll_port h rs
  obeys _ htype := serve_obeys h htype
  carried _ hc _ hcarried := commandOf_of_carriedBy hc hcarried

/-- A UART that takes no break. -/
def breakless : Device UartCall UartCall.Value Uart
  | .setBreak _, u => (-EINVAL, (), u)
  | .getModemCtrl, u => (0, u.modemCtrl, u)
  | .startTransmitter data, u => (0, (), u.perform (.startTransmitter data))
  | .setConfiguration coding, u => (0, (), u.perform (.setConfiguration coding))
  | .setModemCtrl modemCtrl, u => (0, (), u.perform (.setModemCtrl modemCtrl))

theorem breakless_drives : Drives breakless id where
  done c u hret := by
    cases c with
    | setBreak state => exact absurd hret (show ¬ -EINVAL = 0 by decide)
    | _ => rfl
  failed c u hret := by
    cases c with
    | setBreak state => rfl
    | _ => exact absurd rfl hret
  modemCtrl _ _ := rfl

/-- DTR is set and RTS is cleared, a break fails, and a byte is sent. -/
def threeCommands : List Arrival :=
  [⟨.fresh 1 (requestOf 0x05 [0x01]), true⟩, ⟨.fresh 1 (requestOf 0x06 [1]), true⟩,
   ⟨.fresh 1 (requestOf 0x02 [1, 0, 0x41]), true⟩]

theorem gbUart_obedient_breakless :
    Obedient ⟨0, 1, by decide⟩ breakless id ⟨0x82#8, none, 0, []⟩ threeCommands
        (serveAll (gbUartHandlers ⟨0, 1, by decide⟩) breakless ⟨⟨0x82#8, none, 0, []⟩, [], none⟩
          threeCommands) ∧
      (serveAll (gbUartHandlers ⟨0, 1, by decide⟩) breakless ⟨⟨0x82#8, none, 0, []⟩, [], none⟩
        threeCommands).device = ⟨0x81#8, none, 0, [0x41]⟩ :=
  ⟨gbUart_obedient ⟨0, 1, by decide⟩ breakless_drives _ threeCommands, by decide⟩

end Greybus.UartCommands
