import Greybus.Protocols.Gpio
import Greybus.Reasoning.Transition

/-!
# The direction of a GPIO line

The direction of a pin is kept by its driver, and several requests configure the pin.  GET_DIRECTION
asks the driver.
-/

namespace Greybus.Gpio

open Reasoning.Transition

/-! ## The driver of the pins -/

/-- How a pin is configured. -/
inductive PinDir where
  | input
  | output
  | disconnected
  deriving DecidableEq, Repr

/-- What `gpio_pin_configure` makes of a pin. -/
def PinFlags.dir (flags : PinFlags) : PinDir :=
  if flags.input then .input else if flags.output then .output else .disconnected

/-- What a request meets: whether its response can be allocated, the values of the operations that
the driver chooses, and what a failing configuration makes of its pin. -/
structure Outcome where
  memory : Bool
  ret : PinOp → Int
  left : PinDir

def perform (o : Outcome) (op : PinOp) (pins : UInt8 → PinDir) : Int × (UInt8 → PinDir) :=
  match op with
  | .configure pin flags =>
    (o.ret op, Function.update pins pin (if o.ret op = 0 then flags.dir else o.left))
  | .isInput pin => (if pins pin = .input then 1 else 0, pins)
  | _ => (o.ret op, pins)

/-! ## Requests -/

/-- What a direction request asks for. -/
inductive Direction where
  | input
  | output
  deriving DecidableEq, Repr

/-- The direction in the protocol. -/
def Direction.code : Direction → UInt8
  | .input => 1
  | .output => 0

def Direction.pinDir : Direction → PinDir
  | .input => .input
  | .output => .output

/-- The pins, and for each line the last direction request that succeeded. -/
structure Controller where
  pins : UInt8 → PinDir
  last : UInt8 → Option Direction

structure Request where
  type : UInt8
  after : Nat → UInt8
  operation : Operation
  outcome : Outcome

def Request.line (r : Request) : UInt8 := which r.after r.operation

/-- The direction that a request asks for. -/
def Request.asks (r : Request) : Option Direction :=
  if r.type = 0x06 then some .input else if r.type = 0x07 then some .output else none

section Controller

-- Whether the debounce flag is built in; the mask of the port, when there is a device.
variable (debounce : Bool) (port : Option PortPins)

/-- The handler of a request, run; there is none for a type that is not in the table. -/
def serve (pins : UInt8 → PinDir) (r : Request) : Option (Reply × (UInt8 → PinDir)) :=
  ((gbGpioHandlers debounce).find? fun h => h.1 = r.type).map fun h =>
    (h.2 port r.after r.operation).run (perform r.outcome) r.outcome.memory none pins

def step (s : Controller) (r : Request) : Option Controller :=
  (serve debounce port s.pins r).map fun (reply, pins) =>
    { pins := pins
      last :=
        match r.asks with
        | none => s.last
        | some d =>
          if reply.result = .success then Function.update s.last r.line (some d) else s.last }

end Controller

variable {debounce : Bool} {port : Option PortPins} {s s' : Controller} {r : Request}

/-- GET_DIRECTION answers what the last direction request asked for. -/
def AnswersLast (debounce : Bool) (port : Option PortPins) (s : Controller) (r : Request)
    (_ : Controller) : Prop :=
  r.type = 0x05 → ∀ reply pins d, serve debounce port s.pins r = some (reply, pins) →
    reply.result = .success → s.last r.line = some d → reply.payload = some [d.code]

/-- The request passes the checks of GET_DIRECTION, and its response can be allocated. -/
def Request.Answered (r : Request) (port : Option PortPins) : Prop :=
  Accepts port r.after r.operation 1 ∧ r.outcome.memory = true

/-- A line that GET_DIRECTION is asked for has an input pin when the last direction request made it
an output, and only then. -/
def Contrary (port : Option PortPins) (s : Controller) (r : Request) (_ : Controller) : Prop :=
  r.type = 0x05 → r.Answered port → ∀ d, s.last r.line = some d →
    (s.pins r.line = .input ↔ d = .output)

-- GET_DIRECTION answers 0 for an input and 1 for any other pin.
theorem serve_getDirection (pins : UInt8 → PinDir) (htype : r.type = 0x05)
    (hans : r.Answered port) :
    serve debounce port pins r
      = some (⟨.success, some [if pins r.line = .input then 0 else 1]⟩, pins) := by
  unfold serve
  rw [htype]
  show some ((gbGpioGetDirection port r.after r.operation).run _ _ _ _) = _
  unfold gbGpioGetDirection
  rw [withLine_accepted hans.1, hans.2]
  show some (Reply.mk .success (some [if (if pins r.line = .input then (1 : Int) else 0) ≠ 0
    then 0 else 1]), pins) = _
  by_cases hinput : pins r.line = .input
  · simp only [hinput, if_true]
    rfl
  · simp only [hinput, if_false]
    rfl

theorem serve_getDirection_refused {pins pins' : UInt8 → PinDir} {reply : Reply}
    (htype : r.type = 0x05) (hans : ¬ r.Answered port)
    (h : serve debounce port pins r = some (reply, pins')) : reply.result ≠ .success := by
  unfold serve at h
  rw [htype] at h
  replace h := Option.some.inj h
  replace h : (gbGpioGetDirection port r.after r.operation).run (perform r.outcome)
    r.outcome.memory none pins = (reply, pins') := h
  unfold gbGpioGetDirection at h
  by_cases hacc : Accepts port r.after r.operation 1
  · have hmemory : r.outcome.memory = false := Bool.eq_false_iff.mpr fun hmem => hans ⟨hacc, hmem⟩
    rw [withLine_accepted hacc, hmemory] at h
    obtain rfl : _ = reply := congrArg Prod.fst h
    show OperationResult.noMemory ≠ .success
    decide
  · rw [withLine_refused hacc] at h
    obtain rfl : _ = reply := congrArg Prod.fst h
    show OperationResult.invalid ≠ .success
    decide

theorem answer_eq_code_iff {dir : PinDir} {d : Direction} :
    (if dir = .input then (0 : UInt8) else 1) = d.code ↔ (dir = .input ↔ d = .output) := by
  cases dir <;> cases d <;> decide

theorem answersLast_iff : AnswersLast debounce port s r s' ↔ Contrary port s r s' := by
  unfold AnswersLast Contrary
  apply imp_congr_right
  intro htype
  by_cases hans : r.Answered port
  · have hserve := @serve_getDirection debounce port r s.pins htype hans
    constructor
    · intro h _ d hlast
      have hpayload := h _ _ d hserve rfl hlast
      exact answer_eq_code_iff.mp (List.singleton_inj.mp (Option.some.inj hpayload))
    · intro h reply pins d hreply _ hlast
      obtain ⟨rfl, -⟩ := Prod.mk.inj (Option.some.inj (hserve.symm.trans hreply))
      show some [_] = some [d.code]
      rw [answer_eq_code_iff.mpr (h hans d hlast)]
  · refine iff_of_true (fun reply pins d hserve hsuccess => ?_) fun h => absurd h hans
    exact absurd hsuccess (serve_getDirection_refused htype hans hserve)

/-! ## Undisturbed runs -/

/-- No pin is configured but by direction requests, and the driver does what it is asked. -/
def Undisturbed (_ : Controller) (r : Request) (_ : Controller) : Prop :=
  r.type ≠ 0x0a ∧ ∀ op, r.outcome.ret op = 0

/-- The program leaves the directions of the pins alone. -/
def GpioProg.LeavesPins : GpioProg → Prop
  | .done _ => True
  | .allocResponse _ k => ∀ ok, (k ok).LeavesPins
  | .fillResponse _ k => k.LeavesPins
  | .pin op k => (∀ pin flags, op ≠ .configure pin flags) ∧ ∀ ret, (k ret).LeavesPins

theorem GpioProg.LeavesPins.run {prog : GpioProg} (h : prog.LeavesPins) (o : Outcome)
    (payload : Option (List UInt8)) (pins : UInt8 → PinDir) :
    (prog.run (perform o) o.memory payload pins).2 = pins := by
  induction prog generalizing payload pins with
  | done result => rfl
  | allocResponse size k ih => exact ih _ (h _) _ pins
  | fillResponse bytes k ih => exact ih h _ pins
  | pin op k ih =>
    obtain ⟨hop, hk⟩ := h
    have hsame : (perform o op pins).2 = pins := by
      cases op with
      | configure pin flags => exact absurd rfl (hop pin flags)
      | isInput pin => rfl
      | get pin => rfl
      | set pin value => rfl
      | interruptConfigure pin mode trig => rfl
    unfold GpioProg.run
    dsimp only
    rw [hsame]
    exact ih _ (hk _) payload pins

theorem leavesPins_withLine {after : Nat → UInt8} {operation : Operation} {size : Nat}
    {k : (Nat → UInt8) → GpioProg} (hk : ∀ request, (k request).LeavesPins) :
    (withLine port after operation size k).LeavesPins := by
  by_cases hacc : Accepts port after operation size
  · rw [withLine_accepted hacc]
    exact hk _
  · rw [withLine_refused hacc]
    exact trivial

-- Only the direction requests and SET_DEBOUNCE configure a pin.
theorem gbGpioHandlers_leavesPins {type : UInt8} {h : Handler}
    (hmem : (type, h) ∈ gbGpioHandlers debounce) (hin : type ≠ 0x06) (hout : type ≠ 0x07)
    (hdebounce : type ≠ 0x0a) (after : Nat → UInt8) (operation : Operation) :
    (h port after operation).LeavesPins := by
  simp only [gbGpioHandlers, List.mem_cons, List.not_mem_nil, or_false, Prod.mk.injEq] at hmem
  rcases hmem with ⟨rfl, rfl⟩ | ⟨rfl, rfl⟩ | ⟨rfl, rfl⟩ | ⟨rfl, rfl⟩ | ⟨rfl, rfl⟩ | ⟨rfl, rfl⟩ |
    ⟨rfl, rfl⟩ | ⟨rfl, rfl⟩ | ⟨rfl, rfl⟩ | ⟨rfl, rfl⟩ | ⟨rfl, rfl⟩ | ⟨rfl, rfl⟩ | ⟨rfl, rfl⟩
  · intro ok
    cases ok <;> exact trivial
  · unfold gbGpioLineCount
    cases port with
    | none => exact trivial
    | some mask =>
      intro ok
      dsimp only
      split
      next => exact trivial
      next => split <;> exact trivial
  · exact leavesPins_withLine fun _ => trivial
  · exact leavesPins_withLine fun _ => trivial
  · apply leavesPins_withLine
    intro request ok
    cases ok with
    | false => exact trivial
    | true => exact ⟨fun _ _ => PinOp.noConfusion, fun _ => trivial⟩
  · exact absurd rfl hin
  · exact absurd rfl hout
  · apply leavesPins_withLine
    intro request ok
    cases ok with
    | false => exact trivial
    | true => exact ⟨fun _ _ => PinOp.noConfusion, fun _ => trivial⟩
  · exact leavesPins_withLine fun _ => ⟨fun _ _ => PinOp.noConfusion, fun _ => trivial⟩
  · exact absurd rfl hdebounce
  · apply leavesPins_withLine
    intro request
    split
    next => exact trivial
    next => exact ⟨fun _ _ => PinOp.noConfusion, fun _ => trivial⟩
  · exact leavesPins_withLine fun _ => ⟨fun _ _ => PinOp.noConfusion, fun _ => trivial⟩
  · exact leavesPins_withLine fun _ => ⟨fun _ _ => PinOp.noConfusion, fun _ => trivial⟩

/-- A line has the direction that was asked for last. -/
def Controller.Kept (s : Controller) : Prop :=
  ∀ line d, s.last line = some d → s.pins line = d.pinDir

-- A direction request that succeeds sets its pin, and one that is refused does nothing.
theorem serve_direction {d : Direction} {reply : Reply} {pins pins' : UInt8 → PinDir}
    (hasks : r.asks = some d) (hret : ∀ op, r.outcome.ret op = 0)
    (h : serve debounce port pins r = some (reply, pins')) :
    (reply.result = .success ∧ pins' = Function.update pins r.line d.pinDir) ∨
      (reply.result ≠ .success ∧ pins' = pins) := by
  unfold Request.asks at hasks
  unfold serve at h
  split at hasks
  next htype =>
    obtain rfl := Option.some.inj hasks
    rw [htype] at h
    replace h : (gbGpioDirectionIn port r.after r.operation).run (perform r.outcome)
      r.outcome.memory none pins = (reply, pins') := Option.some.inj h
    unfold gbGpioDirectionIn at h
    by_cases hacc : Accepts port r.after r.operation 1
    · left
      rw [withLine_accepted hacc] at h
      simp only [GpioProg.run, perform, hret, if_true] at h
      obtain ⟨rfl, rfl⟩ := Prod.mk.inj h
      exact ⟨by decide, rfl⟩
    · right
      rw [withLine_refused hacc] at h
      obtain ⟨rfl, rfl⟩ := Prod.mk.inj h
      exact ⟨by decide, rfl⟩
  next =>
    split at hasks
    next htype =>
      obtain rfl := Option.some.inj hasks
      rw [htype] at h
      replace h : (gbGpioDirectionOut port r.after r.operation).run (perform r.outcome)
        r.outcome.memory none pins = (reply, pins') := Option.some.inj h
      unfold gbGpioDirectionOut at h
      by_cases hacc : Accepts port r.after r.operation 2
      · left
        rw [withLine_accepted hacc] at h
        simp only [GpioProg.run, perform, hret, if_true, ne_eq, not_true_eq_false, if_false] at h
        obtain ⟨rfl, rfl⟩ := Prod.mk.inj h
        exact ⟨rfl, rfl⟩
      · right
        rw [withLine_refused hacc] at h
        obtain ⟨rfl, rfl⟩ := Prod.mk.inj h
        exact ⟨by decide, rfl⟩
    next => cases hasks

theorem step_kept (hs : s.Kept) (h : step debounce port s r = some s')
    (hund : Undisturbed s r s') : s'.Kept := by
  obtain ⟨⟨reply, pins⟩, hserve, rfl⟩ := Option.map_eq_some_iff.mp h
  obtain ⟨hdebounce, hret⟩ := hund
  unfold Controller.Kept
  dsimp only
  cases hasks : r.asks with
  | none =>
    have hsame : pins = s.pins := by
      obtain ⟨⟨type, f⟩, hfind, hrun⟩ := Option.map_eq_some_iff.mp hserve
      have htype : type = r.type := by simpa using List.find?_some hfind
      unfold Request.asks at hasks
      split at hasks
      next => cases hasks
      next hin =>
        split at hasks
        next => cases hasks
        next hout =>
          rw [← htype] at hin hout hdebounce
          have hleaves : (f port r.after r.operation).LeavesPins :=
            gbGpioHandlers_leavesPins (List.mem_of_find?_eq_some hfind) hin hout hdebounce _ _
          exact (congrArg Prod.snd hrun).symm.trans (hleaves.run r.outcome none s.pins)
    rw [hsame]
    exact hs
  | some d =>
    dsimp only
    rcases serve_direction hasks hret hserve with ⟨hsuccess, rfl⟩ | ⟨hrefused, rfl⟩
    · rw [if_pos hsuccess]
      intro line d' hlast
      by_cases hline : line = r.line
      · subst hline
        rw [Function.update_self] at hlast ⊢
        rw [Option.some.inj hlast]
      · rw [Function.update_of_ne hline] at hlast ⊢
        exact hs line d' hlast
    · rw [if_neg hrefused]
      exact hs

/-- GET_DIRECTION answers the opposite of what the last direction request asked for. -/
def AnswersOpposite (debounce : Bool) (port : Option PortPins) (s : Controller) (r : Request)
    (_ : Controller) : Prop :=
  r.type = 0x05 → r.Answered port → ∀ d, s.last r.line = some d →
    serve debounce port s.pins r = some (⟨.success, some [1 - d.code]⟩, s.pins)

theorem answersOpposite_of_kept (hs : s.Kept) : AnswersOpposite debounce port s r s' := by
  intro htype hans d hlast
  rw [serve_getDirection s.pins htype hans, hs r.line d hlast]
  cases d <;> rfl

theorem eachStep_answersOpposite {rs : List Request} (hs : s.Kept)
    (hund : EachStep (step debounce port) Undisturbed s rs) :
    EachStep (step debounce port) (AnswersOpposite debounce port) s rs :=
  eachStep_mono_of (fun _ _ _ hs h hund => step_kept hs h hund)
    (fun _ _ _ hs _ _ => answersOpposite_of_kept hs) hs hund

/-! ## Every run -/

/-- GET_DIRECTION answers the direction that was asked for last exactly where the pin is configured
the other way; in a run that nothing disturbs, it always answers the opposite. -/
theorem eachStep_answersLast_iff (debounce : Bool) (port : Option PortPins) (s : Controller)
    (rs : List Request) :
    (EachStep (step debounce port) (AnswersLast debounce port) s rs ↔
      EachStep (step debounce port) (Contrary port) s rs) ∧
      (s.Kept → EachStep (step debounce port) Undisturbed s rs →
        EachStep (step debounce port) (AnswersOpposite debounce port) s rs) :=
  ⟨eachStep_congr (fun _ _ _ _ _ => trivial) (fun _ _ _ _ _ => answersLast_iff) trivial,
    eachStep_answersOpposite⟩

def lineRequest (type line : UInt8) : Request where
  type := type
  after := fun _ => 0
  operation :=
    .fresh 0 ⟨{ size := 9, id := 1, type := type, result := 0, pad := 0 }, [line]⟩
  outcome := ⟨true, fun _ => 0, .disconnected⟩

def fresh : Controller := ⟨fun _ => .disconnected, fun _ => none⟩

/-- DIRECTION_IN and GET_DIRECTION for the line 0. -/
def inAndGet : List Request := [lineRequest 0x06 0, lineRequest 0x05 0]

theorem eachStep_answersLast_iff_undisturbed :
    EachStep (step false (some 1)) (AnswersOpposite false (some 1)) fresh inAndGet := by
  refine (eachStep_answersLast_iff false (some 1) fresh inAndGet).2 (fun _ _ h => by cases h)
    (eachStep_of_forall (fun r hr _ _ => ?_) fresh)
  rcases List.mem_pair.mp hr with rfl | rfl
  · exact ⟨by decide, fun _ => rfl⟩
  · exact ⟨by decide, fun _ => rfl⟩

-- DIRECTION_IN succeeds for the line 0, and GET_DIRECTION answers that it is an output.
theorem eachStep_answersLast_input :
    (serve false (some 1) fresh.pins (lineRequest 0x06 0)).map (·.1) = some ⟨.success, none⟩ ∧
      ((step false (some 1) fresh (lineRequest 0x06 0)).bind fun s =>
        (serve false (some 1) s.pins (lineRequest 0x05 0)).map (·.1))
          = some ⟨.success, some [0]⟩ ∧
      ¬ EachStep (step false (some 1)) (AnswersLast false (some 1)) fresh inAndGet := by
  refine ⟨by decide, by decide, fun heach => ?_⟩
  obtain ⟨-, hrest⟩ := heach _ rfl
  obtain ⟨hlast, -⟩ := hrest _ rfl
  have hcontrary := answersLast_iff.mp hlast
  have hans : (lineRequest 0x05 0).Answered (some 1) := ⟨⟨⟨1, rfl, by decide⟩, by decide⟩, rfl⟩
  exact absurd ((hcontrary rfl hans .input rfl).mp rfl) (by decide)

end Greybus.Gpio
