import Greybus.Transport.Uart
import Greybus.Reasoning.Framed
import Greybus.Reasoning.Transition

/-!
# Receiving on the UART transport

The interrupt handler puts the bytes into the ring buffer one by one and submits `uart_work`; the
system work queue runs `uart_work_fn`, which takes one message out in two steps and polls the fill
level before each.  A run is any interleaving of the two.
-/

namespace Greybus.Uart

open Reasoning.Framed Reasoning.Memory Reasoning.Transition

/-! ## The code -/

/-- Where `uart_work_fn` is. -/
inductive Work where
  | idle
  -- In the first waiting loop.
  | header
  -- The first loop is left; `ring_buf_get` of the header comes next.
  | headerReady
  -- The header is in `data`; in the second waiting loop.
  | payload (data : List UInt8)
  | payloadReady (data : List UInt8)
  deriving DecidableEq, Repr

structure State where
  -- The bytes that the line has still to deliver.
  line : List UInt8
  -- `uart_rb`.
  ring : List UInt8
  -- `gb_xport_uart_isr` is running.
  isr : Bool
  rxEnabled : Bool
  -- `uart_work` is queued.
  queued : Bool
  work : Work
  -- The calls of `greybus_rx_handler`, oldest first.
  calls : List RxCall
  deriving DecidableEq, Repr

def State.initial (line : List UInt8) : State := ⟨line, [], false, true, false, .idle, []⟩

inductive Action where
  | isrEnter
  -- One round of the handler's loop: `uart_fifo_read` gives a byte.
  | isrByte
  -- `uart_fifo_read` fails; the handler disables the receiver and returns.
  | isrReadFails
  -- The loop is over; the handler submits the work when there is a header, and returns.
  | isrReturn
  -- The work queue takes `uart_work` and calls `uart_work_fn`.
  | workStart
  -- One reading of the fill level in a waiting loop.
  | workPoll
  -- `ring_buf_get`; `memory` says whether `malloc` or `realloc` gives a buffer.
  | workGet (memory : Bool)
  deriving DecidableEq, Repr

/-- `ring_buf_put` of one byte; when there is no space the handler takes the oldest byte out. -/
def putByte (ring : List UInt8) (b : UInt8) : List UInt8 :=
  if ring.length = uartRbSize then ring.drop 1 ++ [b] else ring ++ [b]

/-- `k_work_submit` when the ring buffer holds a header; work that is queued stays queued once. -/
def State.submit (s : State) : State :=
  { s with queued := s.queued || decide (sizeofHdr ≤ s.ring.length) }

/-- A reading of the fill level. -/
def State.poll (s : State) : Option State :=
  match s.work with
  | .header =>
    some { s with work := if sizeofHdr ≤ s.ring.length then .headerReady else .header }
  | .payload data =>
    some { s with
      work := if msgSize data - sizeofHdr ≤ s.ring.length then .payloadReady data
        else .payload data }
  | _ => none

/-- `ring_buf_get` and what follows; a header that is not all there is read uninitialised. -/
def State.get (s : State) : Option State :=
  match s.work with
  | .headerReady =>
    if s.ring.length < sizeofHdr then none
    else
      let data := s.ring.take sizeofHdr
      let s := { s with ring := s.ring.drop sizeofHdr }
      match payloadSize data with
      | none => some { s with work := .idle }
      | some _ => some { s with work := .payload data }
  | .payloadReady data =>
    let n := msgSize data - sizeofHdr
    let got := s.ring.take n
    let s := { s with ring := s.ring.drop n, work := .idle }
    if got.length ≠ n then some s
    else some { s with calls := s.calls ++ [rxCall (data ++ got)] }
  | _ => none

def step (s : State) : Action → Option State
  | .isrEnter => if !s.isr && s.rxEnabled then some { s with isr := true } else none
  | .isrByte =>
    if !s.isr then none
    else
      match s.line with
      | [] => none
      | b :: line => some { s with line := line, ring := putByte s.ring b }
  | .isrReadFails => if s.isr then some { s with isr := false, rxEnabled := false } else none
  | .isrReturn => if s.isr then some { s.submit with isr := false } else none
  | .workStart =>
    if s.queued && s.work = .idle then some { s with queued := false, work := .header } else none
  | .workPoll => s.poll
  | .workGet memory => if memory then s.get else none

-- When no byte arrives meanwhile, a run of the work is `uart_work_fn`.
theorem run_work {s : State} (hqueued : s.queued = true) (hidle : s.work = .idle)
    {call : Option RxCall} {ring : List UInt8} (h : uartWorkFn s.ring = some (call, ring)) :
    ∃ as, run step s as
      = some { s with ring := ring, queued := false, calls := s.calls ++ call.toList } := by
  unfold uartWorkFn at h
  rw [Option.ite_none_left_eq_some] at h
  obtain ⟨hhdr, h⟩ := h
  have hle : sizeofHdr ≤ s.ring.length := Nat.not_lt.mp hhdr
  dsimp only at h
  split at h
  next hnone =>
    obtain ⟨rfl, rfl⟩ := Prod.mk.inj (Option.some.inj h)
    refine ⟨[.workStart, .workPoll, .workGet true], ?_⟩
    simp [run, step, State.poll, State.get, hqueued, hidle, hle, hhdr, hnone]
  next n hn =>
    rw [Option.ite_none_left_eq_some] at h
    obtain ⟨hpay, h⟩ := h
    obtain ⟨rfl, rfl⟩ := Prod.mk.inj (Option.some.inj h)
    refine ⟨[.workStart, .workPoll, .workGet true, .workPoll, .workGet true], ?_⟩
    have hsize : n = msgSize (s.ring.take sizeofHdr) - sizeofHdr := by
      unfold payloadSize at hn
      simp only [Option.ite_none_left_eq_some, Option.some.injEq] at hn
      exact hn.2.2.symm
    have hall : msgSize (s.ring.take sizeofHdr) ≤ s.ring.length := by
      rw [List.length_drop] at hpay
      omega
    rw [hsize] at hn ⊢
    simp [run, step, State.poll, State.get, hqueued, hidle, hle, hhdr, hn, hall,
      Nat.not_lt.mpr hall]

/-! ## Frames -/

def uartFraming : Framing UInt8 where
  hdrLen := sizeofHdr
  size := msgSize
  hdrLen_pos := by decide
  size_append h ys := msgSize_append (Nat.le_trans (by decide) h) ys

/-- A message that the UART can carry. -/
structure WellFormed (f : List UInt8) : Prop where
  frame : uartFraming.Frame f
  le_mtu : f.length ≤ gbMtu

/-- The header that is out of the ring buffer already. -/
def Work.held : Work → List UInt8
  | .payload data => data
  | .payloadReady data => data
  | _ => []

/-- What the fill levels read so far promise. -/
def Work.Fits (ring : List UInt8) : Work → Prop
  | .headerReady => sizeofHdr ≤ ring.length
  | .payload data => data.length = sizeofHdr
  | .payloadReady data => data.length = sizeofHdr ∧ msgSize data - sizeofHdr ≤ ring.length
  | _ => True

/-- The frames are cut where the code cuts them: some have been handed over, and what the code has
not handed over is the others. -/
def Cut (frames : List (List UInt8)) (s : State) : Prop :=
  ∃ done rest, frames = done ++ rest ∧ s.calls = done.map rxCall ∧
    s.work.held ++ (s.ring ++ s.line) = rest.flatten

structure Aligned (frames : List (List UInt8)) (s : State) : Prop where
  cut : Cut frames s
  fits : s.work.Fits s.ring

def NoOverflow (s : State) (a : Action) (_ : State) : Prop :=
  a = .isrByte → s.ring.length < uartRbSize

instance (s : State) (a : Action) (s' : State) : Decidable (NoOverflow s a s') :=
  inferInstanceAs (Decidable (_ → _))

theorem Work.Fits.append {w : Work} {ring : List UInt8} (h : w.Fits ring) (bs : List UInt8) :
    w.Fits (ring ++ bs) := by
  cases w with
  | idle => trivial
  | header => trivial
  | headerReady => exact Nat.le_trans h (by rw [List.length_append]; omega)
  | payload data => exact h
  | payloadReady data => exact ⟨h.1, Nat.le_trans h.2 (by rw [List.length_append]; omega)⟩

-- The frame that bytes not handed over begin with.
theorem exists_frame {frames done rest : List (List UInt8)} (hwf : ∀ f ∈ frames, WellFormed f)
    (hframes : frames = done ++ rest) {xs ys : List UInt8} (h : xs ++ ys = rest.flatten)
    (hlen : sizeofHdr ≤ xs.length) :
    ∃ f rest', rest = f :: rest' ∧ WellFormed f ∧ msgSize xs = f.length := by
  cases rest with
  | nil =>
    rw [List.flatten_nil, List.append_eq_nil_iff] at h
    rw [h.1] at hlen
    exact absurd hlen (by decide)
  | cons f rest' =>
    have hf : WellFormed f := hwf f (by simp [hframes])
    exact ⟨f, rest', rfl, hf, hf.frame.size_prefix (List.flatten_cons ▸ h) hlen⟩

theorem payloadSize_header {f ring : List UInt8} (hf : WellFormed f)
    (hlen : sizeofHdr ≤ ring.length) (hsize : msgSize ring = f.length) :
    payloadSize (ring.take sizeofHdr) = some (f.length - sizeofHdr) := by
  have hmtu : gbMaxPayloadSize = gbMtu - sizeofHdr := rfl
  have hle : sizeofHdr ≤ f.length := hf.frame.hdrLen_le
  have htop : f.length ≤ gbMtu := hf.le_mtu
  unfold payloadSize
  rw [msgSize_take (by decide) hlen, hsize, if_neg (by omega), if_neg (by omega)]

theorem Aligned.byte {frames : List (List UInt8)} {s s' : State} (hs : Aligned frames s)
    (hroom : s.ring.length < uartRbSize) (h : step s .isrByte = some s') : Aligned frames s' := by
  obtain ⟨⟨done, rest, hframes, hcalls, hbytes⟩, hfits⟩ := hs
  unfold step at h
  rw [Option.ite_none_left_eq_some] at h
  replace h := h.2
  split at h
  · cases h
  next b line hline =>
    obtain rfl := Option.some.inj h
    have hput : putByte s.ring b = s.ring ++ [b] := if_neg (Nat.ne_of_lt hroom)
    refine ⟨⟨done, rest, hframes, hcalls, ?_⟩, ?_⟩
    · rw [← hbytes, hline, hput]
      simp only [List.append_assoc, List.singleton_append]
    · rw [hput]
      exact hfits.append [b]

theorem Aligned.poll {frames : List (List UInt8)} {s s' : State} (hs : Aligned frames s)
    (h : s.poll = some s') : Aligned frames s' := by
  obtain ⟨⟨done, rest, hframes, hcalls, hbytes⟩, hfits⟩ := hs
  unfold State.poll at h
  split at h
  next hwork =>
    obtain rfl := Option.some.inj h
    rw [hwork] at hbytes
    by_cases hlen : sizeofHdr ≤ s.ring.length
    · rw [if_pos hlen]
      exact ⟨⟨done, rest, hframes, hcalls, hbytes⟩, hlen⟩
    · rw [if_neg hlen]
      exact ⟨⟨done, rest, hframes, hcalls, hbytes⟩, trivial⟩
  next data hwork =>
    obtain rfl := Option.some.inj h
    rw [hwork] at hbytes hfits
    by_cases hlen : msgSize data - sizeofHdr ≤ s.ring.length
    · rw [if_pos hlen]
      exact ⟨⟨done, rest, hframes, hcalls, hbytes⟩, hfits, hlen⟩
    · rw [if_neg hlen]
      exact ⟨⟨done, rest, hframes, hcalls, hbytes⟩, hfits⟩
  next => cases h

-- What `ring_buf_get` takes out: the header of a frame of the stream, or all that follows it.
theorem Aligned.get_cases {frames : List (List UInt8)} {s s' : State}
    (hwf : ∀ f ∈ frames, WellFormed f) (hs : Aligned frames s) (h : s.get = some s') :
    (s.work = .headerReady ∧ sizeofHdr ≤ s.ring.length ∧ sizeofHdr ≤ msgSize s.ring ∧
      s' = { s with
        ring := s.ring.drop sizeofHdr, work := .payload (s.ring.take sizeofHdr) }) ∨
    (∃ data, s.work = .payloadReady data ∧ data.length = sizeofHdr ∧
      msgSize data - sizeofHdr ≤ s.ring.length ∧
      s' = { s with
        ring := s.ring.drop (msgSize data - sizeofHdr), work := .idle,
        calls := s.calls ++ [rxCall (data ++ s.ring.take (msgSize data - sizeofHdr))] }) := by
  obtain ⟨⟨done, rest, hframes, hcalls, hbytes⟩, hfits⟩ := hs
  unfold State.get at h
  split at h
  next hwork =>
    left
    rw [hwork] at hbytes hfits
    have hlen : sizeofHdr ≤ s.ring.length := hfits
    replace hbytes : s.ring ++ s.line = rest.flatten := hbytes
    obtain ⟨f, rest', -, hf, hsize⟩ := exists_frame hwf hframes hbytes hlen
    have hle : sizeofHdr ≤ f.length := hf.frame.hdrLen_le
    rw [if_neg (Nat.not_lt.mpr hlen)] at h
    simp only [payloadSize_header hf hlen hsize] at h
    exact ⟨hwork, hlen, by omega, (Option.some.inj h).symm⟩
  next data hwork =>
    right
    rw [hwork] at hfits
    obtain ⟨hdata, hlen⟩ := hfits
    have hgot : (s.ring.take (msgSize data - sizeofHdr)).length = msgSize data - sizeofHdr := by
      rw [List.length_take]
      omega
    simp only [hgot, ne_eq, not_true_eq_false, if_false] at h
    exact ⟨data, hwork, hdata, hlen, (Option.some.inj h).symm⟩
  next => cases h

-- A frame is whole when its last byte is there.
theorem take_frame {data ring line f : List UInt8} {rest : List (List UInt8)}
    (hf : WellFormed f) (hdata : data.length = sizeofHdr) (hsize : msgSize data = f.length)
    (hlen : msgSize data - sizeofHdr ≤ ring.length)
    (h : data ++ (ring ++ line) = (f :: rest).flatten) :
    data ++ ring.take (msgSize data - sizeofHdr) = f ∧
      ring.drop (msgSize data - sizeofHdr) ++ line = rest.flatten := by
  have hle : sizeofHdr ≤ f.length := hf.frame.hdrLen_le
  have hcut : (data ++ ring.take (msgSize data - sizeofHdr)) ++
      (ring.drop (msgSize data - sizeofHdr) ++ line) = f ++ rest.flatten := by
    rw [← List.flatten_cons, ← h, List.append_assoc, ← List.append_assoc (ring.take _),
      List.take_append_drop]
  apply List.append_inj hcut
  rw [List.length_append, List.length_take, hdata]
  omega

theorem Aligned.get {frames : List (List UInt8)} {s s' : State}
    (hwf : ∀ f ∈ frames, WellFormed f) (hs : Aligned frames s) (h : s.get = some s') :
    Aligned frames s' := by
  rcases hs.get_cases hwf h with ⟨hwork, hlen, -, rfl⟩ | ⟨data, hwork, hdata, hlen, rfl⟩
  · obtain ⟨⟨done, rest, hframes, hcalls, hbytes⟩, -⟩ := hs
    rw [hwork] at hbytes
    refine ⟨⟨done, rest, hframes, hcalls, ?_⟩, ?_⟩
    · rw [← hbytes]
      show s.ring.take sizeofHdr ++ (s.ring.drop sizeofHdr ++ s.line) = s.ring ++ s.line
      rw [← List.append_assoc, List.take_append_drop]
    · show (s.ring.take sizeofHdr).length = sizeofHdr
      rw [List.length_take]
      omega
  · obtain ⟨⟨done, rest, hframes, hcalls, hbytes⟩, -⟩ := hs
    rw [hwork] at hbytes
    obtain ⟨f, rest', rfl, hf, hsize⟩ :=
      exists_frame hwf hframes hbytes (Nat.le_of_eq hdata.symm)
    obtain ⟨hwhole, hrest⟩ := take_frame hf hdata hsize hlen hbytes
    refine ⟨⟨done ++ [f], rest', ?_, ?_, hrest⟩, trivial⟩
    · rw [hframes, List.append_assoc, List.singleton_append]
    · rw [List.map_append, ← hcalls, List.map_singleton, hwhole]

-- The handler's other steps move no byte.
theorem Aligned.of_same {frames : List (List UInt8)} {s s' : State} (hs : Aligned frames s)
    (hline : s'.line = s.line) (hring : s'.ring = s.ring) (hwork : s'.work = s.work)
    (hcalls : s'.calls = s.calls) : Aligned frames s' := by
  obtain ⟨⟨done, rest, hframes, hdone, hbytes⟩, hfits⟩ := hs
  refine ⟨⟨done, rest, hframes, hcalls.trans hdone, ?_⟩, ?_⟩
  · rw [hline, hring, hwork, hbytes]
  · rw [hring, hwork]
    exact hfits

theorem Aligned.of_step {frames : List (List UInt8)} (hwf : ∀ f ∈ frames, WellFormed f)
    {s s' : State} {a : Action} (hs : Aligned frames s) (h : step s a = some s')
    (hroom : NoOverflow s a s') : Aligned frames s' := by
  cases a with
  | isrByte => exact hs.byte (hroom rfl) h
  | workPoll => exact hs.poll h
  | workGet memory =>
    cases memory with
    | true => exact hs.get hwf h
    | false => cases h
  | isrEnter =>
    obtain ⟨-, h⟩ := Option.ite_none_right_eq_some.mp h
    obtain rfl := Option.some.inj h
    exact hs.of_same rfl rfl rfl rfl
  | isrReadFails =>
    obtain ⟨-, h⟩ := Option.ite_none_right_eq_some.mp h
    obtain rfl := Option.some.inj h
    exact hs.of_same rfl rfl rfl rfl
  | isrReturn =>
    obtain ⟨-, h⟩ := Option.ite_none_right_eq_some.mp h
    obtain rfl := Option.some.inj h
    exact hs.of_same rfl rfl rfl rfl
  | workStart =>
    obtain ⟨hidle, h⟩ := Option.ite_none_right_eq_some.mp h
    obtain rfl := Option.some.inj h
    rw [Bool.and_eq_true, decide_eq_true_eq] at hidle
    obtain ⟨⟨done, rest, hframes, hcalls, hbytes⟩, -⟩ := hs
    rw [hidle.2] at hbytes
    exact ⟨⟨done, rest, hframes, hcalls, hbytes⟩, trivial⟩

theorem aligned_initial (frames : List (List UInt8)) : Aligned frames (.initial frames.flatten) :=
  ⟨⟨[], frames, rfl, rfl, rfl⟩, trivial⟩

theorem run_aligned {frames : List (List UInt8)} (hwf : ∀ f ∈ frames, WellFormed f)
    {as : List Action} {s : State} (hrun : run step (.initial frames.flatten) as = some s)
    (hroom : EachStep step NoOverflow (.initial frames.flatten) as) : Aligned frames s :=
  run_induct_of_eachStep (fun _ _ _ hs h hroom => hs.of_step hwf h hroom)
    (aligned_initial frames) hroom hrun

/-- Two pings, the second with a byte of payload. -/
def twoFrames : List (List UInt8) := [ping, [9, 0, 2, 0, 0, 0, 0, 0, 7]]

theorem wellFormed_twoFrames : ∀ f ∈ twoFrames, WellFormed f := by
  intro f hf
  simp only [twoFrames, List.mem_cons, List.not_mem_nil, or_false] at hf
  rcases hf with rfl | rfl
  · exact ⟨⟨by decide, by decide⟩, by decide⟩
  · exact ⟨⟨by decide, by decide⟩, by decide⟩

/-- An invocation of the handler that reads `n` bytes. -/
def handlerRun (n : Nat) : List Action :=
  .isrEnter :: (List.replicate n Action.isrByte).concat .isrReturn

-- The handler is entered again, and reads one byte, while the first ping is taken out.
def twoFramesRun : List Action :=
  handlerRun 9 ++
    [Action.workStart, .workPoll, .workGet true, .workPoll, .isrEnter, .isrByte, .workGet true]

end Greybus.Uart
