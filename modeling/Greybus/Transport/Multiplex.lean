import Greybus.Basic
import Greybus.Reasoning.Memory
import Greybus.Reasoning.SharedStream
import Greybus.Reasoning.Transition
import Mathlib.Data.Fintype.Basic
import Mathlib.Data.List.Perm.Basic

/-!
# Sending on the multiplexed TCP/IP transport

Every thread that sends writes its frame to the one client socket in two loops, the cport number
and then the message.  There is no lock around the two loops.
-/

namespace Greybus.Multiplex

open Reasoning.Memory Reasoning.SharedStream Reasoning.Transition

variable {τ : Type} [DecidableEq τ]

/-! ## The code -/

/-- The arguments of a call of `gb_trans_send` that passed the size checks. -/
structure Frame where
  cport : Nat
  buf : List UInt8
  deriving DecidableEq, Repr

/-- The bytes of `cport_u16`. -/
def Frame.cportU16 (f : Frame) : List UInt8 := [UInt8.ofNat f.cport, UInt8.ofNat (f.cport / 256)]

def Frame.bytes (f : Frame) : List UInt8 := f.cportU16 ++ f.buf

/-- Where a thread is in `gb_trans_send`: in one of the two calls of `write_data`, with the value of
`transmitted`. -/
inductive SendPc where
  | idle
  | cportU16 (f : Frame) (transmitted : Nat)
  | buf (f : Frame) (transmitted : Nat)
  deriving DecidableEq, Repr

/-- The size checks of `gb_trans_send`. -/
def sizeOk (buf : List UInt8) : Bool :=
  le16 (buf.getD 0 0) (buf.getD 1 0) = buf.length ∧ sizeofHdr ≤ buf.length

/-- The client socket with the threads that send on it.  `returned` lists the frames of the calls
that returned 0. -/
structure Socket (τ : Type) where
  pc : τ → SendPc
  stream : List UInt8
  returned : List Frame

def Socket.initial : Socket τ := ⟨fun _ => .idle, [], []⟩

inductive Action (τ : Type) where
  -- `gb_trans_send(cport, buf, len)`; a null pointer is `none`.
  | call (t : τ) (cport : Nat) (buf : Option (List UInt8))
  -- `zsock_send` takes `n` of the remaining bytes; a call that takes none changes nothing and is
  -- left out.
  | send (t : τ) (n : Nat)
  -- `zsock_send` returns an error.
  | fail (t : τ)
  deriving DecidableEq

/-- The return value of a call that sends nothing, or the frame to send. -/
def gbTransSend (cport : Nat) (buf : Option (List UInt8)) : Except Int Frame :=
  match buf with
  | none => .error (-EINVAL)
  | some buf => if sizeOk buf then .ok ⟨cport, buf⟩ else .error (-EINVAL)

/-- One round of the loop in `write_data`: the bytes that go out when `zsock_send` takes `n`. -/
def writeData (data : List UInt8) (transmitted n : Nat) : Option (List UInt8) :=
  if 0 < n ∧ n ≤ data.length - transmitted then some ((data.drop transmitted).take n) else none

def Socket.setPc (s : Socket τ) (t : τ) (pc : SendPc) : Socket τ :=
  { s with pc := Function.update s.pc t pc }

def step (s : Socket τ) : Action τ → Option (Socket τ)
  | .call t cport buf =>
    match s.pc t with
    | .idle =>
      match gbTransSend cport buf with
      | .error _ => some s
      | .ok f => some (s.setPc t (.cportU16 f 0))
    | _ => none
  | .send t n =>
    match s.pc t with
    | .idle => none
    | .cportU16 f transmitted =>
      (writeData f.cportU16 transmitted n).map fun piece =>
      { s with stream := s.stream ++ piece }.setPc t
        (if transmitted + n < f.cportU16.length then .cportU16 f (transmitted + n) else .buf f 0)
    | .buf f transmitted =>
      (writeData f.buf transmitted n).map fun piece =>
      if transmitted + n < f.buf.length then
        { s with stream := s.stream ++ piece }.setPc t (.buf f (transmitted + n))
      else
        { s with stream := s.stream ++ piece, returned := s.returned ++ [f] }.setPc t .idle
  | .fail t =>
    match s.pc t with
    | .idle => none
    | _ => some (s.setPc t .idle)

/-! ## The frames on the stream -/

/-- The frame that a thread is sending. -/
def SendPc.frame : SendPc → Option Frame
  | .idle => none
  | .cportU16 f _ => some f
  | .buf f _ => some f

/-- What a thread has written of its frame. -/
def SendPc.written : SendPc → List UInt8
  | .idle => []
  | .cportU16 f transmitted => f.cportU16.take transmitted
  | .buf f transmitted => f.cportU16 ++ f.buf.take transmitted

/-- The stream is a concatenation of the frames of the calls that returned, in some order, followed
by the beginning of at most one frame that is being sent. -/
def FramesWhole (s : Socket τ) : Prop :=
  ∃ (done : List Frame) (rest : List UInt8), done.Perm s.returned ∧
    s.stream = done.flatMap Frame.bytes ++ rest ∧
    (rest ≠ [] → ∃ t f, (s.pc t).frame = some f ∧ rest <+: f.bytes)

/-- No other thread is inside a frame when a thread calls `zsock_send`. -/
def SendsAlone (s : Socket τ) (a : Action τ) (_ : Socket τ) : Prop :=
  match a with
  | .send t _ => ∀ t', t' ≠ t → (s.pc t').written = []
  | _ => True

instance [Fintype τ] (s : Socket τ) (a : Action τ) (s' : Socket τ) :
    Decidable (SendsAlone s a s') :=
  match a with
  | .send t _ => inferInstanceAs (Decidable (∀ t', t' ≠ t → (s.pc t').written = []))
  | .call _ _ _ => .isTrue trivial
  | .fail _ => .isTrue trivial

/-- The socket as writers on a stream. -/
def Socket.writers (s : Socket τ) : Writers τ UInt8 where
  written t := (s.pc t).written
  finished := s.returned.map Frame.bytes
  stream := s.stream

theorem SendPc.written_take (pc : SendPc) {f : Frame} (h : pc.frame = some f) :
    pc.written <+: f.bytes := by
  cases pc with
  | idle => cases h
  | cportU16 g transmitted =>
    cases h
    exact (List.take_prefix _ _).trans (List.prefix_append _ _)
  | buf g transmitted =>
    cases h
    exact (List.prefix_append_right_inj _).mpr (List.take_prefix _ _)

omit [DecidableEq τ] in
theorem framesWhole_of_whole {s : Socket τ} (h : s.writers.Whole) : FramesWhole s := by
  rcases h with ⟨hs, -⟩ | ⟨t, hs, -⟩
  · refine ⟨s.returned, [], .refl _, ?_, fun hne => absurd rfl hne⟩
    simpa [Socket.writers, List.flatMap] using hs
  · refine ⟨s.returned, (s.pc t).written, .refl _, ?_, fun hne => ?_⟩
    · simpa [Socket.writers, List.flatMap] using hs
    · cases hf : (s.pc t).frame with
      | none => cases hpc : s.pc t <;> simp_all [SendPc.frame, SendPc.written]
      | some f => exact ⟨t, f, hf, (s.pc t).written_take hf⟩

theorem writers_setPc (s : Socket τ) (t : τ) (pc : SendPc) :
    (s.setPc t pc).writers
      = { s.writers with written := Function.update s.writers.written t pc.written } := by
  simp only [Socket.writers, Socket.setPc, Writers.mk.injEq, and_self, and_true]
  funext t'
  by_cases ht : t' = t
  · simp [ht]
  · simp [Function.update_of_ne ht]

-- A thread that enters or stays outside the loops writes nothing.
theorem step_call {s s' : Socket τ} {t : τ} {cport : Nat} {buf : Option (List UInt8)}
    (h : step s (.call t cport buf) = some s') : s'.writers = s.writers := by
  simp only [step] at h
  cases hpc : s.pc t with
  | idle =>
    simp only [hpc] at h
    split at h
    next => cases h; rfl
    next f _ =>
      cases h
      rw [writers_setPc]
      have hw : s.writers.written t = (SendPc.cportU16 f 0).written := by
        simp [Socket.writers, hpc, SendPc.written]
      rw [← hw, Function.update_eq_self]
  | cportU16 f transmitted => simp [hpc] at h
  | buf f transmitted => simp [hpc] at h

-- `zsock_send` writes a piece of the frame, and the last one ends it.
theorem step_send {s s' : Socket τ} {t : τ} {n : Nat} (h : step s (.send t n) = some s') :
    ∃ piece, s'.writers = s.writers.write t piece ∨
      s'.writers = (s.writers.write t piece).finish t := by
  simp only [step] at h
  cases hpc : s.pc t with
  | idle => simp [hpc] at h
  | cportU16 f transmitted =>
    simp only [hpc, writeData, Option.map_eq_some_iff, Option.ite_none_right_eq_some] at h
    obtain ⟨piece, ⟨hn, hpiece⟩, rfl⟩ := h
    cases hpiece
    refine ⟨(f.cportU16.drop transmitted).take n, .inl ?_⟩
    have hwritten : (if transmitted + n < f.cportU16.length then .cportU16 f (transmitted + n)
        else SendPc.buf f 0).written
          = f.cportU16.take transmitted ++ (f.cportU16.drop transmitted).take n := by
      rw [← List.take_add]
      split
      next => rfl
      next hend => simp [SendPc.written, List.take_of_length_le (Nat.not_lt.mp hend)]
    rw [writers_setPc, hwritten]
    simp [Writers.write, Socket.writers, hpc, SendPc.written]
  | buf f transmitted =>
    simp only [hpc, writeData, Option.map_eq_some_iff, Option.ite_none_right_eq_some] at h
    obtain ⟨piece, ⟨hn, hpiece⟩, rfl⟩ := h
    cases hpiece
    refine ⟨(f.buf.drop transmitted).take n, ?_⟩
    split
    next =>
      left
      rw [writers_setPc]
      simp [Writers.write, Socket.writers, hpc, SendPc.written, List.take_add]
    next hend =>
      right
      have hall : f.buf.take transmitted ++ (f.buf.drop transmitted).take n = f.buf := by
        rw [← List.take_add, List.take_of_length_le (Nat.not_lt.mp hend)]
      rw [writers_setPc]
      simp [Writers.write, Writers.finish, Socket.writers, hpc, SendPc.written, hall, Frame.bytes]

-- A step that sends alone keeps the frames whole.
theorem step_whole {s s' : Socket τ} {a : Action τ} (hs : s.writers.Whole)
    (h : step s a = some s') (halone : SendsAlone s a s') (hok : ∀ t, a ≠ .fail t) :
    s'.writers.Whole := by
  cases a with
  | call t cport buf => rw [step_call h]; exact hs
  | send t n =>
    have ht : s.writers.Alone t := halone
    obtain ⟨piece, hw | hw⟩ := step_send h
    · rw [hw]
      exact hs.write ht piece
    · rw [hw]
      refine (hs.write ht piece).finish fun t' hne => ?_
      simp only [Writers.write, Function.update_of_ne hne, ht t' hne]
  | fail t => exact absurd rfl (hok t)

theorem run_whole {actions : List (Action τ)} {s : Socket τ}
    (hrun : run step Socket.initial actions = some s)
    (halone : EachStep step (fun s a s' => SendsAlone s a s' ∧ ∀ t, a ≠ .fail t)
      Socket.initial actions) : s.writers.Whole := by
  refine run_induct_of_eachStep (P := fun s : Socket τ => s.writers.Whole) ?_ ?_ halone hrun
  · exact fun s a s' hs hstep hq => step_whole hs hstep hq.1 hq.2
  · exact .inl ⟨rfl, fun _ => rfl⟩

/-- When every `zsock_send` succeeds and is called with no other thread inside a frame, the stream
is made of whole frames. -/
theorem run_framesWhole {actions : List (Action τ)} {s : Socket τ}
    (hrun : run step Socket.initial actions = some s)
    (halone : EachStep step (fun s a s' => SendsAlone s a s' ∧ ∀ t, a ≠ .fail t)
      Socket.initial actions) : FramesWhole s :=
  framesWhole_of_whole (run_whole hrun halone)

/-- A response without payload to the request with this id. -/
def bareResponse (id : UInt8) : List UInt8 := [8, 0, id, 0, 0x81, 0, 0, 0]

/-- Two threads enter `gb_trans_send`, and the first is done before the second sends. -/
def sendsInTurn : List (Action Bool) :=
  [.call true 1 (some (bareResponse 1)), .call false 2 (some (bareResponse 2)),
    .send true 2, .send true 3, .send true 5, .send false 1, .send false 1, .send false 8]

theorem run_framesWhole_inTurn :
    ∃ s, run step Socket.initial sendsInTurn = some s ∧ FramesWhole s := by
  have hsome : (run step Socket.initial sendsInTurn).isSome := by decide
  exact ⟨_, (Option.some_get hsome).symm,
    run_framesWhole (Option.some_get hsome).symm (by decide)⟩

/-- Two threads enter `gb_trans_send`, and both send the cport number before the messages. -/
def sendsInterleaved : List (Action Bool) :=
  [.call true 1 (some (bareResponse 1)), .call false 2 (some (bareResponse 2)),
    .send true 2, .send false 2, .send true 8, .send false 8]

theorem run_framesWhole_interleaved :
    ∃ s, run step Socket.initial sendsInterleaved = some s ∧ (∀ t, s.pc t = .idle) ∧
      ¬ FramesWhole s := by
  obtain ⟨s, hs⟩ := Option.isSome_iff_exists.mp
    (show (run step Socket.initial sendsInterleaved).isSome by decide)
  have hidle : ∀ t, s.pc t = .idle := by
    intro t
    have ht : (run step Socket.initial sendsInterleaved).map (fun s => s.pc t) = some .idle := by
      cases t <;> decide
    rw [hs, Option.map_some] at ht
    exact Option.some.inj ht
  have hsent : (run step Socket.initial sendsInterleaved).map (fun s => (s.returned, s.stream))
      = some ([⟨1, bareResponse 1⟩, ⟨2, bareResponse 2⟩],
        [1, 0, 2, 0] ++ bareResponse 1 ++ bareResponse 2) := by decide
  rw [hs, Option.map_some, Option.some.injEq, Prod.mk.injEq] at hsent
  refine ⟨s, hs, hidle, ?_⟩
  rintro ⟨done, rest, hperm, hstream, hrest⟩
  have hempty : rest = [] := by
    by_contra hne
    obtain ⟨t, f, hf, -⟩ := hrest hne
    simp [hidle t, SendPc.frame] at hf
  rw [hsent.1] at hperm
  rw [hsent.2, hempty, List.append_nil] at hstream
  -- whichever frame comes first, its third byte is the low byte of the size
  cases done with
  | nil => simp at hperm
  | cons f done =>
    have hf : f ∈ [(⟨1, bareResponse 1⟩ : Frame), ⟨2, bareResponse 2⟩] :=
      hperm.subset List.mem_cons_self
    have hthird := congrArg (fun bs => bs[2]?) hstream
    simp only [List.mem_cons, List.not_mem_nil, or_false] at hf
    rcases hf with rfl | rfl <;>
      simp [Frame.bytes, Frame.cportU16, bareResponse] at hthird

end Greybus.Multiplex
