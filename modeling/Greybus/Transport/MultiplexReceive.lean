import Greybus.Transport.Message
import Greybus.Transport.Multiplex
import Greybus.Reasoning.PartialIO

/-!
# Receiving on the multiplexed TCP/IP transport

The receiver has no other framing than how much it has read: the cport number, the header, and as
many bytes more as the header's size says.
-/

namespace Greybus.Multiplex

open Reasoning.Memory Reasoning.PartialIO Reasoning.Transition

/-! ## The code -/

/-- `read_data` returned `ret`. -/
structure ReadData where
  ret : Int
  data : List UInt8
  source : Source UInt8

/-- The value that `read_data` returns; `zsock_recv` reports an error by -1. -/
def readRet (len : Nat) : Option Stop → Int
  | none => len
  | some .zero => 0
  | some (.failed _) => -1

/-- `read_data` of `len` bytes to the offset `off` of `data`. -/
def readData (s : Source UInt8) (data : List UInt8) (off len : Nat) : Option ReadData :=
  (fill len s data off len).map fun r => ⟨readRet len r.stopped, r.buf, r.source⟩

/-- `k_heap_alloc`, when it gives a buffer, and `memcpy` of the header into it. -/
def gbMessageAlloc (allocOk : Bool) (hdr : List UInt8) : Option (Option (List UInt8)) :=
  if allocOk then (store (List.replicate (msgSize hdr) 0) 0 hdr).map some else some none

/-- The buffer has taken the header by then, so the difference does not wrap. -/
def gbMessagePayloadLen (msg : List UInt8) : Nat := msgSize msg - sizeofHdr

/-- `struct gb_message_in_transport`; `none` is the null pointer. -/
structure GbMessageInTransport where
  cport : Nat
  msg : Option (List UInt8)
  deriving DecidableEq, Repr

/-- What `gb_message_receive` returns, and what it leaves in `*flag` and on the socket. -/
structure Received where
  msg : GbMessageInTransport
  flag : Bool
  source : Source UInt8

/-- The exit at `early_exit`. -/
def earlyExit (flag : Bool) (s : Source UInt8) : Received := ⟨⟨0, none⟩, flag, s⟩

/-- `gb_message_receive` from the third `read_data` on. -/
def receivePayload (cport : Nat) (s : Source UInt8) (flag : Bool) (msg : List UInt8) :
    Option Received :=
  (readData s msg sizeofHdr (gbMessagePayloadLen msg)).map fun (payload : ReadData) =>
  if payload.ret ≠ gbMessagePayloadLen msg then earlyExit (payload.ret = 0) payload.source
  else ⟨⟨cport, some payload.data⟩, flag, payload.source⟩

/-- `gb_message_receive`; a store outside a buffer is `none`. -/
def gbMessageReceive (allocOk : Bool) (s : Source UInt8) (flag : Bool) : Option Received :=
  (readData s (List.replicate 2 0) 0 2).bind fun (cport : ReadData) =>
  if cport.ret ≠ 2 then some (earlyExit (cport.ret = 0) cport.source) else
  (readData cport.source (List.replicate sizeofHdr 0) 0 sizeofHdr).bind fun (hdr : ReadData) =>
  if hdr.ret ≠ sizeofHdr then some (earlyExit (hdr.ret = 0) hdr.source) else
  (gbMessageAlloc allocOk hdr.data).bind fun
    | none => some (earlyExit flag hdr.source)
    | some msg =>
      receivePayload (le16 (cport.data.getD 0 0) (cport.data.getD 1 0)) hdr.source flag msg

/-- The receiving side: the client socket, whether it is open, and the messages that were handed to
`greybus_rx_handler`. -/
structure RxCtx where
  source : Source UInt8
  connected : Bool
  delivered : List Frame

/-- What `gb_trans_rx` meets: whether `zsock_poll` reports `ZSOCK_POLLIN`, and whether
`k_heap_alloc` has room. -/
structure RxEvent where
  pollin : Bool
  allocOk : Bool
  deriving DecidableEq, Repr

/-- `gb_trans_rx`; without a connection the thread waits for another one. -/
def gbTransRx (ctx : RxCtx) (e : RxEvent) : Option RxCtx :=
  if !ctx.connected || !e.pollin then some ctx
  else
    (gbMessageReceive e.allocOk ctx.source false).map fun r =>
      if r.flag then { ctx with source := r.source, connected := false }
      else
        match r.msg.msg with
        | none => { ctx with source := r.source }
        | some msg =>
          { ctx with source := r.source, delivered := ctx.delivered ++ [⟨r.msg.cport, msg⟩] }

/-! ## Reading one frame -/

-- The reader gets all it asks for when that much is there.
theorem readData_complete {s : Source UInt8} {bytes rest : List UInt8} (front hole : List UInt8)
    (hpending : s.pending = bytes ++ rest) (hhole : hole.length = bytes.length) :
    ∃ s', readData s (front ++ hole) front.length bytes.length
        = some ⟨bytes.length, front ++ bytes, s'⟩ ∧
      s'.pending = rest ∧ s'.ending = s.ending := by
  obtain ⟨r, hr, hfilled⟩ :=
    fill_filled s front [] (Nat.le_refl bytes.length) hhole
  rw [List.append_nil] at hr
  cases hfilled with
  | complete _ hs' hending =>
    rw [hpending, List.drop_left] at hs'
    refine ⟨_, ?_, hs', hending⟩
    simp only [readData, hr, Option.map_some, readRet, hpending, List.take_left, List.append_nil]
  | ended hlt =>
    rw [hpending, List.length_append] at hlt
    omega

theorem readRet_stop_ne {len : Nat} (stop : Stop) (hlen : len ≠ 0) :
    readRet len (some stop) ≠ len := by
  cases stop <;> simp only [readRet] <;> omega

-- The reader reports how the stream ends when it ends before.
theorem readData_ended {s : Source UInt8} (front : List UInt8) {hole : List UInt8} {len : Nat}
    (hhole : hole.length = len) (hshort : s.pending.length < len) :
    ∃ r, readData s (front ++ hole) front.length len = some r ∧
      r.ret = readRet len (some s.ending) ∧
      r.source.pending = [] ∧ r.source.ending = s.ending := by
  obtain ⟨r, hr, hfilled⟩ := fill_filled s front [] (Nat.le_refl len) hhole
  rw [List.append_nil] at hr
  cases hfilled with
  | complete hle => omega
  | ended _ hpending hending =>
    exact ⟨_, by rw [readData, hr, Option.map_some], rfl, hpending, hending⟩

-- Both of a variable that is read from its start on.
theorem readData_variable (s : Source UInt8) {len : Nat} (hlen : len ≠ 0) :
    (s.pending.length < len ∧ ∃ r, readData s (List.replicate len 0) 0 len = some r ∧
      r.ret ≠ len ∧ r.source.pending = []) ∨
    (len ≤ s.pending.length ∧ ∃ s', readData s (List.replicate len 0) 0 len
      = some ⟨len, s.pending.take len, s'⟩ ∧ s'.pending = s.pending.drop len) := by
  by_cases hshort : s.pending.length < len
  · obtain ⟨r, hr, hret, hs', -⟩ := @readData_ended s [] (List.replicate len 0) len
      List.length_replicate hshort
    exact .inl ⟨hshort, r, hr, hret ▸ readRet_stop_ne s.ending hlen, hs'⟩
  · have htake : (s.pending.take len).length = len := by
      rw [List.length_take]
      omega
    obtain ⟨s', hr, hs', -⟩ := readData_complete [] (List.replicate len 0)
      (List.take_append_drop len s.pending).symm (by rw [List.length_replicate, htake])
    rw [List.nil_append, List.nil_append, List.length_nil, htake] at hr
    exact .inr ⟨Nat.not_lt.mp hshort, s', hr, hs'⟩

/-- A frame that `gb_trans_send` writes and that the cport number's 16 bits can hold. -/
structure Frame.WellFormed (f : Frame) : Prop where
  cport_lt : f.cport < 2 ^ 16
  sizeOk : sizeOk f.buf = true

theorem Frame.length_cportU16 (f : Frame) : f.cportU16.length = 2 := rfl

namespace Frame.WellFormed

variable {f : Frame}

theorem size_eq (h : f.WellFormed) : msgSize f.buf = f.buf.length := by
  have hok := h.sizeOk
  simp only [Multiplex.sizeOk, decide_eq_true_eq] at hok
  exact hok.1

theorem hdr_le (h : f.WellFormed) : sizeofHdr ≤ f.buf.length := by
  have hok := h.sizeOk
  simp only [Multiplex.sizeOk, decide_eq_true_eq] at hok
  exact hok.2

theorem cport_eq (h : f.WellFormed) :
    le16 (f.cportU16.getD 0 0) (f.cportU16.getD 1 0) = f.cport := le16_split h.cport_lt

end Frame.WellFormed

theorem gbMessageAlloc_ok {hdr : List UInt8} (hlen : hdr.length = sizeofHdr)
    (hsize : sizeofHdr ≤ msgSize hdr) :
    gbMessageAlloc true hdr = some (some (hdr ++ List.replicate (msgSize hdr - sizeofHdr) 0)) := by
  have hfit : hdr.length ≤ (List.replicate (msgSize hdr) (0 : UInt8)).length := by
    rw [List.length_replicate, hlen]
    exact hsize
  have hstore := store_hole [] [] hfit
  simp only [List.nil_append, List.append_nil, List.length_nil, List.drop_replicate, hlen] at hstore
  rw [gbMessageAlloc, if_pos rfl, hstore, Option.map_some]

-- The cport number and the header are read before there is a buffer.
theorem gbMessageReceive_header {f : Frame} (hf : f.WellFormed) {s : Source UInt8}
    {rest : List UInt8} (hpending : s.pending = f.bytes ++ rest) (allocOk flag : Bool) :
    ∃ s', s'.pending = f.buf.drop sizeofHdr ++ rest ∧ s'.ending = s.ending ∧
      gbMessageReceive allocOk s flag =
        (gbMessageAlloc allocOk (f.buf.take sizeofHdr)).bind fun
          | none => some (earlyExit flag s')
          | some msg => receivePayload f.cport s' flag msg := by
  have hhdr : (f.buf.take sizeofHdr).length = sizeofHdr := by simpa using hf.hdr_le
  have hbytes : s.pending = f.cportU16 ++ (f.buf ++ rest) := by
    rw [hpending, Frame.bytes, List.append_assoc]
  obtain ⟨s₁, hcport, hs₁, he₁⟩ := readData_complete [] (List.replicate 2 0) hbytes rfl
  have hmsg : s₁.pending = f.buf.take sizeofHdr ++ (f.buf.drop sizeofHdr ++ rest) := by
    rw [hs₁, ← List.append_assoc, List.take_append_drop]
  obtain ⟨s₂, hread, hs₂, he₂⟩ := readData_complete [] (List.replicate sizeofHdr 0) hmsg
    (by simp [hhdr])
  simp only [List.nil_append, List.length_nil, hhdr, f.length_cportU16] at hcport hread
  refine ⟨s₂, hs₂, he₂.trans he₁, ?_⟩
  have htwo : ((2 : Nat) : Int) = 2 := rfl
  simp only [gbMessageReceive, hcport, hread, hf.cport_eq, Option.bind_some, htwo, ne_eq, not_true,
    if_false]

-- Both loops of the receiver, when there is room for the message.
theorem gbMessageReceive_frame {f : Frame} (hf : f.WellFormed) {s : Source UInt8}
    {rest : List UInt8} (hpending : s.pending = f.bytes ++ rest) (flag : Bool) :
    ∃ s', gbMessageReceive true s flag = some ⟨⟨f.cport, some f.buf⟩, flag, s'⟩ ∧
      s'.pending = rest ∧ s'.ending = s.ending := by
  have hhdr : (f.buf.take sizeofHdr).length = sizeofHdr := by simpa using hf.hdr_le
  have htwo : 2 ≤ (f.buf.take sizeofHdr).length := by rw [hhdr]; decide
  have hsize : msgSize (f.buf.take sizeofHdr) = f.buf.length := by
    rw [← hf.size_eq, ← msgSize_append htwo (f.buf.drop sizeofHdr), List.take_append_drop]
  obtain ⟨s₂, hs₂, he₂, hreceive⟩ := gbMessageReceive_header hf hpending true flag
  have hbuf : gbMessageAlloc true (f.buf.take sizeofHdr) = some (some
      (f.buf.take sizeofHdr ++ List.replicate (f.buf.length - sizeofHdr) 0)) := by
    rw [gbMessageAlloc_ok hhdr (hsize ▸ hf.hdr_le), hsize]
  have hpayload : gbMessagePayloadLen
      (f.buf.take sizeofHdr ++ List.replicate (f.buf.length - sizeofHdr) 0)
        = (f.buf.drop sizeofHdr).length := by
    rw [gbMessagePayloadLen, msgSize_append htwo, hsize, List.length_drop]
  obtain ⟨s₃, hread, hs₃, he₃⟩ := readData_complete (f.buf.take sizeofHdr)
    (List.replicate (f.buf.length - sizeofHdr) 0) hs₂ (by simp)
  refine ⟨s₃, ?_, hs₃, he₃.trans he₂⟩
  rw [hreceive, hbuf]
  simp only [hhdr, List.take_append_drop] at hread
  simp only [receivePayload, hpayload, hread, Option.bind_some, Option.map_some, ne_eq, not_true,
    if_false]

-- Without room for the message the payload stays on the stream.
theorem gbMessageReceive_drop {f : Frame} (hf : f.WellFormed) {s : Source UInt8}
    {rest : List UInt8} (hpending : s.pending = f.bytes ++ rest) (flag : Bool) :
    ∃ s', gbMessageReceive false s flag = some (earlyExit flag s') ∧
      s'.pending = f.buf.drop sizeofHdr ++ rest ∧ s'.ending = s.ending := by
  obtain ⟨s', hs', hending, hreceive⟩ := gbMessageReceive_header hf hpending false flag
  exact ⟨s', hreceive, hs', hending⟩

-- At the end of the stream nothing is received.
theorem gbMessageReceive_nil {s : Source UInt8} (hnil : s.pending = []) (allocOk flag : Bool) :
    ∃ closed s', gbMessageReceive allocOk s flag = some (earlyExit closed s') ∧
      s'.pending = [] := by
  rcases readData_variable s (show 2 ≠ 0 by decide) with ⟨-, r, hr, hret, hs'⟩ | ⟨hlong, -⟩
  · refine ⟨decide (r.ret = 0), r.source, ?_, hs'⟩
    have hne : r.ret ≠ 2 := hret
    simp only [gbMessageReceive, hr, Option.bind_some, if_pos hne]
  · simp [hnil] at hlong

/-! ## Sending and receiving -/

/-- `n` calls of `gb_message_receive`, each of which finds room for its message: what they return
and the values of the flag. -/
def receiveAll : Nat → Source UInt8 → Option (List (GbMessageInTransport × Bool) × Source UInt8)
  | 0, s => some ([], s)
  | n + 1, s =>
    (gbMessageReceive true s false).bind fun (r : Received) =>
    (receiveAll n r.source).map fun rs => ((r.msg, r.flag) :: rs.1, rs.2)

theorem receiveAll_frames {frames : List Frame} (hframes : ∀ f ∈ frames, f.WellFormed)
    {s : Source UInt8} {rest : List UInt8}
    (hpending : s.pending = frames.flatMap Frame.bytes ++ rest) :
    ∃ s', receiveAll frames.length s
        = some (frames.map fun f => (⟨f.cport, some f.buf⟩, false), s') ∧ s'.pending = rest := by
  induction frames generalizing s with
  | nil => exact ⟨s, rfl, hpending⟩
  | cons f frames ih =>
    rw [List.flatMap_cons, List.append_assoc] at hpending
    obtain ⟨s₁, hreceive, hs₁, -⟩ := gbMessageReceive_frame (hframes f List.mem_cons_self) hpending
      false
    obtain ⟨s', hall, hs'⟩ := ih (fun g hg => hframes g (List.mem_cons_of_mem f hg)) hs₁
    exact ⟨s', by simp [receiveAll, hreceive, hall], hs'⟩

/-- The arguments of a call of `gb_trans_send`. -/
def Action.args {τ : Type} : Action τ → Option Frame
  | .call _ cport (some buf) => some ⟨cport, buf⟩
  | _ => none

-- The frames of one thread are the calls that have returned and the one that has not.
theorem step_args {s s' : Socket Unit} {a : Action Unit} (h : step s a = some s')
    (hok : ∀ f, a.args = some f → f.WellFormed) (hfail : ∀ t, a ≠ .fail t) :
    s'.returned ++ (s'.pc ()).frame.toList
      = s.returned ++ (s.pc ()).frame.toList ++ a.args.toList := by
  cases a with
  | call t cport buf =>
    cases hpc : s.pc () with
    | idle =>
      cases buf with
      | none =>
        simp only [step, hpc, gbTransSend, Option.some.injEq] at h
        simp [← h, hpc, Action.args]
      | some buf =>
        have hsize := (hok ⟨cport, buf⟩ rfl).sizeOk
        simp only [step, hpc, gbTransSend, hsize, if_true, Option.some.injEq] at h
        simp [← h, Socket.setPc, Action.args, SendPc.frame]
    | cportU16 f transmitted => simp [step, hpc] at h
    | buf f transmitted => simp [step, hpc] at h
  | send t n =>
    cases hpc : s.pc () with
    | idle => simp [step, hpc] at h
    | cportU16 f transmitted =>
      simp only [step, hpc, Option.map_eq_some_iff] at h
      obtain ⟨piece, -, rfl⟩ := h
      split <;> simp [Socket.setPc, Action.args, SendPc.frame]
    | buf f transmitted =>
      simp only [step, hpc, Option.map_eq_some_iff] at h
      obtain ⟨piece, -, rfl⟩ := h
      split <;> simp [Socket.setPc, Action.args, SendPc.frame]
  | fail t => exact absurd rfl (hfail t)

theorem run_args {actions : List (Action Unit)} {s s' : Socket Unit}
    (hrun : run step s actions = some s')
    (hok : ∀ f ∈ actions.filterMap Action.args, f.WellFormed)
    (hfail : ∀ t, .fail t ∉ actions) :
    s'.returned ++ (s'.pc ()).frame.toList
      = s.returned ++ (s.pc ()).frame.toList ++ actions.filterMap Action.args := by
  induction actions generalizing s with
  | nil =>
    rw [run_nil, Option.some.injEq] at hrun
    simp [hrun]
  | cons a actions ih =>
    obtain ⟨s₁, hstep, hrest⟩ := run_cons_eq_some.mp hrun
    have hargs : (a :: actions).filterMap Action.args
        = a.args.toList ++ actions.filterMap Action.args := by
      cases h : a.args <;> simp [h]
    rw [hargs] at hok ⊢
    have hhead : ∀ f, a.args = some f → f.WellFormed := fun f hf =>
      hok f (List.mem_append_left _ (by simp [hf]))
    rw [ih hrest (fun f hf => hok f (List.mem_append_right _ hf))
        (fun t ht => hfail t (List.mem_cons_of_mem a ht)),
      step_args hstep hhead (fun t ht => hfail t (ht ▸ List.mem_cons_self)), List.append_assoc]

-- What one thread has written when no call is under way.
theorem run_stream {actions : List (Action Unit)} {s : Socket Unit}
    (hrun : run step Socket.initial actions = some s)
    (hok : ∀ f ∈ actions.filterMap Action.args, f.WellFormed)
    (hfail : ∀ t, .fail t ∉ actions) (hidle : s.pc () = .idle) :
    s.stream = (actions.filterMap Action.args).flatMap Frame.bytes := by
  have hargs := run_args hrun hok hfail
  have halone : EachStep step (fun s a s' => SendsAlone s a s' ∧ ∀ t, a ≠ .fail t)
      Socket.initial actions := by
    refine eachStep_of_forall (fun a ha s s' => ⟨?_, fun t ht => hfail t (ht ▸ ha)⟩) _
    cases a with
    | send t n => exact fun t' ht => absurd (Subsingleton.elim t' t) ht
    | call t cport buf => exact trivial
    | fail t => exact trivial
  have hwhole := (run_whole hrun halone).of_alone (t := ()) fun t ht =>
    absurd (Subsingleton.elim t ()) ht
  simp only [Socket.writers, hidle, SendPc.written, SendPc.frame, Socket.initial,
    Option.toList_none, List.append_nil, List.nil_append] at hwhole hargs
  rw [hwhole, hargs, List.flatMap]

/-- What successive calls of `gb_trans_send` have written is received by as many successive calls of
`gb_message_receive`, however the socket splits it: the same messages with the same CPorts, up to
the last byte, and the flag is never set. -/
theorem receiveAll_sent {frames : List Frame} (hframes : ∀ f ∈ frames, f.WellFormed)
    {actions : List (Action Unit)} {s : Socket Unit}
    (hcalls : actions.filterMap Action.args = frames)
    (hrun : run step Socket.initial actions = some s) (hfail : ∀ t, .fail t ∉ actions)
    (hidle : s.pc () = .idle) (rest : List UInt8) (ending : Stop) (sizes : Nat → Nat) :
    ∃ s', receiveAll frames.length ⟨s.stream ++ rest, ending, sizes, 0⟩
        = some (frames.map fun f => (⟨f.cport, some f.buf⟩, false), s') ∧ s'.pending = rest := by
  refine receiveAll_frames hframes ?_
  rw [run_stream hrun (hcalls ▸ hframes) hfail hidle, hcalls]

/-- Two calls, the first of them in pieces. -/
def sendsTwo : List (Action Unit) :=
  [.call () 1 (some (bareResponse 1)), .send () 1, .send () 1, .send () 5, .send () 3,
    .call () 2 (some (bareResponse 2)), .send () 2, .send () 8]

theorem receiveAll_sent_two :
    ∃ s s', run step Socket.initial sendsTwo = some s ∧
      receiveAll 2 ⟨s.stream ++ [], .zero, fun n => n % 3, 0⟩
        = some ([(⟨1, some (bareResponse 1)⟩, false), (⟨2, some (bareResponse 2)⟩, false)], s') := by
  obtain ⟨s, hs⟩ := Option.isSome_iff_exists.mp
    (show (run step Socket.initial sendsTwo).isSome by decide)
  have hidle : (run step Socket.initial sendsTwo).map (fun s => s.pc ()) = some .idle := by decide
  rw [hs, Option.map_some, Option.some.injEq] at hidle
  have hframes : ∀ f ∈ [(⟨1, bareResponse 1⟩ : Frame), ⟨2, bareResponse 2⟩], f.WellFormed := by
    intro f hf
    simp only [List.mem_cons, List.not_mem_nil, or_false] at hf
    rcases hf with rfl | rfl <;> exact ⟨by decide, by decide⟩
  obtain ⟨s', hreceive, -⟩ := receiveAll_sent hframes
    (show sendsTwo.filterMap Action.args = _ from rfl) hs (by decide) hidle [] .zero (fun n => n % 3)
  exact ⟨s, s', hs, hreceive⟩

/-! ## Receiving without room -/

/-- A connection on which `frames` have been sent. -/
def RxCtx.start (frames : List Frame) (ending : Stop) (sizes : Nat → Nat) : RxCtx :=
  ⟨⟨frames.flatMap Frame.bytes, ending, sizes, 0⟩, true, []⟩

/-- If there is no room for a message, it is one without payload. -/
def DropsNoPayload (ctx : RxCtx) (e : RxEvent) : Prop :=
  e.allocOk = true ∨ e.pollin = false ∨ ctx.connected = false ∨ ctx.source.pending = [] ∨
    msgSize (ctx.source.pending.drop 2) = sizeofHdr

instance (ctx : RxCtx) (e : RxEvent) : Decidable (DropsNoPayload ctx e) :=
  inferInstanceAs (Decidable (_ ∨ _))

/-- The stream is at a frame boundary, and what was delivered and what is still to come are frames
that were sent, in the order they were sent. -/
def RxCtx.AtBoundary (frames : List Frame) (ctx : RxCtx) : Prop :=
  ∃ todo, ctx.source.pending = todo.flatMap Frame.bytes ∧ (ctx.delivered ++ todo).Sublist frames

theorem DropsNoPayload.length_buf {ctx : RxCtx} {e : RxEvent} (h : DropsNoPayload ctx e) {f : Frame}
    (hf : f.WellFormed) {rest : List UInt8} (hpending : ctx.source.pending = f.bytes ++ rest)
    (halloc : e.allocOk = false) (hskip : ¬ (!ctx.connected || !e.pollin) = true) :
    f.buf.length = sizeofHdr := by
  have hfront : ctx.source.pending.drop 2 = f.buf ++ rest := by
    rw [hpending, Frame.bytes, List.append_assoc]
    exact List.drop_left' f.length_cportU16
  have hne : ctx.source.pending ≠ [] := by simp [hpending, Frame.bytes, Frame.cportU16]
  have hlen : 2 ≤ f.buf.length := le_trans (by decide) hf.hdr_le
  rw [← hf.size_eq, ← msgSize_append hlen rest, ← hfront]
  simp only [Bool.or_eq_true, Bool.not_eq_true', not_or, Bool.not_eq_false] at hskip
  rcases h with h | h | h | h | h
  · simp [halloc] at h
  · simp [hskip.2] at h
  · simp [hskip.1] at h
  · exact absurd h hne
  · exact h

-- One round of the receiver: it always comes back, and to a frame boundary.
theorem gbTransRx_boundary {frames : List Frame} (hframes : ∀ f ∈ frames, f.WellFormed)
    {ctx : RxCtx} (hctx : ctx.AtBoundary frames) (e : RxEvent) :
    ∃ ctx', gbTransRx ctx e = some ctx' ∧ (DropsNoPayload ctx e → ctx'.AtBoundary frames) := by
  obtain ⟨todo, hpending, hsub⟩ := hctx
  by_cases hskip : (!ctx.connected || !e.pollin) = true
  · exact ⟨ctx, if_pos hskip, fun _ => ⟨todo, hpending, hsub⟩⟩
  rw [gbTransRx, if_neg hskip]
  cases todo with
  | nil =>
    obtain ⟨closed, s', hreceive, hs'⟩ := gbMessageReceive_nil hpending e.allocOk false
    refine ⟨_, by rw [hreceive, Option.map_some], fun _ => ⟨[], ?_, ?_⟩⟩
    · cases closed <;> simpa [earlyExit] using hs'
    · cases closed <;> simpa [earlyExit] using hsub
  | cons f todo =>
    rw [List.flatMap_cons] at hpending
    have hf : f.WellFormed := hframes f (hsub.subset (by simp))
    cases halloc : e.allocOk with
    | true =>
      obtain ⟨s', hreceive, hs', -⟩ := gbMessageReceive_frame hf hpending false
      refine ⟨_, by rw [hreceive, Option.map_some], fun _ => ⟨todo, hs', ?_⟩⟩
      simpa using hsub
    | false =>
      obtain ⟨s', hreceive, hs', -⟩ := gbMessageReceive_drop hf hpending false
      refine ⟨_, by rw [hreceive, Option.map_some], fun hdrop => ⟨todo, ?_, ?_⟩⟩
      · have hsize : f.buf.length = sizeofHdr := hdrop.length_buf hf hpending halloc hskip
        rw [List.drop_of_length_le (Nat.le_of_eq hsize)] at hs'
        exact hs'
      · exact (List.Sublist.append_left (List.sublist_cons_self f todo) _).trans hsub

-- The receiver never stores outside a buffer.
theorem run_boundary {frames : List Frame} (hframes : ∀ f ∈ frames, f.WellFormed)
    {ctx : RxCtx} (hctx : ctx.AtBoundary frames) {events : List RxEvent}
    (hdrops : EachStep gbTransRx (fun ctx e _ => DropsNoPayload ctx e) ctx events) :
    ∃ ctx', run gbTransRx ctx events = some ctx' ∧ ctx'.AtBoundary frames := by
  induction events generalizing ctx with
  | nil => exact ⟨ctx, rfl, hctx⟩
  | cons e events ih =>
    obtain ⟨ctx₁, hstep, hboundary⟩ := gbTransRx_boundary hframes hctx e
    obtain ⟨hdrop, hrest⟩ := hdrops ctx₁ hstep
    obtain ⟨ctx', hrun, hctx'⟩ := ih (hboundary hdrop) hrest
    exact ⟨ctx', run_cons_eq_some.mpr ⟨ctx₁, hstep, hrun⟩, hctx'⟩

/-- In a run in which there is room for every message that has a payload, the messages that are
delivered are frames that were sent, with their own CPorts and in the order they were sent. -/
theorem run_delivered {frames : List Frame} (hframes : ∀ f ∈ frames, f.WellFormed) (ending : Stop)
    (sizes : Nat → Nat) {events : List RxEvent}
    (hdrops : EachStep gbTransRx (fun ctx e _ => DropsNoPayload ctx e)
      (.start frames ending sizes) events) :
    ∃ ctx, run gbTransRx (.start frames ending sizes) events = some ctx ∧
      ctx.delivered.Sublist frames := by
  have hstart : (RxCtx.start frames ending sizes).AtBoundary frames :=
    ⟨frames, rfl, List.Sublist.refl _⟩
  obtain ⟨ctx, hrun, todo, -, hsub⟩ := run_boundary hframes hstart hdrops
  exact ⟨ctx, hrun, (List.sublist_append_left _ _).trans hsub⟩

/-- Three messages, the second without payload. -/
def threeFrames : List Frame :=
  [⟨1, [10, 0, 1, 0, 0x81, 0, 0, 0, 7, 7]⟩, ⟨2, bareResponse 2⟩, ⟨3, [9, 0, 3, 0, 0x81, 0, 0, 0, 5]⟩]

theorem threeFrames_wellFormed : ∀ f ∈ threeFrames, f.WellFormed := by
  intro f hf
  simp only [threeFrames, List.mem_cons, List.not_mem_nil, or_false] at hf
  rcases hf with rfl | rfl | rfl <;> exact ⟨by decide, by decide⟩

theorem run_delivered_dropped :
    ∃ ctx, run gbTransRx (.start threeFrames .zero fun n => n % 3)
        [⟨true, true⟩, ⟨true, false⟩, ⟨false, true⟩, ⟨true, true⟩, ⟨true, true⟩] = some ctx ∧
      ctx.delivered.Sublist threeFrames :=
  run_delivered threeFrames_wellFormed .zero (fun n => n % 3) (by decide)

/-- A message whose payload reads like a frame. -/
def frameInFrame : Frame where
  cport := 1
  buf := [18, 0, 1, 0, 2, 0, 0, 0] ++ (⟨2, bareResponse 9⟩ : Frame).bytes

-- There is no room for the message, and then its payload is delivered.
theorem run_delivered_payload :
    frameInFrame.WellFormed ∧
      (run gbTransRx (.start [frameInFrame] .zero fun _ => 8) [⟨true, false⟩, ⟨true, true⟩]).map
        (fun ctx => ctx.delivered) = some [⟨2, bareResponse 9⟩] ∧
      ¬ List.Sublist [⟨2, bareResponse 9⟩] [frameInFrame] := by
  exact ⟨⟨by decide, by decide⟩, by decide, by decide⟩

/-! ## Bytes of any kind -/

-- Before there is a buffer the receiver is back, or it has read a header.
theorem gbMessageReceive_any (allocOk : Bool) (s : Source UInt8) (flag : Bool) :
    (s.pending.length < 2 + sizeofHdr ∧
      ∃ closed s', gbMessageReceive allocOk s flag = some (earlyExit closed s')) ∨
    (2 + sizeofHdr ≤ s.pending.length ∧ ∃ s',
      gbMessageReceive allocOk s flag =
        (gbMessageAlloc allocOk ((s.pending.drop 2).take sizeofHdr)).bind fun
          | none => some (earlyExit flag s')
          | some msg => receivePayload
              (le16 ((s.pending.take 2).getD 0 0) ((s.pending.take 2).getD 1 0)) s' flag msg) := by
  have htwo : ((2 : Nat) : Int) = 2 := rfl
  rcases readData_variable s (show 2 ≠ 0 by decide) with
    ⟨hshort, r, hr, hret, -⟩ | ⟨hlong, s₁, hcport, hs₁⟩
  · refine .inl ⟨by omega, decide (r.ret = 0), r.source, ?_⟩
    have hne : r.ret ≠ 2 := hret
    simp only [gbMessageReceive, hr, Option.bind_some, if_pos hne]
  have hrest : s₁.pending.length = s.pending.length - 2 := by rw [hs₁, List.length_drop]
  rcases readData_variable s₁ (show sizeofHdr ≠ 0 by decide) with
    ⟨hshort, r, hr, hret, -⟩ | ⟨hlong', s₂, hheader, -⟩
  · refine .inl ⟨by omega, decide (r.ret = 0), r.source, ?_⟩
    simp only [gbMessageReceive, hcport, hr, Option.bind_some, htwo, ne_eq, not_true, if_false]
    exact if_pos hret
  · refine .inr ⟨by omega, s₂, ?_⟩
    simp only [gbMessageReceive, hcport, hheader, Option.bind_some, htwo, ne_eq, not_true, if_false,
      hs₁]

-- A header does not fit a buffer of the size that it announces when that size is too small.
theorem gbMessageAlloc_small {hdr : List UInt8} (hlen : hdr.length = sizeofHdr)
    (hsize : msgSize hdr < sizeofHdr) : gbMessageAlloc true hdr = none := by
  have hout : ¬ 0 + hdr.length ≤ (List.replicate (msgSize hdr) (0 : UInt8)).length := by
    rw [List.length_replicate]
    omega
  rw [gbMessageAlloc, if_pos rfl, store, if_neg hout, Option.map_none]

-- What follows the header fills the buffer, or there is no message.
theorem receivePayload_sized (cport : Nat) (s : Source UInt8) (flag : Bool) {hdr : List UInt8}
    (hlen : hdr.length = sizeofHdr) (hsize : sizeofHdr ≤ msgSize hdr) :
    ∃ r, receivePayload cport s flag (hdr ++ List.replicate (msgSize hdr - sizeofHdr) 0) = some r ∧
      ∀ msg, r.msg.msg = some msg → sizeofHdr ≤ msg.length ∧ msg.length = msgSize msg := by
  have htwo : 2 ≤ hdr.length := by rw [hlen]; decide
  have hpayload : gbMessagePayloadLen (hdr ++ List.replicate (msgSize hdr - sizeofHdr) 0)
      = msgSize hdr - sizeofHdr := by rw [gbMessagePayloadLen, msgSize_append htwo]
  simp only [receivePayload, hpayload]
  by_cases hshort : s.pending.length < msgSize hdr - sizeofHdr
  · obtain ⟨r, hr, hret, -⟩ := readData_ended hdr List.length_replicate hshort
    rw [hlen] at hr
    refine ⟨earlyExit (r.ret = 0) r.source, ?_, fun msg hmsg => by cases hmsg⟩
    have hne : r.ret ≠ (msgSize hdr - sizeofHdr : Nat) :=
      hret ▸ readRet_stop_ne s.ending (by omega)
    rw [hr, Option.map_some, if_pos hne]
  · have htake : (s.pending.take (msgSize hdr - sizeofHdr)).length = msgSize hdr - sizeofHdr := by
      rw [List.length_take]
      omega
    obtain ⟨s', hr, -, -⟩ := readData_complete hdr
      (List.replicate (msgSize hdr - sizeofHdr) 0)
      (List.take_append_drop (msgSize hdr - sizeofHdr) s.pending).symm
      (by rw [List.length_replicate, htake])
    rw [hlen, htake] at hr
    refine ⟨_, by rw [hr, Option.map_some, if_neg (not_not.mpr rfl)], fun msg hmsg => ?_⟩
    obtain rfl := Option.some.inj hmsg
    rw [msgSize_append htwo, List.length_append, hlen, htake]
    omega

/-- No store leaves the header or the buffer, and a message that is returned is as long as its size
field says and holds a header, exactly if the size field of a header that arrives, when there is a
buffer for it, is at least the size of a header. -/
theorem gbMessageReceive_sized_iff (allocOk : Bool) (s : Source UInt8) (flag : Bool) :
    (∃ r, gbMessageReceive allocOk s flag = some r ∧
        ∀ msg, r.msg.msg = some msg → sizeofHdr ≤ msg.length ∧ msg.length = msgSize msg) ↔
      (2 + sizeofHdr ≤ s.pending.length → allocOk = true →
        sizeofHdr ≤ msgSize (s.pending.drop 2)) := by
  rcases gbMessageReceive_any allocOk s flag with
    ⟨hshort, closed, s', hreceive⟩ | ⟨hlong, s', hreceive⟩
  · refine iff_of_true ⟨_, hreceive, fun msg hmsg => by cases hmsg⟩ fun hle => ?_
    omega
  rw [hreceive]
  cases allocOk with
  | false => exact iff_of_true ⟨_, rfl, fun msg hmsg => by cases hmsg⟩ fun _ hok => by cases hok
  | true =>
    have hdrop : (s.pending.drop 2).length = s.pending.length - 2 := List.length_drop
    have hlen : ((s.pending.drop 2).take sizeofHdr).length = sizeofHdr := by
      rw [List.length_take]
      omega
    have hsize : msgSize ((s.pending.drop 2).take sizeofHdr) = msgSize (s.pending.drop 2) :=
      msgSize_take (by decide) (by omega)
    by_cases hsmall : msgSize (s.pending.drop 2) < sizeofHdr
    · refine iff_of_false ?_ fun h => absurd (h hlong rfl) (Nat.not_le.mpr hsmall)
      rintro ⟨r, hr, -⟩
      rw [gbMessageAlloc_small hlen (hsize ▸ hsmall)] at hr
      cases hr
    · have hle := Nat.not_lt.mp hsmall
      refine iff_of_true ?_ fun _ _ => hle
      rw [gbMessageAlloc_ok hlen (hsize ▸ hle)]
      exact receivePayload_sized _ _ _ hlen (hsize ▸ hle)

/-- A CPort number and a header that announces 4 bytes. -/
def smallHeader : Source UInt8 := ⟨[1, 0] ++ [4, 0, 1, 0, 2, 0, 0, 0], .zero, fun _ => 8, 0⟩

-- The header is copied to a buffer of 4 bytes.
theorem smallHeader_overflows :
    ¬ ∃ r, gbMessageReceive true smallHeader false = some r ∧
        ∀ msg, r.msg.msg = some msg → sizeofHdr ≤ msg.length ∧ msg.length = msgSize msg := by
  rintro ⟨r, hr, -⟩
  have hnone : gbMessageReceive true smallHeader false = none := rfl
  rw [hnone] at hr
  cases hr

end Greybus.Multiplex
