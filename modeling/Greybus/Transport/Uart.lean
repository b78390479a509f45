import Greybus.Transport.Message
import Greybus.Reasoning.PartialIO

/-!
# Messages on the UART transport

`gb_xport_send` and `uart_work_fn`.  All cports share the line; the cport of a message travels in
the pad bytes of its header.
-/

namespace Greybus.Uart

open Reasoning.Memory Reasoning.PartialIO

/-! ## The code -/

/-- `CPORT_ID_MAX`. -/
def cportIdMax : Nat := 4095

/-- `UART_RB_SIZE`: `GB_MTU + RB_PAD`. -/
def uartRbSize : Nat := gbMtu + 8

/-- Whether `gb_transport_backend_init` returns a backend; `uartInit` is the value of
`gb_xport_uart_init`. -/
def gbTransportBackendInit (numCports : Nat) (uartInit : Int) : Bool :=
  !decide (cportIdMax ≤ numCports) && !decide (uartInit < 0)

/-- The offset of `pad` in `struct gb_operation_hdr`. -/
def offsetofPad : Nat := 6

/-- The bytes that `sendMessage` passes to `uart_poll_out`; a message shorter than its size says is
read outside its buffer. -/
def sendMessage (msg : List UInt8) : Option (List UInt8) :=
  if msgSize msg ≤ msg.length then some (msg.take (msgSize msg)) else none

/-- `gb_xport_send`: the return value and the bytes on the line; a null pointer is `none`.  The low
byte of the cport is stored before the size is looked at. -/
def gbXportSend (cport : Nat) (buf : Option (List UInt8)) (len : Nat) :
    Option (Int × List UInt8) :=
  match buf with
  | none => some (-EINVAL, [])
  | some buf =>
    (store buf offsetofPad [UInt8.ofNat cport]).bind fun msg =>
      if msgSize msg ≠ len ∨ len < sizeofHdr then some (-EINVAL, [])
      else (sendMessage msg).map fun bytes => (0, bytes)

/-- `sys_le16_to_cpu(*((uint16_t *)msg->pad))`. -/
def padCport (msg : List UInt8) : Nat :=
  le16 (msg.getD offsetofPad 0) (msg.getD (offsetofPad + 1) 0)

/-- The call of `greybus_rx_handler` that `uart_work_fn` makes. -/
def rxCall (msg : List UInt8) : RxCall := ⟨padCport msg, msg⟩

/-- `payload_size`, when `uart_work_fn` does not drop the header. -/
def payloadSize (hdr : List UInt8) : Option Nat :=
  if msgSize hdr < sizeofHdr then none
  else if msgSize hdr - sizeofHdr > gbMaxPayloadSize then none
  else some (msgSize hdr - sizeofHdr)

/-- `uart_work_fn` on a ring buffer that gets no more bytes: its call of `greybus_rx_handler`, if it
makes one, and the ring buffer afterwards; it is `none` when the function goes on waiting. -/
def uartWorkFn (ring : List UInt8) : Option (Option RxCall × List UInt8) :=
  if ring.length < sizeofHdr then none
  else
    let hdr := ring.take sizeofHdr
    let ring := ring.drop sizeofHdr
    match payloadSize hdr with
    | none => some (none, ring)
    | some n =>
      if ring.length < n then none
      else some (some (rxCall (hdr ++ ring.take n)), ring.drop n)

/-! ## There and back -/

/-- The messages differ in their pad bytes at most. -/
def SameButPad (msg msg' : List UInt8) : Prop :=
  msg.length = msg'.length ∧ msg.take offsetofPad = msg'.take offsetofPad ∧
    msg.drop sizeofHdr = msg'.drop sizeofHdr

/-- The message is sent, and what goes over the line is handed to `greybus_rx_handler` as the same
message for the same cport. -/
def RoundTrips (cport : Nat) (buf : List UInt8) : Prop :=
  ∃ bytes msg, gbXportSend cport (some buf) buf.length = some (0, bytes) ∧
    uartWorkFn bytes = some (some ⟨cport, msg⟩, []) ∧ SameButPad msg buf

-- A message that is as long as its size says is received whole.
theorem uartWorkFn_message {msg : List UInt8} (hsize : msgSize msg = msg.length)
    (hlen : sizeofHdr ≤ msg.length) :
    uartWorkFn msg =
      if gbMtu < msg.length then some (none, msg.drop sizeofHdr)
      else some (some (rxCall msg), []) := by
  have hmtu : gbMaxPayloadSize = gbMtu - sizeofHdr := rfl
  have hle : sizeofHdr ≤ gbMtu := by decide
  have hhdr : msgSize (msg.take sizeofHdr) = msg.length := by
    rw [msgSize_take (by decide) hlen, hsize]
  unfold uartWorkFn payloadSize
  rw [if_neg (by omega)]
  simp only [hhdr]
  rw [if_neg (by omega)]
  by_cases hbig : gbMtu < msg.length
  · rw [if_pos (by omega), if_pos hbig]
  · rw [if_neg (by omega), if_neg hbig]
    have hrest : (msg.drop sizeofHdr).length = msg.length - sizeofHdr := List.length_drop
    simp only [hrest, Nat.lt_irrefl, if_false]
    rw [← hrest, List.take_length, List.drop_length, List.take_append_drop]

/-- The message with the low byte of the cport in its pad. -/
def padded (cport : Nat) (buf : List UInt8) : List UInt8 :=
  buf.take offsetofPad ++ [UInt8.ofNat cport] ++ buf.drop (offsetofPad + 1)

theorem length_padded {cport : Nat} {buf : List UInt8} (hlen : offsetofPad < buf.length) :
    (padded cport buf).length = buf.length := by
  unfold padded
  simp only [List.length_append, List.length_take, List.length_singleton, List.length_drop]
  omega

theorem msgSize_padded {cport : Nat} {buf : List UInt8} (hlen : offsetofPad < buf.length) :
    msgSize (padded cport buf) = msgSize buf := by
  have hpad : 2 ≤ (buf.take offsetofPad).length := by
    rw [List.length_take]
    unfold offsetofPad at hlen ⊢
    omega
  unfold padded
  rw [List.append_assoc, msgSize_append hpad, msgSize_take (by decide) (Nat.le_of_lt hlen)]

theorem padCport_padded {cport : Nat} {buf : List UInt8} (hlen : sizeofHdr ≤ buf.length) :
    padCport (padded cport buf) = cport % 256 + 256 * (buf.getD 7 0).toNat := by
  have hfront : (buf.take offsetofPad).length = offsetofPad := by
    rw [List.length_take]
    exact Nat.min_eq_left (Nat.le_trans (by decide) hlen)
  have hlow : (padded cport buf).getD offsetofPad 0 = UInt8.ofNat cport := by
    unfold padded
    rw [List.append_assoc, List.getD_append_right _ _ _ _ (Nat.le_of_eq hfront), hfront]
    rfl
  have hhigh : (padded cport buf).getD (offsetofPad + 1) 0 = buf.getD 7 0 := by
    unfold padded
    rw [List.append_assoc, List.getD_append_right _ _ _ _ (by omega), hfront,
      show offsetofPad + 1 - offsetofPad = 0 + 1 by omega, List.singleton_append,
      List.getD_cons_succ, List.getD_eq_getElem?_getD, List.getElem?_drop,
      List.getD_eq_getElem?_getD]
    rfl
  unfold padCport
  rw [hlow, hhigh]
  unfold le16
  rw [UInt8.toNat_ofNat']

theorem sameButPad_padded {cport : Nat} {buf : List UInt8} (hlen : sizeofHdr ≤ buf.length) :
    SameButPad (padded cport buf) buf := by
  have hpad : offsetofPad < buf.length := Nat.lt_of_lt_of_le (by decide) hlen
  have hfront : (buf.take offsetofPad).length = offsetofPad := by
    rw [List.length_take]
    exact Nat.min_eq_left (Nat.le_of_lt hpad)
  refine ⟨length_padded hpad, ?_, ?_⟩
  · unfold padded
    rw [List.append_assoc, List.take_append_of_le_length (Nat.le_of_eq hfront.symm),
      List.take_take, Nat.min_self]
  · unfold padded
    rw [show sizeofHdr = (buf.take offsetofPad ++ [UInt8.ofNat cport]).length + 1 by
      rw [List.length_append, hfront]; rfl, List.drop_length_add_append, List.drop_drop,
      List.length_append, hfront]
    rfl

theorem gbXportSend_eq {cport : Nat} {buf : List UInt8} (hlen : sizeofHdr ≤ buf.length)
    (hsize : msgSize buf = buf.length) :
    gbXportSend cport (some buf) buf.length = some (0, padded cport buf) := by
  have hpad : offsetofPad < buf.length := Nat.lt_of_lt_of_le (by decide) hlen
  have hstore : store buf offsetofPad [UInt8.ofNat cport] = some (padded cport buf) :=
    if_pos hpad
  have hpsize : msgSize (padded cport buf) = buf.length := (msgSize_padded hpad).trans hsize
  have hplen : (padded cport buf).length = buf.length := length_padded hpad
  unfold gbXportSend
  simp only [hstore, Option.bind_some]
  rw [if_neg (by omega), sendMessage, if_pos (by omega), hpsize, ← hplen, List.take_length]
  rfl

-- What is sent is as long as its size says.
theorem size_of_gbXportSend {cport : Nat} {buf bytes : List UInt8}
    (h : gbXportSend cport (some buf) buf.length = some (0, bytes)) :
    msgSize buf = buf.length ∧ sizeofHdr ≤ buf.length := by
  unfold gbXportSend at h
  obtain ⟨msg, hstore, hsend⟩ := Option.bind_eq_some_iff.mp h
  unfold store at hstore
  rw [Option.ite_none_right_eq_some, Option.some.injEq] at hstore
  obtain ⟨hpad, rfl⟩ := hstore
  have hsize : msgSize (padded cport buf) = msgSize buf := msgSize_padded hpad
  by_cases hbad : msgSize buf ≠ buf.length ∨ buf.length < sizeofHdr
  · have hret : (-EINVAL, []) = ((0 : Int), bytes) := by
      rw [← Option.some.injEq, ← hsend]
      exact (if_pos (hsize ▸ hbad)).symm
    exact absurd (congrArg Prod.fst hret) (show -EINVAL ≠ 0 by decide)
  · omega

/-- A message arrives for its cport exactly when it is one that is sent, is not longer than
`GB_MTU`, and has the high byte of the cport in its second pad byte already. -/
theorem roundTrips_iff (cport : Nat) (buf : List UInt8) :
    RoundTrips cport buf ↔ msgSize buf = buf.length ∧ sizeofHdr ≤ buf.length ∧
      buf.length ≤ gbMtu ∧ (buf.getD 7 0).toNat = cport / 256 := by
  constructor
  · rintro ⟨bytes, msg, hsend, hwork, -⟩
    obtain ⟨hsize, hlen⟩ := size_of_gbXportSend hsend
    have hpad : offsetofPad < buf.length := Nat.lt_of_lt_of_le (by decide) hlen
    have hplen : (padded cport buf).length = buf.length := length_padded hpad
    have hpsize : msgSize (padded cport buf) = buf.length := (msgSize_padded hpad).trans hsize
    rw [gbXportSend_eq hlen hsize, Option.some.injEq, Prod.mk.injEq] at hsend
    rw [← hsend.2, uartWorkFn_message (by omega) (by omega), hplen] at hwork
    split at hwork
    · cases hwork
    next hmtu =>
      simp only [Option.some.injEq, Prod.mk.injEq, and_true, rxCall, RxCall.mk.injEq] at hwork
      have hcp := hwork.1
      rw [padCport_padded hlen] at hcp
      omega
  · rintro ⟨hsize, hlen, hmtu, hhigh⟩
    refine ⟨padded cport buf, padded cport buf, gbXportSend_eq hlen hsize, ?_,
      sameButPad_padded hlen⟩
    have hpad : offsetofPad < buf.length := Nat.lt_of_lt_of_le (by decide) hlen
    have hplen : (padded cport buf).length = buf.length := length_padded hpad
    rw [uartWorkFn_message (by rw [msgSize_padded hpad, hplen, hsize]) (by omega),
      if_neg (by omega), rxCall, padCport_padded hlen, hhigh, Nat.mod_add_div]

/-- A ping with the request id 1 and empty pad bytes. -/
def ping : List UInt8 := [8, 0, 1, 0, 0, 0, 0, 0]

-- The cport 256 is admitted, and its message arrives for the cport 0.
theorem roundTrips_high :
    gbTransportBackendInit 300 0 = true ∧ gbXportSend 256 (some ping) 8 = some (0, ping) ∧
      uartWorkFn ping = some (some ⟨0, ping⟩, []) ∧ ¬ RoundTrips 256 ping := by
  have hsend : gbXportSend 256 (some ping) 8 = some (0, ping) := by decide
  have hwork : uartWorkFn ping = some (some ⟨0, ping⟩, []) := by decide
  refine ⟨by decide, hsend, hwork, ?_⟩
  rintro ⟨bytes, msg, hsend', hwork', -⟩
  obtain rfl : ping = bytes := congrArg Prod.snd (Option.some.inj (hsend.symm.trans hsend'))
  rw [hwork] at hwork'
  exact absurd hwork' (by simp)

end Greybus.Uart
