import Greybus.Basic
import Greybus.Reasoning.Memory
import Mathlib.Data.List.GetD

/-!
# Messages as bytes

What a message looks like on a socket.
-/

namespace Greybus

open Reasoning.Memory

/-- The `size` field of the header at the front of `msg`. -/
def msgSize (msg : List UInt8) : Nat := le16 (msg.getD 0 0) (msg.getD 1 0)

/-- A 16-bit field, the low byte first. -/
def le16Bytes (v : UInt16) : List UInt8 := [UInt8.ofNat v.toNat, UInt8.ofNat (v.toNat / 256)]

def OperationHdr.bytes (hdr : OperationHdr) : List UInt8 :=
  le16Bytes hdr.size ++ le16Bytes hdr.id ++ [hdr.type, hdr.result] ++ le16Bytes hdr.pad

def Message.bytes (m : Message) : List UInt8 := m.hdr.bytes ++ m.payload

/-- A call of `greybus_rx_handler`; the size is the length of the message. -/
structure RxCall where
  cport : Nat
  msg : List UInt8
  deriving DecidableEq, Repr

theorem msgSize_append {msg : List UInt8} (h : 2 ≤ msg.length) (rest : List UInt8) :
    msgSize (msg ++ rest) = msgSize msg := by
  rw [msgSize, msgSize, List.getD_append _ _ _ _ (by omega), List.getD_append _ _ _ _ (by omega)]

theorem msgSize_take {msg : List UInt8} {n : Nat} (hn : 2 ≤ n) (h : n ≤ msg.length) :
    msgSize (msg.take n) = msgSize msg := by
  have hlen : 2 ≤ (msg.take n).length := by rw [List.length_take]; omega
  rw [← msgSize_append hlen (msg.drop n), List.take_append_drop]

theorem Message.msgSize_bytes (m : Message) : msgSize m.bytes = m.hdr.size.toNat :=
  le16_split m.hdr.size.toNat_lt

end Greybus
