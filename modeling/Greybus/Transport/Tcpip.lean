import Greybus.Transport.Message
import Greybus.Reasoning.PartialIO

/-!
# Messages on the per-CPort TCP/IP transport

`getMessage` and `sendMessage`.  The stream of a connection is a sequence of messages, each as long
as its own size field says.
-/

namespace Greybus.Tcpip

open Reasoning.PartialIO

/-! ## The code -/

/-- `realloc` that gives a buffer: the old bytes as far as they fit. -/
def realloc (msg : List UInt8) (size : Nat) : List UInt8 := (msg ++ List.replicate size 0).take size

/-- What `getMessage` returns, `*msg`, where `none` is the null pointer, and the socket. -/
structure GotMessage where
  ret : Int
  msg : Option (List UInt8)
  source : Source UInt8

/-- The value that `getMessage` returns when `recv` delivers nothing. -/
def recvRet : Stop → Int
  | .zero => 0
  | .failed errno => -errno

/-- `getMessage` from `payload_size` on. -/
def getPayload (fits : Nat → Bool) (s : Source UInt8) (hdr : List UInt8) : Option GotMessage :=
  let payloadSize := msgSize hdr - sizeofHdr
  if payloadSize > gbMaxPayloadSize then some ⟨-EINVAL, some hdr, s⟩
  else if payloadSize > 0 then
    if !fits (msgSize hdr) then some ⟨-ENOMEM, some hdr, s⟩
    else
      (fill payloadSize s (realloc hdr (msgSize hdr)) sizeofHdr payloadSize).map fun r =>
      match r.stopped with
      | some stop => ⟨recvRet stop, some r.buf, r.source⟩
      | none => ⟨msgSize hdr, some r.buf, r.source⟩
  else some ⟨msgSize hdr, some hdr, s⟩

/-- `getMessage`, when `realloc` finds room for the sizes that fit; a store outside the buffer is
`none`.  The argument is the pointer `msg` and what it points to. -/
def getMessage (fits : Nat → Bool) (s : Source UInt8) :
    Option (Option (List UInt8)) → Option GotMessage
  | none => some ⟨-EINVAL, none, s⟩
  | some msg =>
    if !fits sizeofHdr then some ⟨-ENOMEM, msg, s⟩
    else
      (fill sizeofHdr s (realloc (msg.getD []) sizeofHdr) 0 sizeofHdr).bind fun r =>
      match r.stopped with
      | some stop => some ⟨recvRet stop, some r.buf, r.source⟩
      | none =>
        if msgSize r.buf < sizeofHdr then some ⟨-EINVAL, some r.buf, r.source⟩
        else getPayload fits r.source r.buf

/-- The value that `sendMessage` returns. -/
def sendRet : Option Stop → Int
  | none => 0
  | some .zero => -ENOTCONN
  | some (.failed errno) => -errno

/-- `sendMessage`; a message shorter than its size says is read outside its buffer. -/
def sendMessage (s : Sink UInt8) (msg : List UInt8) : Option (Int × Sink UInt8) :=
  if msgSize msg ≤ msg.length then
    (drain (msgSize msg) s (msg.take (msgSize msg))).map fun r => (sendRet r.1, r.2)
  else none

/-! ## Receiving a message -/

/-- A whole message of the size `r` arrives. -/
structure Arrives (s : Source UInt8) (r : Nat) : Prop where
  hdr_le : sizeofHdr ≤ s.pending.length
  size_eq : msgSize s.pending = r
  le_size : sizeofHdr ≤ r
  size_le : r ≤ gbMtu
  le_length : r ≤ s.pending.length

/-- `realloc` finds room for a message of the size `r`. -/
def HasRoom (fits : Nat → Bool) (r : Nat) : Prop :=
  fits sizeofHdr = true ∧ (r = sizeofHdr ∨ fits r = true)

/-- What `getMessage` does: it receives one message, or fails. -/
inductive Got (fits : Nat → Bool) (s : Source UInt8) : GotMessage → Prop
  | message {r : Nat} {s' : Source UInt8} : Arrives s r → HasRoom fits r →
      s'.pending = s.pending.drop r →
      Got fits s ⟨r, some (s.pending.take r), s'⟩
  | failed {got : GotMessage} : got.ret ≤ 0 → (∀ r, ¬ (Arrives s r ∧ HasRoom fits r)) →
      Got fits s got

theorem length_realloc (msg : List UInt8) (size : Nat) : (realloc msg size).length = size := by
  simp [realloc]

theorem realloc_append {msg : List UInt8} {size : Nat} (h : msg.length ≤ size) :
    realloc msg size = msg ++ List.replicate (size - msg.length) 0 := by
  rw [realloc, List.take_append, List.take_of_length_le h, List.take_replicate]
  congr 2
  omega

theorem recvRet_le (stop : Stop) : recvRet stop ≤ 0 := by
  cases stop with
  | zero => exact Int.le_refl 0
  | failed errno => simp [recvRet]

-- The second half, after the header has been read.
theorem getPayload_got {fits : Nat → Bool} {s s' : Source UInt8} (hfits : fits sizeofHdr = true)
    (hlen : sizeofHdr ≤ s.pending.length) (hs' : s'.pending = s.pending.drop sizeofHdr)
    (hsize : sizeofHdr ≤ msgSize s.pending) :
    ∃ got, getPayload fits s' (s.pending.take sizeofHdr) = some got ∧ Got fits s got := by
  have hhdr : msgSize (s.pending.take sizeofHdr) = msgSize s.pending :=
    msgSize_take (by decide) hlen
  have hhdrlen : (s.pending.take sizeofHdr).length = sizeofHdr := by simpa using hlen
  have hmtu : gbMaxPayloadSize = gbMtu - sizeofHdr := rfl
  have hle : sizeofHdr ≤ gbMtu := by decide
  rw [getPayload, hhdr]
  by_cases hbig : msgSize s.pending - sizeofHdr > gbMaxPayloadSize
  · refine ⟨_, if_pos hbig, .failed (show -EINVAL ≤ 0 by decide) fun r hr => ?_⟩
    have hr' := hr.1.size_eq ▸ hr.1.size_le
    omega
  simp only [if_neg hbig]
  by_cases hpay : msgSize s.pending - sizeofHdr > 0
  swap
  · have hbare : msgSize s.pending = sizeofHdr := by omega
    rw [if_neg hpay, hbare]
    exact ⟨_, rfl, .message ⟨hlen, hbare, Nat.le_refl _, hle, hlen⟩ ⟨hfits, .inl rfl⟩ hs'⟩
  rw [if_pos hpay]
  cases hroom : fits (msgSize s.pending) with
  | false =>
    refine ⟨_, if_pos rfl, .failed (show -ENOMEM ≤ 0 by decide) fun r hr => ?_⟩
    obtain rfl := hr.1.size_eq
    rcases hr.2.2 with hbare | hfit
    · omega
    · simp [hroom] at hfit
  | true =>
    rw [if_neg (by simp)]
    obtain ⟨r, hr, hfilled⟩ := fill_filled s' (s.pending.take sizeofHdr) []
      (Nat.le_refl (msgSize s.pending - sizeofHdr))
      (List.length_replicate : (List.replicate (msgSize s.pending - sizeofHdr) (0 : UInt8)).length
        = msgSize s.pending - sizeofHdr)
    rw [List.append_nil, hhdrlen] at hr
    have hbuf := realloc_append (hhdrlen.le.trans hsize)
    rw [hhdrlen] at hbuf
    rw [hbuf, hr, Option.map_some]
    refine ⟨_, rfl, ?_⟩
    cases hfilled with
    | complete hdone hs'' =>
      rw [hs', List.length_drop] at hdone
      have hall : s.pending.take sizeofHdr
          ++ (s.pending.drop sizeofHdr).take (msgSize s.pending - sizeofHdr)
            = s.pending.take (msgSize s.pending) := by
        rw [← List.take_add, Nat.add_sub_cancel' hsize]
      simp only [hs', hall, List.append_nil]
      refine .message ⟨hlen, rfl, hsize, by omega, by omega⟩ ⟨hfits, .inr hroom⟩ ?_
      rw [hs'', hs', List.drop_drop, Nat.add_sub_cancel' hsize]
    | ended hshort =>
      rw [hs', List.length_drop] at hshort
      refine .failed (recvRet_le _) fun r hr => ?_
      have hr' := hr.1.size_eq ▸ hr.1.le_length
      omega

-- No store of the two loops misses the buffer.
theorem getMessage_got (fits : Nat → Bool) (s : Source UInt8) (msg : Option (List UInt8)) :
    ∃ got, getMessage fits s (some msg) = some got ∧ Got fits s got := by
  rw [getMessage]
  cases hfits : fits sizeofHdr with
  | false =>
    refine ⟨_, if_pos rfl, .failed (show -ENOMEM ≤ 0 by decide) fun r hr => ?_⟩
    have hfit := hr.2.1
    simp [hfits] at hfit
  | true =>
    rw [if_neg (by simp)]
    obtain ⟨r, hr, hfilled⟩ := fill_filled s [] [] (Nat.le_refl sizeofHdr)
      (length_realloc (msg.getD []) sizeofHdr)
    rw [List.append_nil, List.nil_append, List.length_nil] at hr
    rw [hr, Option.bind_some]
    cases hfilled with
    | ended hshort =>
      refine ⟨_, rfl, .failed (recvRet_le _) fun r hr => ?_⟩
      have hr' := hr.1.hdr_le
      omega
    | complete hlen hs' =>
      have hhdr : msgSize (s.pending.take sizeofHdr) = msgSize s.pending :=
        msgSize_take (by decide) hlen
      simp only [List.nil_append, List.append_nil, hhdr]
      by_cases hsize : msgSize s.pending < sizeofHdr
      · refine ⟨_, if_pos hsize, .failed (show -EINVAL ≤ 0 by decide) fun r hr => ?_⟩
        have hr' := hr.1.size_eq ▸ hr.1.le_size
        omega
      · rw [if_neg hsize]
        exact getPayload_got hfits hlen hs' (by omega)

/-- What `getMessage` promises: it returns the size of the message that arrives, when there is room
for it, and then it has taken just that message off the stream. -/
structure Receives (fits : Nat → Bool) (s : Source UInt8) (got : GotMessage) : Prop where
  ret_iff : ∀ r : Nat, 0 < r → (got.ret = r ↔ Arrives s r ∧ HasRoom fits r)
  consumed : ∀ r : Nat, 0 < r → got.ret = r → got.source.pending = s.pending.drop r
  msg_eq : ∀ r : Nat, 0 < r → got.ret = r → got.msg = some (s.pending.take r)

theorem Got.receives {fits : Nat → Bool} {s : Source UInt8} {got : GotMessage}
    (h : Got fits s got) : Receives fits s got := by
  cases h with
  | @message r s' harrives hroom hs' =>
    have hret : ∀ r' : Nat, (r : Int) = r' → r = r' := fun r' h => Int.ofNat_inj.mp h
    refine ⟨fun r' _ => ⟨fun h => hret r' h ▸ ⟨harrives, hroom⟩, fun h => ?_⟩, ?_, ?_⟩
    · rw [← h.1.size_eq, harrives.size_eq]
    · intro r' _ h
      rw [hs', hret r' h]
    · intro r' _ h
      rw [hret r' h]
  | failed hneg hnone =>
    have hne : ∀ r : Nat, 0 < r → got.ret ≠ r := fun r hr h => by omega
    exact ⟨fun r hr => ⟨fun h => absurd h (hne r hr), fun h => absurd h (hnone r)⟩,
      fun r hr h => absurd h (hne r hr), fun r hr h => absurd h (hne r hr)⟩

/-! ## Sending and receiving -/

/-- A message as long as its size says, and not too long to be received. -/
structure Sized (m : List UInt8) : Prop where
  size_eq : msgSize m = m.length
  hdr_le : sizeofHdr ≤ m.length
  length_le : m.length ≤ gbMtu

/-- Successive calls of `sendMessage`, and what they return. -/
def sendMessages : List (List UInt8) → Sink UInt8 → Option (List Int × Sink UInt8)
  | [], s => some ([], s)
  | m :: ms, s =>
    (sendMessage s m).bind fun r => (sendMessages ms r.2).map fun rs => (r.1 :: rs.1, rs.2)

/-- Successive calls of `getMessage` that all find room, what they return and the messages. -/
def getMessages : Nat → Source UInt8 → Option (List (Int × Option (List UInt8)) × Source UInt8)
  | 0, s => some ([], s)
  | n + 1, s =>
    (getMessage (fun _ => true) s (some none)).bind fun (r : GotMessage) =>
    (getMessages n r.source).map fun rs => ((r.ret, r.msg) :: rs.1, rs.2)

theorem sendMessage_accepts {s : Sink UInt8} (hs : s.Accepts) {m : List UInt8} (hm : Sized m) :
    ∃ s', sendMessage s m = some (0, s') ∧ s'.written = s.written ++ m ∧ s'.Accepts := by
  obtain ⟨r, hr, hdrained⟩ := drain_drained s (Nat.le_refl m.length)
  obtain ⟨hnone, hwritten, haccepts⟩ := hdrained.of_accepts hs
  refine ⟨r.2, ?_, hwritten, haccepts⟩
  rw [sendMessage, hm.size_eq, if_pos (Nat.le_refl _), List.take_length, hr, Option.map_some, hnone]
  rfl

theorem sendMessages_accepts {ms : List (List UInt8)} (hms : ∀ m ∈ ms, Sized m) {s : Sink UInt8}
    (hs : s.Accepts) :
    ∃ s', sendMessages ms s = some (ms.map fun _ => 0, s') ∧
      s'.written = s.written ++ ms.flatten := by
  induction ms generalizing s with
  | nil => exact ⟨s, rfl, by simp⟩
  | cons m ms ih =>
    obtain ⟨s₁, hsend, hwritten, hs₁⟩ := sendMessage_accepts hs (hms m List.mem_cons_self)
    obtain ⟨s', hall, hs'⟩ := ih (fun m' hm' => hms m' (List.mem_cons_of_mem m hm')) hs₁
    exact ⟨s', by simp [sendMessages, hsend, hall], by rw [hs', hwritten]; simp⟩

-- A message at the front of the stream is received.
theorem getMessage_front {s : Source UInt8} {m rest : List UInt8} (hm : Sized m)
    (hpending : s.pending = m ++ rest) (msg : Option (List UInt8)) :
    ∃ s', getMessage (fun _ => true) s (some msg) = some ⟨m.length, some m, s'⟩ ∧
      s'.pending = rest := by
  have hhdr := hm.hdr_le
  have hpos : 0 < m.length := lt_of_lt_of_le (by decide) hhdr
  have harrives : Arrives s m.length := by
    refine ⟨?_, ?_, hhdr, hm.length_le, ?_⟩
    · rw [hpending, List.length_append]
      omega
    · rw [hpending, msgSize_append (le_trans (by decide) hhdr), hm.size_eq]
    · rw [hpending, List.length_append]
      omega
  obtain ⟨got, hgot, hspec⟩ := getMessage_got (fun _ => true) s msg
  have hret := (hspec.receives.ret_iff m.length hpos).mpr ⟨harrives, rfl, .inr rfl⟩
  have hsource := hspec.receives.consumed m.length hpos hret
  have hmsg := hspec.receives.msg_eq m.length hpos hret
  rw [hpending, List.drop_left] at hsource
  rw [hpending, List.take_left] at hmsg
  refine ⟨got.source, ?_, hsource⟩
  rw [hgot, ← hret, ← hmsg]

theorem getMessages_front {ms : List (List UInt8)} (hms : ∀ m ∈ ms, Sized m) {s : Source UInt8}
    {rest : List UInt8} (hpending : s.pending = ms.flatten ++ rest) :
    ∃ s', getMessages ms.length s = some (ms.map fun m => ((m.length : Int), some m), s') ∧
      s'.pending = rest := by
  induction ms generalizing s with
  | nil => exact ⟨s, rfl, hpending⟩
  | cons m ms ih =>
    rw [List.flatten_cons, List.append_assoc] at hpending
    obtain ⟨s₁, hget, hs₁⟩ := getMessage_front (hms m List.mem_cons_self) hpending none
    obtain ⟨s', hall, hs'⟩ := ih (fun m' hm' => hms m' (List.mem_cons_of_mem m hm')) hs₁
    exact ⟨s', by simp [getMessages, hget, hall], hs'⟩

/-- `getMessage` receives exactly the messages that arrive whole and that it has room for, it always
comes back and never stores outside its buffer; and whatever is sent in pieces by successive calls
of `sendMessage` is received, however the stream is cut up, by as many calls of `getMessage`. -/
theorem getMessage_sendMessage {ms : List (List UInt8)} (hms : ∀ m ∈ ms, Sized m)
    {sink : Sink UInt8} (hsink : sink.Accepts) :
    (∀ fits s msg, ∃ got, getMessage fits s (some msg) = some got ∧ Receives fits s got) ∧
      ∃ sink', sendMessages ms sink = some (ms.map fun _ => 0, sink') ∧
        sink'.written = sink.written ++ ms.flatten ∧
        ∀ (s : Source UInt8) (rest : List UInt8), s.pending = ms.flatten ++ rest →
          ∃ s', getMessages ms.length s = some (ms.map fun m => ((m.length : Int), some m), s') ∧
            s'.pending = rest := by
  refine ⟨fun fits s msg => ?_, ?_⟩
  · obtain ⟨got, hgot, hspec⟩ := getMessage_got fits s msg
    exact ⟨got, hgot, hspec.receives⟩
  · obtain ⟨sink', hsend, hwritten⟩ := sendMessages_accepts hms hsink
    exact ⟨sink', hsend, hwritten, fun s rest hs => getMessages_front hms hs⟩

/-- A request without payload, and one of two bytes. -/
def twoMessages : List (List UInt8) := [[8, 0, 1, 0, 1, 0, 0, 0], [10, 0, 2, 0, 2, 0, 0, 0, 5, 6]]

theorem getMessage_sendMessage_two :
    ∃ sink', sendMessages twoMessages ⟨[], fun n => .ok (n % 3), 0⟩ = some ([0, 0], sink') ∧
      ∃ s', getMessages 2 ⟨twoMessages.flatten ++ [], .zero, fun n => n % 3, 0⟩
        = some ([(8, some [8, 0, 1, 0, 1, 0, 0, 0]), (10, some [10, 0, 2, 0, 2, 0, 0, 0, 5, 6])],
          s') := by
  have hms : ∀ m ∈ twoMessages, Sized m := by
    intro m hm
    simp only [twoMessages, List.mem_cons, List.not_mem_nil, or_false] at hm
    rcases hm with rfl | rfl <;> exact ⟨by decide, by decide, by decide⟩
  obtain ⟨-, sink', hsend, -, hget⟩ := getMessage_sendMessage hms
    (show (⟨[], fun n => .ok (n % 3), 0⟩ : Sink UInt8).Accepts from fun n => ⟨n % 3, rfl⟩)
  obtain ⟨s', hs', -⟩ := hget ⟨twoMessages.flatten ++ [], .zero, fun n => n % 3, 0⟩ [] rfl
  exact ⟨sink', hsend, s', hs'⟩

-- A message arrives whole and there is no room for it.
theorem getMessage_noRoom :
    Arrives ⟨[8, 0, 1, 0, 1, 0, 0, 0], .zero, fun _ => 8, 0⟩ 8 ∧
      (getMessage (fun _ => false) ⟨[8, 0, 1, 0, 1, 0, 0, 0], .zero, fun _ => 8, 0⟩
        (some none)).map (·.ret) = some (-ENOMEM) :=
  ⟨⟨by decide, by decide, by decide, by decide, by decide⟩, by decide⟩

end Greybus.Tcpip
