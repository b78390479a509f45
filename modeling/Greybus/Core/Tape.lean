import Greybus.Core.Receive
import Greybus.Reasoning.Transition

/-!
# Recording and replaying

`gb_tape_communication`, `gb_tape_stop` and `gb_tape_replay`.  A tape has no marks between its
records: the reader goes by the sizes alone.
-/

namespace Greybus

open Reasoning.Memory Reasoning.Transition

variable {σ : Type*}

/-! ## The code -/

/-- `CPORT_BUF_SIZE`. -/
def cportBufSize : Nat := 2048

/-- `gb_tape_communication`. -/
def gbTapeCommunication (pathname : String) (tape : Tape σ) : Int × Tape σ :=
  match tape.mechanism with
  | none => (-EINVAL, tape)
  | some T =>
    if 0 ≤ tape.fd then (-EBUSY, tape)
    else
      let (fd, world) := T.tapeOpen pathname .wronly tape.world
      (if fd < 0 then fd else 0, { tape with fd := fd, world := world })

/-- `gb_tape_stop`. -/
def gbTapeStop (tape : Tape σ) : Int × Tape σ :=
  match tape.mechanism with
  | none => (-EINVAL, tape)
  | some T =>
    if tape.fd < 0 then (-EINVAL, tape)
    else (0, { tape with fd := -EBADF, world := T.tapeClose tape.fd tape.world })

/-- The field of a record header at the offset `i`. -/
def recordField (hdr : List UInt8) (i : Nat) : Nat := le16 (hdr.getD i 0) (hdr.getD (i + 1) 0)

/-- The loop of `gb_tape_replay`: what it returns, and its calls of `greybus_rx_handler`; `cores` is
the core that the call of a round meets.  A read past the end of the buffer is `none`. -/
def replayLoop (T : TapeMechanism σ) (cores : Nat → Core) (fd : Int) :
    Nat → Tape σ → Option (Int × List RxCall × Tape σ)
  | 0, _ => none
  | rounds + 1, tape =>
    let (nread, hdr, world) := T.tapeRead fd sizeofRecordHeader tape.world
    let tape := { tape with world := world }
    if nread = 0 then some (0, [], tape)
    else if nread ≠ sizeofRecordHeader then some (- EIO, [], tape)
    else
      let size := recordField hdr 0
      let (nread, msg, world) := T.tapeRead fd size tape.world
      let tape := { tape with world := world }
      if cportBufSize < msg.length then none
      else if (size : Int) ≠ nread then some (- EIO, [], tape)
      else
        let call : RxCall := ⟨recordField hdr 2, msg⟩
        (replayLoop T cores fd rounds (tape.rx (cores rounds) call.cport (some call.msg))).map
          fun (ret, calls, tape) => (ret, call :: calls, tape)

/-- `gb_tape_replay` with at most `rounds` rounds of its loop; `memory` says whether `malloc` gives
the buffer. -/
def gbTapeReplay (pathname : Option String) (memory : Bool) (cores : Nat → Core) (rounds : Nat)
    (tape : Tape σ) : Option (Int × List RxCall × Tape σ) :=
  match pathname, tape.mechanism with
  | some pathname, some T =>
    let (fd, world) := T.tapeOpen pathname .rdonly tape.world
    let tape := { tape with world := world }
    let close := fun tape : Tape σ => { tape with world := T.tapeClose fd tape.world }
    if fd < 0 then some (fd, [], tape)
    else if !memory then some (-ENOMEM, [], close tape)
    else (replayLoop T cores fd rounds tape).map fun (ret, calls, tape) => (ret, calls, close tape)
  | _, _ => some (-EINVAL, [], tape)

/-! ## A mechanism that keeps what is written -/

/-- Reads return the bytes written, in order, and 0 at the end. -/
structure TapeLaws (T : TapeMechanism σ) (pathname : String) where
  -- The descriptor is open for writing, and so much has been written.
  Writing : Int → List UInt8 → σ → Prop
  -- So much is on the tape.
  Holds : List UInt8 → σ → Prop
  -- The descriptor is open for reading, and so much is left.
  Reading : Int → List UInt8 → σ → Prop
  open_wronly : ∀ w, 0 ≤ (T.tapeOpen pathname .wronly w).1 →
    Writing (T.tapeOpen pathname .wronly w).1 [] (T.tapeOpen pathname .wronly w).2
  write : ∀ fd bytes data w, Writing fd bytes w →
    Writing fd (bytes ++ data) (T.tapeWrite fd data w).2
  close : ∀ fd bytes w, Writing fd bytes w → Holds bytes (T.tapeClose fd w)
  open_rdonly : ∀ bytes w, Holds bytes w → 0 ≤ (T.tapeOpen pathname .rdonly w).1 →
    Reading (T.tapeOpen pathname .rdonly w).1 bytes (T.tapeOpen pathname .rdonly w).2
  read : ∀ fd bytes n w, Reading fd bytes w → ∃ w', Reading fd (bytes.drop n) w' ∧
    T.tapeRead fd n w = (((bytes.take n).length : Int), bytes.take n, w')

/-! ## Recording -/

/-- One call of `greybus_rx_handler`, with the core and the memory that it meets. -/
structure Reception where
  core : Core
  memory : Bool
  cport : Nat
  data : Option (List UInt8)

/-- The call, when its message passes the checks. -/
def Reception.accepted (r : Reception) : Option RxCall :=
  (rxCheck r.core r.cport r.data).toOption

def receive (tape : Tape σ) (r : Reception) : Option (Tape σ) :=
  (greybusRxHandler r.core r.memory r.cport r.data tape).map (·.2)

/-- What is on the tape for a call. -/
def RxCall.bytes (call : RxCall) : List UInt8 :=
  recordHeader call.msg.length call.cport ++ call.msg

/-- The record can be told from what follows it. -/
structure RxCall.Recordable (call : RxCall) : Prop where
  length_le : call.msg.length ≤ cportBufSize
  cport_lt : call.cport < 65536

variable {T : TapeMechanism σ} {pathname : String} {tape tape' : Tape σ} {fd : Int}
  {written : List UInt8} {call : RxCall} {calls : List RxCall}

/-- The tape is open, and so much has been written. -/
structure Recording (L : TapeLaws T pathname) (written : List UInt8) (tape : Tape σ) : Prop where
  mechanism : tape.mechanism = some T
  fd_nonneg : 0 ≤ tape.fd
  writing : L.Writing tape.fd written tape.world

theorem recording_of_start {L : TapeLaws T pathname} (hmech : tape.mechanism = some T)
    (h : gbTapeCommunication pathname tape = (0, tape')) : Recording L [] tape' := by
  unfold gbTapeCommunication at h
  rw [hmech] at h
  dsimp only at h
  split at h
  next => exact absurd (congrArg Prod.fst h) (show -EBUSY ≠ 0 by decide)
  next =>
    obtain ⟨hret, rfl⟩ := Prod.mk.inj h
    have hfd : 0 ≤ (T.tapeOpen pathname .wronly tape.world).1 := by
      by_contra hneg
      rw [if_pos (Int.not_le.mp hneg)] at hret
      exact hneg (Int.le_of_eq hret.symm)
    exact ⟨rfl, hfd, L.open_wronly tape.world hfd⟩

theorem Recording.of_record {L : TapeLaws T pathname} (h : Recording L written tape)
    (call : RxCall) : Recording L (written ++ call.bytes) (tape.record call) := by
  obtain ⟨hmech, hfd, hwriting⟩ := h
  unfold Tape.record
  simp only [hmech, if_neg (Int.not_lt.mpr hfd)]
  refine ⟨rfl, hfd, ?_⟩
  unfold RxCall.bytes
  rw [← List.append_assoc]
  exact L.write _ _ _ _ (L.write _ _ _ _ hwriting)

theorem Recording.of_receive {L : TapeLaws T pathname} (h : Recording L written tape)
    {r : Reception} (hr : receive tape r = some tape') :
    Recording L (written ++ r.accepted.toList.flatMap RxCall.bytes) tape' := by
  obtain ⟨⟨receipt, tape''⟩, hcall, rfl⟩ := Option.map_eq_some_iff.mp hr
  have htape := greybusRxHandler_tape hcall
  dsimp only at htape ⊢
  unfold Reception.accepted
  rw [htape]
  unfold Tape.rx
  split
  next ret herror =>
    rw [herror]
    simpa [Except.toOption] using h
  next call hok =>
    rw [hok]
    simpa [Except.toOption] using h.of_record call

-- The records follow each other in the order of the calls.
theorem Recording.of_run {L : TapeLaws T pathname} {rs : List Reception}
    (h : Recording L written tape) (hrun : run receive tape rs = some tape') :
    Recording L (written ++ (rs.filterMap Reception.accepted).flatMap RxCall.bytes) tape' := by
  induction rs generalizing written tape with
  | nil =>
    rw [run_nil, Option.some.injEq] at hrun
    rw [List.filterMap_nil, List.flatMap_nil, List.append_nil]
    exact hrun ▸ h
  | cons r rs ih =>
    obtain ⟨tape₁, hr, hrest⟩ := run_cons_eq_some.mp hrun
    have hall := ih (h.of_receive hr) hrest
    rw [List.append_assoc, ← List.flatMap_append] at hall
    cases haccepted : r.accepted with
    | none =>
      rw [haccepted, Option.toList_none, List.nil_append] at hall
      rwa [List.filterMap_cons_none haccepted]
    | some call =>
      rw [haccepted, Option.toList_some, List.singleton_append] at hall
      rwa [List.filterMap_cons_some haccepted]

/-- The recording is over, and so much is on the tape. -/
structure Recorded (L : TapeLaws T pathname) (written : List UInt8) (tape : Tape σ) : Prop where
  mechanism : tape.mechanism = some T
  fd_neg : tape.fd < 0
  holds : L.Holds written tape.world

theorem Recording.recorded {L : TapeLaws T pathname} (h : Recording L written tape)
    (hstop : gbTapeStop tape = (0, tape')) : Recorded L written tape' := by
  obtain ⟨hmech, hfd, hwriting⟩ := h
  unfold gbTapeStop at hstop
  rw [hmech] at hstop
  dsimp only at hstop
  rw [if_neg (Int.not_lt.mpr hfd), Prod.mk.injEq] at hstop
  obtain ⟨-, rfl⟩ := hstop
  exact ⟨rfl, show -EBADF < 0 by decide, L.close _ _ _ hwriting⟩

/-! ## Replaying -/

theorem length_recordHeader (size cport : Nat) :
    (recordHeader size cport).length = sizeofRecordHeader := rfl

theorem recordField_size {size : Nat} (h : size < 65536) (cport : Nat) :
    recordField (recordHeader size cport) 0 = size := by
  have hsize : (UInt16.ofNat size).toNat = size := by
    rw [UInt16.toNat_ofNat']
    exact Nat.mod_eq_of_lt h
  show le16 (UInt8.ofNat (UInt16.ofNat size).toNat)
    (UInt8.ofNat ((UInt16.ofNat size).toNat / 256)) = size
  rw [hsize, le16_split h]

theorem recordField_cport (size : Nat) {cport : Nat} (h : cport < 65536) :
    recordField (recordHeader size cport) 2 = cport := by
  have hcport : (UInt16.ofNat cport).toNat = cport := by
    rw [UInt16.toNat_ofNat']
    exact Nat.mod_eq_of_lt h
  show le16 (UInt8.ofNat (UInt16.ofNat cport).toNat)
    (UInt8.ofNat ((UInt16.ofNat cport).toNat / 256)) = cport
  rw [hcport, le16_split h]

-- Two reads take one record off the tape.
theorem read_record (L : TapeLaws T pathname) {w : σ} {rest : List UInt8}
    (h : L.Reading fd (call.bytes ++ rest) w) (hcall : call.Recordable) :
    ∃ w₁ w₂, T.tapeRead fd sizeofRecordHeader w
        = ((sizeofRecordHeader : Int), recordHeader call.msg.length call.cport, w₁) ∧
      T.tapeRead fd (recordField (recordHeader call.msg.length call.cport) 0) w₁
        = ((call.msg.length : Int), call.msg, w₂) ∧ L.Reading fd rest w₂ := by
  have hbuf : cportBufSize < 65536 := by decide
  have hlen := hcall.length_le
  unfold RxCall.bytes at h
  rw [List.append_assoc] at h
  obtain ⟨w₁, hreading, hread⟩ := L.read fd _ sizeofRecordHeader w h
  rw [← length_recordHeader call.msg.length call.cport, List.drop_left] at hreading
  rw [← length_recordHeader call.msg.length call.cport, List.take_left] at hread
  obtain ⟨w₂, hrest, hread'⟩ := L.read fd _ call.msg.length w₁ hreading
  rw [List.drop_left] at hrest
  rw [List.take_left] at hread'
  refine ⟨w₁, w₂, hread, ?_, hrest⟩
  rw [recordField_size (by omega), hread']

-- Each round of the loop makes the call of the next record; the round after the last ends it.
theorem replayLoop_records (L : TapeLaws T pathname) {cores : Nat → Core} {rounds : Nat}
    (h : L.Reading fd (calls.flatMap RxCall.bytes) tape.world) (hfd : tape.fd < 0)
    (hcalls : ∀ call ∈ calls, call.Recordable) (hrounds : calls.length < rounds) :
    ∃ tape', replayLoop T cores fd rounds tape = some (0, calls, tape') := by
  induction calls generalizing tape rounds with
  | nil =>
    obtain ⟨rounds, rfl⟩ := Nat.exists_eq_add_of_lt hrounds
    obtain ⟨w, -, hread⟩ := L.read fd _ sizeofRecordHeader _ h
    rw [List.flatMap_nil, List.take_nil] at hread
    refine ⟨{ tape with world := w }, ?_⟩
    unfold replayLoop
    rw [hread]
    rfl
  | cons call calls ih =>
    obtain ⟨rounds, rfl⟩ : ∃ n, rounds = n + 1 := Nat.exists_eq_succ_of_ne_zero (by omega)
    have hcall : call.Recordable := hcalls call List.mem_cons_self
    have hlen := hcall.length_le
    rw [List.flatMap_cons] at h
    obtain ⟨w₁, w₂, hread, hread', hrest⟩ := read_record L h hcall
    rw [List.length_cons] at hrounds
    obtain ⟨tape', hloop⟩ := @ih { tape with world := w₂ } rounds hrest hfd
      (fun call' hmem => hcalls call' (List.mem_cons_of_mem call hmem)) (by omega)
    refine ⟨tape', ?_⟩
    have hsize : recordField (recordHeader call.msg.length call.cport) 0 = call.msg.length :=
      recordField_size (by unfold cportBufSize at hlen; omega) call.cport
    have hcport := recordField_cport call.msg.length hcall.cport_lt
    have hsame : ({ tape with world := w₂ } : Tape σ).rx (cores rounds) call.cport (some call.msg)
        = { tape with world := w₂ } :=
      rx_of_neg (show ({ tape with world := w₂ } : Tape σ).fd < 0 from hfd) _ _ _
    rw [hsize] at hread'
    unfold replayLoop
    simp only [hread, hsize, hread', hcport, hsame, hloop, ne_eq, not_true_eq_false, if_false,
      Nat.not_lt.mpr hlen]
    rw [if_neg (by decide)]
    rfl

/-- When the tape can be opened and the buffer be allocated, replaying makes the calls that were
accepted while the tape was recorded, in their order, and returns 0; otherwise it makes none. -/
theorem gbTapeReplay_recorded (L : TapeLaws T pathname) {tape₀ tape₁ tape₂ tape₃ : Tape σ}
    {rs : List Reception} (hmech : tape₀.mechanism = some T)
    (hstart : gbTapeCommunication pathname tape₀ = (0, tape₁))
    (hrun : run receive tape₁ rs = some tape₂) (hstop : gbTapeStop tape₂ = (0, tape₃))
    (hcalls : ∀ call ∈ rs.filterMap Reception.accepted, call.Recordable)
    (memory : Bool) (cores : Nat → Core) {rounds : Nat}
    (hrounds : (rs.filterMap Reception.accepted).length < rounds) :
    let fd := (T.tapeOpen pathname .rdonly tape₃.world).1
    ∃ tape₄, gbTapeReplay (some pathname) memory cores rounds tape₃
      = some (if fd < 0 then fd else if memory then 0 else -ENOMEM,
          if 0 ≤ fd ∧ memory then rs.filterMap Reception.accepted else [], tape₄) := by
  intro fd
  have hrecording := (recording_of_start hmech hstart : Recording L [] tape₁)
  obtain ⟨hmech₃, hneg, hholds⟩ := (hrecording.of_run hrun).recorded hstop
  rw [List.nil_append] at hholds
  unfold gbTapeReplay
  rw [hmech₃]
  dsimp only
  by_cases hfd : fd < 0
  · rw [if_pos hfd, if_pos hfd, if_neg fun h => absurd h.1 (Int.not_le.mpr hfd)]
    exact ⟨_, rfl⟩
  · rw [if_neg hfd, if_neg hfd]
    cases memory with
    | false =>
      simp only [Bool.not_false, if_true, Bool.false_eq_true, if_false, and_false]
      exact ⟨_, rfl⟩
    | true =>
      have hreading := L.open_rdonly _ _ hholds (Int.not_lt.mp hfd)
      let tape : Tape σ := ⟨some T, tape₃.fd, (T.tapeOpen pathname .rdonly tape₃.world).2⟩
      obtain ⟨tape₄, hloop⟩ : ∃ tape₄, replayLoop T cores fd rounds tape
          = some (0, rs.filterMap Reception.accepted, tape₄) :=
        replayLoop_records L hreading hneg hcalls hrounds
      simp only [Bool.not_true, Bool.false_eq_true, if_false, if_true, and_true]
      rw [if_pos (Int.not_lt.mp hfd)]
      exact ⟨_, Option.map_eq_some_iff.mpr ⟨_, hloop, rfl⟩⟩

/-! ## A tape on the host -/

/-- The file behind a tape, and what a reader of it has left. -/
structure HostFile where
  bytes : Option (List UInt8)
  left : List UInt8
  deriving DecidableEq, Repr

/-- One file of the host, whatever its name: opened for writing it is empty. -/
def hostTape : TapeMechanism HostFile where
  tapeOpen _ mode file :=
    match mode, file.bytes with
    | .wronly, _ => (3, ⟨some [], []⟩)
    | .rdonly, none => (-1, file)
    | .rdonly, some bytes => (3, ⟨some bytes, bytes⟩)
  tapeClose _ file := file
  tapeWrite _ data file := (data.length, { file with bytes := file.bytes.map (· ++ data) })
  tapeRead _ n file :=
    ((file.left.take n).length, file.left.take n, { file with left := file.left.drop n })

def hostTapeLaws (pathname : String) : TapeLaws hostTape pathname where
  Writing _ bytes file := file.bytes = some bytes
  Holds bytes file := file.bytes = some bytes
  Reading _ bytes file := file.left = bytes
  open_wronly _ _ := rfl
  write _ bytes data file h := by
    show file.bytes.map (· ++ data) = some (bytes ++ data)
    rw [h]
    rfl
  close _ _ _ h := h
  open_rdonly bytes file h _ := by
    obtain ⟨_, left⟩ := file
    obtain rfl : _ = some bytes := h
    rfl
  read _ bytes n file h := by
    obtain ⟨_, _⟩ := file
    obtain rfl : _ = bytes := h
    exact ⟨_, rfl, rfl⟩

/-- Two cports, whose driver has a handler for pings. -/
def pingCore : Core where
  cportCount := 2
  gCport := fun _ => ⟨some 0, false⟩
  gBundle := []
  bundles := []
  drivers := fun _ =>
    { hasInit := false
      opHandlers := some [⟨pingType, .handler fun _ => .done 0⟩]
      opHandlersCount := 1
      bundle := none
      count_eq := fun _ h => (congrArg List.length (Option.some.inj h)) }

/-- A ping with the request id 1. -/
def pingMsg : List UInt8 := [8, 0, 1, 0, 0, 0, 0, 0]

/-- A ping with a payload and the request id 2. -/
def longPingMsg : List UInt8 := [10, 0, 2, 0, 0, 0, 0, 0, 0xAA, 0xBB]

def pingReception : Reception := ⟨pingCore, true, 0, some pingMsg⟩

/-- The first ping comes to the cport 0, the second one to the cport 1. -/
def pingReceptions : List Reception := [pingReception, ⟨pingCore, true, 1, some longPingMsg⟩]

/-- The tape before the recording, during it, and with the pings on it. -/
def freshTape : Tape HostFile := ⟨some hostTape, -EBADF, ⟨none, []⟩⟩

def openTape : Tape HostFile := ⟨some hostTape, 3, ⟨some [], []⟩⟩

def pingTape (fd : Int) : Tape HostFile :=
  ⟨some hostTape, fd, ⟨some (RxCall.bytes ⟨0, pingMsg⟩ ++ RxCall.bytes ⟨1, longPingMsg⟩), []⟩⟩

theorem run_pingReceptions :
    gbTapeCommunication "tape" freshTape = (0, openTape) ∧
      run receive openTape pingReceptions = some (pingTape 3) ∧
      gbTapeStop (pingTape 3) = (0, pingTape (-EBADF)) ∧
      pingReceptions.filterMap Reception.accepted = [⟨0, pingMsg⟩, ⟨1, longPingMsg⟩] :=
  ⟨rfl, rfl, rfl, rfl⟩

theorem gbTapeReplay_recorded_pings : ∃ tape,
    gbTapeReplay (some "tape") true (fun _ => pingCore) 3 (pingTape (-EBADF))
      = some (0, [⟨0, pingMsg⟩, ⟨1, longPingMsg⟩], tape) := by
  obtain ⟨hstart, hrun, hstop, hcalls⟩ := run_pingReceptions
  have hrecordable : ∀ call ∈ pingReceptions.filterMap Reception.accepted, call.Recordable := by
    rw [hcalls]
    intro call hcall
    rcases List.mem_pair.mp hcall with rfl | rfl
    · exact ⟨by decide, by decide⟩
    · exact ⟨by decide, by decide⟩
  exact gbTapeReplay_recorded (hostTapeLaws "tape") rfl hstart hrun hstop hrecordable true
    (fun _ => pingCore) (by rw [hcalls]; decide)

-- The recorded calls are not made when there is no memory for the buffer.
theorem gbTapeReplay_recorded_noMemory :
    gbTapeCommunication "tape" freshTape = (0, openTape) ∧
      run receive openTape pingReceptions = some (pingTape 3) ∧
      gbTapeStop (pingTape 3) = (0, pingTape (-EBADF)) ∧
      pingReceptions.filterMap Reception.accepted = [⟨0, pingMsg⟩, ⟨1, longPingMsg⟩] ∧
      ∃ tape, gbTapeReplay (some "tape") false (fun _ => pingCore) 3 (pingTape (-EBADF))
        = some (-ENOMEM, [], tape) := by
  obtain ⟨hstart, hrun, hstop, hcalls⟩ := run_pingReceptions
  exact ⟨hstart, hrun, hstop, hcalls, _, rfl⟩

end Greybus
