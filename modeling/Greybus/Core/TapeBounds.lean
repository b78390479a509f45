import Greybus.Core.Tape

/-!
# Replaying any tape

`gb_tape_replay` reads the body of a record to a buffer of `CPORT_BUF_SIZE` bytes, as many bytes as
the record's header says.
-/

namespace Greybus

open Reasoning.Memory

variable {σ : Type*} {T : TapeMechanism σ} {pathname : String}

/-! ## What is on a tape -/

/-- The size that the record at the front announces. -/
def recordSize (bytes : List UInt8) : Nat := recordField bytes 0

/-- What follows the header of the record at the front. -/
def recordRest (bytes : List UInt8) : List UInt8 := bytes.drop sizeofRecordHeader

/-- The call that the record at the front stands for. -/
def recordCall (bytes : List UInt8) : RxCall :=
  ⟨recordField bytes 2, (recordRest bytes).take (recordSize bytes)⟩

/-- What replaying a tape with these bytes is to return, and the calls it is to make. -/
inductive Replays : List UInt8 → Int → List RxCall → Prop
  | nil : Replays [] 0 []
  | header {bytes : List UInt8} : bytes ≠ [] → bytes.length < sizeofRecordHeader →
      Replays bytes (- EIO) []
  -- The body is truncated, or does not fit the buffer.
  | body {bytes : List UInt8} : sizeofRecordHeader ≤ bytes.length →
      (recordRest bytes).length < recordSize bytes ∨ cportBufSize < recordSize bytes →
      Replays bytes (- EIO) []
  | record {bytes : List UInt8} {ret : Int} {calls : List RxCall} :
      sizeofRecordHeader ≤ bytes.length → recordSize bytes ≤ (recordRest bytes).length →
      recordSize bytes ≤ cportBufSize →
      Replays ((recordRest bytes).drop (recordSize bytes)) ret calls →
      Replays bytes ret (recordCall bytes :: calls)

/-- The reader comes to a record that announces more than the buffer holds, and finds more than it
holds. -/
inductive Overruns : List UInt8 → Prop
  | here {bytes : List UInt8} : sizeofRecordHeader ≤ bytes.length →
      cportBufSize < recordSize bytes → cportBufSize < (recordRest bytes).length → Overruns bytes
  | later {bytes : List UInt8} : sizeofRecordHeader ≤ bytes.length →
      recordSize bytes ≤ (recordRest bytes).length → recordSize bytes ≤ cportBufSize →
      Overruns ((recordRest bytes).drop (recordSize bytes)) → Overruns bytes

theorem recordField_take (bytes : List UInt8) {i : Nat} (hi : i + 1 < sizeofRecordHeader) :
    recordField (bytes.take sizeofRecordHeader) i = recordField bytes i := by
  have hat : ∀ j < sizeofRecordHeader,
      (bytes.take sizeofRecordHeader).getD j 0 = bytes.getD j 0 := by
    intro j hj
    rw [List.getD_eq_getElem?_getD, List.getD_eq_getElem?_getD, List.getElem?_take_of_lt hj]
  rw [recordField, recordField, hat i (by omega), hat (i + 1) hi]

/-! ## One round -/

/-- What is recorded while a tape is replayed goes elsewhere. -/
def Apart (L : TapeLaws T pathname) (fd : Int) (tape : Tape σ) : Prop :=
  tape.mechanism = some T ∧ (0 ≤ tape.fd → ∀ bytes data w, L.Reading fd bytes w →
    L.Reading fd bytes (T.tapeWrite tape.fd data w).2)

section Rounds

variable {L : TapeLaws T pathname} {fd : Int} {tape : Tape σ} {bytes : List UInt8}

-- Delivering a record leaves the tape that is read alone.
theorem rx_reading (hapart : Apart L fd tape) (hreading : L.Reading fd bytes tape.world)
    (core : Core) (cport : Nat) (data : Option (List UInt8)) :
    Apart L fd (tape.rx core cport data) ∧
      L.Reading fd bytes (tape.rx core cport data).world := by
  unfold Tape.rx
  split
  next => exact ⟨hapart, hreading⟩
  next call _ =>
    obtain ⟨hmech, hwrite⟩ := hapart
    unfold Tape.record
    rw [hmech]
    dsimp only
    split
    next => exact ⟨⟨hmech, hwrite⟩, hreading⟩
    next hfd =>
      have hfd := Int.not_lt.mp hfd
      exact ⟨⟨rfl, hwrite⟩, hwrite hfd _ _ _ (hwrite hfd _ _ _ hreading)⟩

-- The round at the end of the tape, or with less than a header.
theorem replayLoop_header (hreading : L.Reading fd bytes tape.world)
    (hlen : bytes.length < sizeofRecordHeader) (cores : Nat → Core) (rounds : Nat) :
    ∃ tape', replayLoop T cores fd (rounds + 1) tape
      = some (if bytes = [] then 0 else - EIO, [], tape') := by
  obtain ⟨w, -, hread⟩ := L.read fd _ sizeofRecordHeader _ hreading
  rw [List.take_of_length_le (Nat.le_of_lt hlen)] at hread
  refine ⟨{ tape with world := w }, ?_⟩
  rw [replayLoop, hread]
  dsimp only
  by_cases hnil : bytes = []
  · rw [if_pos hnil, if_pos (by simp [hnil])]
  · have hpos := List.length_pos_iff.mpr hnil
    rw [if_neg hnil, if_neg (by omega), if_pos (by omega)]

-- The round on a record, with the header read.
theorem replayLoop_body (hapart : Apart L fd tape) (hreading : L.Reading fd bytes tape.world)
    (hlen : sizeofRecordHeader ≤ bytes.length) (cores : Nat → Core) (rounds : Nat) :
    ∃ tape', Apart L fd tape' ∧
      L.Reading fd ((recordRest bytes).drop (recordSize bytes)) tape'.world ∧
      replayLoop T cores fd (rounds + 1) tape =
        if cportBufSize < (recordCall bytes).msg.length then none
        else if (recordRest bytes).length < recordSize bytes then some (- EIO, [], tape')
        else (replayLoop T cores fd rounds (tape'.rx (cores rounds) (recordCall bytes).cport
          (some (recordCall bytes).msg))).map
            fun (ret, calls, tape) => (ret, recordCall bytes :: calls, tape) := by
  obtain ⟨w₁, hreading₁, hread₁⟩ := L.read fd _ sizeofRecordHeader _ hreading
  obtain ⟨w₂, hreading₂, hread₂⟩ := L.read fd _ (recordSize bytes) _ hreading₁
  have hheader : (bytes.take sizeofRecordHeader).length = sizeofRecordHeader := by
    rw [List.length_take]
    omega
  have hsize : recordField (bytes.take sizeofRecordHeader) 0 = recordSize bytes :=
    recordField_take bytes (by decide)
  have hcport : recordField (bytes.take sizeofRecordHeader) 2 = recordField bytes 2 :=
    recordField_take bytes (by decide)
  have hmsg : (recordCall bytes).msg.length
      = min (recordSize bytes) (recordRest bytes).length := List.length_take
  refine ⟨{ tape with world := w₂ }, ⟨hapart.1, hapart.2⟩, hreading₂, ?_⟩
  rw [hheader] at hread₁
  have hshort : (recordSize bytes : Int) ≠ (recordCall bytes).msg.length ↔
      (recordRest bytes).length < recordSize bytes := by
    rw [hmsg]
    omega
  rw [replayLoop]
  simp only [hread₁, hsize, hread₂, hcport]
  rw [if_neg (by decide), if_neg (by simp)]
  exact if_congr Iff.rfl rfl (if_congr hshort rfl rfl)

/-! ## The loop -/

-- Where the buffer is never overrun the loop does what it is to do.
theorem replayLoop_replays {rounds : Nat} (hapart : Apart L fd tape)
    (hreading : L.Reading fd bytes tape.world) (hfits : ¬ Overruns bytes) (cores : Nat → Core)
    (hrounds : bytes.length < rounds) :
    ∃ ret calls tape', replayLoop T cores fd rounds tape = some (ret, calls, tape') ∧
      Replays bytes ret calls := by
  induction rounds generalizing bytes tape with
  | zero => exact absurd hrounds (Nat.not_lt_zero _)
  | succ rounds ih =>
    by_cases hlen : bytes.length < sizeofRecordHeader
    · obtain ⟨tape', hloop⟩ := replayLoop_header hreading hlen cores rounds
      refine ⟨_, _, tape', hloop, ?_⟩
      by_cases hnil : bytes = []
      · rw [if_pos hnil, hnil]
        exact .nil
      · rw [if_neg hnil]
        exact .header hnil hlen
    · have hlen := Nat.not_lt.mp hlen
      have hmsg : (recordCall bytes).msg.length
          = min (recordSize bytes) (recordRest bytes).length := List.length_take
      have hover : ¬ cportBufSize < (recordCall bytes).msg.length := by
        rw [hmsg]
        exact fun h => hfits (.here hlen (by omega) (by omega))
      obtain ⟨tape', hapart', hreading', hloop⟩ := replayLoop_body hapart hreading hlen cores rounds
      rw [if_neg hover] at hloop
      by_cases hshort : (recordRest bytes).length < recordSize bytes
      · rw [if_pos hshort] at hloop
        exact ⟨_, _, tape', hloop, .body hlen (.inl hshort)⟩
      · have hwhole := Nat.not_lt.mp hshort
        have hsize : recordSize bytes ≤ cportBufSize := by
          rw [hmsg, Nat.min_eq_left hwhole] at hover
          exact Nat.not_lt.mp hover
        have hrest : ((recordRest bytes).drop (recordSize bytes)).length < rounds := by
          have hheader : sizeofRecordHeader = 4 := rfl
          simp only [recordRest, List.length_drop]
          omega
        obtain ⟨hapart'', hreading''⟩ := rx_reading hapart' hreading' (cores rounds)
          (recordCall bytes).cport (some (recordCall bytes).msg)
        obtain ⟨ret, calls, tape'', hrun, hreplays⟩ := ih hapart'' hreading''
          (fun h => hfits (.later hlen hwhole hsize h)) hrest
        rw [if_neg hshort, hrun, Option.map_some] at hloop
        exact ⟨ret, _, tape'', hloop, .record hlen hwhole hsize hreplays⟩

-- Where it is, the loop does not come back.
theorem replayLoop_overruns {rounds : Nat} (hapart : Apart L fd tape)
    (hreading : L.Reading fd bytes tape.world) (hover : Overruns bytes) (cores : Nat → Core) :
    replayLoop T cores fd rounds tape = none := by
  induction hover generalizing tape rounds with
  | @here bytes hlen hsize hrest =>
    cases rounds with
    | zero => rfl
    | succ rounds =>
      obtain ⟨tape', -, -, hloop⟩ := replayLoop_body hapart hreading hlen cores rounds
      have hmsg : (recordCall bytes).msg.length
          = min (recordSize bytes) (recordRest bytes).length := List.length_take
      rw [hloop, if_pos (by rw [hmsg]; omega)]
  | @later bytes hlen hwhole hsize _ ih =>
    cases rounds with
    | zero => rfl
    | succ rounds =>
      obtain ⟨tape', hapart', hreading', hloop⟩ := replayLoop_body hapart hreading hlen cores rounds
      obtain ⟨hapart'', hreading''⟩ := rx_reading hapart' hreading' (cores rounds)
        (recordCall bytes).cport (some (recordCall bytes).msg)
      rw [hloop, ih hapart'' hreading'']
      split
      next => rfl
      next => rw [if_neg (Nat.not_lt.mpr hwhole), Option.map_none]

end Rounds

/-! ## One call -/

/-- What `gb_tape_replay` is to return and which calls it is to make, when `open` has returned `fd`
and `memory` says whether there is a buffer. -/
def ReplayEnds (fd : Int) (memory : Bool) (bytes : List UInt8) (ret : Int) (calls : List RxCall) :
    Prop :=
  if fd < 0 then ret = fd ∧ calls = []
  else if memory = false then ret = -ENOMEM ∧ calls = []
  else Replays bytes ret calls

theorem gbTapeReplay_eq {tape : Tape σ} (hmech : tape.mechanism = some T) (memory : Bool)
    (cores : Nat → Core) (rounds : Nat) :
    gbTapeReplay (some pathname) memory cores rounds tape =
      let fd := (T.tapeOpen pathname .rdonly tape.world).1
      let opened := { tape with world := (T.tapeOpen pathname .rdonly tape.world).2 }
      if fd < 0 then some (fd, [], opened)
      else if !memory then some (-ENOMEM, [], { opened with world := T.tapeClose fd opened.world })
      else (replayLoop T cores fd rounds opened).map fun (ret, calls, tape) =>
        (ret, calls, { tape with world := T.tapeClose fd tape.world }) := by
  obtain ⟨mechanism, _, _⟩ := tape
  obtain rfl : mechanism = some T := hmech
  rfl

/-- `gb_tape_replay` stays inside its buffer and delivers the whole records up to the first that is
truncated or does not fit, exactly if it comes to no record that announces more than
`CPORT_BUF_SIZE` bytes and is followed by more than that. -/
theorem gbTapeReplay_bounded_iff (L : TapeLaws T pathname) {tape : Tape σ} {bytes : List UInt8}
    (hholds : L.Holds bytes tape.world)
    (hapart : Apart L (T.tapeOpen pathname .rdonly tape.world).1 tape) (memory : Bool)
    (cores : Nat → Core) {rounds : Nat} (hrounds : bytes.length < rounds) :
    (∃ ret calls tape', gbTapeReplay (some pathname) memory cores rounds tape
        = some (ret, calls, tape') ∧
      ReplayEnds (T.tapeOpen pathname .rdonly tape.world).1 memory bytes ret calls) ↔
      (0 ≤ (T.tapeOpen pathname .rdonly tape.world).1 → memory = true → ¬ Overruns bytes) := by
  rw [gbTapeReplay_eq hapart.1]
  unfold ReplayEnds
  by_cases hfd : (T.tapeOpen pathname .rdonly tape.world).1 < 0
  · simp only [if_pos hfd]
    exact iff_of_true ⟨_, _, _, rfl, rfl, rfl⟩ fun hnonneg => absurd hfd (Int.not_lt.mpr hnonneg)
  simp only [if_neg hfd]
  cases memory with
  | false => exact iff_of_true ⟨_, _, _, rfl, rfl, rfl⟩ fun _ h => by cases h
  | true =>
    have hopened := L.open_rdonly bytes tape.world hholds (Int.not_lt.mp hfd)
    generalize T.tapeOpen pathname .rdonly tape.world = opened at hfd hapart hopened ⊢
    obtain ⟨fd, world⟩ := opened
    have hworld : Apart L fd { tape with world := world } := ⟨hapart.1, hapart.2⟩
    simp only [Bool.not_true, Bool.false_eq_true, if_false, Bool.true_eq_false, true_imp_iff,
      Int.not_lt.mp hfd]
    constructor
    · rintro ⟨ret, calls, tape', hrun, -⟩ hover
      rw [replayLoop_overruns hworld hopened hover cores] at hrun
      cases hrun
    · intro hfits
      obtain ⟨ret, calls, tape', hloop, hreplays⟩ :=
        replayLoop_replays hworld hopened hfits cores hrounds
      exact ⟨ret, calls, _, by rw [hloop, Option.map_some], hreplays⟩

/-- A tape on the host that nothing is recorded to. -/
def finishedTape (bytes : List UInt8) : Tape HostFile := ⟨some hostTape, -EBADF, ⟨some bytes, []⟩⟩

theorem finishedTape_apart (bytes : List UInt8) (file : HostFile) (fd : Int) :
    Apart (hostTapeLaws "tape") fd { finishedTape bytes with world := file } :=
  ⟨rfl, fun h => absurd h (show ¬ 0 ≤ -EBADF by decide)⟩

/-- A record of 8 bytes of which 2 are there. -/
def truncatedRecord : List UInt8 := [8, 0, 0, 0] ++ [8, 0]

theorem gbTapeReplay_bounded_truncated :
    ∃ ret calls tape', gbTapeReplay (some "tape") true (fun _ => pingCore) 7
        (finishedTape truncatedRecord) = some (ret, calls, tape') ∧
      ReplayEnds 3 true truncatedRecord ret calls := by
  refine (@gbTapeReplay_bounded_iff _ _ _ (hostTapeLaws "tape") (finishedTape truncatedRecord)
    truncatedRecord rfl (finishedTape_apart truncatedRecord _ 3) true (fun _ => pingCore) 7
    (by decide)).mpr fun _ _ hover => ?_
  cases hover with
  | here _ hsize => exact absurd hsize (by decide)
  | later _ hwhole => exact absurd hwhole (by decide)

/-- A record of one byte more than the buffer holds, with this body. -/
def oversizedRecord (body : List UInt8) : List UInt8 := [1, 8, 0, 0] ++ body

theorem oversizedRecord_overruns {body : List UInt8} (hbody : cportBufSize < body.length) :
    Overruns (oversizedRecord body) := by
  refine .here ?_ (show cportBufSize < recordField (oversizedRecord body) 0 from ?_) hbody
  · rw [oversizedRecord, List.length_append]
    exact Nat.le_add_right _ _
  · show cportBufSize < 2049
    decide

theorem gbTapeReplay_oversized :
    ¬ ∃ ret calls tape', gbTapeReplay (some "tape") true (fun _ => pingCore) 2054
        (finishedTape (oversizedRecord (List.replicate 2049 0))) = some (ret, calls, tape') ∧
      ReplayEnds 3 true (oversizedRecord (List.replicate 2049 0)) ret calls := by
  have hbody : cportBufSize < (List.replicate 2049 (0 : UInt8)).length := by
    rw [List.length_replicate]
    decide
  generalize List.replicate 2049 (0 : UInt8) = body at hbody ⊢
  rintro ⟨ret, calls, tape', hrun, -⟩
  rw [gbTapeReplay_eq (T := hostTape) (by rfl)] at hrun
  obtain ⟨res, hloop, -⟩ := Option.map_eq_some_iff.mp hrun
  have hnone : replayLoop hostTape (fun _ => pingCore) 3 2054
      { finishedTape (oversizedRecord body) with
        world := ⟨some (oversizedRecord body), oversizedRecord body⟩ } = none :=
    replayLoop_overruns (L := hostTapeLaws "tape") (finishedTape_apart _ _ 3) (by rfl)
      (oversizedRecord_overruns hbody) _
  cases hnone.symm.trans hloop

end Greybus
