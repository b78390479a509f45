import Greybus.Core.Tape
import Greybus.Reasoning.Typestate

/-!
# The descriptors of a tape

What recording and replaying, in any order and with any messages in between, do with the descriptors
of the tape mechanism.
-/

namespace Greybus

open Reasoning.Transition Reasoning.Typestate

variable {σ : Type*}

/-! ## The calls -/

/-- `gb_tape_register_mechanism`; `none` is a mechanism that is NULL or lacks a function. -/
def gbTapeRegisterMechanism (mechanism : Option (TapeMechanism σ)) (tape : Tape σ) : Int × Tape σ :=
  match mechanism with
  | none => (-EINVAL, tape)
  | some T =>
    if tape.mechanism.isSome then (-EBUSY, tape) else (0, { tape with mechanism := some T })

/-- A call of an entry point, with what it meets. -/
inductive TapeCall where
  | register (complete : Bool)
  | communication (pathname : String)
  | stop
  | replay (pathname : Option String) (memory : Bool) (cores : Nat → Core) (rounds : Nat)
  | receive (r : Reception)

/-- What the mechanism is asked to do. -/
abbrev TapeLog := List (HandleEvent Int TapeMode)

/-- The mechanism, with a log of its calls beside its world. -/
def TapeMechanism.logged (T : TapeMechanism σ) : TapeMechanism (σ × TapeLog) where
  tapeOpen pathname mode w :=
    let (fd, world) := T.tapeOpen pathname mode w.1
    (fd, world, w.2 ++ [.acquire (if fd < 0 then none else some fd) mode])
  tapeClose fd w := (T.tapeClose fd w.1, w.2 ++ [.release fd])
  tapeWrite fd data w :=
    let (ret, world) := T.tapeWrite fd data w.1
    (ret, world, w.2 ++ [.use fd .wronly])
  tapeRead fd n w :=
    let (ret, bytes, world) := T.tapeRead fd n w.1
    (ret, bytes, world, w.2 ++ [.use fd .rdonly])

namespace TapeSession

def step (T : TapeMechanism σ) (tape : Tape (σ × TapeLog)) : TapeCall → Option (Tape (σ × TapeLog))
  | .register complete =>
    some (gbTapeRegisterMechanism (if complete then some T.logged else none) tape).2
  | .communication pathname => some (gbTapeCommunication pathname tape).2
  | .stop => some (gbTapeStop tape).2
  | .replay pathname memory cores rounds =>
    (gbTapeReplay pathname memory cores rounds tape).map (·.2.2)
  | .receive r => Greybus.receive tape r

/-- `gb_tape` and `gb_tape_fd` as the file has them. -/
def boot (world : σ) : Tape (σ × TapeLog) := ⟨none, -EBADF, world, []⟩

end TapeSession

/-! ## What a mechanism does with its descriptors -/

/-- A mechanism gives out descriptors that are not open, and they stay open until they are
closed. -/
structure Descriptors (T : TapeMechanism σ) where
  isOpen : Int → σ → Prop
  fresh : ∀ pathname mode w, 0 ≤ (T.tapeOpen pathname mode w).1 →
    ¬ isOpen (T.tapeOpen pathname mode w).1 w
  opens : ∀ pathname mode w, 0 ≤ (T.tapeOpen pathname mode w).1 →
    isOpen (T.tapeOpen pathname mode w).1 (T.tapeOpen pathname mode w).2
  tapeOpen : ∀ pathname mode fd w, isOpen fd w → isOpen fd (T.tapeOpen pathname mode w).2
  tapeClose : ∀ fd fd' w, isOpen fd w → fd ≠ fd' → isOpen fd (T.tapeClose fd' w)
  tapeWrite : ∀ fd fd' data w, isOpen fd w → isOpen fd (T.tapeWrite fd' data w).2
  tapeRead : ∀ fd fd' n w, isOpen fd w → isOpen fd (T.tapeRead fd' n w).2.2

variable {T : TapeMechanism σ} {D : Descriptors T} {held : List (Int × TapeMode)} {fd : Int}
  {world : σ × TapeLog}

/-- The log is in order, and what is held after it is open. -/
structure HoldsOpen (D : Descriptors T) (held : List (Int × TapeMode)) (world : σ × TapeLog) :
    Prop where
  tracks : Tracks world.2 held
  isOpen : ∀ h ∈ held, D.isOpen h.1 world.1

theorem HoldsOpen.tapeOpen_neg (h : HoldsOpen D held world) {pathname : String} {mode : TapeMode}
    (hfd : (T.logged.tapeOpen pathname mode world).1 < 0) :
    HoldsOpen D held (T.logged.tapeOpen pathname mode world).2 := by
  refine ⟨?_, fun h' hh => D.tapeOpen _ _ _ _ (h.isOpen h' hh)⟩
  show Tracks (world.2 ++ [.acquire (if (T.tapeOpen pathname mode world.1).1 < 0 then none
    else some (T.tapeOpen pathname mode world.1).1) mode]) held
  rw [if_pos (show (T.tapeOpen pathname mode world.1).1 < 0 from hfd)]
  exact h.tracks.fail mode

theorem HoldsOpen.tapeOpen (h : HoldsOpen D held world) {pathname : String} {mode : TapeMode}
    (hfd : 0 ≤ (T.logged.tapeOpen pathname mode world).1) :
    (T.logged.tapeOpen pathname mode world).1 ∉ held.map Prod.fst ∧
      HoldsOpen D (((T.logged.tapeOpen pathname mode world).1, mode) :: held)
        (T.logged.tapeOpen pathname mode world).2 := by
  have hnew : (T.logged.tapeOpen pathname mode world).1 ∉ held.map Prod.fst := by
    intro hmem
    obtain ⟨h', hh, hsame⟩ := List.mem_map.mp hmem
    exact D.fresh pathname mode world.1 hfd (hsame ▸ h.isOpen h' hh)
  refine ⟨hnew, ?_, fun h' hh => ?_⟩
  · show Tracks (world.2 ++ [.acquire (if (T.tapeOpen pathname mode world.1).1 < 0 then none
      else some (T.tapeOpen pathname mode world.1).1) mode]) _
    rw [if_neg (Int.not_lt.mpr (show 0 ≤ (T.tapeOpen pathname mode world.1).1 from hfd))]
    exact h.tracks.acquire hnew mode
  · rcases List.mem_cons.mp hh with rfl | hold
    · exact D.opens pathname mode world.1 hfd
    · exact D.tapeOpen _ _ _ _ (h.isOpen h' hold)

theorem HoldsOpen.tapeClose {mode : TapeMode} (h : HoldsOpen D ((fd, mode) :: held) world)
    (hfd : fd ∉ held.map Prod.fst) : HoldsOpen D held (T.logged.tapeClose fd world) where
  tracks := h.tracks.release hfd
  isOpen h' hh := by
    refine D.tapeClose _ _ _ (h.isOpen h' (List.mem_cons_of_mem _ hh)) ?_
    rintro rfl
    exact hfd (List.mem_map_of_mem hh)

theorem HoldsOpen.tapeWrite (h : HoldsOpen D held world) (hfd : (fd, TapeMode.wronly) ∈ held)
    (data : List UInt8) : HoldsOpen D held (T.logged.tapeWrite fd data world).2 where
  tracks := h.tracks.use hfd
  isOpen h' hh := D.tapeWrite _ _ _ _ (h.isOpen h' hh)

theorem HoldsOpen.tapeRead (h : HoldsOpen D held world) (hfd : (fd, TapeMode.rdonly) ∈ held)
    (n : Nat) :
    HoldsOpen D held (T.logged.tapeRead fd n world).2.2 where
  tracks := h.tracks.use hfd
  isOpen h' hh := D.tapeRead _ _ _ _ (h.isOpen h' hh)

/-! ## What the calls keep -/

variable {tape tape' : Tape (σ × TapeLog)}

/-- The descriptor that a recording holds. -/
def Tape.recordingFd (tape : Tape σ) : List (Int × TapeMode) :=
  if 0 ≤ tape.fd then [(tape.fd, .wronly)] else []

theorem Tape.mem_recordingFd {tape : Tape σ} (h : 0 ≤ tape.fd) :
    (tape.fd, TapeMode.wronly) ∈ tape.recordingFd := by
  rw [Tape.recordingFd, if_pos h]
  exact List.mem_singleton_self _

/-- The tape is this mechanism's or has none, and it holds `held` beside what a recording holds. -/
structure Tape.Consistent (D : Descriptors T) (held : List (Int × TapeMode))
    (tape : Tape (σ × TapeLog)) : Prop where
  mechanism : tape.mechanism = none ∧ tape.fd < 0 ∨ tape.mechanism = some T.logged
  holds : HoldsOpen D (held ++ tape.recordingFd) tape.world

theorem Tape.Consistent.mechanism_eq (h : tape.Consistent D held)
    {T' : TapeMechanism (σ × TapeLog)} (hmech : tape.mechanism = some T') : T.logged = T' := by
  rcases h.mechanism with ⟨hnone, -⟩ | hsome
  · cases hnone.symm.trans hmech
  · exact Option.some.inj (hsome.symm.trans hmech)

theorem Tape.Consistent.of_world (h : tape.Consistent D held) {held' : List (Int × TapeMode)}
    {world : σ × TapeLog} (hholds : HoldsOpen D (held' ++ tape.recordingFd) world) :
    ({ tape with world := world } : Tape _).Consistent D held' :=
  ⟨h.mechanism, hholds⟩

-- A message is written to the descriptor of the recording.
theorem Tape.Consistent.rx (h : tape.Consistent D held) (core : Core) (cport : Nat)
    (data : Option (List UInt8)) :
    (tape.rx core cport data).Consistent D held ∧ (tape.rx core cport data).fd = tape.fd ∧
      (tape.rx core cport data).mechanism = tape.mechanism := by
  unfold Tape.rx
  split
  next => exact ⟨h, rfl, rfl⟩
  next call =>
    unfold Tape.record
    split
    next => exact ⟨h, rfl, rfl⟩
    next T' hmech =>
      split
      next => exact ⟨h, rfl, rfl⟩
      next hfd =>
        obtain rfl := h.mechanism_eq hmech
        have hmem : (tape.fd, TapeMode.wronly) ∈ held ++ tape.recordingFd :=
          List.mem_append_right _ (mem_recordingFd (Int.not_lt.mp hfd))
        exact ⟨h.of_world ((h.holds.tapeWrite hmem _).tapeWrite hmem _), rfl, rfl⟩

-- The loop reads from its own descriptor.
theorem Tape.Consistent.replayLoop (h : tape.Consistent D held)
    (hfd : (fd, TapeMode.rdonly) ∈ held) {cores : Nat → Core} {rounds : Nat} {ret : Int}
    {calls : List RxCall}
    (hloop : Greybus.replayLoop T.logged cores fd rounds tape = some (ret, calls, tape')) :
    tape'.Consistent D held ∧ tape'.fd = tape.fd ∧ tape'.mechanism = tape.mechanism := by
  have hread : ∀ {tape : Tape (σ × TapeLog)} (n : Nat), tape.Consistent D held →
      ({ tape with world := (T.logged.tapeRead fd n tape.world).2.2 } : Tape _).Consistent D
        held :=
    fun n htape => htape.of_world (htape.holds.tapeRead (List.mem_append_left _ hfd) n)
  induction rounds generalizing tape ret calls with
  | zero => cases hloop
  | succ rounds ih =>
    have hhdr := hread sizeofRecordHeader h
    rw [Greybus.replayLoop] at hloop
    dsimp only at hloop
    split at hloop
    next =>
      obtain ⟨-, -, rfl⟩ := hloop
      exact ⟨hhdr, rfl, rfl⟩
    split at hloop
    next =>
      obtain ⟨-, -, rfl⟩ := hloop
      exact ⟨hhdr, rfl, rfl⟩
    have hmsg := hread (recordField (T.logged.tapeRead fd sizeofRecordHeader tape.world).2.1 0) hhdr
    split at hloop
    next => cases hloop
    split at hloop
    next =>
      obtain ⟨-, -, rfl⟩ := hloop
      exact ⟨hmsg, rfl, rfl⟩
    next =>
      obtain ⟨⟨ret', calls', tape''⟩, hrest, heq⟩ := Option.map_eq_some_iff.mp hloop
      obtain ⟨-, -, rfl⟩ := heq
      obtain ⟨hrx, hsame, hmech⟩ := hmsg.rx (cores rounds) _ _
      obtain ⟨hdone, hfd', hmech'⟩ := ih hrx hrest
      exact ⟨hdone, hfd'.trans hsame, hmech'.trans hmech⟩

-- A replay closes what it has opened, whatever it has read.
theorem Tape.Consistent.replay (h : tape.Consistent D []) {pathname : Option String} {memory : Bool}
    {cores : Nat → Core} {rounds : Nat} {ret : Int} {calls : List RxCall}
    (hreplay : gbTapeReplay pathname memory cores rounds tape = some (ret, calls, tape')) :
    tape'.Consistent D [] := by
  unfold gbTapeReplay at hreplay
  split at hreplay
  next pathname T' hmech =>
    obtain rfl := h.mechanism_eq hmech
    dsimp only at hreplay
    split at hreplay
    next hfd =>
      obtain ⟨-, -, rfl⟩ := hreplay
      exact h.of_world (h.holds.tapeOpen_neg hfd)
    next hfd =>
      obtain ⟨hnew, hopen⟩ := @HoldsOpen.tapeOpen _ _ _ _ _ h.holds pathname .rdonly
        (Int.not_lt.mp hfd)
      have hopened := @Tape.Consistent.of_world _ _ _ _ _ h [_] _ hopen
      split at hreplay
      next =>
        obtain ⟨-, -, rfl⟩ := hreplay
        exact h.of_world (hopen.tapeClose hnew)
      next =>
        obtain ⟨⟨ret', calls', tape''⟩, hloop, heq⟩ := Option.map_eq_some_iff.mp hreplay
        obtain ⟨-, -, rfl⟩ := heq
        obtain ⟨hdone, hsame, hmech'⟩ := hopened.replayLoop (List.mem_singleton_self _) hloop
        have hrecording : tape''.recordingFd = tape.recordingFd := by
          rw [Tape.recordingFd, hsame]
          rfl
        have hholds : HoldsOpen D (_ :: tape.recordingFd) tape''.world := hrecording ▸ hdone.holds
        exact hdone.of_world (hrecording ▸ hholds.tapeClose hnew)
  next =>
    obtain ⟨-, -, rfl⟩ := hreplay
    exact h

namespace TapeSession

theorem step_consistent {c : TapeCall} (h : tape.Consistent D [])
    (hstep : step T tape c = some tape') : tape'.Consistent D [] := by
  cases c with
  | register complete =>
    obtain rfl := Option.some.inj hstep
    cases complete with
    | false => exact h
    | true =>
      simp only [gbTapeRegisterMechanism, if_true]
      split
      next => exact h
      next => exact ⟨.inr rfl, h.holds⟩
  | communication pathname =>
    obtain rfl := Option.some.inj hstep
    rw [gbTapeCommunication]
    split
    next => exact h
    next T' hmech =>
      split
      next => exact h
      next hclosed =>
        obtain rfl := h.mechanism_eq hmech
        have hholds : HoldsOpen D [] tape.world := by
          have hnone : tape.recordingFd = [] := if_neg hclosed
          exact hnone ▸ h.holds
        refine ⟨.inr hmech, ?_⟩
        simp only [Tape.recordingFd]
        split
        next hfd => exact (hholds.tapeOpen hfd).2
        next hfd => exact hholds.tapeOpen_neg (Int.not_le.mp hfd)
  | stop =>
    obtain rfl := Option.some.inj hstep
    rw [gbTapeStop]
    split
    next => exact h
    next T' hmech =>
      split
      next => exact h
      next hfd =>
        obtain rfl := h.mechanism_eq hmech
        have hholds : HoldsOpen D [(tape.fd, .wronly)] tape.world := by
          have hone : tape.recordingFd = [(tape.fd, .wronly)] := if_pos (Int.not_lt.mp hfd)
          exact hone ▸ h.holds
        exact ⟨.inr hmech, hholds.tapeClose (by simp)⟩
  | replay pathname memory cores rounds =>
    obtain ⟨⟨ret, calls, tape''⟩, hreplay, rfl⟩ := Option.map_eq_some_iff.mp hstep
    exact h.replay hreplay
  | receive r =>
    obtain ⟨⟨receipt, tape''⟩, hcall, rfl⟩ := Option.map_eq_some_iff.mp hstep
    rw [greybusRxHandler_tape hcall]
    exact (h.rx r.core r.cport r.data).1

/-- In every run with such a mechanism, its functions are called in order: writes go to a descriptor
that is open for writing and reads to one that is open for reading, and every descriptor is closed
as often as it has been opened, but for the one of a recording that goes on. -/
theorem run_descriptors (D : Descriptors T) {w : σ} {cs : List TapeCall}
    (hrun : run (step T) (boot w) cs = some tape) :
    Tracks tape.world.2 tape.recordingFd ∧
      ∀ fd, tape.world.2.countP (HandleEvent.acquires fd)
        = tape.world.2.countP (HandleEvent.releases fd)
          + if 0 ≤ tape.fd ∧ tape.fd = fd then 1 else 0 := by
  have hboot : (boot w : Tape (σ × TapeLog)).Consistent D [] :=
    ⟨.inl ⟨rfl, show -EBADF < 0 by decide⟩, .nil, by simp [Tape.recordingFd, boot, EBADF]⟩
  have hdone := run_induct (fun _ _ _ h hstep => step_consistent h hstep) hboot hrun
  have htracks : Tracks tape.world.2 tape.recordingFd := hdone.holds.tracks
  refine ⟨htracks, fun fd => ?_⟩
  rw [htracks.count_eq fd, Tape.recordingFd]
  by_cases hopen : 0 ≤ tape.fd
  · simp [hopen, List.count_singleton]
  · simp [hopen]

/-- One file, of which every reader sees what was on it when it was opened. -/
structure NumberedFile where
  next : Nat
  bytes : List UInt8
  left : List UInt8
  deriving DecidableEq, Repr

/-- A mechanism that counts its descriptors up. -/
def numberedTape : TapeMechanism NumberedFile where
  tapeOpen _ mode file :=
    let bytes := if mode = .wronly then [] else file.bytes
    (file.next, { next := file.next + 1, bytes, left := bytes })
  tapeClose _ file := file
  tapeWrite _ data file := (data.length, { file with bytes := file.bytes ++ data })
  tapeRead _ n file :=
    ((file.left.take n).length, file.left.take n, { file with left := file.left.drop n })

def numberedTape_descriptors : Descriptors numberedTape where
  isOpen fd file := fd < file.next
  fresh _ _ file _ := Int.lt_irrefl (file.next : Int)
  opens _ _ file _ := Int.ofNat_lt.mpr (Nat.lt_add_one file.next)
  tapeOpen _ _ _ file h := Int.lt_trans h (Int.ofNat_lt.mpr (Nat.lt_add_one file.next))
  tapeClose _ _ _ h _ := h
  tapeWrite _ _ _ _ h := h
  tapeRead _ _ _ _ h := h

/-- A ping is recorded, and replayed onto the tape while the recording goes on. -/
def rerecorded : List TapeCall :=
  [.register true, .communication "tape", .receive pingReception,
   .replay (some "tape") true (fun _ => pingCore) 2, .receive pingReception]

theorem run_descriptors_rerecorded :
    ∃ tape, run (step numberedTape) (boot ⟨0, [], []⟩) rerecorded = some tape ∧ tape.fd = 0 ∧
      Tracks tape.world.2 tape.recordingFd := by
  have hsome : (run (step numberedTape) (boot ⟨0, [], []⟩) rerecorded).map (·.fd) = some 0 := by
    decide
  obtain ⟨tape, hrun, hfd⟩ := Option.map_eq_some_iff.mp hsome
  exact ⟨tape, hrun, hfd, (run_descriptors numberedTape_descriptors hrun).1⟩

end TapeSession

end Greybus
