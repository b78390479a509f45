import Mathlib.Data.List.Basic
import Mathlib.Order.MinMax

/-!
# Partial reads and writes

A stream socket may deliver fewer items than it is asked for, and take fewer than it is offered.
A `Source` holds what a socket has still to deliver and how it cuts that up, a `Sink` what it has
taken.  `fill` and `drain` are the loops that go on until everything is transferred.  A store
outside the buffer is `none`.
-/

namespace Reasoning.PartialIO

variable {α : Type*}

/-- A call that transfers nothing: it returned 0, or it failed. -/
inductive Stop where
  | zero
  | failed (errno : Nat)
  deriving DecidableEq, Repr

/-! ## Stores -/

/-- `buf` with `piece` stored at `off`. -/
def store (buf : List α) (off : Nat) (piece : List α) : Option (List α) :=
  if off + piece.length ≤ buf.length then
    some (buf.take off ++ piece ++ buf.drop (off + piece.length))
  else none

/-! ## Reading -/

structure Source (α : Type*) where
  pending : List α
  -- What `recv` answers once everything is delivered.
  ending : Stop
  -- How much the n-th call of `recv` would deliver.
  sizes : Nat → Nat
  -- Calls of `recv` so far.
  calls : Nat

/-- One call of `recv`: at least one item and at most `want`, as long as there are any. -/
def Source.recv (s : Source α) (want : Nat) : Except Stop (List α) × Source α :=
  if s.pending.isEmpty then (.error s.ending, { s with calls := s.calls + 1 })
  else
    let n := min want (max 1 (s.sizes s.calls))
    (.ok (s.pending.take n), { s with pending := s.pending.drop n, calls := s.calls + 1 })

/-- What is left after a loop of `recv`. -/
structure Fill (α : Type*) where
  -- `none` when the region is full.
  stopped : Option Stop
  buf : List α
  source : Source α

/-- Receive until `want` items lie at `off` in `buf`; `none` when a store misses the buffer, or when
the loop does not end in `rounds` rounds. -/
def fill (rounds : Nat) (s : Source α) (buf : List α) (off : Nat) : Nat → Option (Fill α)
  | 0 => some ⟨none, buf, s⟩
  | want + 1 =>
    match rounds with
    | 0 => none
    | rounds + 1 =>
      match s.recv (want + 1) with
      | (.error stop, s) => some ⟨some stop, buf, s⟩
      | (.ok piece, s) =>
        (store buf off piece).bind fun buf =>
          fill rounds s buf (off + piece.length) (want + 1 - piece.length)
  termination_by structural rounds

/-- What the loop makes of a buffer with `want` items to fill between `front` and `back`: it fills
them, or the source ends before. -/
inductive Filled (s : Source α) (front back : List α) (want : Nat) : Fill α → Prop
  | complete {s' : Source α} : want ≤ s.pending.length → s'.pending = s.pending.drop want →
      s'.ending = s.ending →
      Filled s front back want ⟨none, front ++ s.pending.take want ++ back, s'⟩
  | ended {s' : Source α} {hole : List α} : s.pending.length < want → s'.pending = [] →
      s'.ending = s.ending → hole.length = want →
      Filled s front back want ⟨some s.ending, front ++ hole ++ back, s'⟩

theorem store_hole (front back : List α) {hole piece : List α} (h : piece.length ≤ hole.length) :
    store (front ++ hole ++ back) front.length piece
      = some (front ++ piece ++ hole.drop piece.length ++ back) := by
  have hfit : front.length + piece.length ≤ (front ++ hole ++ back).length := by
    simp only [List.length_append]
    omega
  rw [store, if_pos hfit, List.append_assoc front hole back, List.take_left,
    List.drop_length_add_append, List.drop_append_of_le_length h, ← List.append_assoc]

theorem Source.recv_nil {s : Source α} (h : s.pending = []) (want : Nat) :
    s.recv want = (.error s.ending, { s with calls := s.calls + 1 }) := by
  simp [recv, h]

theorem Source.recv_piece {s : Source α} (h : s.pending ≠ []) {want : Nat} (hwant : 0 < want) :
    ∃ n, 0 < n ∧ n ≤ want ∧ n ≤ s.pending.length ∧ s.recv want =
      (.ok (s.pending.take n), { s with pending := s.pending.drop n, calls := s.calls + 1 }) := by
  have hlen := List.length_pos_iff.mpr h
  have hnil : s.pending.isEmpty = false := by simpa using h
  generalize hask : min want (max 1 (s.sizes s.calls)) = ask
  refine ⟨min ask s.pending.length, by omega, by omega, by omega, ?_⟩
  simp only [recv, hnil, Bool.false_eq_true, if_false, hask]
  rcases Nat.le_total ask s.pending.length with hle | hle
  · rw [Nat.min_eq_left hle]
  · rw [Nat.min_eq_right hle, List.take_of_length_le hle, List.drop_of_length_le hle,
      List.take_length, List.drop_length]

-- A first piece and what fills the rest of the region fill the region.
theorem Filled.piece {s s' : Source α} {front back : List α} {want n : Nat} {r : Fill α}
    (h : Filled s' (front ++ s.pending.take n) back (want - n) r) (hn : n ≤ want)
    (hlen : n ≤ s.pending.length) (hpending : s'.pending = s.pending.drop n)
    (hending : s'.ending = s.ending) : Filled s front back want r := by
  cases h with
  | complete hle hs' hend =>
    rw [hpending, List.length_drop] at hle
    have htake : s.pending.take n ++ (s.pending.drop n).take (want - n) = s.pending.take want := by
      rw [← List.take_add, Nat.add_sub_cancel' hn]
    rw [hpending, List.append_assoc front, htake]
    refine .complete (by omega) ?_ (hend.trans hending)
    rw [hs', hpending, List.drop_drop, Nat.add_sub_cancel' hn]
  | ended hlt hs' hend hhole =>
    rw [hpending, List.length_drop] at hlt
    rw [hending, List.append_assoc front]
    refine .ended (by omega) hs' (hend.trans hending) ?_
    rw [List.length_append, List.length_take, hhole]
    omega

-- The loop ends, and it stores nothing outside the region.
theorem fill_filled {rounds want : Nat} (s : Source α) (front back : List α) {hole : List α}
    (hrounds : want ≤ rounds) (hhole : hole.length = want) :
    ∃ r, fill rounds s (front ++ hole ++ back) front.length want = some r ∧
      Filled s front back want r := by
  induction rounds generalizing s want front hole with
  | zero =>
    obtain rfl : want = 0 := by omega
    obtain rfl := List.length_eq_zero_iff.mp hhole
    exact ⟨_, fill.eq_1 .., .complete (Nat.zero_le _) rfl rfl⟩
  | succ rounds ih =>
    cases want with
    | zero =>
      obtain rfl := List.length_eq_zero_iff.mp hhole
      exact ⟨_, fill.eq_1 .., .complete (Nat.zero_le _) rfl rfl⟩
    | succ want =>
      rw [fill]
      by_cases hnil : s.pending = []
      · rw [s.recv_nil hnil]
        exact ⟨_, rfl, .ended (by simp [hnil]) hnil rfl hhole⟩
      · obtain ⟨n, hpos, hn, hlen, hrecv⟩ := s.recv_piece hnil (Nat.succ_pos want)
        have hpiece : (s.pending.take n).length = n := by simp [hlen]
        have hstore := store_hole front back
          (show (s.pending.take n).length ≤ hole.length by omega)
        have hrest : (hole.drop n).length = want + 1 - n := by rw [List.length_drop, hhole]
        obtain ⟨r, hr, hfilled⟩ :=
          ih { s with pending := s.pending.drop n, calls := s.calls + 1 }
            (front ++ s.pending.take n) (by omega) hrest
        refine ⟨r, ?_, hfilled.piece hn hlen rfl rfl⟩
        simp only [hrecv, hstore, hpiece, Option.bind_some]
        rw [← hr, List.length_append, hpiece]

/-! ## Writing -/

structure Sink (α : Type*) where
  written : List α
  -- What the n-th call of `send` would take.
  answers : Nat → Except Stop Nat
  -- Calls of `send` so far.
  calls : Nat

/-- One call of `send`: it stops, or takes at least one item and at most all of `data`. -/
def Sink.send (s : Sink α) (data : List α) : Except Stop Nat × Sink α :=
  match s.answers s.calls with
  | .error stop => (.error stop, { s with calls := s.calls + 1 })
  | .ok size =>
    let n := min data.length (max 1 size)
    (.ok n, { s with written := s.written ++ data.take n, calls := s.calls + 1 })

/-- Send until all of `data` is taken; `none` when the loop does not end in `rounds` rounds. -/
def drain (rounds : Nat) (s : Sink α) (data : List α) : Option (Option Stop × Sink α) :=
  if data.isEmpty then some (none, s)
  else
    match rounds with
    | 0 => none
    | rounds + 1 =>
      match s.send data with
      | (.error stop, s) => some (some stop, s)
      | (.ok n, s) => drain rounds s (data.drop n)

/-- What the loop does: the sink takes all of `data`, or stops before. -/
inductive Drained (s : Sink α) (data : List α) : Option Stop × Sink α → Prop
  | complete {s' : Sink α} : s'.written = s.written ++ data → s'.answers = s.answers →
      Drained s data (none, s')
  | stopped {s' : Sink α} {stop : Stop} {piece : List α} : piece <+: data → piece ≠ data →
      s'.written = s.written ++ piece → s'.answers = s.answers →
      (∃ n, s.answers n = .error stop) → Drained s data (some stop, s')

theorem Drained.piece {s s' : Sink α} {data : List α} {n : Nat} {r : Option Stop × Sink α}
    (h : Drained s' (data.drop n) r) (hwritten : s'.written = s.written ++ data.take n)
    (hanswers : s'.answers = s.answers) : Drained s data r := by
  cases h with
  | complete hw ha =>
    refine .complete ?_ (ha.trans hanswers)
    rw [hw, hwritten, List.append_assoc, List.take_append_drop]
  | @stopped _ _ piece hpre hne hw ha hstop =>
    refine @Drained.stopped _ _ _ _ _ (data.take n ++ piece) ?_ ?_ ?_ (ha.trans hanswers)
      (hanswers ▸ hstop)
    · obtain ⟨rest, hrest⟩ := hpre
      exact ⟨rest, by rw [List.append_assoc, hrest, List.take_append_drop]⟩
    · intro hall
      refine hne ?_
      rw [← List.append_right_inj (data.take n), hall, List.take_append_drop]
    · rw [hw, hwritten, List.append_assoc]

-- The loop ends.
theorem drain_drained {rounds : Nat} (s : Sink α) {data : List α} (hrounds : data.length ≤ rounds) :
    ∃ r, drain rounds s data = some r ∧ Drained s data r := by
  induction rounds generalizing s data with
  | zero =>
    obtain rfl := List.length_eq_zero_iff.mp (Nat.le_zero.mp hrounds)
    exact ⟨_, by rw [drain]; rfl, .complete (by simp) rfl⟩
  | succ rounds ih =>
    rw [drain]
    by_cases hnil : data = []
    · subst hnil
      exact ⟨_, rfl, .complete (by simp) rfl⟩
    · have hpos := List.length_pos_iff.mpr hnil
      rw [if_neg (by simpa using hnil), Sink.send]
      cases hanswer : s.answers s.calls with
      | error stop =>
        exact ⟨_, rfl, .stopped List.nil_prefix (Ne.symm hnil) (by simp) rfl ⟨_, hanswer⟩⟩
      | ok size =>
        obtain ⟨r, hr, hdrained⟩ := ih
          { s with
            written := s.written ++ data.take (min data.length (max 1 size))
            calls := s.calls + 1 }
          (show (data.drop (min data.length (max 1 size))).length ≤ rounds by
            rw [List.length_drop]; omega)
        exact ⟨r, hr, hdrained.piece rfl rfl⟩

/-- Every call of `send` takes something. -/
def Sink.Accepts (s : Sink α) : Prop := ∀ n, ∃ size, s.answers n = .ok size

-- A sink that never stops takes everything.
theorem Drained.of_accepts {s : Sink α} {data : List α} {r : Option Stop × Sink α}
    (h : Drained s data r) (hs : s.Accepts) :
    r.1 = none ∧ r.2.written = s.written ++ data ∧ r.2.Accepts := by
  cases h with
  | complete hw ha => exact ⟨rfl, hw, by rwa [Sink.Accepts, ha]⟩
  | stopped _ _ _ _ hstop =>
    obtain ⟨n, hn⟩ := hstop
    obtain ⟨size, hsize⟩ := hs n
    rw [hn] at hsize
    cases hsize

end Reasoning.PartialIO
