import Greybus.Transport.UartReceive

/-!
# Wake-ups of the UART's work

One run of `uart_work_fn` takes out one message, and a submission of queued work is lost.  Whether
a frame is left in the ring buffer depends on how many frames an invocation of the interrupt handler
leaves behind.
-/

namespace Greybus.Uart

open Reasoning.Framed Reasoning.Transition

/-- How many bytes of the ring buffer belong to the message that is being received. -/
def Work.wants : Work → Nat
  | .payload data => msgSize data - sizeofHdr
  | .payloadReady data => msgSize data - sizeofHdr
  | _ => 0

/-- How many whole frames wait behind the message that is being received. -/
def State.backlog (s : State) : Nat := uartFraming.count (s.ring.drop s.work.wants)

/-- Whether the work has still to take out a header. -/
def Work.wakeup : Work → Nat
  | .header => 1
  | .headerReady => 1
  | _ => 0

/-- How many frames are taken out without another submission. -/
def State.wakeups (s : State) : Nat := s.queued.toNat + s.work.wakeup

/-- With the handler and the work at rest, no whole frame is in the ring buffer. -/
def NoneLeft (s : State) : Prop :=
  s.isr = false → s.queued = false → s.work = .idle → ¬ uartFraming.StartsFrame s.ring

/-- The handler leaves no more whole frames behind than there are wake-ups for. -/
def EnoughWakeups (s : State) (a : Action) (_ : State) : Prop :=
  match a with
  | .isrReturn => s.backlog ≤ s.submit.wakeups
  | .isrReadFails => s.backlog ≤ s.wakeups
  | _ => True

instance (s : State) (a : Action) (s' : State) : Decidable (EnoughWakeups s a s') :=
  match a with
  | .isrReturn => inferInstanceAs (Decidable (s.backlog ≤ s.submit.wakeups))
  | .isrReadFails => inferInstanceAs (Decidable (s.backlog ≤ s.wakeups))
  | .isrEnter => .isTrue trivial
  | .isrByte => .isTrue trivial
  | .workStart => .isTrue trivial
  | .workPoll => .isTrue trivial
  | .workGet _ => .isTrue trivial

/-- The work queue takes this action, not the interrupt handler. -/
def Action.isWork : Action → Bool
  | .workStart => true
  | .workPoll => true
  | .workGet _ => true
  | _ => false

theorem noneLeft_of_backlog {s : State} (h : s.isr = false → s.backlog ≤ s.wakeups) :
    NoneLeft s := by
  intro hisr hqueued hidle
  have hle := h hisr
  unfold State.backlog State.wakeups at hle
  rw [hqueued, hidle] at hle
  apply Framing.count_eq_zero_iff.mp
  exact Nat.le_zero.mp hle

-- A waiting loop that is left has the same frames behind it.
theorem State.poll_cases {s s' : State} (h : s.poll = some s') :
    s' = { s with work := s'.work } ∧ s'.work.wants = s.work.wants ∧
      s'.work.wakeup = s.work.wakeup := by
  unfold State.poll at h
  split at h
  next hwork =>
    obtain rfl := Option.some.inj h
    refine ⟨rfl, ?_⟩
    rw [hwork]
    dsimp only
    split <;> exact ⟨rfl, rfl⟩
  next data hwork =>
    obtain rfl := Option.some.inj h
    refine ⟨rfl, ?_⟩
    rw [hwork]
    dsimp only
    split <;> exact ⟨rfl, rfl⟩
  next => cases h

-- Every step of the work takes as many frames as wake-ups.
theorem work_balance {frames : List (List UInt8)} (hwf : ∀ f ∈ frames, WellFormed f)
    {s s' : State} {a : Action} (hs : Aligned frames s) (hwork : a.isWork = true)
    (h : step s a = some s') :
    s'.isr = s.isr ∧ (s'.backlog ≤ s'.wakeups ↔ s.backlog ≤ s.wakeups) := by
  cases a with
  | isrEnter => cases hwork
  | isrByte => cases hwork
  | isrReadFails => cases hwork
  | isrReturn => cases hwork
  | workStart =>
    obtain ⟨hidle, h⟩ := Option.ite_none_right_eq_some.mp h
    obtain rfl := Option.some.inj h
    rw [Bool.and_eq_true, decide_eq_true_eq] at hidle
    unfold State.backlog State.wakeups
    rw [hidle.1, hidle.2]
    exact ⟨rfl, Iff.rfl⟩
  | workPoll =>
    obtain ⟨hsame, hwants, hwakeup⟩ := State.poll_cases h
    unfold State.backlog State.wakeups
    rw [hwants, hwakeup, hsame]
    exact ⟨rfl, Iff.rfl⟩
  | workGet memory =>
    cases memory with
    | false => cases h
    | true =>
      rcases hs.get_cases hwf h with ⟨hready, hlen, hsize, rfl⟩ | ⟨data, hready, -, -, rfl⟩
      · unfold State.backlog State.wakeups
        rw [hready]
        have hcount : uartFraming.count (s.ring.drop (msgSize s.ring))
            = uartFraming.count s.ring - 1 := Framing.count_drop_size hlen hsize
        have hdrop : (s.ring.drop sizeofHdr).drop (msgSize (s.ring.take sizeofHdr) - sizeofHdr)
            = s.ring.drop (msgSize s.ring) := by
          rw [List.drop_drop, msgSize_take (by decide) hlen, Nat.add_sub_cancel' hsize]
        refine ⟨rfl, ?_⟩
        show uartFraming.count
          ((s.ring.drop sizeofHdr).drop (msgSize (s.ring.take sizeofHdr) - sizeofHdr))
            ≤ s.queued.toNat + 0 ↔ uartFraming.count s.ring ≤ s.queued.toNat + 1
        rw [hdrop, hcount]
        omega
      · unfold State.backlog State.wakeups
        rw [hready]
        exact ⟨rfl, Iff.rfl⟩

/-- What a run keeps whose interrupt handler leaves enough wake-ups. -/
structure Balanced (frames : List (List UInt8)) (s : State) : Prop where
  aligned : Aligned frames s
  enough : s.isr = false → s.backlog ≤ s.wakeups

theorem Balanced.of_step {frames : List (List UInt8)} (hwf : ∀ f ∈ frames, WellFormed f)
    {s s' : State} {a : Action} (hs : Balanced frames s) (h : step s a = some s')
    (hroom : NoOverflow s a s') (hwake : EnoughWakeups s a s') : Balanced frames s' := by
  refine ⟨hs.aligned.of_step hwf h hroom, ?_⟩
  by_cases hwork : a.isWork = true
  · obtain ⟨hisr, hiff⟩ := work_balance hwf hs.aligned hwork h
    rw [hisr, hiff]
    exact hs.enough
  · cases a with
    | workStart => exact absurd rfl hwork
    | workPoll => exact absurd rfl hwork
    | workGet memory => exact absurd rfl hwork
    | isrEnter =>
      obtain ⟨-, h⟩ := Option.ite_none_right_eq_some.mp h
      obtain rfl := Option.some.inj h
      intro hisr
      cases hisr
    | isrByte =>
      unfold step at h
      rw [Option.ite_none_left_eq_some] at h
      obtain ⟨hisr, h⟩ := h
      split at h
      · cases h
      next =>
        obtain rfl := Option.some.inj h
        intro hrest
        exact absurd hrest (by simpa using hisr)
    | isrReadFails =>
      obtain ⟨-, h⟩ := Option.ite_none_right_eq_some.mp h
      obtain rfl := Option.some.inj h
      intro _
      exact hwake
    | isrReturn =>
      obtain ⟨-, h⟩ := Option.ite_none_right_eq_some.mp h
      obtain rfl := Option.some.inj h
      intro _
      exact hwake

theorem balanced_initial (frames : List (List UInt8)) :
    Balanced frames (.initial frames.flatten) :=
  ⟨aligned_initial frames, fun _ => Nat.le_of_eq Framing.count_nil⟩

/-- When every return of the interrupt handler leaves a wake-up for each whole frame, a frame never
stays in the ring buffer with the handler and the work at rest. -/
theorem run_noneLeft {frames : List (List UInt8)} (hwf : ∀ f ∈ frames, WellFormed f)
    {as : List Action} {s : State} (hrun : run step (.initial frames.flatten) as = some s)
    (hroom : EachStep step NoOverflow (.initial frames.flatten) as)
    (hwake : EachStep step EnoughWakeups (.initial frames.flatten) as) : NoneLeft s := by
  have hbal : Balanced frames s :=
    run_induct_of_eachStep (fun _ _ _ hs h hfair => hs.of_step hwf h hfair.1 hfair.2)
      (balanced_initial frames) (eachStep_and hroom hwake) hrun
  exact noneLeft_of_backlog hbal.enough

/-- A run of the work that finds a whole message. -/
def workRun : List Action := [.workStart, .workPoll, .workGet true, .workPoll, .workGet true]

/-- Each of two pings comes in an invocation of the handler of its own. -/
def oneByOne : List Action := handlerRun 8 ++ workRun ++ handlerRun 8 ++ workRun

/-- One invocation of the handler for two pings, and one run of the work for one of them. -/
def coalesced : List Action := handlerRun 16 ++ workRun

theorem wellFormed_pings : ∀ f ∈ [ping, ping], WellFormed f := by
  intro f hf
  simp only [List.mem_cons, List.not_mem_nil, or_false, or_self] at hf
  exact hf ▸ ⟨⟨by decide, by decide⟩, by decide⟩

theorem run_noneLeft_oneByOne :
    NoneLeft ⟨[], [], false, true, false, .idle, [rxCall ping, rxCall ping]⟩ := by
  have hrun : run step (.initial [ping, ping].flatten) oneByOne
      = some ⟨[], [], false, true, false, .idle, [rxCall ping, rxCall ping]⟩ := by
    decide +kernel
  exact run_noneLeft wellFormed_pings hrun (by decide +kernel) (by decide +kernel)

theorem run_noneLeft_coalesced :
    (∀ f ∈ [ping, ping], WellFormed f) ∧
    EachStep step NoOverflow (.initial [ping, ping].flatten) coalesced ∧
    run step (.initial [ping, ping].flatten) coalesced
      = some ⟨[], ping, false, true, false, .idle, [rxCall ping]⟩ ∧
    ¬ NoneLeft ⟨[], ping, false, true, false, .idle, [rxCall ping]⟩ := by
  refine ⟨wellFormed_pings, by decide +kernel, by decide +kernel, fun hnone => ?_⟩
  apply hnone rfl rfl rfl
  decide

def Work.stage : Work → Nat
  | .idle => 0
  | .payloadReady _ => 1
  | .payload _ => 2
  | .headerReady => 3
  | .header => 4

/-- How far the work is from its rest. -/
def State.stage (s : State) : Nat := 5 * s.queued.toNat + s.work.stage

-- The loops are left with as many bytes in the ring buffer as `ring_buf_get` is asked for.
theorem Aligned.exists_get {frames : List (List UInt8)} {s : State} (hs : Aligned frames s)
    (hwork : s.work = .headerReady ∨ ∃ data, s.work = .payloadReady data) :
    ∃ s', s.get = some s' := by
  have hfits := hs.fits
  unfold State.get
  rcases hwork with hwork | ⟨data, hwork⟩
  · rw [hwork] at hfits ⊢
    have hlen : ¬ s.ring.length < sizeofHdr := Nat.not_lt.mpr hfits
    simp only [hlen, if_false]
    split
    next => exact ⟨_, rfl⟩
    next => exact ⟨_, rfl⟩
  · rw [hwork]
    dsimp only
    split
    next => exact ⟨_, rfl⟩
    next => exact ⟨_, rfl⟩

-- A whole frame behind the message that is being received: the work does not wait.
theorem exists_workStep {frames : List (List UInt8)} (hwf : ∀ f ∈ frames, WellFormed f)
    {s : State} (hs : Aligned frames s) (hpos : 0 < s.backlog)
    (hrest : ¬ (s.queued = false ∧ s.work = .idle)) :
    ∃ a s', a.isWork = true ∧ step s a = some s' ∧ s'.stage < s.stage := by
  have hlen : sizeofHdr ≤ (s.ring.drop s.work.wants).length := by
    by_contra hlt
    rw [State.backlog, Framing.count_of_not_startsFrame fun hstart => hlt hstart.1] at hpos
    exact Nat.lt_irrefl 0 hpos
  rw [List.length_drop] at hlen
  have hhdr : sizeofHdr = 8 := rfl
  unfold State.stage
  cases hwork : s.work with
  | idle =>
    rw [hwork, eq_self, and_true, Bool.not_eq_false] at hrest
    refine ⟨.workStart, { s with queued := false, work := .header }, rfl, ?_, ?_⟩
    · unfold step
      rw [hrest, hwork]
      rfl
    · rw [hrest]
      show 5 * 0 + 4 < 5 * 1 + 0
      omega
  | header =>
    rw [hwork] at hlen
    have hle : sizeofHdr ≤ s.ring.length := hlen
    refine ⟨.workPoll, { s with work := .headerReady }, rfl, ?_, ?_⟩
    · show s.poll = _
      unfold State.poll
      rw [hwork]
      simp only [hle, if_true]
    · show 5 * s.queued.toNat + 3 < 5 * s.queued.toNat + 4
      omega
  | payload data =>
    rw [hwork] at hlen
    have hle : msgSize data - sizeofHdr ≤ s.ring.length := by
      unfold Work.wants at hlen
      dsimp only at hlen
      omega
    refine ⟨.workPoll, { s with work := .payloadReady data }, rfl, ?_, ?_⟩
    · show s.poll = _
      unfold State.poll
      rw [hwork]
      simp only [hle, if_true]
    · show 5 * s.queued.toNat + 1 < 5 * s.queued.toNat + 2
      omega
  | headerReady =>
    obtain ⟨s', hget⟩ := hs.exists_get (Or.inl hwork)
    refine ⟨.workGet true, s', rfl, hget, ?_⟩
    rcases hs.get_cases hwf hget with ⟨-, -, -, rfl⟩ | ⟨data, hready, -, -, rfl⟩
    · show 5 * s.queued.toNat + 2 < 5 * s.queued.toNat + 3
      omega
    · rw [hwork] at hready
      cases hready
  | payloadReady data =>
    obtain ⟨s', hget⟩ := hs.exists_get (Or.inr ⟨data, hwork⟩)
    refine ⟨.workGet true, s', rfl, hget, ?_⟩
    rcases hs.get_cases hwf hget with ⟨hready, -, -, rfl⟩ | ⟨-, -, -, -, rfl⟩
    · rw [hwork] at hready
      cases hready
    · show 5 * s.queued.toNat + 0 < 5 * s.queued.toNat + 1
      omega

/-- With fewer wake-ups than frames and no further byte, the work comes to rest with a whole frame
in the ring buffer. -/
theorem exists_frameLeft {frames : List (List UInt8)} (hwf : ∀ f ∈ frames, WellFormed f)
    {s : State} (hs : Aligned frames s) (hisr : s.isr = false) (hlt : s.wakeups < s.backlog) :
    ∃ bs t, (∀ a ∈ bs, a.isWork = true) ∧ run step s bs = some t ∧ ¬ NoneLeft t := by
  by_cases hrest : s.queued = false ∧ s.work = .idle
  · refine ⟨[], s, fun a ha => absurd ha List.not_mem_nil, rfl, fun hnone => ?_⟩
    apply hnone hisr hrest.1 hrest.2
    by_contra hstart
    unfold State.backlog at hlt
    rw [hrest.2, show s.ring.drop (Work.wants .idle) = s.ring from rfl,
      Framing.count_of_not_startsFrame hstart] at hlt
    exact Nat.not_lt_zero _ hlt
  · obtain ⟨a, s', hwork, hstep, hstage⟩ := exists_workStep hwf hs (by omega) hrest
    obtain ⟨hisr', hiff⟩ := work_balance hwf hs hwork hstep
    have hroom : NoOverflow s a s' := by
      rintro rfl
      cases hwork
    obtain ⟨bs, t, hbs, hrun, hleft⟩ :=
      exists_frameLeft hwf (hs.of_step hwf hstep hroom) (hisr'.trans hisr) (by omega)
    refine ⟨a :: bs, t, fun b hb => ?_, run_cons_eq_some.mpr ⟨s', hstep, hrun⟩, hleft⟩
    rcases List.mem_cons.mp hb with rfl | hb
    · exact hwork
    · exact hbs b hb
termination_by s.stage

end Greybus.Uart
