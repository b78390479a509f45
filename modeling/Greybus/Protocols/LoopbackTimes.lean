import Greybus.Protocols.Loopback
import Greybus.Reasoning.Transition

/-!
# The times of the loopback protocol

With timestamps, every counted response also updates an average, a minimum and a maximum of its
latency, its throughput and its rate.  Zero stands for a value that there is not yet; the minimum and
the maximum are those of the averages.
-/

namespace Greybus.LoopbackTimes

open Reasoning.Transition

/-! ## The code -/

/-- `DIV_ROUND_CLOSEST` of unsigned numbers. -/
def divRoundClosest (n d : UInt32) : UInt32 := (n + d / 2) / d

/-- The three fields for one quantity in `struct gb_loopback_statistics`. -/
structure Measure where
  min : UInt32
  max : UInt32
  avg : UInt32
  deriving DecidableEq, Repr

/-- `UPDATE_AVG`, `UPDATE_MIN` and `UPDATE_MAX`. -/
def Measure.update (m : Measure) (new : UInt32) : Measure :=
  let avg := if m.avg = 0 then new else divRoundClosest (m.avg + new) 2
  { min := if m.min = 0 then avg else if avg < m.min then avg else m.min
    max := if avg > m.max then avg else m.max
    avg := avg }

/-- `struct gb_loopback_statistics`. -/
structure Statistics where
  recv : UInt32
  recvErr : UInt32
  throughput : Measure
  latency : Measure
  reqsPerSec : Measure
  deriving DecidableEq, Repr

/-- Statistics that are all zero. -/
def Statistics.zero : Statistics := ⟨0, 0, ⟨0, 0, 0⟩, ⟨0, 0, 0⟩, ⟨0, 0, 0⟩⟩

/-- An operation that `update_loopback_stats` gets: `request->len`, whether it is a transfer, and the
microseconds between its request and its response. -/
structure Sample where
  len : UInt32
  xfer : Bool
  total : UInt32
  deriving DecidableEq, Repr

def Sample.rps (x : Sample) : UInt32 := divRoundClosest 1000000 x.total

def Sample.tps (x : Sample) : UInt32 :=
  let tpr := x.len * (if x.xfer then 2 else 1)
  tpr * divRoundClosest 1000000 x.total

/-- `update_loopback_stats` of the statistics found; none is a division by zero. -/
def updateLoopbackStats (x : Sample) (stats : Statistics) : Option Statistics :=
  if x.total = 0 then none
  else some { stats with
    latency := stats.latency.update x.total
    throughput := stats.throughput.update x.tps
    reqsPerSec := stats.reqsPerSec.update x.rps }

/-- `struct gb_loopback`. -/
structure Instance where
  cport : Nat
  stats : Statistics
  deriving DecidableEq, Repr

/-- `loopback_from_cport`. -/
def fromCport (cport : Nat) (list : List Instance) : Option Instance :=
  list.find? fun loopback => loopback.cport = cport

/-- `gb_loopback_get_stats`; none is `-EINVAL`. -/
def getStats (cport : Nat) (list : List Instance) : Option Statistics :=
  (fromCport cport list).map (·.stats)

/-- `gb_loopback_cport_valid`. -/
def gbLoopbackCportValid (cport : Nat) (list : List Instance) : Bool :=
  (fromCport cport list).isSome

/-- Changes the statistics of the entry that `loopback_from_cport` finds, if there is one. -/
def modify (f : Statistics → Option Statistics) (cport : Nat) :
    List Instance → Option (List Instance)
  | [] => some []
  | loopback :: list =>
    if loopback.cport = cport then
      (f loopback.stats).map fun stats => { loopback with stats } :: list
    else (modify f cport list).map (loopback :: ·)

/-- `loopback_error_notify`. -/
def errorNotify : Nat → List Instance → Option (List Instance) :=
  modify fun stats => some { stats with recvErr := stats.recvErr + 1 }

/-- `loopback_recv_inc` and then `update_loopback_stats`. -/
def received (x : Sample) : Nat → List Instance → Option (List Instance) :=
  modify fun stats => updateLoopbackStats x { stats with recv := stats.recv + 1 }

/-- `gb_loopback_ping_sink_resp_cb`, with the result of the response. -/
def gbLoopbackPingSinkRespCb (result : UInt8) (len total : UInt32) (cport : Nat)
    (list : List Instance) : Option (List Instance) :=
  if result ≠ OperationResult.success.code then errorNotify cport list
  else received ⟨len, false, total⟩ cport list

/-- `gb_loopback_transfer_resp_cb`; `echoed` says whether the response has the request's length and
data. -/
def gbLoopbackTransferRespCb (echoed : Bool) (len total : UInt32) (cport : Nat)
    (list : List Instance) : Option (List Instance) :=
  if !echoed then errorNotify cport list else received ⟨len, true, total⟩ cport list

/-- `gb_loopback_reset`. -/
def gbLoopbackReset : Nat → List Instance → Option (List Instance) :=
  modify fun _ => some .zero

/-- The end of a list that `list_add`, which comes with the lists, adds to. -/
inductive ListEnd where
  | head
  | tail
  deriving DecidableEq, Repr

def listAdd (added : Instance) (list : List Instance) : ListEnd → List Instance
  | .head => added :: list
  | .tail => list ++ [added]

/-- `gb_loopback_register`; a cport that is registered again has two entries. -/
def gbLoopbackRegister (listEnd : ListEnd) (zalloc : Bool) (cport : Nat) (list : List Instance) :
    List Instance :=
  if zalloc then listAdd ⟨cport, .zero⟩ list listEnd else list

inductive Action where
  | register (cport : Nat) (zalloc : Bool)
  | pingSink (cport : Nat) (result : UInt8) (len total : UInt32)
  | transfer (cport : Nat) (echoed : Bool) (len total : UInt32)
  | reset (cport : Nat)
  deriving DecidableEq, Repr

def step (listEnd : ListEnd) (list : List Instance) : Action → Option (List Instance)
  | .register cport zalloc => some (gbLoopbackRegister listEnd zalloc cport list)
  | .pingSink cport result len total => gbLoopbackPingSinkRespCb result len total cport list
  | .transfer cport echoed len total => gbLoopbackTransferRespCb echoed len total cport list
  | .reset cport => gbLoopbackReset cport list

/-! ## One quantity -/

theorem divRoundClosest_two {n : UInt32} (hn : n.toNat + 1 < 2 ^ 32) :
    (divRoundClosest n 2).toNat = (n.toNat + 1) / 2 := by
  unfold divRoundClosest
  have hone : (2 / 2 : UInt32) = 1 := by decide
  rw [hone, UInt32.toNat_div, UInt32.toNat_add]
  show (n.toNat + 1) % 2 ^ 32 / 2 = _
  rw [Nat.mod_eq_of_lt hn]

/-- The average lies between the minimum and the maximum, and both between two bounds. -/
structure Measure.Between (lo hi : Nat) (m : Measure) : Prop where
  lo_le : lo ≤ m.min.toNat
  min_le : m.min ≤ m.avg
  le_max : m.avg ≤ m.max
  max_le : m.max.toNat ≤ hi

section Measures

variable {lo hi : Nat} {m : Measure} {new : UInt32}

-- A new average comes from the one before and the sample, or from the sample alone.
theorem update_avg_between (hhi : hi < 2 ^ 31) (hm : m.avg ≠ 0 → lo ≤ m.avg.toNat ∧ m.avg.toNat ≤ hi)
    (hlo : lo ≤ new.toNat) (hnew : new.toNat ≤ hi) :
    lo ≤ (m.update new).avg.toNat ∧ (m.update new).avg.toNat ≤ hi := by
  simp only [Measure.update]
  by_cases havg : m.avg = 0
  · rw [if_pos havg]
    exact ⟨hlo, hnew⟩
  · obtain ⟨hmlo, hmhi⟩ := hm havg
    have hsum : (m.avg + new).toNat = m.avg.toNat + new.toNat := by
      rw [UInt32.toNat_add, Nat.mod_eq_of_lt (by omega)]
    rw [if_neg havg, divRoundClosest_two (by omega), hsum]
    omega

theorem update_min_le : (m.update new).min ≤ (m.update new).avg := by
  simp only [Measure.update]
  generalize (if m.avg = 0 then new else divRoundClosest (m.avg + new) 2) = avg
  split
  next => exact UInt32.le_refl avg
  split
  next => exact UInt32.le_refl avg
  next h => exact UInt32.not_lt.mp h

theorem update_le_max : (m.update new).avg ≤ (m.update new).max := by
  simp only [Measure.update]
  generalize (if m.avg = 0 then new else divRoundClosest (m.avg + new) 2) = avg
  split
  next => exact UInt32.le_refl avg
  next h => exact UInt32.not_lt.mp h

theorem update_between (hhi : hi < 2 ^ 31) (hm : m.Between lo hi ∨ m = ⟨0, 0, 0⟩)
    (hlo : lo ≤ new.toNat) (hnew : new.toNat ≤ hi) : (m.update new).Between lo hi := by
  have havg : lo ≤ (m.update new).avg.toNat ∧ (m.update new).avg.toNat ≤ hi := by
    refine update_avg_between hhi (fun hne => ?_) hlo hnew
    rcases hm with hm | rfl
    · have hmin := UInt32.le_iff_toNat_le.mp hm.min_le
      have hmax := UInt32.le_iff_toNat_le.mp hm.le_max
      have hl := hm.lo_le
      have hh := hm.max_le
      omega
    · exact absurd rfl hne
  refine ⟨?_, update_min_le, update_le_max, ?_⟩
  · simp only [Measure.update] at havg ⊢
    generalize (if m.avg = 0 then new else divRoundClosest (m.avg + new) 2) = avg at havg ⊢
    split
    next => exact havg.1
    next hmin =>
      split
      next => exact havg.1
      next =>
        rcases hm with hm | rfl
        · exact hm.lo_le
        · exact absurd rfl hmin
  · simp only [Measure.update] at havg ⊢
    generalize (if m.avg = 0 then new else divRoundClosest (m.avg + new) 2) = avg at havg ⊢
    split
    next => exact havg.2
    next =>
      rcases hm with hm | rfl
      · exact hm.max_le
      · exact Nat.zero_le hi

-- The first sample needs nothing of what was there before but that it was zero.
theorem foldl_update_between {news : List UInt32} (hhi : hi < 2 ^ 31)
    (hnews : ∀ n ∈ news, lo ≤ n.toNat ∧ n.toNat ≤ hi) (hne : news ≠ []) :
    (news.foldl Measure.update ⟨0, 0, 0⟩).Between lo hi := by
  induction news using List.reverseRecOn with
  | nil => exact absurd rfl hne
  | append_singleton news new ih =>
    obtain ⟨hlo, hnew⟩ := hnews new (List.mem_append_right _ List.mem_cons_self)
    rw [List.foldl_append]
    refine update_between hhi ?_ hlo hnew
    by_cases hnil : news = []
    · exact .inr (by rw [hnil]; rfl)
    · exact .inl (ih (fun n hn => hnews n (List.mem_append_left _ hn)) hnil)

end Measures

/-! ## Runs -/

/-- What a cport has met since its statistics were last zero. -/
structure Epoch where
  samples : List Sample
  errors : Nat
  deriving DecidableEq, Repr

/-- A counted response, or one with an error. -/
def Epoch.respond (e : Epoch) (ok : Bool) (x : Sample) : Epoch :=
  if ok then { e with samples := e.samples ++ [x] } else { e with errors := e.errors + 1 }

/-- A second entry of a cport hides the first one from the head of the list, and is hidden by it at
the tail. -/
def registered (e : Option Epoch) : ListEnd → Epoch
  | .head => ⟨[], 0⟩
  | .tail => e.getD ⟨[], 0⟩

/-- What an action means for the cport; it is none while the cport has no statistics. -/
def Action.note (listEnd : ListEnd) (c : Nat) (e : Option Epoch) : Action → Option Epoch
  | .register cport zalloc => if cport = c ∧ zalloc then some (registered e listEnd) else e
  | .pingSink cport result len total =>
    if cport = c then
      e.map fun e => e.respond (result = OperationResult.success.code) ⟨len, false, total⟩
    else e
  | .transfer cport echoed len total =>
    if cport = c then e.map fun e => e.respond echoed ⟨len, true, total⟩ else e
  | .reset cport => if cport = c then e.map fun _ => ⟨[], 0⟩ else e

/-- What a cport has met in a run. -/
def history (listEnd : ListEnd) (c : Nat) (as : List Action) : Option Epoch :=
  as.foldl (Action.note listEnd c) none

/-- The statistics that an epoch comes to. -/
def Epoch.stats (e : Epoch) : Statistics where
  recv := UInt32.ofNat e.samples.length
  recvErr := UInt32.ofNat e.errors
  throughput := (e.samples.map Sample.tps).foldl Measure.update ⟨0, 0, 0⟩
  latency := (e.samples.map Sample.total).foldl Measure.update ⟨0, 0, 0⟩
  reqsPerSec := (e.samples.map Sample.rps).foldl Measure.update ⟨0, 0, 0⟩

section Runs

variable {listEnd : ListEnd} {list list' : List Instance} {c cport : Nat} {e : Option Epoch}

theorem getStats_modify {f : Statistics → Option Statistics} (h : modify f cport list = some list')
    (c : Nat) : getStats c list' =
      if cport = c then (getStats c list).bind f else getStats c list := by
  induction list generalizing list' with
  | nil =>
    obtain rfl := Option.some.inj h
    simp [getStats, fromCport]
  | cons loopback list ih =>
    rw [modify] at h
    split at h
    next hhere =>
      obtain ⟨stats, hstats, rfl⟩ := Option.map_eq_some_iff.mp h
      by_cases hc : cport = c
      · simp [getStats, fromCport, hhere, hc, hstats]
      · simp [getStats, fromCport, hhere, hc]
    next hhere =>
      obtain ⟨rest, hrest, rfl⟩ := Option.map_eq_some_iff.mp h
      have hih := ih hrest
      by_cases hfirst : loopback.cport = c
      · have hc : ¬ cport = c := fun h => hhere (hfirst.trans h.symm)
        simp [getStats, fromCport, hfirst, hc]
      · simpa [getStats, fromCport, hfirst] using hih

-- The entry of the cport has been updated, or there is no list.
theorem modify_updates {f : Statistics → Option Statistics} {stats : Statistics}
    (h : modify f cport list = some list') (hstats : getStats cport list = some stats) :
    ∃ stats', f stats = some stats' := by
  induction list generalizing list' with
  | nil => cases hstats
  | cons loopback list ih =>
    rw [modify] at h
    split at h
    next hhere =>
      obtain ⟨stats', hupdate, -⟩ := Option.map_eq_some_iff.mp h
      have hfound : loopback.stats = stats := by
        simpa [getStats, fromCport, hhere] using hstats
      exact ⟨stats', hfound ▸ hupdate⟩
    next hhere =>
      obtain ⟨rest, hrest, -⟩ := Option.map_eq_some_iff.mp h
      refine ih hrest ?_
      rw [← hstats]
      simp [getStats, fromCport, hhere]

theorem getStats_listAdd (cport c : Nat) (stats : Statistics) (list : List Instance) :
    getStats c (listAdd ⟨cport, stats⟩ list listEnd) =
      if cport = c then
        match listEnd with
        | .head => some stats
        | .tail => some ((getStats c list).getD stats)
      else getStats c list := by
  cases listEnd with
  | head =>
    by_cases hc : cport = c
    · simp [listAdd, getStats, fromCport, hc]
    · simp [listAdd, getStats, fromCport, hc]
  | tail =>
    rw [listAdd, getStats, fromCport, List.find?_append]
    cases hfound : list.find? fun loopback => loopback.cport = c with
    | none =>
      by_cases hc : cport = c
      · simp [getStats, fromCport, hfound, hc]
      · simp [getStats, fromCport, hfound, hc]
    | some loopback =>
      by_cases hc : cport = c
      · simp [getStats, fromCport, hfound, hc]
      · simp [getStats, fromCport, hfound, hc]

theorem getStats_register {zalloc : Bool} (hstats : getStats c list = e.map Epoch.stats) :
    getStats c (gbLoopbackRegister listEnd zalloc cport list) =
      (Action.note listEnd c e (.register cport zalloc)).map Epoch.stats := by
  rw [gbLoopbackRegister, Action.note]
  cases zalloc with
  | false => simpa using hstats
  | true =>
    rw [if_pos rfl, getStats_listAdd, hstats]
    by_cases hc : cport = c
    · rw [if_pos hc, if_pos ⟨hc, rfl⟩]
      cases listEnd with
      | head => rfl
      | tail => cases e <;> rfl
    · rw [if_neg hc, if_neg fun h => hc h.1]

theorem updateLoopbackStats_epoch {x : Sample} {e : Epoch} {stats : Statistics}
    (h : updateLoopbackStats x { e.stats with recv := e.stats.recv + 1 } = some stats) :
    stats = (e.respond true x).stats := by
  unfold updateLoopbackStats at h
  split at h
  next => cases h
  next =>
    obtain rfl := Option.some.inj h
    simp only [Epoch.respond, if_true, Epoch.stats, List.map_append, List.map_singleton,
      List.foldl_append, List.foldl_cons, List.foldl_nil, List.length_append,
      List.length_singleton, UInt32.ofNat_add]
    rfl

theorem getStats_received {x : Sample} (h : received x cport list = some list')
    (hstats : getStats c list = e.map Epoch.stats) : getStats c list' =
      (if cport = c then e.map fun e => e.respond true x else e).map Epoch.stats := by
  rw [getStats_modify h c, hstats]
  split
  next hc =>
    cases e with
    | none => rfl
    | some e =>
      obtain ⟨stats, hupdate⟩ := modify_updates h (hc ▸ hstats)
      simp only [Option.map_some, Option.bind_some, hupdate, updateLoopbackStats_epoch hupdate]
  next => rfl

theorem getStats_errorNotify {x : Sample} (h : errorNotify cport list = some list')
    (hstats : getStats c list = e.map Epoch.stats) : getStats c list' =
      (if cport = c then e.map fun e => e.respond false x else e).map Epoch.stats := by
  rw [getStats_modify h c, hstats]
  split
  next =>
    cases e with
    | none => rfl
    | some e => simp [Epoch.respond, Epoch.stats, UInt32.ofNat_add]
  next => rfl

theorem step_stats {a : Action} (h : step listEnd list a = some list')
    (hstats : getStats c list = e.map Epoch.stats) :
    getStats c list' = (a.note listEnd c e).map Epoch.stats := by
  cases a with
  | register cport zalloc => exact Option.some.inj h ▸ getStats_register hstats
  | pingSink cport result len total =>
    simp only [step, gbLoopbackPingSinkRespCb] at h
    rw [Action.note]
    by_cases hresult : result = OperationResult.success.code
    · rw [if_neg (not_not.mpr hresult)] at h
      rw [decide_eq_true hresult]
      exact getStats_received h hstats
    · rw [if_pos hresult] at h
      rw [decide_eq_false hresult]
      exact getStats_errorNotify h hstats
  | transfer cport echoed len total =>
    simp only [step, gbLoopbackTransferRespCb] at h
    rw [Action.note]
    cases echoed with
    | true => exact getStats_received h hstats
    | false => exact getStats_errorNotify h hstats
  | reset cport =>
    rw [getStats_modify h c, hstats, Action.note]
    split
    next => cases e <;> rfl
    next => rfl

theorem run_stats {as : List Action} (hrun : run (step listEnd) list as = some list')
    (hstats : getStats c list = e.map Epoch.stats) :
    getStats c list' = (as.foldl (Action.note listEnd c) e).map Epoch.stats := by
  induction as generalizing list e with
  | nil =>
    obtain rfl := Option.some.inj hrun
    exact hstats
  | cons a as ih =>
    obtain ⟨s, hstep, hrest⟩ := run_cons_eq_some.mp hrun
    exact ih hrest (step_stats hstep hstats)

end Runs

/-- A quantity tells of the samples: it is zero without any, and otherwise its minimum, average and
maximum lie in this order between any bounds of the samples that leave room for a sum. -/
def Measure.TellsOf (m : Measure) (news : List UInt32) : Prop :=
  (news = [] → m = ⟨0, 0, 0⟩) ∧
    ∀ lo hi, hi < 2 ^ 31 → news ≠ [] → (∀ n ∈ news, lo ≤ n.toNat ∧ n.toNat ≤ hi) → m.Between lo hi

/-- The statistics tell of the responses since they were last zero. -/
structure Statistics.TellsOf (stats : Statistics) (e : Epoch) : Prop where
  recv : stats.recv.toNat = e.samples.length % 2 ^ 32
  recvErr : stats.recvErr.toNat = e.errors % 2 ^ 32
  latency : stats.latency.TellsOf (e.samples.map Sample.total)
  throughput : stats.throughput.TellsOf (e.samples.map Sample.tps)
  reqsPerSec : stats.reqsPerSec.TellsOf (e.samples.map Sample.rps)

theorem foldl_update_tellsOf (news : List UInt32) :
    (news.foldl Measure.update ⟨0, 0, 0⟩).TellsOf news :=
  ⟨fun hnil => by rw [hnil]; rfl, fun _ _ hhi hne hnews => foldl_update_between hhi hnews hne⟩

theorem Epoch.stats_tellsOf (e : Epoch) : e.stats.TellsOf e where
  recv := UInt32.toNat_ofNat'
  recvErr := UInt32.toNat_ofNat'
  latency := foldl_update_tellsOf _
  throughput := foldl_update_tellsOf _
  reqsPerSec := foldl_update_tellsOf _

/-- In every run without a response in less than a microsecond, each cport's statistics tell of its
own responses since its last reset, and a cport that is not registered has none.  Where `list_add`
adds to the head, a cport that is registered again starts again, too. -/
theorem run_tellsOf {listEnd : ListEnd} {as : List Action} {list : List Instance}
    (hrun : run (step listEnd) [] as = some list) (c : Nat) :
    (∀ e, history listEnd c as = some e →
        ∃ stats, getStats c list = some stats ∧ stats.TellsOf e) ∧
      (history listEnd c as = none → gbLoopbackCportValid c list = false) := by
  have hstats : getStats c list = (history listEnd c as).map Epoch.stats :=
    @run_stats listEnd [] list c none as hrun rfl
  refine ⟨fun e he => ⟨e.stats, by rw [hstats, he]; rfl, e.stats_tellsOf⟩, fun hnone => ?_⟩
  rw [hnone] at hstats
  simpa [getStats, gbLoopbackCportValid] using hstats

/-- Two cports; the first one is reset after a transfer, and registered once more at the end. -/
def twoCports : List Action :=
  [.register 1 true, .register 2 true, .transfer 1 true 64 1000, .reset 1, .pingSink 1 0 0 500,
   .pingSink 1 0 0 1501, .transfer 2 false 64 1000, .register 1 true]

theorem run_tellsOf_twoCports : ∃ list stats, run (step .tail) [] twoCports = some list ∧
    list.map (·.cport) = [1, 2, 1] ∧ getStats 1 list = some stats ∧
    stats.latency = ⟨500, 1001, 1001⟩ ∧
    stats.TellsOf ⟨[⟨0, false, 500⟩, ⟨0, false, 1501⟩], 0⟩ := by
  have hsome : (run (step .tail) [] twoCports).map (fun list =>
      (list.map (·.cport), (getStats 1 list).map (·.latency)))
        = some ([1, 2, 1], some ⟨500, 1001, 1001⟩) := by decide
  obtain ⟨list, hrun, hseen⟩ := Option.map_eq_some_iff.mp hsome
  simp only [Prod.mk.injEq] at hseen
  obtain ⟨hcports, hlatency⟩ := hseen
  obtain ⟨stats, hstats, hlatency⟩ := Option.map_eq_some_iff.mp hlatency
  obtain ⟨stats', hstats', htells⟩ :=
    (run_tellsOf hrun 1).1 ⟨[⟨0, false, 500⟩, ⟨0, false, 1501⟩], 0⟩ (by decide)
  obtain rfl := Option.some.inj (hstats.symm.trans hstats')
  exact ⟨list, stats, hrun, hcports, hstats, hlatency, htells⟩

end Greybus.LoopbackTimes
