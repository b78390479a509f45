import Greybus.Core.Operation
import Greybus.Reasoning.Refill

/-!
# The input reports of the HID protocol

The callback of the HID device, which is atomic, and the thread that sends the reports, one step for
every access to what they share.  The thread is not stopped.
-/

namespace Greybus.HidReports

open Reasoning Reasoning.Transition

/-! ## The driver's information -/

/-- `MAX_REPORT_OPERATIONS`. -/
def maxReportOperations : Nat := 5

/-- The steps of `report_proc_thread`. -/
inductive ThreadPc where
  | semWait
  | dequeueData
  | sendRequest (node : Nat)
  | requeueFree (node : Nat)
  | testRequest
  | dequeueFree
  | storeReportNode (node : Option Nat)
  | clearRequest
  deriving DecidableEq, Repr

/-- `struct gb_hid_info` as far as reports are concerned, and the thread.  A node's operation holds
the report in its buffer. -/
structure State where
  buffers : Nat → List UInt8
  freeQueue : List Nat
  dataQueue : List Nat
  reportNode : Option Nat
  reportBufSize : Nat
  nodeRequest : Bool
  activeSem : Nat
  pc : ThreadPc
  -- The reports that were taken, and those that were sent with the results, in order.
  reports : List (List UInt8)
  sent : List (List UInt8 × Int)

/-- `node_dequeue`: the node, and what is left of the queue. -/
def nodeDequeue (queue : List Nat) : Option Nat × List Nat := (queue.head?, queue.tail)

/-- `node_requeue`. -/
def nodeRequeue (queue : List Nat) (node : Nat) : List Nat := queue ++ [node]

/-- A report is copied into the node and queued. -/
def State.taken (s : State) (node : Nat) (report : List UInt8) : State :=
  { s with
    buffers := Function.update s.buffers node report
    dataQueue := nodeRequeue s.dataQueue node
    reports := s.reports ++ [report] }

/-- The next node is prepared, and the thread activated. -/
def State.advanced (s : State) : State :=
  let (node, queue) := nodeDequeue s.freeQueue
  { s with
    freeQueue := queue
    nodeRequest := if node = none then true else s.nodeRequest
    reportNode := node
    activeSem := s.activeSem + 1 }

/-- `hid_event_callback_routine`: what it returns, and the state it leaves.  The report is as long
as `len`. -/
def hidEventCallbackRoutine (report : List UInt8) (s : State) : Int × State :=
  match s.reportNode with
  | none => (-ENOMEM, { s with activeSem := s.activeSem + 1 })
  | some node =>
    if s.reportBufSize ≠ report.length then (-EINVAL, s)
    else (0, (s.taken node report).advanced)

/-- The next step of `report_proc_thread`; `ret` is the result of a request that it sends. -/
def reportProcThread (ret : Int) (s : State) : Option State :=
  match s.pc with
  | .semWait =>
    if 0 < s.activeSem then some { s with activeSem := s.activeSem - 1, pc := .dequeueData }
    else none
  | .dequeueData =>
    match nodeDequeue s.dataQueue with
    | (none, _) => some { s with pc := .testRequest }
    | (some node, queue) => some { s with dataQueue := queue, pc := .sendRequest node }
  | .sendRequest node =>
    some { s with sent := s.sent ++ [(s.buffers node, ret)], pc := .requeueFree node }
  | .requeueFree node =>
    some { s with freeQueue := nodeRequeue s.freeQueue node, pc := .testRequest }
  | .testRequest => some { s with pc := if s.nodeRequest then .dequeueFree else .semWait }
  | .dequeueFree =>
    let (node, queue) := nodeDequeue s.freeQueue
    some { s with freeQueue := queue, pc := .storeReportNode node }
  | .storeReportNode node => some { s with reportNode := node, pc := .clearRequest }
  | .clearRequest => some { s with nodeRequest := false, pc := .semWait }

inductive Action where
  | event (report : List UInt8)
  | thread (ret : Int)
  deriving DecidableEq, Repr

def step (s : State) : Action → Option State
  | .event report => some (hidEventCallbackRoutine report s).2
  | .thread ret => reportProcThread ret s

/-- What `gb_hid_init` leaves for reports of the size given. -/
def initial (reportBufSize : Nat) : State :=
  let (node, queue) := nodeDequeue (List.range maxReportOperations)
  { buffers := fun _ => []
    freeQueue := queue
    dataQueue := []
    reportNode := node
    reportBufSize := reportBufSize
    nodeRequest := false
    activeSem := 0
    pc := .semWait
    reports := []
    sent := [] }

/-! ## The pool of operations -/

def ThreadPc.abs : ThreadPc → Refill.Pc Nat
  | .semWait => .waiting
  | .dequeueData => .woken
  | .sendRequest node => .sending node
  | .requeueFree node => .requeueing node
  | .testRequest => .testing
  | .dequeueFree => .taking
  | .storeReportNode node => .refilling node
  | .clearRequest => .clearing

/-- The operations as a pool of buffers. -/
def State.abs (s : State) : Refill.State Nat (List UInt8) Int where
  free := s.freeQueue
  data := s.dataQueue
  current := s.reportNode
  request := s.nodeRequest
  wakeups := s.activeSem
  pc := s.pc.abs
  content := s.buffers
  filled := s.reports
  handled := s.sent

variable {s s' : State} {a : Action} {report : List UInt8} {ret : Int}

theorem advanced_nil (hfree : s.freeQueue = []) : s.advanced =
    { s with nodeRequest := true, reportNode := none, activeSem := s.activeSem + 1 } := by
  have hget : nodeDequeue s.freeQueue = (none, s.freeQueue) := by rw [hfree]; rfl
  unfold State.advanced
  rw [hget]
  rfl

theorem advanced_cons {node : Nat} {queue : List Nat} (hfree : s.freeQueue = node :: queue) :
    s.advanced =
      { s with freeQueue := queue, reportNode := some node, activeSem := s.activeSem + 1 } := by
  have hget : nodeDequeue s.freeQueue = (some node, queue) := by rw [hfree]; rfl
  unfold State.advanced
  rw [hget]
  rfl

theorem taken_advanced_abs (node : Nat) (report : List UInt8) :
    (s.taken node report).advanced.abs = (s.abs.queue node report).advance := by
  cases hfree : s.freeQueue with
  | nil =>
    rw [Refill.State.advance_nil (show (s.abs.queue node report).free = [] from hfree),
      advanced_nil (show (s.taken node report).freeQueue = [] from hfree)]
    rfl
  | cons m queue =>
    rw [Refill.State.advance_cons (show (s.abs.queue node report).free = m :: queue from hfree),
      advanced_cons (show (s.taken node report).freeQueue = m :: queue from hfree)]
    rfl

theorem hidEventCallbackRoutine_none (hnone : s.reportNode = none) :
    hidEventCallbackRoutine report s = (-ENOMEM, { s with activeSem := s.activeSem + 1 }) := by
  unfold hidEventCallbackRoutine
  split
  next => rfl
  next node hnode =>
    rw [hnone] at hnode
    cases hnode

theorem hidEventCallbackRoutine_some {node : Nat} (hnode : s.reportNode = some node) :
    hidEventCallbackRoutine report s =
      if s.reportBufSize ≠ report.length then (-EINVAL, s)
      else (0, (s.taken node report).advanced) := by
  unfold hidEventCallbackRoutine
  split
  next hnone =>
    rw [hnone] at hnode
    cases hnode
  next node' hnode' =>
    obtain rfl : node' = node := Option.some.inj (hnode'.symm.trans hnode)
    rfl

theorem hidEventCallbackRoutine_fill {node : Nat} (hnode : s.reportNode = some node)
    (hlen : s.reportBufSize = report.length) :
    Refill.step s.abs (.fill report) = some (hidEventCallbackRoutine report s).2.abs := by
  show (s.reportNode.map fun n => (s.abs.queue n report).advance) = _
  rw [hidEventCallbackRoutine_some hnode, if_neg (not_not_intro hlen), hnode, taken_advanced_abs]
  rfl

-- The callback fills the node, or finds none, or leaves everything as it is.
theorem hidEventCallbackRoutine_abs (report : List UInt8) (s : State) :
    s.reportBufSize = report.length ∧
        Refill.step s.abs (.fill report) = some (hidEventCallbackRoutine report s).2.abs ∨
      Refill.step s.abs .reject = some (hidEventCallbackRoutine report s).2.abs ∨
      (hidEventCallbackRoutine report s).2 = s := by
  cases hnode : s.reportNode with
  | none =>
    right
    left
    rw [hidEventCallbackRoutine_none hnode]
    exact if_pos hnode
  | some node =>
    by_cases hlen : s.reportBufSize = report.length
    · exact .inl ⟨hlen, hidEventCallbackRoutine_fill hnode hlen⟩
    · right
      right
      rw [hidEventCallbackRoutine_some hnode, if_pos hlen]

-- The steps of the thread are those of the pool.
theorem reportProcThread_abs (ret : Int) (s : State) :
    (reportProcThread ret s).map State.abs = s.abs.thread ret := by
  have hthread {p : ThreadPc} (hp : s.pc = p) : s.abs.pc = p.abs := congrArg ThreadPc.abs hp
  unfold reportProcThread
  split
  next hpc =>
    rw [Refill.State.thread_waiting (hthread hpc)]
    show _ = if 0 < s.activeSem then some _ else none
    split
    next => rfl
    next => rfl
  next hpc =>
    cases hdata : s.dataQueue with
    | nil =>
      have hget : nodeDequeue s.dataQueue = (none, []) := by rw [hdata]; rfl
      rw [Refill.State.thread_woken_nil (hthread hpc) hdata, ← hdata, hget]
      rfl
    | cons node queue =>
      have hget : nodeDequeue s.dataQueue = (some node, queue) := by rw [hdata]; rfl
      rw [Refill.State.thread_woken_cons (hthread hpc) hdata, ← hdata, hget]
      rfl
  next node hpc =>
    rw [Refill.State.thread_sending (hthread hpc)]
    rfl
  next node hpc =>
    rw [Refill.State.thread_requeueing (hthread hpc)]
    rfl
  next hpc =>
    rw [Refill.State.thread_testing (hthread hpc)]
    show some (State.abs { s with pc := if s.nodeRequest then _ else _ }) =
      some { s.abs with pc := if s.nodeRequest then Refill.Pc.taking else .waiting }
    by_cases hrequest : s.nodeRequest = true
    · rw [if_pos hrequest, if_pos hrequest]
      rfl
    · rw [if_neg hrequest, if_neg hrequest]
      rfl
  next hpc =>
    rw [Refill.State.thread_taking (hthread hpc)]
    rfl
  next node hpc =>
    rw [Refill.State.thread_refilling (hthread hpc)]
    rfl
  next hpc =>
    rw [Refill.State.thread_clearing (hthread hpc)]
    rfl

/-- The pool's invariant. -/
def Safe (s : State) : Prop := Refill.Inv (List.range maxReportOperations) s.abs

theorem initial_safe (reportBufSize : Nat) : Safe (initial reportBufSize) := by
  have hpc : (initial reportBufSize).abs.pc = .waiting := rfl
  have hrequest : (initial reportBufSize).abs.request = false := rfl
  refine ⟨fun n => ?_, by simp [hpc], by simp [hpc], by simp [hrequest], rfl⟩
  show [1, 2, 3, 4].count n + 0 + [0].count n + 0 = [0, 1, 2, 3, 4].count n
  simp only [List.count_cons, List.count_nil]
  omega

theorem step_safe (hs : Safe s) (h : step s a = some s') : Safe s' := by
  cases a with
  | event report =>
    obtain rfl := Option.some.inj h
    rcases hidEventCallbackRoutine_abs report s with ⟨-, hstep⟩ | hstep | hsame
    · exact Refill.step_inv List.nodup_range hs hstep
    · exact Refill.step_inv List.nodup_range hs hstep
    · rw [hsame]
      exact hs
  | thread ret =>
    have hstep := reportProcThread_abs ret s
    rw [show reportProcThread ret s = some s' from h] at hstep
    exact Refill.step_inv (a := .thread ret) List.nodup_range hs hstep.symm

/-! ## Reports go on -/

/-- There is a node for the next report, or one is requested, or the thread has dequeued one and not
stored it yet. -/
def Reporting (s : State) : Prop :=
  s.reportNode = none → s.nodeRequest = true ∨ ∃ node, s.pc = .storeReportNode (some node)

/-- A report is taken that finds `free_queue` empty, while the thread is between requeueing a node
and its test, or between storing `report_node` and clearing `node_request`. -/
def Starved (s : State) (a : Action) : Prop :=
  (∃ report, a = .event report ∧ s.reportBufSize = report.length) ∧ s.reportNode ≠ none ∧
    s.freeQueue = [] ∧ (s.pc = .testRequest ∨ s.pc = .clearRequest)

instance instDecidableStarved : (a : Action) → Decidable (Starved s a)
  | .event report =>
    decidable_of_iff (s.reportBufSize = report.length ∧ s.reportNode ≠ none ∧ s.freeQueue = [] ∧
      (s.pc = .testRequest ∨ s.pc = .clearRequest)) (by simp [Starved])
  | .thread ret => .isFalse (by simp [Starved])

theorem ThreadPc.abs_testing {pc : ThreadPc} (h : pc.abs = .testing) : pc = .testRequest := by
  cases pc with
  | testRequest => rfl
  | _ => cases h

theorem ThreadPc.abs_clearing {pc : ThreadPc} (h : pc.abs = .clearing) : pc = .clearRequest := by
  cases pc with
  | clearRequest => rfl
  | _ => cases h

/-- What a run keeps in which no report is starved. -/
structure Supplied (s : State) : Prop where
  safe : Safe s
  ready : Refill.Ready s.abs

theorem initial_supplied (reportBufSize : Nat) : Supplied (initial reportBufSize) := by
  refine ⟨initial_safe reportBufSize, ?_⟩
  have hcurrent : (initial reportBufSize).abs.current = some 0 := rfl
  have hpc : (initial reportBufSize).abs.pc = .waiting := rfl
  exact .of_current (by simp [hcurrent]) (by simp [hpc]) (by simp [hpc])

theorem step_supplied (hs : Supplied s) (h : step s a = some s') (hstarved : ¬ Starved s a) :
    Supplied s' := by
  refine ⟨step_safe hs.safe h, ?_⟩
  cases a with
  | event report =>
    obtain rfl := Option.some.inj h
    rcases hidEventCallbackRoutine_abs report s with ⟨hlen, hstep⟩ | hstep | hsame
    · have hbad : ¬ Refill.BadFill s.abs (.fill report : Refill.Action _ Int) := by
        rintro ⟨-, hfree, hpc⟩
        obtain ⟨node, hnode, -⟩ := Option.map_eq_some_iff.mp hstep
        refine hstarved ⟨⟨report, rfl, hlen⟩, ?_, hfree, hpc.imp ThreadPc.abs_testing
          ThreadPc.abs_clearing⟩
        rw [show s.reportNode = some node from hnode]
        exact Option.some_ne_none node
      exact Refill.step_ready hs.safe (by decide) hs.ready hbad hstep
    · have hbad : ¬ Refill.BadFill s.abs (.reject : Refill.Action (List UInt8) Int) := by
        rintro ⟨⟨v, hv⟩, -⟩
        cases hv
      exact Refill.step_ready hs.safe (by decide) hs.ready hbad hstep
    · rw [hsame]
      exact hs.ready
  | thread ret =>
    have hstep := reportProcThread_abs ret s
    rw [show reportProcThread ret s = some s' from h] at hstep
    have hbad : ¬ Refill.BadFill s.abs (.thread ret) := by
      rintro ⟨⟨v, hv⟩, -⟩
      cases hv
    exact Refill.step_ready (a := .thread ret) hs.safe (by decide) hs.ready hbad hstep.symm

/-- While no report finds `free_queue` empty between the thread's requeueing a node and its test, or
between its storing `report_node` and clearing `node_request`, a missing node is requested or on its
way. -/
theorem throughout_reporting (reportBufSize : Nat) (as : List Action)
    (hstarved : EachStep step (fun s a _ => ¬ Starved s a) (initial reportBufSize) as) :
    Throughout step Reporting (initial reportBufSize) as := by
  have hsupplied : Throughout step Supplied (initial reportBufSize) as :=
    throughout_of_eachStep (fun _ _ _ => step_supplied) (initial_supplied reportBufSize) hstarved
  exact hsupplied.mono fun s hs hnone => .inl (hs.ready.requested hnone)

/-- A burst of reports that uses up the operations. -/
def burst : List Action := List.replicate maxReportOperations (.event [0x41])

/-- The burst, and the thread up to storing a new `report_node`. -/
def refilled : List Action := burst ++ List.replicate 7 (.thread 0)

-- The thread clears `node_request` before the next report, which is taken.
theorem throughout_reporting_refilled :
    (run step (initial 1) burst).map (fun s => (s.reportNode, s.freeQueue, s.nodeRequest))
        = some (none, [], true) ∧
      (run step (initial 1) (refilled ++ [.thread 0, .event [0x42]])).map
        (fun s => s.reports.getLast?) = some (some [0x42]) ∧
      Throughout step Reporting (initial 1) (refilled ++ [.thread 0, .event [0x42]]) :=
  ⟨by decide, by decide, throughout_reporting 1 _ (by decide)⟩

/-! ## Reports end -/

theorem run_thread {n : Nat} {u : Refill.State Nat (List UInt8) Int}
    (h : run Refill.step s.abs (List.replicate n (.thread ret)) = some u) :
    ∃ t, run step s (List.replicate n (.thread ret)) = some t ∧ t.abs = u := by
  induction n generalizing s with
  | zero => exact ⟨s, rfl, Option.some.inj h⟩
  | succ n ih =>
    obtain ⟨v, hstep, hrest⟩ := run_cons_eq_some.mp h
    replace hstep : s.abs.thread ret = some v := hstep
    rw [← reportProcThread_abs] at hstep
    obtain ⟨s', hs', rfl⟩ := Option.map_eq_some_iff.mp hstep
    obtain ⟨t, hrun, ht⟩ := ih hrest
    exact ⟨t, run_cons_eq_some.mpr ⟨s', hs', hrun⟩, ht⟩

theorem step_lost (hlost : Refill.Lost s.abs) (h : step s a = some s') : Refill.Lost s'.abs := by
  cases a with
  | event report =>
    obtain rfl := Option.some.inj h
    rcases hidEventCallbackRoutine_abs report s with ⟨-, hstep⟩ | hstep | hsame
    · exact Refill.step_lost hlost hstep
    · exact Refill.step_lost hlost hstep
    · rw [hsame]
      exact hlost
  | thread ret =>
    have hstep := reportProcThread_abs ret s
    rw [show reportProcThread ret s = some s' from h] at hstep
    exact Refill.step_lost (a := .thread ret) hlost hstep.symm

-- A starved report ends all reports: four steps of the thread later at most, no node is there for
-- the next one, and none ever will be.
theorem lost_of_starved (hstarved : Starved s a) (h : step s a = some s') (ret : Int) :
    ∃ k t, run step s' (List.replicate k (.thread ret)) = some t ∧
      ∀ as u, run step t as = some u → u.reportNode = none ∧ ¬ Reporting u := by
  obtain ⟨⟨report, rfl, hlen⟩, hnode, hfree, hpc⟩ := hstarved
  obtain rfl := Option.some.inj h
  obtain ⟨node, hnode⟩ := Option.ne_none_iff_exists'.mp hnode
  have hbad : Refill.BadFill s.abs (.fill report : Refill.Action _ Int) :=
    ⟨⟨report, rfl⟩, hfree, hpc.imp (congrArg ThreadPc.abs) (congrArg ThreadPc.abs)⟩
  obtain ⟨k, u, hrun, hlost⟩ :=
    Refill.exists_lost hbad (hidEventCallbackRoutine_fill hnode hlen) ret
  obtain ⟨t, hrun', rfl⟩ := run_thread hrun
  refine ⟨k, t, hrun', fun as u hmore => ?_⟩
  have hlost' : Refill.Lost u.abs := run_induct (P := fun s => Refill.Lost s.abs)
    (fun _ _ _ => step_lost) hlost hmore
  refine ⟨hlost'.current, fun hreporting => ?_⟩
  rcases hreporting hlost'.current with hrequest | ⟨node, hstore⟩
  · rw [show u.nodeRequest = false from hlost'.request] at hrequest
    cases hrequest
  · exact hlost'.refilling (some node) (congrArg ThreadPc.abs hstore)

-- The node that the thread has just stored is used up before it clears `node_request`: no report is
-- taken any more.
theorem throughout_reporting_burst :
    (run step (initial 1) (refilled ++ [.event [0x41], .thread 0])).map
        (fun s => (s.reportNode, s.nodeRequest, s.pc)) = some (none, false, .semWait) ∧
      ¬ Throughout step Reporting (initial 1) (refilled ++ [.event [0x41], .thread 0]) := by
  have hrun : (run step (initial 1) (refilled ++ [.event [0x41], .thread 0])).map
      (fun s => (s.reportNode, s.nodeRequest, s.pc)) = some (none, false, .semWait) := by decide
  refine ⟨hrun, fun hall => ?_⟩
  obtain ⟨s, hs, hout⟩ := Option.map_eq_some_iff.mp hrun
  simp only [Prod.mk.injEq] at hout
  obtain ⟨hnode, hrequest, hpc⟩ := hout
  rcases hall _ s (List.prefix_refl _) hs hnode with hon | ⟨node, hon⟩
  · rw [hrequest] at hon
    cases hon
  · rw [hpc] at hon
    cases hon

end Greybus.HidReports
