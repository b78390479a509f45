import Greybus.Core.RxQueue
import Greybus.Reasoning.Potential

/-!
# The worker makes progress

What `gb_unregister_driver` waits for in `pthread_join`: the worker is never stuck, it wakes no more
often than there is something to do, and it leaves its loop with every message processed.
-/

namespace Greybus.RxQueue

open Reasoning.Transition Reasoning.Potential

variable {Msg : Type*} [DecidableEq Msg]

/-- The steps of `gb_pending_message_worker`, but for a `sem_wait` that fails. -/
def Action.byWorker : Action Msg → Bool
  | .semWait | .exitTest | .dequeue | .process => true
  | _ => false

/-- The steps of the worker until it is back at `sem_wait` without a unit to take, or has left its
loop. -/
def Worker.stage : Worker Msg → Nat
  | .waiting => 2
  | .woken => 1
  | .processing _ => 3
  | _ => 0

/-- The steps that the worker has left, when nothing arrives any more. -/
def State.rank (s : State Msg) : Nat := 4 * s.rxFifo.length + s.worker.stage

/-- What a step adds to the worker's steps: a message is worth four, and a new worker may wake
once. -/
def Action.cost : Action Msg → Nat
  | .rxAppend _ => 4
  | .create _ => 2
  | _ => 0

theorem rank_byWorker {s s' : State Msg} {a : Action Msg} (h : Inv s) (hstep : step s a = some s')
    (ha : a.byWorker = true) : s'.rank < s.rank := by
  cases a with
  | semWait =>
    simp only [step, Option.ite_none_right_eq_some, Option.some.injEq] at hstep
    obtain ⟨⟨hw, -⟩, rfl⟩ := hstep
    simp [State.rank, Worker.stage, hw]
  | exitTest =>
    simp only [step, Option.ite_none_right_eq_some, Option.some.injEq] at hstep
    obtain ⟨hw, rfl⟩ := hstep
    unfold State.exitTest
    split <;> simp [State.rank, Worker.stage, hw]
  | dequeue =>
    simp only [step, Option.ite_none_right_eq_some, Option.some.injEq] at hstep
    obtain ⟨hw, rfl⟩ := hstep
    unfold State.dequeue
    split
    next hempty => exact absurd hempty (h.ready hw)
    next e rest hfifo =>
      simp only [State.rank, Worker.stage, hw, hfifo, List.length_cons]
      omega
  | process =>
    simp only [step] at hstep
    split at hstep
    next e hw =>
      obtain rfl := Option.some.inj hstep
      simp [State.rank, Worker.stage, hw]
    next => cases hstep
  | _ => cases ha

theorem rank_other {s s' : State Msg} {a : Action Msg} (hstep : step s a = some s')
    (ha : a.byWorker = false) : s'.rank ≤ s.rank + a.cost := by
  cases a with
  | semWait | exitTest | dequeue | process => cases ha
  | rxAppend m =>
    simp only [step, Option.ite_none_right_eq_some, Option.some.injEq] at hstep
    obtain ⟨-, rfl⟩ := hstep
    simp only [State.rank, State.enqueue, List.length_append, List.length_singleton, Action.cost]
    omega
  | create ok =>
    simp only [step, Option.ite_none_right_eq_some, Option.some.injEq] at hstep
    obtain ⟨-, rfl⟩ := hstep
    cases ok <;> simp [State.rank, Worker.stage, Action.cost]
  | join =>
    simp only [step, Option.ite_none_right_eq_some, Option.some.injEq] at hstep
    obtain ⟨-, rfl⟩ := hstep
    simp only [State.rank, Worker.stage]
    omega
  | rxEnter | rxReturn | operationTimeout | semWaitFails | unregister | postExit | clearDriver
  | register | setDriver =>
    simp only [step, State.operationTimeout, Option.ite_none_right_eq_some,
      Option.some.injEq] at hstep
    obtain ⟨-, rfl⟩ := hstep
    exact Nat.le_add_right ..

theorem pays : Pays (@step Msg _) Inv State.rank Action.byWorker Action.cost where
  inv := step_inv
  counted _ _ _ h hstep := rank_byWorker h hstep
  other _ _ _ _ hstep := rank_other hstep

/-- The worker waits, and has nothing to wait for but a message or an exit token. -/
def State.idle (s : State Msg) : Prop :=
  s.worker = .waiting ∧ s.rxFifo = [] ∧ s.control ≠ .joining

-- A worker that is not idle can go on.
theorem Inv.progress {s : State Msg} (h : Inv s) (halive : s.worker.alive = true) :
    s.idle ∨ ∃ a s', a.byWorker = true ∧ step s a = some s' := by
  cases hw : s.worker with
  | waiting =>
    by_cases hidle : s.idle
    · exact .inl hidle
    · right
      have hcount := h.count
      have htoken := h.token
      have hpos : 0 < s.rxFifoLock := by
        simp only [State.between, hw] at hcount
        by_cases hjoin : s.control = .joining
        · rw [if_pos ⟨hjoin, halive⟩] at htoken
          omega
        · have hfifo : s.rxFifo ≠ [] := fun hempty => hidle ⟨hw, hempty, hjoin⟩
          have hlength := List.length_pos_iff.mpr hfifo
          omega
      exact ⟨.semWait, _, rfl, if_pos ⟨hw, hpos⟩⟩
  | woken => exact .inr ⟨.exitTest, _, rfl, if_pos hw⟩
  | dequeuing => exact .inr ⟨.dequeue, _, rfl, if_pos hw⟩
  | processing e => exact .inr ⟨.process, _, rfl, by simp only [step, hw]; rfl⟩
  | absent | nullHead | exited => simp [hw, Worker.alive] at halive

/-! ## Waiting for the worker -/

/-- `gb_unregister_driver` waits for the worker, and nothing more arrives. -/
structure Stopping (accepted : List (Entry Msg)) (s : State Msg) : Prop where
  inv : Inv s
  control : s.control = .joining
  accepted_eq : s.accepted = accepted
  drained : s.worker = .exited → s.rxFifo = []

-- The worker's own steps let nothing in, and leave the one who waits alone.
theorem step_byWorker {s s' : State Msg} {a : Action Msg} (hstep : step s a = some s')
    (ha : a.byWorker = true) : s'.control = s.control ∧ s'.accepted = s.accepted ∧
      (s'.worker = .exited → s'.rxFifo = s.rxFifo) := by
  cases a with
  | semWait =>
    simp only [step, Option.ite_none_right_eq_some, Option.some.injEq] at hstep
    obtain ⟨-, rfl⟩ := hstep
    exact ⟨rfl, rfl, fun _ => rfl⟩
  | exitTest =>
    simp only [step, Option.ite_none_right_eq_some, Option.some.injEq] at hstep
    obtain ⟨-, rfl⟩ := hstep
    unfold State.exitTest
    split <;> exact ⟨rfl, rfl, fun _ => rfl⟩
  | dequeue =>
    simp only [step, Option.ite_none_right_eq_some, Option.some.injEq] at hstep
    obtain ⟨-, rfl⟩ := hstep
    unfold State.dequeue
    split <;> exact ⟨rfl, rfl, fun hexited => by cases hexited⟩
  | process =>
    simp only [step] at hstep
    split at hstep
    next =>
      obtain rfl := Option.some.inj hstep
      exact ⟨rfl, rfl, fun hexited => by cases hexited⟩
    next => cases hstep
  | _ => cases ha

theorem Stopping.step {accepted : List (Entry Msg)} {s s' : State Msg} {a : Action Msg}
    (h : Stopping accepted s) (hlive : s.worker ≠ .exited) (hstep : RxQueue.step s a = some s')
    (ha : a.byWorker = true) : Stopping accepted s' := by
  obtain ⟨hcontrol, haccepted, hfifo⟩ := step_byWorker hstep ha
  refine ⟨step_inv s a s' h.inv hstep, hcontrol.trans h.control, haccepted.trans h.accepted_eq,
    fun hexited => ?_⟩
  rw [hfifo hexited]
  exact step_exits hstep hlive hexited

-- Left alone, the worker leaves its loop, and nothing that was accepted is left behind.
theorem Stopping.exits {accepted : List (Entry Msg)} {s : State Msg} (h : Stopping accepted s) :
    ∃ as t, (∀ a ∈ as, a.byWorker = true) ∧ as.length ≤ s.rank ∧
      run RxQueue.step s as = some t ∧ t.worker = .exited ∧ t.processed = accepted ∧
      (RxQueue.step t .join).isSome = true := by
  have hprogress : ∀ s, Stopping accepted s → ¬ s.worker = .exited → ∃ a s',
      a.byWorker = true ∧ RxQueue.step s a = some s' ∧ Stopping accepted s' ∧
        s'.rank < s.rank := by
    intro s hs hlive
    have halive : s.worker.alive = true := by
      have hthread := hs.inv.thread
      rw [hs.control] at hthread
      exact hthread.resolve_right hlive
    rcases hs.inv.progress halive with hidle | ⟨a, s', ha, hstep⟩
    · exact absurd hs.control hidle.2.2
    · exact ⟨a, s', ha, hstep, hs.step hlive hstep ha, rank_byWorker hs.inv hstep ha⟩
  obtain ⟨as, t, has, hlength, hrun, ht, hexited⟩ := exists_run_done hprogress h
  have hhistory := ht.inv.history
  rw [ht.accepted_eq, ht.drained hexited] at hhistory
  refine ⟨as, t, has, hlength, hrun, hexited, ?_, ?_⟩
  · simpa [State.inHand, hexited] using hhistory.symm
  · simp [RxQueue.step, ht.control, hexited]

/-- On every cport and after every interleaving, the worker can go on unless there is nothing for it
to do; whatever happens from there, it takes at most four steps for each message that is queued or
comes, three more for what it has in hand and two for each worker that is created; and once
`gb_unregister_driver` waits for it, it processes everything that has been accepted and lets
`pthread_join` return. -/
theorem worker_progress {as : List (Nat × Action Msg)} {g : Nat → State Msg}
    (hrun : run (family step) (fun _ => gbInit) as = some g) (cport : Nat) :
    ((g cport).worker.alive = true →
      (g cport).idle ∨ ∃ a s', a.byWorker = true ∧ step (g cport) a = some s') ∧
    (∀ bs t, run step (g cport) bs = some t →
      bs.countP Action.byWorker ≤ 4 * (g cport).rxFifo.length + 3 + (bs.map Action.cost).sum) ∧
    ((g cport).control = .joining → (g cport).worker.alive = true →
      ∃ bs t, (∀ b ∈ bs, b.byWorker = true) ∧ bs.length ≤ 4 * (g cport).rxFifo.length + 3 ∧
        run step (g cport) bs = some t ∧ t.worker = .exited ∧
        t.processed = (g cport).accepted ∧ (step t .join).isSome = true) := by
  obtain ⟨cs, hcs⟩ := run_family hrun cport
  have h : Inv (g cport) := run_induct step_inv gbInit_inv hcs
  have hrank : (g cport).rank ≤ 4 * (g cport).rxFifo.length + 3 := by
    have hstage : (g cport).worker.stage ≤ 3 := by cases (g cport).worker <;> simp [Worker.stage]
    simp only [State.rank]
    omega
  refine ⟨h.progress, fun bs t hbs => ?_, fun hjoin halive => ?_⟩
  · have hle := pays.countP_le h hbs
    omega
  · have hlive : (g cport).worker ≠ .exited := by
      intro hexited
      rw [hexited] at halive
      cases halive
    obtain ⟨bs, t, hbs, hlength, hrest⟩ :=
      Stopping.exits (s := g cport) ⟨h, hjoin, rfl, fun hexited => absurd hexited hlive⟩
    exact ⟨bs, t, hbs, Nat.le_trans hlength hrank, hrest⟩

/-- A message is queued while `gb_unregister_driver` waits. -/
def joiningRun : List (Nat × Action Nat) :=
  [.register, .create true, .setDriver, .rxEnter, .unregister, .postExit, .rxAppend 7].map (3, ·)

theorem worker_progress_joining :
    ∃ g : Nat → State Nat, run (family step) (fun _ => gbInit) joiningRun = some g ∧
      ∃ bs t, (∀ b ∈ bs, b.byWorker = true) ∧ bs.length ≤ 7 ∧ run step (g 3) bs = some t ∧
        t.worker = .exited ∧ t.processed = [.message 7] ∧ (step t .join).isSome = true := by
  have hsome : (run (family step) (fun _ => gbInit) joiningRun).isSome := by decide
  refine ⟨(run (family step) (fun _ => gbInit) joiningRun).get hsome, ?_, ?_⟩
  · exact (Option.some_get hsome).symm
  · exact (worker_progress (Option.some_get hsome).symm 3).2.2 rfl rfl

end Greybus.RxQueue
