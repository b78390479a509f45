import Greybus.Reasoning.Transition
import Mathlib.Data.List.Count
import Mathlib.Data.List.Nodup

/-!
# A pool of buffers between an interrupt and a thread

An interrupt fills the buffer that is current, queues it and makes a free buffer current; where
there is none it leaves a request.  A thread that the interrupt wakes handles one queued buffer and
puts it back, and if there is a request it makes a free buffer current and then withdraws the
request.  The interrupt may come between any two steps of the thread.
-/

namespace Reasoning.Refill

open Reasoning.Transition

variable {ν β ω : Type*}

/-- Where the thread is, with the buffer in its hands. -/
inductive Pc (ν : Type*) where
  | waiting
  | woken
  | sending (n : ν)
  | requeueing (n : ν)
  | testing
  | taking
  | refilling (n : Option ν)
  | clearing
  deriving DecidableEq, Repr

/-- The buffers `ν` hold values `β`; handling a value has an outcome `ω`. -/
structure State (ν β ω : Type*) where
  free : List ν
  data : List ν
  current : Option ν
  request : Bool
  wakeups : Nat
  pc : Pc ν
  content : ν → β
  -- What has been filled in and what has been handled, in order.
  filled : List β
  handled : List (β × ω)

inductive Action (β ω : Type*) where
  | fill (v : β)
  -- The interrupt comes while no buffer is current.
  | reject
  -- The thread's next step, and the outcome if it handles a value.
  | thread (o : ω)
  deriving DecidableEq, Repr

namespace State

variable (s : State ν β ω)

def hand : List ν :=
  match s.pc with
  | .sending n => [n]
  | .requeueing n => [n]
  | .refilling n => n.toList
  | _ => []

/-- The value that the thread has taken from the queue and not handled yet. -/
def unhandled : List β :=
  match s.pc with
  | .sending n => [s.content n]
  | _ => []

/-- The interrupt's work once its value is queued: a free buffer becomes current. -/
def advance : State ν β ω :=
  match s.free with
  | [] => { s with current := none, request := true }
  | m :: free => { s with current := some m, free := free }

variable {s} in
theorem advance_nil (h : s.free = []) : s.advance = { s with current := none, request := true } := by
  unfold advance
  split
  next => rfl
  next m free hfree =>
    rw [h] at hfree
    cases hfree

variable {s} in
theorem advance_cons {m : ν} {free : List ν} (h : s.free = m :: free) :
    s.advance = { s with current := some m, free := free } := by
  unfold advance
  split
  next hfree =>
    rw [h] at hfree
    cases hfree
  next m' free' hfree =>
    obtain ⟨rfl, rfl⟩ := List.cons.inj (hfree.symm.trans h)
    rfl

def thread (o : ω) : Option (State ν β ω) :=
  match s.pc with
  | .waiting => if 0 < s.wakeups then some { s with wakeups := s.wakeups - 1, pc := .woken } else none
  | .woken =>
    match s.data with
    | [] => some { s with pc := .testing }
    | n :: data => some { s with data := data, pc := .sending n }
  | .sending n =>
    some { s with handled := s.handled ++ [(s.content n, o)], pc := .requeueing n }
  | .requeueing n => some { s with free := s.free ++ [n], pc := .testing }
  | .testing => some { s with pc := if s.request then .taking else .waiting }
  | .taking => some { s with free := s.free.tail, pc := .refilling s.free.head? }
  | .refilling n => some { s with current := n, pc := .clearing }
  | .clearing => some { s with request := false, pc := .waiting }

section Thread

variable {s}

theorem thread_waiting (hpc : s.pc = .waiting) (o : ω) :
    s.thread o =
      if 0 < s.wakeups then some { s with wakeups := s.wakeups - 1, pc := .woken } else none := by
  unfold thread
  rw [hpc]

theorem thread_woken_nil (hpc : s.pc = .woken) (hdata : s.data = []) (o : ω) :
    s.thread o = some { s with pc := .testing } := by
  unfold thread
  rw [hpc]
  dsimp only
  split
  next => rfl
  next n data hcons =>
    rw [hdata] at hcons
    cases hcons

theorem thread_woken_cons {n : ν} {data : List ν} (hpc : s.pc = .woken) (hdata : s.data = n :: data)
    (o : ω) : s.thread o = some { s with data := data, pc := .sending n } := by
  unfold thread
  rw [hpc]
  dsimp only
  split
  next hnil =>
    rw [hdata] at hnil
    cases hnil
  next n' data' hcons =>
    obtain ⟨rfl, rfl⟩ := List.cons.inj (hcons.symm.trans hdata)
    rfl

theorem thread_sending {n : ν} (hpc : s.pc = .sending n) (o : ω) :
    s.thread o
      = some { s with handled := s.handled ++ [(s.content n, o)], pc := .requeueing n } := by
  unfold thread
  rw [hpc]

theorem thread_requeueing {n : ν} (hpc : s.pc = .requeueing n) (o : ω) :
    s.thread o = some { s with free := s.free ++ [n], pc := .testing } := by
  unfold thread
  rw [hpc]

theorem thread_testing (hpc : s.pc = .testing) (o : ω) :
    s.thread o = some { s with pc := if s.request then .taking else .waiting } := by
  unfold thread
  rw [hpc]

theorem thread_taking (hpc : s.pc = .taking) (o : ω) :
    s.thread o = some { s with free := s.free.tail, pc := .refilling s.free.head? } := by
  unfold thread
  rw [hpc]

theorem thread_refilling {n : Option ν} (hpc : s.pc = .refilling n) (o : ω) :
    s.thread o = some { s with current := n, pc := .clearing } := by
  unfold thread
  rw [hpc]

theorem thread_clearing (hpc : s.pc = .clearing) (o : ω) :
    s.thread o = some { s with request := false, pc := .waiting } := by
  unfold thread
  rw [hpc]

/-- The steps of the thread, one for each branch that it takes. -/
inductive ThreadStep (s : State ν β ω) (o : ω) : State ν β ω → Prop
  | wake (hpc : s.pc = .waiting) (hwakeups : 0 < s.wakeups) :
      ThreadStep s o { s with wakeups := s.wakeups - 1, pc := .woken }
  | empty (hpc : s.pc = .woken) (hdata : s.data = []) : ThreadStep s o { s with pc := .testing }
  | dequeue {n : ν} {data : List ν} (hpc : s.pc = .woken) (hdata : s.data = n :: data) :
      ThreadStep s o { s with data := data, pc := .sending n }
  | send {n : ν} (hpc : s.pc = .sending n) :
      ThreadStep s o { s with handled := s.handled ++ [(s.content n, o)], pc := .requeueing n }
  | requeue {n : ν} (hpc : s.pc = .requeueing n) :
      ThreadStep s o { s with free := s.free ++ [n], pc := .testing }
  | requested (hpc : s.pc = .testing) (hrequest : s.request = true) :
      ThreadStep s o { s with pc := .taking }
  | unrequested (hpc : s.pc = .testing) (hrequest : s.request = false) :
      ThreadStep s o { s with pc := .waiting }
  | take (hpc : s.pc = .taking) :
      ThreadStep s o { s with free := s.free.tail, pc := .refilling s.free.head? }
  | refill {n : Option ν} (hpc : s.pc = .refilling n) :
      ThreadStep s o { s with current := n, pc := .clearing }
  | clear (hpc : s.pc = .clearing) : ThreadStep s o { s with request := false, pc := .waiting }

theorem thread_step {s' : State ν β ω} {o : ω} (h : s.thread o = some s') : s.ThreadStep o s' := by
  cases hpc : s.pc with
  | waiting =>
    rw [thread_waiting hpc] at h
    obtain ⟨hwakeups, h⟩ := Option.ite_none_right_eq_some.mp h
    obtain rfl := Option.some.inj h
    exact .wake hpc hwakeups
  | woken =>
    cases hdata : s.data with
    | nil =>
      obtain rfl := Option.some.inj ((thread_woken_nil hpc hdata o).symm.trans h)
      exact .empty hpc hdata
    | cons n data =>
      obtain rfl := Option.some.inj ((thread_woken_cons hpc hdata o).symm.trans h)
      exact .dequeue hpc hdata
  | sending n =>
    obtain rfl := Option.some.inj ((thread_sending hpc o).symm.trans h)
    exact .send hpc
  | requeueing n =>
    obtain rfl := Option.some.inj ((thread_requeueing hpc o).symm.trans h)
    exact .requeue hpc
  | testing =>
    obtain rfl := Option.some.inj ((thread_testing hpc o).symm.trans h)
    by_cases hrequest : s.request = true
    · rw [if_pos hrequest]
      exact .requested hpc hrequest
    · rw [if_neg hrequest]
      exact .unrequested hpc (Bool.eq_false_iff.mpr hrequest)
  | taking =>
    obtain rfl := Option.some.inj ((thread_taking hpc o).symm.trans h)
    exact .take hpc
  | refilling n =>
    obtain rfl := Option.some.inj ((thread_refilling hpc o).symm.trans h)
    exact .refill hpc
  | clearing =>
    obtain rfl := Option.some.inj ((thread_clearing hpc o).symm.trans h)
    exact .clear hpc

end Thread

end State

section Step

variable [DecidableEq ν]

/-- The interrupt queues a value in the current buffer. -/
def State.queue (s : State ν β ω) (n : ν) (v : β) : State ν β ω :=
  { s with
    content := Function.update s.content n v
    data := s.data ++ [n]
    wakeups := s.wakeups + 1
    filled := s.filled ++ [v] }

def step (s : State ν β ω) : Action β ω → Option (State ν β ω)
  | .fill v => s.current.map fun n => (s.queue n v).advance
  | .reject => if s.current = none then some { s with wakeups := s.wakeups + 1 } else none
  | .thread o => s.thread o

end Step

/-! ## What every run keeps -/

section Invariant

variable [DecidableEq ν]

/-- How often a buffer is in the pool. -/
def State.places (s : State ν β ω) (n : ν) : Nat :=
  s.free.count n + s.data.count n + s.current.toList.count n + s.hand.count n

/-- Every buffer stays in one place, the thread refills only on request, no buffer is current while
the request stands, and values are handled in the order in which they came. -/
structure Inv (nodes : List ν) (s : State ν β ω) : Prop where
  places : ∀ n, s.places n = nodes.count n
  taking : s.pc = .taking → s.request = true
  refilling : ∀ n, s.pc = .refilling n → s.request = true
  off : s.request = true → s.pc ≠ .clearing → s.current = none
  order : s.handled.map Prod.fst ++ s.unhandled ++ s.data.map s.content = s.filled

variable {nodes : List ν} {s s' : State ν β ω} {n : ν} {v : β} {o : ω} {a : Action β ω}

theorem Inv.places_le_one (h : Inv nodes s) (hnodup : nodes.Nodup) (n : ν) : s.places n ≤ 1 := by
  rw [h.places n]
  exact List.nodup_iff_count_le_one.mp hnodup n

-- The current buffer is not in the queue and not in the thread's hands.
theorem Inv.current_apart (h : Inv nodes s) (hnodup : nodes.Nodup) (hn : s.current = some n) :
    n ∉ s.data ∧ n ∉ s.hand := by
  have hle := h.places_le_one hnodup n
  unfold State.places at hle
  rw [hn, Option.toList_some, List.count_singleton_self] at hle
  exact ⟨List.count_eq_zero.mp (by omega), List.count_eq_zero.mp (by omega)⟩

-- While the interrupt has a buffer, the thread is not about to give it one.
theorem Inv.not_refilling (h : Inv nodes s) (hn : s.current = some n) :
    s.pc ≠ .taking ∧ ∀ m, s.pc ≠ .refilling m := by
  constructor
  · intro hpc
    have hoff := h.off (h.taking hpc) (by simp [hpc])
    rw [hn] at hoff
    cases hoff
  · intro m hpc
    have hoff := h.off (h.refilling m hpc) (by simp [hpc])
    rw [hn] at hoff
    cases hoff

theorem map_update_of_notMem {data : List ν} {content : ν → β} (hn : n ∉ data) :
    data.map (Function.update content n v) = data.map content := by
  apply List.map_congr_left
  intro m hm
  have hne : m ≠ n := ne_of_mem_of_not_mem hm hn
  exact Function.update_of_ne hne v content

theorem unhandled_queue (hn : n ∉ s.hand) : (s.queue n v).unhandled = s.unhandled := by
  unfold State.unhandled State.queue
  dsimp only
  cases hpc : s.pc with
  | sending m =>
    have hm : m ≠ n := by
      intro heq
      apply hn
      unfold State.hand
      rw [hpc, heq]
      exact List.mem_singleton_self n
    simp only [Function.update_of_ne hm]
  | _ => rfl

theorem Inv.queue (h : Inv nodes s) (hnodup : nodes.Nodup) (hn : s.current = some n) (v : β) :
    (s.queue n v).handled.map Prod.fst ++ (s.queue n v).unhandled
        ++ (s.queue n v).data.map (s.queue n v).content = (s.queue n v).filled := by
  obtain ⟨hdata, hhand⟩ := h.current_apart hnodup hn
  rw [unhandled_queue hhand]
  show s.handled.map Prod.fst ++ s.unhandled ++ (s.data ++ [n]).map (Function.update s.content n v)
    = s.filled ++ [v]
  rw [List.map_append, map_update_of_notMem hdata, ← List.append_assoc, h.order, List.map_singleton,
    Function.update_self]

theorem Inv.fill (h : Inv nodes s) (hnodup : nodes.Nodup) (hn : s.current = some n) (v : β) :
    Inv nodes ((s.queue n v).advance) := by
  obtain ⟨htaking, hrefilling⟩ := h.not_refilling hn
  have horder := h.queue hnodup hn v
  have hplaces (m : ν) := h.places m
  unfold State.places State.hand at hplaces
  rw [hn] at hplaces
  unfold State.advance
  split
  next hfree =>
    have hnone : s.free = [] := hfree
    rw [hnone] at hplaces
    refine ⟨fun m => ?_, fun hpc => absurd hpc htaking, fun m hpc => absurd hpc (hrefilling m),
      fun _ _ => rfl, horder⟩
    rw [← hplaces m]
    simp only [State.places, State.hand, State.queue, hnone, List.count_append, Option.toList,
      List.count_nil]
    omega
  next m free hfree =>
    have hsome : s.free = m :: free := hfree
    rw [hsome] at hplaces
    refine ⟨fun x => ?_, fun hpc => absurd hpc htaking, fun m hpc => absurd hpc (hrefilling m),
      fun hreq hpc => ?_, horder⟩
    · rw [← hplaces x]
      simp only [State.places, State.hand, State.queue, List.count_append, List.count_cons,
        Option.toList, List.count_nil]
      omega
    · have hoff := h.off hreq hpc
      rw [hn] at hoff
      cases hoff

theorem Inv.thread (h : Inv nodes s) (hs : s.thread o = some s') : Inv nodes s' := by
  have hplaces := h.places
  have horder := h.order
  unfold State.places State.hand at hplaces
  unfold State.unhandled at horder
  cases State.thread_step hs with
  | wake hpc =>
    simp only [hpc] at hplaces horder
    exact ⟨hplaces, by simp, by simp, fun hreq _ => h.off hreq (by simp [hpc]), horder⟩
  | empty hpc =>
    simp only [hpc] at hplaces horder
    exact ⟨hplaces, by simp, by simp, fun hreq _ => h.off hreq (by simp [hpc]), horder⟩
  | dequeue hpc hdata =>
    simp only [hpc, hdata] at hplaces horder
    refine ⟨fun m => ?_, by simp, by simp, fun hreq _ => h.off hreq (by simp [hpc]), ?_⟩
    · rw [← hplaces m]
      simp only [State.places, State.hand, List.count_cons, List.count_nil]
      omega
    · rw [← horder]
      simp [State.unhandled]
  | send hpc =>
    simp only [hpc] at hplaces horder
    refine ⟨hplaces, by simp, by simp, fun hreq _ => h.off hreq (by simp [hpc]), ?_⟩
    rw [← horder]
    simp [State.unhandled]
  | requeue hpc =>
    simp only [hpc] at hplaces horder
    refine ⟨fun m => ?_, by simp, by simp, fun hreq _ => h.off hreq (by simp [hpc]), horder⟩
    rw [← hplaces m]
    simp only [State.places, State.hand, List.count_append, List.count_cons, List.count_nil]
    omega
  | requested hpc hrequest =>
    simp only [hpc] at hplaces horder
    have hoff : s.current = none := h.off hrequest (by simp [hpc])
    exact ⟨hplaces, fun _ => hrequest, by simp, fun _ _ => hoff, horder⟩
  | unrequested hpc =>
    simp only [hpc] at hplaces horder
    exact ⟨hplaces, by simp, by simp, fun hreq _ => h.off hreq (by simp [hpc]), horder⟩
  | take hpc =>
    simp only [hpc] at hplaces horder
    have hreq : s.request = true := h.taking hpc
    refine ⟨fun m => ?_, by simp, fun _ _ => hreq, fun hreq _ => h.off hreq (by simp [hpc]), horder⟩
    rw [← hplaces m]
    simp only [State.places, State.hand]
    cases s.free with
    | nil => simp
    | cons x free =>
      simp only [List.tail_cons, List.head?_cons, Option.toList, List.count_cons, List.count_nil]
      omega
  | refill hpc =>
    have hnone : s.current = none := h.off (h.refilling _ hpc) (by simp [hpc])
    simp only [hpc, hnone] at hplaces horder
    refine ⟨fun m => ?_, by simp, by simp, fun _ hpc => absurd rfl hpc, horder⟩
    rw [← hplaces m]
    simp only [State.places, State.hand, Option.toList, List.count_nil]
    omega
  | clear hpc =>
    simp only [hpc] at hplaces horder
    exact ⟨hplaces, by simp, by simp, by simp, horder⟩

theorem step_inv (hnodup : nodes.Nodup) (h : Inv nodes s) (hs : step s a = some s') :
    Inv nodes s' := by
  cases a with
  | fill v =>
    obtain ⟨n, hn, rfl⟩ := Option.map_eq_some_iff.mp hs
    exact h.fill hnodup hn v
  | reject =>
    replace hs : (if s.current = none then some _ else none) = some s' := hs
    split at hs
    next =>
      obtain rfl := Option.some.inj hs
      exact ⟨h.places, h.taking, h.refilling, h.off, h.order⟩
    next => cases hs
  | thread o => exact h.thread hs

end Invariant

/-! ## Requests that get through -/

section Ready

variable {nodes : List ν} {s s' t : State ν β ω} {n : ν} {v : β} {o : ω}
  {a : Action β ω}

/-- The interrupt finds no free buffer just before the thread looks for a request, or just before it
withdraws one. -/
def BadFill (s : State ν β ω) (a : Action β ω) : Prop :=
  (∃ v, a = .fill v) ∧ s.free = [] ∧ (s.pc = .testing ∨ s.pc = .clearing)

/-- Without a current buffer there is a request, and the thread will come to it with a free buffer
at hand. -/
structure Ready (s : State ν β ω) : Prop where
  requested : s.current = none → s.request = true
  waiting : s.current = none → s.pc = .waiting → 0 < s.wakeups
  testing : s.current = none → s.pc = .testing → s.free ≠ []
  taking : s.pc = .taking → s.free ≠ []
  refilling : s.pc ≠ .refilling none
  clearing : s.pc = .clearing → s.current ≠ none

theorem Ready.of_current (hn : s.current ≠ none) (htaking : s.pc ≠ .taking)
    (hrefilling : s.pc ≠ .refilling none) : Ready s :=
  ⟨fun h => absurd h hn, fun h => absurd h hn, fun h => absurd h hn, fun h => absurd h htaking,
    hrefilling, fun _ => hn⟩

variable [DecidableEq ν]

theorem Ready.fill (hinv : Inv nodes s) (hn : s.current = some n)
    (hbad : ¬ BadFill s (.fill v : Action β ω)) : Ready (s.queue n v).advance := by
  obtain ⟨htaking, hrefilling⟩ := hinv.not_refilling hn
  unfold State.advance
  split
  next hfree =>
    have hpc : s.pc ≠ .testing ∧ s.pc ≠ .clearing :=
      ⟨fun hpc => hbad ⟨⟨v, rfl⟩, hfree, .inl hpc⟩, fun hpc => hbad ⟨⟨v, rfl⟩, hfree, .inr hpc⟩⟩
    exact ⟨fun _ => rfl, fun _ _ => Nat.succ_pos s.wakeups, fun _ hpc' => absurd hpc' hpc.1,
      fun hpc' => absurd hpc' htaking, hrefilling none, fun hpc' => absurd hpc' hpc.2⟩
  next m free _ => exact .of_current (by simp) htaking (hrefilling none)

-- A thread with empty hands and no buffer current has all buffers in the two queues.
theorem Inv.free_ne_nil (hinv : Inv nodes s) (hnodes : nodes ≠ []) (hcurrent : s.current = none)
    (hpc : s.pc = .woken) (hdata : s.data = []) : s.free ≠ [] := by
  obtain ⟨n, hn⟩ := List.exists_mem_of_ne_nil nodes hnodes
  intro hfree
  have hplaces := hinv.places n
  unfold State.places State.hand at hplaces
  rw [hcurrent, hpc, hdata, hfree] at hplaces
  have hpos : 0 < nodes.count n := List.count_pos_iff.mpr hn
  simp only [List.count_nil, Option.toList] at hplaces
  omega

theorem Ready.thread (h : Ready s) (hinv : Inv nodes s) (hnodes : nodes ≠ [])
    (hs : s.thread o = some s') : Ready s' := by
  cases State.thread_step hs with
  | wake => exact ⟨h.requested, by simp, by simp, by simp, by simp, by simp⟩
  | empty hpc hdata =>
    exact ⟨h.requested, by simp, fun hcurrent _ => hinv.free_ne_nil hnodes hcurrent hpc hdata,
      by simp, by simp, by simp⟩
  | dequeue => exact ⟨h.requested, by simp, by simp, by simp, by simp, by simp⟩
  | send => exact ⟨h.requested, by simp, by simp, by simp, by simp, by simp⟩
  | requeue => exact ⟨h.requested, by simp, by simp, by simp, by simp, by simp⟩
  | requested hpc hrequest =>
    have hnone : s.current = none := hinv.off hrequest (by simp [hpc])
    exact ⟨h.requested, by simp, by simp, fun _ => h.testing hnone hpc, by simp, by simp⟩
  | unrequested hpc hrequest =>
    have hcurrent : s.current ≠ none := by
      intro hnone
      rw [h.requested hnone] at hrequest
      cases hrequest
    exact .of_current hcurrent (by simp) (by simp)
  | take hpc =>
    refine ⟨h.requested, by simp, by simp, by simp, ?_, by simp⟩
    simpa using h.taking hpc
  | @refill n hpc =>
    have hn : n ≠ none := fun hn => h.refilling (hn ▸ hpc)
    exact .of_current hn (by simp) (by simp)
  | clear hpc => exact .of_current (h.clearing hpc) (by simp) (by simp)

theorem step_ready (hinv : Inv nodes s) (hnodes : nodes ≠ []) (h : Ready s) (hbad : ¬ BadFill s a)
    (hs : step s a = some s') : Ready s' := by
  cases a with
  | fill v =>
    obtain ⟨n, hn, rfl⟩ := Option.map_eq_some_iff.mp hs
    exact .fill hinv hn hbad
  | reject =>
    replace hs : (if s.current = none then some _ else none) = some s' := hs
    split at hs
    next =>
      obtain rfl := Option.some.inj hs
      exact ⟨h.requested, fun _ _ => Nat.succ_pos s.wakeups, h.testing, h.taking, h.refilling,
        h.clearing⟩
    next => cases hs
  | thread o => exact h.thread hinv hnodes hs

/-! ## Requests that are lost -/

/-- No buffer is current, and nobody will make one current. -/
structure Lost (s : State ν β ω) : Prop where
  current : s.current = none
  request : s.request = false
  taking : s.pc ≠ .taking
  refilling : ∀ n, s.pc ≠ .refilling n

theorem step_lost (h : Lost s) (hs : step s a = some s') : Lost s' := by
  cases a with
  | fill v =>
    obtain ⟨n, hn, -⟩ := Option.map_eq_some_iff.mp hs
    rw [h.current] at hn
    cases hn
  | reject =>
    replace hs : (if s.current = none then some _ else none) = some s' := hs
    rw [if_pos h.current] at hs
    obtain rfl := Option.some.inj hs
    exact ⟨h.current, h.request, h.taking, h.refilling⟩
  | thread o =>
    cases State.thread_step (show s.thread o = some s' from hs) with
    | wake => exact ⟨h.current, h.request, by simp, by simp⟩
    | empty => exact ⟨h.current, h.request, by simp, by simp⟩
    | dequeue => exact ⟨h.current, h.request, by simp, by simp⟩
    | send => exact ⟨h.current, h.request, by simp, by simp⟩
    | requeue => exact ⟨h.current, h.request, by simp, by simp⟩
    | requested _ hrequest =>
      rw [h.request] at hrequest
      cases hrequest
    | unrequested => exact ⟨h.current, h.request, by simp, by simp⟩
    | take hpc => exact absurd hpc h.taking
    | refill hpc => exact absurd hpc (h.refilling _)
    | clear => exact ⟨h.current, rfl, by simp, by simp⟩

-- A bad interrupt ends the refilling: the thread finds no buffer, or forgets the request.
theorem exists_lost (hbad : BadFill s a) (hs : step s a = some s') (o : ω) :
    ∃ k t, run step s' (List.replicate k (.thread o)) = some t ∧ Lost t := by
  obtain ⟨⟨v, rfl⟩, hfree, hpc⟩ := hbad
  obtain ⟨n, hn, rfl⟩ := Option.map_eq_some_iff.mp hs
  have hadvance : (s.queue n v).advance =
      { s.queue n v with current := none, request := true } := State.advance_nil hfree
  rw [hadvance]
  rcases hpc with hpc | hpc
  · refine ⟨4, { s.queue n v with
      current := none, request := false, pc := .waiting }, ?_, ⟨rfl, rfl, by simp, by simp⟩⟩
    simp [run, step, State.thread, State.queue, List.replicate, hpc, hfree]
  · refine ⟨1, { s.queue n v with
      current := none, request := false, pc := .waiting }, ?_, ⟨rfl, rfl, by simp, by simp⟩⟩
    simp [run, step, State.thread, State.queue, List.replicate, hpc]

end Ready

end Reasoning.Refill
