import Greybus.Core.Enqueue
import Greybus.Core.RxQueue
import Greybus.Transport.MultiplexReceive

/-!
# From the wire to the workers

The receiving thread of the TCP/IP multiplex transport, which reads one message after the other and
hands each to `greybus_rx_handler`, beside the workers of the cports and the threads that register
and unregister drivers.
-/

namespace Greybus.OverTheWire

open Reasoning.Transition Reasoning.PartialIO Multiplex

/-- Where the receiving thread is. -/
inductive RxPc where
  -- In `gb_trans_rx`, without a message.
  | receiving
  -- At the checks of `greybus_rx_handler`.
  | calling (f : Frame)
  -- Behind them.
  | entered (f : Frame)
  deriving DecidableEq, Repr

/-- The receiving thread with its socket, and the receive queues of the cports. -/
structure Node where
  rx : RxCtx
  pc : RxPc
  queues : Nat → RxQueue.State (List UInt8)

inductive Action where
  -- A round of `gb_trans_rx`, as far as the call of `greybus_rx_handler`.
  | receive (e : RxEvent)
  | check
  -- The rest of `greybus_rx_handler`; whether there is memory for the operation.
  | accept (memory : Bool)
  -- A step of the worker of a cport, or of a thread that registers or unregisters its driver.
  | atCport (cport : Nat) (a : RxQueue.Action (List UInt8))

/-- Only the receiving thread takes these. -/
def byReceiver : RxQueue.Action (List UInt8) → Bool
  | .rxEnter | .rxReturn | .rxAppend _ => true
  | _ => false

/-- The core, with the drivers that are registered now. -/
def Node.core (core : Core) (n : Node) : Core where
  cportCount := core.cportCount
  gCport := fun cport =>
    if (n.queues cport).registered then core.gCport cport
    else { core.gCport cport with driver := none }
  gBundle := core.gBundle
  bundles := core.bundles
  drivers := core.drivers

/-- A step at a cport, after which the receiving thread is at `pc`. -/
def Node.stepAt (n : Node) (cport : Nat) (a : RxQueue.Action (List UInt8)) (pc : RxPc) :
    Option Node :=
  (family RxQueue.step n.queues (cport, a)).map fun queues => { n with queues := queues, pc := pc }

/-- What a round of `gb_trans_rx` has handed to `greybus_rx_handler`. -/
def RxPc.of : List Frame → RxPc
  | [] => .receiving
  | f :: _ => .calling f

/-- `core` has the drivers that the cports have while they are registered.  A driver that is cleared
while `greybus_rx_handler` uses it ends the run. -/
def step (core : Core) (n : Node) : Action → Option Node
  | .receive e =>
    match n.pc with
    | .receiving => (gbTransRx n.rx e).map fun rx =>
        { n with rx := rx, pc := .of (rx.delivered.drop n.rx.delivered.length) }
    | _ => none
  | .check =>
    match n.pc with
    | .calling f =>
      match rxCheck (n.core core) f.cport (some f.buf) with
      | .error _ => some { n with pc := .receiving }
      | .ok _ => n.stepAt f.cport .rxEnter (.entered f)
    | _ => none
  | .accept memory =>
    match n.pc with
    | .entered f =>
      (rxDispatch (n.core core) memory ⟨f.cport, f.buf⟩).bind fun
        | .queued request => n.stepAt f.cport (.rxAppend request) .receiving
        | _ => n.stepAt f.cport .rxReturn .receiving
    | _ => none
  | .atCport cport a => if byReceiver a then none else n.stepAt cport a n.pc

/-- `frames` are on their way, and no driver is registered. -/
def start (frames : List Frame) (ending : Stop) (sizes : Nat → Nat) : Node where
  rx := .start frames ending sizes
  pc := .receiving
  queues := fun _ => RxQueue.gbInit

/-! ## What is under way -/

/-- The messages for a cport. -/
def sentTo (cport : Nat) (frames : List Frame) : List (RxQueue.Entry (List UInt8)) :=
  (frames.filter (·.cport = cport)).map (.message ·.buf)

/-- The message that the receiving thread has. -/
def RxPc.frames : RxPc → List Frame
  | .receiving => []
  | .calling f | .entered f => [f]

/-- What a cport has processed, has in hand and has queued, and what is still to come to it when
`todo` is on the stream, oldest first. -/
def Node.line (n : Node) (cport : Nat) (todo : List Frame) :
    List (RxQueue.Entry (List UInt8)) :=
  (n.queues cport).processed ++ (n.queues cport).inHand ++ (n.queues cport).rxFifo ++
    sentTo cport n.pc.frames ++ sentTo cport todo

/-- What a step adds to what its cport has accepted. -/
def appended : RxQueue.Action (List UInt8) → List (RxQueue.Entry (List UInt8))
  | .rxAppend m => [.message m]
  | _ => []

/-- A message that finds no room has no payload. -/
def KeepsFraming (n : Node) (a : Action) (_ : Node) : Prop :=
  match a with
  | .receive e => DropsNoPayload n.rx e
  | _ => True

instance (n : Node) (a : Action) (n' : Node) : Decidable (KeepsFraming n a n') :=
  match a with
  | .receive e => inferInstanceAs (Decidable (DropsNoPayload n.rx e))
  | .check | .accept _ | .atCport _ _ => .isTrue trivial

/-- There is room for every message, and one for the cport finds a driver with a handler that is
not fast, and memory for its operation. -/
def Takes (core : Core) (cport : Nat) (n : Node) (a : Action) (_ : Node) : Prop :=
  match a with
  | .receive e => e.allocOk = true
  | .check => ∀ f ∈ n.pc.frames, f.cport = cport →
      cport < core.cportCount ∧ (n.core core).hasHandlers cport = true
  | .accept memory => ∀ f ∈ n.pc.frames, f.cport = cport →
      memory = true ∧ rxDispatch (n.core core) true ⟨f.cport, f.buf⟩ ≠ some .fast
  | .atCport _ _ => True

instance (core : Core) (cport : Nat) (n : Node) (a : Action) (n' : Node) :
    Decidable (Takes core cport n a n') :=
  match a with
  | .receive e => inferInstanceAs (Decidable (e.allocOk = true))
  | .check => inferInstanceAs (Decidable (∀ f ∈ n.pc.frames, f.cport = cport →
      cport < core.cportCount ∧ (n.core core).hasHandlers cport = true))
  | .accept memory => inferInstanceAs (Decidable (∀ f ∈ n.pc.frames, f.cport = cport →
      memory = true ∧ rxDispatch (n.core core) true ⟨f.cport, f.buf⟩ ≠ some .fast))
  | .atCport _ _ => .isTrue trivial

/-- The message that comes next at a cport stays where it is in the line, or leaves it if it is not
taken. -/
def Conveys (core : Core) (n : Node) (a : Action) (n' : Node) (todo todo' : List Frame) : Prop :=
  ∀ cport, (n'.line cport todo').Sublist (n.line cport todo) ∧
    (Takes core cport n a n' → n'.line cport todo' = n.line cport todo)

/-! ## One step -/

/-- `todo` is on the stream. -/
structure Carries (n : Node) (todo : List Frame) : Prop where
  pending : n.rx.source.pending = todo.flatMap Frame.bytes
  wellFormed : ∀ f ∈ n.pc.frames ++ todo, f.WellFormed
  queues : ∀ cport, RxQueue.Inv (n.queues cport)

section Steps

variable {core : Core} {n n' : Node} {todo : List Frame} {cport : Nat} {f : Frame}

theorem sentTo_append (frames frames' : List Frame) :
    sentTo cport (frames ++ frames') = sentTo cport frames ++ sentTo cport frames' := by
  rw [sentTo, List.filter_append, List.map_append, ← sentTo, ← sentTo]

theorem sentTo_singleton (h : f.cport = cport) : sentTo cport [f] = [.message f.buf] := by
  simp [sentTo, h]

theorem sentTo_singleton_ne (h : f.cport ≠ cport) : sentTo cport [f] = [] := by
  simp [sentTo, h]

theorem Carries.line_eq (h : Carries n todo) :
    n.line cport todo = (n.queues cport).accepted ++ sentTo cport (n.pc.frames ++ todo) := by
  rw [Node.line, (h.queues cport).history, sentTo_append, List.append_assoc _ (sentTo _ _)]

-- A round that keeps the framing takes at most the next message off the stream, and hands on
-- nothing but that.
theorem gbTransRx_frames {ctx ctx' : RxCtx} {e : RxEvent} (hframes : ∀ f ∈ todo, f.WellFormed)
    (hpending : ctx.source.pending = todo.flatMap Frame.bytes) (hrx : gbTransRx ctx e = some ctx')
    (hdrops : DropsNoPayload ctx e) :
    ∃ handed todo', ctx'.delivered = ctx.delivered ++ handed ∧
      ctx'.source.pending = todo'.flatMap Frame.bytes ∧
      (handed ++ todo' = todo ∨ e.allocOk = false ∧ handed = [] ∧ ∃ f, todo = f :: todo') ∧
      handed.length ≤ 1 := by
  by_cases hskip : (!ctx.connected || !e.pollin) = true
  · rw [gbTransRx, if_pos hskip] at hrx
    obtain rfl := Option.some.inj hrx
    exact ⟨[], todo, (List.append_nil _).symm, hpending, .inl rfl, Nat.zero_le _⟩
  rw [gbTransRx, if_neg hskip] at hrx
  cases todo with
  | nil =>
    obtain ⟨closed, s', hreceive, hs'⟩ := gbMessageReceive_nil hpending e.allocOk false
    rw [hreceive, Option.map_some] at hrx
    obtain rfl := Option.some.inj hrx
    refine ⟨[], [], ?_, ?_, .inl rfl, Nat.zero_le _⟩
    · cases closed <;> simp [earlyExit]
    · cases closed <;> simpa [earlyExit] using hs'
  | cons f todo =>
    rw [List.flatMap_cons] at hpending
    have hf : f.WellFormed := hframes f List.mem_cons_self
    cases halloc : e.allocOk with
    | true =>
      obtain ⟨s', hreceive, hs', -⟩ := gbMessageReceive_frame hf hpending false
      rw [halloc, hreceive, Option.map_some] at hrx
      obtain rfl := Option.some.inj hrx
      exact ⟨[f], todo, rfl, hs', .inl rfl, Nat.le_refl _⟩
    | false =>
      obtain ⟨s', hreceive, hs', -⟩ := gbMessageReceive_drop hf hpending false
      rw [halloc, hreceive, Option.map_some] at hrx
      obtain rfl := Option.some.inj hrx
      refine ⟨[], todo, (List.append_nil _).symm, ?_, .inr ⟨rfl, rfl, f, rfl⟩, Nat.zero_le _⟩
      have hsize : f.buf.length = sizeofHdr := hdrops.length_buf hf hpending halloc hskip
      rw [List.drop_of_length_le (Nat.le_of_eq hsize)] at hs'
      exact hs'

theorem frames_of {handed : List Frame} (h : handed.length ≤ 1) :
    (RxPc.of handed).frames = handed := by
  match handed, h with
  | [], _ => rfl
  | [_], _ => rfl

-- Only `greybus_rx_handler` adds to what a cport has accepted.
theorem accepted_eq {s s' : RxQueue.State (List UInt8)} {a : RxQueue.Action (List UInt8)}
    (hstep : RxQueue.step s a = some s') : s'.accepted = s.accepted ++ appended a := by
  cases a with
  | rxAppend m =>
    simp only [RxQueue.step, Option.ite_none_right_eq_some, Option.some.injEq] at hstep
    rw [← hstep.2]
    rfl
  | process =>
    simp only [RxQueue.step] at hstep
    split at hstep
    next =>
      rw [← Option.some.inj hstep]
      exact (List.append_nil _).symm
    next => cases hstep
  | exitTest =>
    simp only [RxQueue.step, Option.ite_none_right_eq_some, Option.some.injEq] at hstep
    rw [← hstep.2, RxQueue.State.exitTest]
    split <;> exact (List.append_nil _).symm
  | dequeue =>
    simp only [RxQueue.step, Option.ite_none_right_eq_some, Option.some.injEq] at hstep
    rw [← hstep.2, RxQueue.State.dequeue]
    split <;> exact (List.append_nil _).symm
  | create ok =>
    simp only [RxQueue.step, Option.ite_none_right_eq_some, Option.some.injEq] at hstep
    rw [← hstep.2]
    cases ok <;> exact (List.append_nil _).symm
  | rxEnter | rxReturn | operationTimeout | semWait | semWaitFails | unregister | postExit | join
  | clearDriver | register | setDriver =>
    simp only [RxQueue.step, RxQueue.State.operationTimeout, Option.ite_none_right_eq_some,
      Option.some.injEq] at hstep
    rw [← hstep.2]
    exact (List.append_nil _).symm

-- A step at a cport, and what it takes there.
theorem stepAt_carries {a : RxQueue.Action (List UInt8)} {pc : RxPc} (h : Carries n todo)
    (hstep : n.stepAt cport a pc = some n') (hpc : ∀ f ∈ pc.frames, f.WellFormed) :
    Carries n' todo ∧ n'.pc = pc ∧ ∀ cport', (n'.queues cport').accepted
      = (n.queues cport').accepted ++ if cport' = cport then appended a else [] := by
  obtain ⟨queues, hqueues, rfl⟩ := Option.map_eq_some_iff.mp hstep
  obtain ⟨q, hq, rfl⟩ := Option.map_eq_some_iff.mp hqueues
  refine ⟨⟨h.pending, fun f hf => ?_, fun cport' => ?_⟩, rfl, fun cport' => ?_⟩
  · rcases List.mem_append.mp hf with hf | hf
    · exact hpc f hf
    · exact h.wellFormed f (List.mem_append_right _ hf)
  · by_cases hsame : cport' = cport
    · subst hsame
      simpa using RxQueue.step_inv _ _ _ (h.queues cport') hq
    · simpa [Function.update_of_ne hsame] using h.queues cport'
  · by_cases hsame : cport' = cport
    · subst hsame
      simp [accepted_eq hq]
    · simp [hsame]

theorem stepAt_keeps {a : RxQueue.Action (List UInt8)} {pc : RxPc} (h : Carries n todo)
    (hnone : appended a = []) (hstep : n.stepAt cport a pc = some n')
    (hpc : ∀ f ∈ pc.frames, f.WellFormed) :
    Carries n' todo ∧ n'.pc = pc ∧
      ∀ cport', (n'.queues cport').accepted = (n.queues cport').accepted := by
  obtain ⟨hcarries, hto, haccepted⟩ := stepAt_carries h hstep hpc
  exact ⟨hcarries, hto, fun cport' => by rw [haccepted, hnone, ite_self, List.append_nil]⟩

theorem rxDispatch_queued_eq {memory : Bool} {call : RxCall} {request : List UInt8}
    (h : rxDispatch core memory call = some (.queued request)) :
    request = call.msg.take (msgSize call.msg) := by
  obtain ⟨found, -, hqueued⟩ := Option.map_eq_some_iff.mp h
  split at hqueued
  next => cases hqueued
  next =>
    split at hqueued
    next => exact (Receipt.queued.inj hqueued).symm
    next => cases hqueued

theorem rxDispatch_true {call : RxCall} {receipt : Receipt}
    (h : rxDispatch core true call = some receipt) :
    receipt = .fast ∨ ∃ request, receipt = .queued request := by
  obtain ⟨found, -, hreceipt⟩ := Option.map_eq_some_iff.mp h
  split at hreceipt
  next => exact .inl hreceipt.symm
  next => exact .inr ⟨_, hreceipt.symm⟩

theorem sentTo_sublist {frames frames' : List Frame} (h : frames.Sublist frames') :
    (sentTo cport frames).Sublist (sentTo cport frames') := (h.filter _).map _

-- The receiving thread has let go of its message.
theorem Carries.conveys_release {a : Action} (h : Carries n todo) (h' : Carries n' todo)
    (hfrom : n.pc.frames = [f]) (hto : n'.pc = .receiving)
    (hsame : ∀ cport, (n'.queues cport).accepted = (n.queues cport).accepted)
    (hnot : ¬ Takes core f.cport n a n') : Conveys core n a n' todo todo := by
  intro cport
  rw [h.line_eq, h'.line_eq, hsame, hfrom, hto, RxPc.frames, List.nil_append, sentTo_append]
  refine ⟨(List.Sublist.refl _).append (List.sublist_append_right _ _), fun htakes => ?_⟩
  have hother : f.cport ≠ cport := by
    rintro rfl
    exact hnot htakes
  rw [sentTo_singleton_ne hother, List.nil_append]

theorem receive_conveys {e : RxEvent} (h : Carries n todo)
    (hstep : step core n (.receive e) = some n') (hdrops : DropsNoPayload n.rx e) :
    ∃ todo', todo' <:+ todo ∧ Carries n' todo' ∧ Conveys core n (.receive e) n' todo todo' := by
  rw [step] at hstep
  split at hstep
  next hpc =>
    obtain ⟨rx, hrx, rfl⟩ := Option.map_eq_some_iff.mp hstep
    have hframes : ∀ f ∈ todo, f.WellFormed := fun f hf =>
      h.wellFormed f (List.mem_append_right _ hf)
    obtain ⟨handed, todo', hdelivered, hpending, htodo, hone⟩ :=
      gbTransRx_frames hframes h.pending hrx hdrops
    have hnext : (RxPc.of (rx.delivered.drop n.rx.delivered.length)).frames = handed := by
      rw [hdelivered, List.drop_left' rfl, frames_of hone]
    have hsub : (handed ++ todo').Sublist todo := by
      rcases htodo with rfl | ⟨-, rfl, f, rfl⟩
      · exact .refl _
      · exact List.sublist_cons_self f todo'
    have hsuffix : todo' <:+ todo := by
      rcases htodo with rfl | ⟨-, -, f, rfl⟩
      · exact List.suffix_append handed todo'
      · exact List.suffix_cons f todo'
    have hcarries : Carries { n with rx := rx, pc := .of (rx.delivered.drop
        n.rx.delivered.length) } todo' :=
      ⟨hpending, fun f hf => hframes f (hsub.subset (by rwa [hnext] at hf)), h.queues⟩
    refine ⟨todo', hsuffix, hcarries, fun cport => ?_⟩
    rw [hcarries.line_eq, h.line_eq, hnext, hpc, RxPc.frames, List.nil_append]
    refine ⟨(List.Sublist.refl _).append (sentTo_sublist hsub), fun htakes => ?_⟩
    rcases htodo with rfl | ⟨hnone, -⟩
    · rfl
    · rw [show e.allocOk = true from htakes] at hnone
      cases hnone
  next => cases hstep

theorem check_conveys (h : Carries n todo) (hstep : step core n .check = some n') :
    Carries n' todo ∧ Conveys core n .check n' todo todo := by
  rw [step] at hstep
  split at hstep
  next f hpc =>
    have hf : f.WellFormed := h.wellFormed f (by simp [hpc, RxPc.frames])
    split at hstep
    next ret hcheck =>
      obtain rfl := Option.some.inj hstep
      have hcarries : Carries { n with pc := .receiving } todo :=
        ⟨h.pending, fun f hf => h.wellFormed f (List.mem_append_right _ hf), h.queues⟩
      refine ⟨hcarries, h.conveys_release hcarries (by rw [hpc]; rfl) rfl (fun _ => rfl) ?_⟩
      intro htakes
      obtain ⟨hcport, hhandlers⟩ := htakes f (by simp [hpc, RxPc.frames]) rfl
      have haccepted : RxAccepted (n.core core) f.cport (some f.buf) :=
        ⟨hcport, f.buf, rfl, hf.hdr_le, hf.size_eq ▸ hf.hdr_le, Nat.le_of_eq hf.size_eq⟩
      rw [haccepted.rxCheck_eq hhandlers] at hcheck
      cases hcheck
    next call hcheck =>
      obtain ⟨hcarries, hto, haccepted⟩ := stepAt_keeps h rfl hstep
        (by simpa [RxPc.frames] using hf)
      refine ⟨hcarries, fun cport => ?_⟩
      have hline : n'.line cport todo = n.line cport todo := by
        rw [hcarries.line_eq, h.line_eq, haccepted, hto, hpc, RxPc.frames, RxPc.frames]
      exact ⟨hline ▸ .refl _, fun _ => hline⟩
  next => cases hstep

theorem accept_conveys {memory : Bool} (h : Carries n todo)
    (hstep : step core n (.accept memory) = some n') :
    Carries n' todo ∧ Conveys core n (.accept memory) n' todo todo := by
  rw [step] at hstep
  split at hstep
  next f hpc =>
    have hf : f.WellFormed := h.wellFormed f (by simp [hpc, RxPc.frames])
    obtain ⟨receipt, hreceipt, hstep⟩ := Option.bind_eq_some_iff.mp hstep
    split at hstep
    next request =>
      obtain ⟨hcarries, hto, haccepted⟩ := stepAt_carries h hstep (by simp [RxPc.frames])
      have hrequest : request = f.buf := by
        rw [rxDispatch_queued_eq hreceipt, hf.size_eq, List.take_length]
      refine ⟨hcarries, fun cport => ?_⟩
      have hline : n'.line cport todo = n.line cport todo := by
        rw [hcarries.line_eq, h.line_eq, haccepted, hto, hpc, RxPc.frames, RxPc.frames, appended,
          List.nil_append, sentTo_append, List.append_assoc]
        by_cases hcport : f.cport = cport
        · rw [sentTo_singleton hcport, if_pos hcport.symm, hrequest]
        · rw [sentTo_singleton_ne hcport, if_neg (Ne.symm hcport)]
      exact ⟨hline ▸ .refl _, fun _ => hline⟩
    next hother =>
      obtain ⟨hcarries, hto, haccepted⟩ := stepAt_keeps h rfl hstep (by simp [RxPc.frames])
      refine ⟨hcarries, h.conveys_release hcarries (by rw [hpc]; rfl) hto haccepted ?_⟩
      intro htakes
      obtain ⟨rfl, hslow⟩ := htakes f (by simp [hpc, RxPc.frames]) rfl
      rcases rxDispatch_true hreceipt with rfl | ⟨request, rfl⟩
      · exact hslow hreceipt
      · exact hother request rfl
  next => cases hstep

theorem atCport_conveys {cport : Nat} {a : RxQueue.Action (List UInt8)} (h : Carries n todo)
    (hstep : step core n (.atCport cport a) = some n') :
    Carries n' todo ∧ Conveys core n (.atCport cport a) n' todo todo := by
  rw [step, Option.ite_none_left_eq_some] at hstep
  obtain ⟨hother, hstep⟩ := hstep
  have hnone : appended a = [] := by
    cases a <;> first | rfl | exact absurd rfl hother
  obtain ⟨hcarries, hto, haccepted⟩ := stepAt_keeps h hnone hstep
    fun f hf => h.wellFormed f (List.mem_append_left _ hf)
  refine ⟨hcarries, fun cport' => ?_⟩
  have hline : n'.line cport' todo = n.line cport' todo := by
    rw [hcarries.line_eq, h.line_eq, haccepted, hto]
  exact ⟨hline ▸ .refl _, fun _ => hline⟩

theorem step_conveys {a : Action} (h : Carries n todo) (hstep : step core n a = some n')
    (hkeeps : KeepsFraming n a n') :
    ∃ todo', todo' <:+ todo ∧ Carries n' todo' ∧ Conveys core n a n' todo todo' := by
  cases a with
  | receive e => exact receive_conveys h hstep hkeeps
  | check => exact ⟨todo, List.suffix_refl todo, check_conveys h hstep⟩
  | accept memory => exact ⟨todo, List.suffix_refl todo, accept_conveys h hstep⟩
  | atCport cport a => exact ⟨todo, List.suffix_refl todo, atCport_conveys h hstep⟩

end Steps

/-! ## Every run -/

theorem run_line {core : Core} {n n' : Node} {todo : List Frame} {as : List Action}
    (h : Carries n todo) (hrun : run (step core) n as = some n')
    (hkeeps : EachStep (step core) KeepsFraming n as) :
    ∃ todo', todo' <:+ todo ∧ Carries n' todo' ∧
      ∀ cport, (n'.line cport todo').Sublist (n.line cport todo) ∧
        (EachStep (step core) (Takes core cport) n as →
          n'.line cport todo' = n.line cport todo) := by
  induction as generalizing n todo with
  | nil =>
    obtain rfl := Option.some.inj hrun
    exact ⟨todo, List.suffix_refl todo, h, fun cport => ⟨.refl _, fun _ => rfl⟩⟩
  | cons a as ih =>
    obtain ⟨m, hstep, hrest⟩ := run_cons_eq_some.mp hrun
    obtain ⟨hkeep, hkeeps'⟩ := hkeeps m hstep
    obtain ⟨todo₁, hsuffix₁, hm, hconveys⟩ := step_conveys h hstep hkeep
    obtain ⟨todo', hsuffix, hn', hlines⟩ := ih hm hrest hkeeps'
    refine ⟨todo', hsuffix.trans hsuffix₁, hn', fun cport => ⟨?_, fun htakes => ?_⟩⟩
    · exact (hlines cport).1.trans (hconveys cport).1
    · obtain ⟨htake, htakes'⟩ := htakes m hstep
      rw [(hlines cport).2 htakes', (hconveys cport).2 htake]

/-- Whatever pieces the stream comes in, and however the receiving thread, the workers and the
threads that register and unregister drivers take turns: as long as no message with a payload is
dropped for want of room, each cport has processed, has and will get messages that were sent to it,
in the order they were sent, each at most once; and it is all of them if the cport takes whatever
comes to it. -/
theorem run_conveys {core : Core} {frames : List Frame} (hframes : ∀ f ∈ frames, f.WellFormed)
    {ending : Stop} {sizes : Nat → Nat} {as : List Action} {n : Node}
    (hrun : run (step core) (start frames ending sizes) as = some n)
    (hkeeps : EachStep (step core) KeepsFraming (start frames ending sizes) as) :
    ∃ todo, todo <:+ frames ∧ n.rx.source.pending = todo.flatMap Frame.bytes ∧
      ∀ cport, (n.line cport todo).Sublist (sentTo cport frames) ∧
        (EachStep (step core) (Takes core cport) (start frames ending sizes) as →
          n.line cport todo = sentTo cport frames) := by
  have hstart : Carries (start frames ending sizes) frames :=
    ⟨rfl, hframes, fun _ => RxQueue.gbInit_inv⟩
  obtain ⟨todo, hsuffix, hcarries, hlines⟩ := run_line hstart hrun hkeeps
  exact ⟨todo, hsuffix, hcarries.pending, hlines⟩

/-- A core with two cports that have the same driver. -/
def twoCports : Core := { oneHandlerCore versionHandler with cportCount := 2 }

/-- Two requests for cport 0, and one for cport 1 between them. -/
def twoAndOne : List Frame :=
  [⟨0, [8, 0, 1, 0, 1, 0, 0, 0]⟩, ⟨1, [9, 0, 2, 0, 1, 0, 0, 0, 7]⟩, ⟨0, [8, 0, 3, 0, 1, 0, 0, 0]⟩]

/-- Cport 0 is registered, and cport 1 is not; a worker takes the first message when the second one
has come. -/
def twoAndOneRun : List Action :=
  [.atCport 0 .register, .atCport 0 (.create true), .atCport 0 .setDriver,
    .receive ⟨true, true⟩, .check, .accept true, .receive ⟨true, true⟩, .atCport 0 .semWait,
    .check, .atCport 0 .exitTest, .atCport 0 .dequeue, .receive ⟨true, true⟩, .check,
    .atCport 0 .process, .accept true]

theorem run_conveys_twoAndOne : ∃ n todo,
    run (step twoCports) (start twoAndOne .zero fun k => k % 3) twoAndOneRun = some n ∧
      n.line 0 todo = sentTo 0 twoAndOne ∧ (n.line 1 todo).Sublist (sentTo 1 twoAndOne) := by
  have hframes : ∀ f ∈ twoAndOne, f.WellFormed := by
    intro f hf
    simp only [twoAndOne, List.mem_cons, List.not_mem_nil, or_false] at hf
    rcases hf with rfl | rfl | rfl <;> exact ⟨by decide, by decide⟩
  have hsome :
      (run (step twoCports) (start twoAndOne .zero fun k => k % 3) twoAndOneRun).isSome := by
    decide
  obtain ⟨n, hrun⟩ := Option.isSome_iff_exists.mp hsome
  obtain ⟨todo, -, -, hlines⟩ := run_conveys hframes hrun (by decide)
  exact ⟨n, todo, hrun, (hlines 0).2 (by decide), (hlines 1).1⟩

end Greybus.OverTheWire
