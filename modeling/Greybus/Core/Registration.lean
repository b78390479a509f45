import Greybus.Core.Response
import Greybus.Reasoning.Transition
import Mathlib.Data.List.Sort

/-!
# The bundle a request is handled with

`_gb_register_driver` stores the bundle in the driver, and `gb_process_request` takes it from
there.  `enable_cports` registers all cports of one protocol with the same static driver, so the
driver, and with it the bundle of every such cport, belongs to the last registration.
-/

namespace Greybus

open Reasoning.Transition

/-- One call of `_gb_register_driver`, with the parsed manifest and the environment it meets. -/
structure Registration where
  manifest : ManifestState
  env : RegisterEnv
  cport : Nat
  bundleId : Int
  driver : DriverRef

/-- A call that returns 0. -/
def register (sort : HandlerSort) (core : Core) (r : Registration) : Option Core :=
  (gbRegisterDriver sort r.manifest r.env r.cport r.bundleId (some r.driver) core).bind
    fun res => if res.1 = 0 then some res.2 else none

/-! ## What one registration does -/

/-- Every entry of `g_bundle` points to a bundle with the id it is stored under. -/
def Core.BundlesOk (core : Core) : Prop :=
  ∀ (i : Nat) (b : BundleRef), core.gBundle[i]? = some (some b) →
    ∃ bd, core.bundles[b]? = some bd ∧ bd.id = i

/-- The driver `d` carries a bundle with this id. -/
def Core.BoundTo (core : Core) (d : DriverRef) (bundleId : Int) : Prop :=
  ∃ b bd, (core.drivers d).bundle = some b ∧ core.bundles[b]? = some bd ∧ bd.id = bundleId

theorem gbInit_bundlesOk (m : ManifestState) (n : Nat) (drivers : DriverRef → Driver) :
    (gbInit m n drivers).BundlesOk := by
  intro i b h
  simp [gbInit, List.getElem?_replicate] at h

theorem addBundle_bundlesOk {core : Core} {m : ManifestState} {bundleId : Int}
    (h : core.BundlesOk) (hpos : 0 ≤ bundleId) : (core.addBundle m bundleId).BundlesOk := by
  intro i b hib
  simp only [Core.addBundle, List.getElem?_set] at hib ⊢
  split at hib
  next hi =>
    split at hib
    · simp only [Option.some.injEq] at hib
      subst hib
      exact ⟨_, List.getElem?_concat_length, by simp only; omega⟩
    · simp at hib
  next =>
    obtain ⟨bd, hbd, hid⟩ := h i b hib
    refine ⟨bd, ?_, hid⟩
    rw [List.getElem?_append_left (List.getElem?_eq_some_iff.mp hbd).1, hbd]

-- A binding that succeeds stores the bundle in the driver and the driver in the cport.
theorem bindDriver_success {sort : HandlerSort} {env : RegisterEnv} {cport : Nat} {d : DriverRef}
    {b : BundleRef} {core core' : Core} (h : bindDriver sort env cport d b core = (0, core')) :
    core'.gCport = Function.update core.gCport cport { driver := some d, exitWorker := false } ∧
      core'.drivers = Function.update core.drivers d
        (((core.drivers d).setBundle b).sortHandlers sort) ∧
      core'.bundles = core.bundles ∧ core'.gBundle = core.gBundle := by
  unfold bindDriver at h
  simp only at h
  split at h
  next hinit => simp only [Prod.mk.injEq] at h; exact absurd h.1 hinit.2
  next =>
    split at h
    next hcreate => simp only [Prod.mk.injEq] at h; exact absurd h.1 hcreate
    next =>
      simp only [Prod.mk.injEq, true_and] at h
      subst h
      refine ⟨?_, ?_, rfl, rfl⟩
      · simp [Core.setCport, Core.updateDriver]
      · simp [Core.setCport, Core.updateDriver]

/-- What a successful registration does: the cport was free and now has the driver, no other
cport and no other driver changes, and the driver carries a bundle with the given id. -/
structure Registered (r : Registration) (core core' : Core) : Prop where
  free : (core.gCport r.cport).driver = none
  gCport : core'.gCport =
    Function.update core.gCport r.cport { driver := some r.driver, exitWorker := false }
  drivers : ∀ d, d ≠ r.driver → core'.drivers d = core.drivers d
  bound : core'.BoundTo r.driver r.bundleId
  bundles : ∀ (b : BundleRef) bd, core.bundles[b]? = some bd → core'.bundles[b]? = some bd
  bundlesOk : core'.BundlesOk

/-- What a call of `_gb_register_driver` does: it refuses, or it binds the driver to the bundle that
it finds under the id, or to a new one. -/
inductive RegisterDriver (sort : HandlerSort) (m : ManifestState) (env : RegisterEnv) (cport : Nat)
    (bundleId : Int) (d : DriverRef) (core : Core) : Int × Core → Prop
  | refused {ret : Int} : ret ≠ 0 → RegisterDriver sort m env cport bundleId d core (ret, core)
  | found {b : BundleRef} : (core.gCport cport).driver = none →
      core.bundleAt bundleId = some (some b) →
      RegisterDriver sort m env cport bundleId d core (bindDriver sort env cport d b core)
  | added : (core.gCport cport).driver = none → core.bundleAt bundleId = some none →
      RegisterDriver sort m env cport bundleId d core
        (bindDriver sort env cport d core.bundles.length (core.addBundle m bundleId))

theorem gbRegisterDriver_registers {sort : HandlerSort} {m : ManifestState} {env : RegisterEnv}
    {cport : Nat} {bundleId : Int} {d : DriverRef} {core : Core} {res : Int × Core}
    (h : gbRegisterDriver sort m env cport bundleId (some d) core = some res) :
    RegisterDriver sort m env cport bundleId d core res := by
  unfold gbRegisterDriver at h
  split at h
  next => exact Option.some.inj h ▸ .refused (by simp [EINVAL])
  simp only at h
  split at h
  next => exact Option.some.inj h ▸ .refused (by simp [EEXIST])
  next htaken =>
    have hfree : (core.gCport cport).driver = none := by simpa using htaken
    split at h
    next => exact Option.some.inj h ▸ .refused (by simp [EINVAL])
    split at h
    next => exact Option.some.inj h ▸ .refused (by simp [EINVAL])
    split at h
    next => cases h
    next b hb => exact Option.some.inj h ▸ .found hfree hb
    next hb =>
      split at h
      next => exact Option.some.inj h ▸ .refused (by simp [ENOMEM])
      next => exact Option.some.inj h ▸ .added hfree hb

-- A registration that succeeds binds the driver, to the bundle it has found or to a new one.
theorem register_binds {sort : HandlerSort} {core core' : Core} {r : Registration}
    (h : register sort core r = some core') :
    (core.gCport r.cport).driver = none ∧
      ((∃ b, core.bundleAt r.bundleId = some (some b) ∧
          bindDriver sort r.env r.cport r.driver b core = (0, core')) ∨
        core.bundleAt r.bundleId = some none ∧
          bindDriver sort r.env r.cport r.driver core.bundles.length
            (core.addBundle r.manifest r.bundleId) = (0, core')) := by
  obtain ⟨⟨ret, core₁⟩, hcall, hret⟩ := Option.bind_eq_some_iff.mp h
  simp only [Option.ite_none_right_eq_some, Option.some.injEq] at hret
  obtain ⟨rfl, rfl⟩ := hret
  have hcase := gbRegisterDriver_registers hcall
  generalize hres : ((0 : Int), core₁) = res at hcase
  cases hcase with
  | refused hne => exact absurd (congrArg Prod.fst hres).symm hne
  | found hfree hb => exact ⟨hfree, .inl ⟨_, hb, rfl⟩⟩
  | added hfree hb => exact ⟨hfree, .inr ⟨hb, rfl⟩⟩

theorem register_registered {sort : HandlerSort} {core core' : Core} {r : Registration}
    (hok : core.BundlesOk) (h : register sort core r = some core') : Registered r core core' := by
  obtain ⟨hfree, ⟨b, hb, hbind⟩ | ⟨hb, hbind⟩⟩ := register_binds h
  · simp only [Core.bundleAt, Option.ite_none_left_eq_some] at hb
    obtain ⟨hpos, hb⟩ := hb
    obtain ⟨bd, hbd, hid⟩ := hok _ _ hb
    obtain ⟨hg, hd, hbs, hgb⟩ := bindDriver_success hbind
    refine ⟨hfree, hg, fun d hne => ?_, ⟨b, bd, ?_, ?_, ?_⟩, fun b bd h => hbs ▸ h, ?_⟩
    · rw [hd, Function.update_of_ne hne]
    · rw [hd, Function.update_self]; rfl
    · rw [hbs, hbd]
    · rw [hid]; omega
    · unfold Core.BundlesOk; rw [hbs, hgb]; exact hok
  · simp only [Core.bundleAt, Option.ite_none_left_eq_some] at hb
    obtain ⟨hpos, -⟩ := hb
    obtain ⟨hg, hd, hbs, hgb⟩ := bindDriver_success hbind
    have hnew : core'.bundles[core.bundles.length]? = some
        { id := r.bundleId, cportStart := r.manifest.getStartCportBundle r.bundleId,
          devCount := r.manifest.getNumCportsBundle r.bundleId } := by
      rw [hbs]; exact List.getElem?_concat_length
    refine ⟨hfree, hg, fun d hne => ?_, ⟨_, _, ?_, hnew, rfl⟩, fun b bd h => ?_, ?_⟩
    · rw [hd, Function.update_of_ne hne]; rfl
    · rw [hd, Function.update_self]; rfl
    · rw [hbs]
      simp only [Core.addBundle]
      rw [List.getElem?_append_left (List.getElem?_eq_some_iff.mp h).1, h]
    · unfold Core.BundlesOk
      rw [hbs, hgb]
      exact addBundle_bundlesOk hok (by omega)

/-! ## Runs of registrations -/

/-- After the registrations of `hist`, in order: their cports have their drivers, and each driver
is bound to the bundle of one of the registrations that used it. -/
structure RegInv (hist : List Registration) (core : Core) : Prop where
  bundlesOk : core.BundlesOk
  cports : ∀ r ∈ hist, (core.gCport r.cport).driver = some r.driver
  bound : ∀ r ∈ hist, ∃ r' ∈ hist, r'.driver = r.driver ∧ core.BoundTo r.driver r'.bundleId

theorem RegInv.register {hist : List Registration} {core core' : Core} {r : Registration}
    (h : RegInv hist core) (hr : Registered r core core') : RegInv (hist ++ [r]) core' := by
  refine ⟨hr.bundlesOk, fun r₀ hr₀ => ?_, fun r₀ hr₀ => ?_⟩
  · simp only [List.mem_append, List.mem_singleton] at hr₀
    rw [hr.gCport]
    rcases hr₀ with hold | rfl
    · have hne : r₀.cport ≠ r.cport := by
        intro heq
        have hdrv := h.cports r₀ hold
        rw [heq, hr.free] at hdrv
        exact absurd hdrv (by simp)
      rw [Function.update_of_ne hne, h.cports r₀ hold]
    · rw [Function.update_self]
  · by_cases hd : r₀.driver = r.driver
    · exact ⟨r, by simp, hd.symm, hd ▸ hr.bound⟩
    · simp only [List.mem_append, List.mem_singleton] at hr₀
      rcases hr₀ with hold | rfl
      · obtain ⟨r', hr', hdr', b, bd, hb, hbd, hid⟩ := h.bound r₀ hold
        refine ⟨r', by simp [hr'], hdr', b, bd, ?_, hr.bundles b bd hbd, hid⟩
        rw [hr.drivers _ hd, hb]
      · exact absurd rfl hd

-- What every registration keeps for one registration more, a run of them keeps.
theorem run_register {sort : HandlerSort} {Inv : List Registration → Core → Prop}
    (hstep : ∀ hist core r core', Inv hist core → register sort core r = some core' →
      Inv (hist ++ [r]) core')
    {hist regs : List Registration} {core core' : Core} (h : Inv hist core)
    (hrun : run (register sort) core regs = some core') : Inv (hist ++ regs) core' := by
  induction regs generalizing hist core with
  | nil =>
    simp only [run_nil, Option.some.injEq] at hrun
    rw [List.append_nil, ← hrun]
    exact h
  | cons r regs ih =>
    obtain ⟨core₁, hregister, hrest⟩ := run_cons_eq_some.mp hrun
    have hinv := ih (hstep hist core r core₁ h hregister) hrest
    rwa [List.append_assoc, List.singleton_append] at hinv

theorem run_regInv {sort : HandlerSort} {hist regs : List Registration} {core core' : Core}
    (h : RegInv hist core) (hrun : run (register sort) core regs = some core') :
    RegInv (hist ++ regs) core' :=
  run_register (fun _ _ _ _ h hregister => h.register (register_registered h.bundlesOk hregister))
    h hrun

/-! ## The bundle handed to handlers -/

@[simp] theorem gbOperationSendResponse_handled (core : Core) (tr : Transport) (result : UInt8)
    (p : Processing) : (gbOperationSendResponse core tr result p).2.handled = p.handled :=
  (gbOperationSendResponse_responded core tr result p).handled_eq

theorem HandlerProg.run_handled (tr : Transport) (prog : HandlerProg) (p : Processing) :
    (prog.run tr p).2.handled = p.handled := by
  induction prog generalizing p with
  | done result => rfl
  | allocResponse size k ih => exact ih _ _
  | fillResponse bytes k ih => exact ih _

/-- The bundle that `gb_process_request` puts into an operation of this cport. -/
def Core.driverBundle (core : Core) (cport : Nat) : Option BundleRef :=
  (core.gCport cport).driver.bind fun d => (core.drivers d).bundle

theorem callHandler_handled (core : Core) (tr : Transport) (f : Operation → HandlerProg)
    (p : Processing) :
    (callHandler core tr f p).2.handled = p.handled ++ [core.driverBundle p.operation.cport] :=
  HandlerProg.run_handled ..

-- A request calls at most one handler, found by its type, with the bundle of its cport's
-- driver.
theorem gbProcessRequest_handled {core : Core} {tr : Transport} {p p' : Processing}
    (h : gbProcessRequest core tr p = some p') :
    p'.handled = p.handled ∨
      (p'.handled = p.handled ++ [core.driverBundle p.operation.cport] ∧
        ∃ type e f, type ≠ pingType ∧
          findOperationHandler core type p.operation.cport = some (some e) ∧
            e.fn = .handler f) := by
  unfold gbProcessRequest at h
  simp only at h
  split at h
  next => simp only [Option.some.injEq] at h; subst h; simp
  next hping =>
    split at h
    next => simp at h
    next => simp only [Option.some.injEq] at h; subst h; simp
    next e hfind =>
      split at h
      next => simp at h
      next f hfn =>
        refine .inr ⟨?_, _, e, f, hping, hfind, hfn⟩
        split at h <;> simp only [Option.some.injEq] at h <;> subst h <;> simp [callHandler_handled]

/-! ## Whose bundle it is -/

/-- Every handler called for a request on `r.cport` finds the bundle that `r` registered. -/
def HandsOwnBundle (core : Core) (r : Registration) : Prop :=
  ∀ tr request p', gbProcessRequest core tr (.start (.fresh r.cport request)) = some p' →
    ∀ b ∈ p'.handled, ∃ i bd, b = some i ∧ core.bundles[i]? = some bd ∧ bd.id = r.bundleId

/-- Some request type has a handler on this cport. -/
def Serves (core : Core) (cport : Nat) : Prop :=
  ∃ type h f, type ≠ pingType ∧ findOperationHandler core type cport = some (some h) ∧
    h.fn = .handler f

-- A request of a served type reaches a handler, with the bundle of the cport's driver.
theorem Serves.handled {core : Core} {cport : Nat} (h : Serves core cport) (tr : Transport) :
    ∃ request p', gbProcessRequest core tr (.start (.fresh cport request)) = some p' ∧
      p'.handled = [core.driverBundle cport] := by
  obtain ⟨type, h, f, hping, hfind, hfn⟩ := h
  let request : Message := ⟨⟨8, 0, type, 0, 0⟩, []⟩
  refine ⟨request, (callHandler core tr f (.start (.fresh cport request))).2, ?_, ?_⟩
  · simp [gbProcessRequest, Processing.start, Operation.fresh, request, hping, hfind, hfn]
  · exact callHandler_handled ..

theorem handsOwnBundle_of_boundTo {core : Core} {r : Registration}
    (hdrv : (core.gCport r.cport).driver = some r.driver)
    (hbound : Serves core r.cport → core.BoundTo r.driver r.bundleId) : HandsOwnBundle core r := by
  intro tr request p' hp b hb
  rcases gbProcessRequest_handled hp with hh | ⟨hh, hserves⟩
  · rw [hh] at hb
    simp [Processing.start] at hb
  · obtain ⟨i, bd, hi, hbd, hid⟩ := hbound hserves
    have hbundle : core.driverBundle r.cport = some i := by simp [Core.driverBundle, hdrv, hi]
    rw [hh] at hb
    simp only [Processing.start, Operation.fresh, List.nil_append, List.mem_singleton] at hb
    exact ⟨i, bd, hb.trans hbundle, hbd, hid⟩

/-- After any run of successful registrations every cport's requests are handled with the bundle
registered for that cport, exactly when no two cports that share a serving driver were
registered with different bundles. -/
theorem handsOwnBundle_iff {sort : HandlerSort} {m : ManifestState} {n : Nat}
    {drivers : DriverRef → Driver} {regs : List Registration} {core : Core}
    (hrun : run (register sort) (gbInit m n drivers) regs = some core) :
    (∀ r ∈ regs, HandsOwnBundle core r) ↔
      ∀ r₁ ∈ regs, ∀ r₂ ∈ regs, r₁.driver = r₂.driver → Serves core r₁.cport →
        r₁.bundleId = r₂.bundleId := by
  have hinit : RegInv [] (gbInit m n drivers) :=
    ⟨gbInit_bundlesOk m n drivers, by simp, by simp⟩
  have h : RegInv regs core := by simpa using run_regInv hinit hrun
  have hdb : ∀ r ∈ regs, core.driverBundle r.cport = (core.drivers r.driver).bundle :=
    fun r hr => by simp [Core.driverBundle, h.cports r hr]
  constructor
  · intro hown r₁ hr₁ r₂ hr₂ hd hserves
    obtain ⟨request₁, p₁, hp₁, hh₁⟩ := hserves.handled ⟨fun _ => true, fun _ => 0⟩
    have hserves₂ : Serves core r₂.cport := by
      obtain ⟨type, h', f, hping, hfind, hfn⟩ := hserves
      refine ⟨type, h', f, hping, ?_, hfn⟩
      rw [← hfind]
      simp only [findOperationHandler, h.cports r₁ hr₁, h.cports r₂ hr₂, hd]
    obtain ⟨request₂, p₂, hp₂, hh₂⟩ := hserves₂.handled ⟨fun _ => true, fun _ => 0⟩
    obtain ⟨i, bd₁, hi, hbd₁, hid₁⟩ := hown r₁ hr₁ _ _ _ hp₁ _ (by rw [hh₁]; exact .head _)
    obtain ⟨j, bd₂, hj, hbd₂, hid₂⟩ := hown r₂ hr₂ _ _ _ hp₂ _ (by rw [hh₂]; exact .head _)
    have hij : i = j := by
      rw [hdb r₁ hr₁, hd, ← hdb r₂ hr₂, hj] at hi
      exact (Option.some.inj hi).symm
    subst hij
    rw [← hid₁, ← hid₂, Option.some.inj (hbd₁.symm.trans hbd₂)]
  · intro hcond r hr
    refine handsOwnBundle_of_boundTo (h.cports r hr) fun hserves => ?_
    obtain ⟨r', hr', hd', hbound⟩ := h.bound r hr
    rwa [← hcond r hr r' hr' hd'.symm hserves] at hbound

/-! ## Two cports of one protocol -/

/-- A sort of handler tables by insertion. -/
def insertionHandlerSort : HandlerSort where
  run := List.insertionSort fun h₁ h₂ => h₁.type.toNat ≤ h₂.type.toNat
  perm := List.perm_insertionSort _
  sorted tab := by
    have : Std.Total fun h₁ h₂ : OperationHandler => h₁.type.toNat ≤ h₂.type.toNat :=
      ⟨fun h₁ h₂ => Nat.le_total _ _⟩
    have : IsTrans OperationHandler fun h₁ h₂ => h₁.type.toNat ≤ h₂.type.toNat :=
      ⟨fun _ _ _ => Nat.le_trans⟩
    refine (List.pairwise_insertionSort _ tab).imp fun h => ?_
    unfold gbCompareHandlers
    omega

/-- The registration of `cport` with bundle `bundleId` and the driver numbered `driver`, after a
manifest with bundles up to 2. -/
def registration (cport : Nat) (bundleId : Int) (driver : DriverRef) : Registration where
  manifest := { ManifestState.initial with maxBundleId := 2 }
  env := { callocOk := true, initRet := 0, createRet := 0 }
  cport := cport
  bundleId := bundleId
  driver := driver

/-- `gb_init` for two cports and drivers that all serve the type of `versionHandler`. -/
def versionCore : Core :=
  gbInit { ManifestState.initial with maxBundleId := 2 } 2 (oneHandlerCore versionHandler).drivers

-- Two cports of two drivers keep their own bundles.
theorem handsOwnBundle_iff_twoDrivers : ∃ core : Core,
    run (register insertionHandlerSort) versionCore [registration 0 1 0, registration 1 2 1] =
        some core ∧
      ∀ r ∈ [registration 0 1 0, registration 1 2 1], HandsOwnBundle core r := by
  have hsome : (run (register insertionHandlerSort) versionCore
      [registration 0 1 0, registration 1 2 1]).isSome := by decide
  refine ⟨_, (Option.some_get hsome).symm, ?_⟩
  refine (handsOwnBundle_iff (Option.some_get hsome).symm).mpr fun r₁ h₁ r₂ h₂ hd _ => ?_
  simp only [List.mem_cons, List.not_mem_nil, or_false] at h₁ h₂
  rcases h₁ with rfl | rfl <;> rcases h₂ with rfl | rfl <;>
    first | rfl | exact absurd hd (by decide)

-- Two cports share a driver: a request on the first is handled with the bundle of the second.
theorem handsOwnBundle_sharedDriver :
    ((run (register insertionHandlerSort) versionCore
        [registration 0 1 0, registration 1 2 0]).bind fun core =>
      (gbProcessRequest core reliableTransport (.start (.fresh 0 (bareRequest 1)))).map fun p =>
        p.handled.map fun b => b.bind fun i => core.bundles[i]?.map (·.id)) =
      some [some 2] := by
  decide

end Greybus
