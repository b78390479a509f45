import Greybus.Core.Operation
import Greybus.Manifest.State
import Greybus.Reasoning.BinarySearch
import Mathlib.Data.Nat.Basic

/-!
# Drivers and their handler tables

`struct gb_driver`, `find_operation_handler` and `_gb_register_driver`.  Results are `none` where
the C behaviour is undefined: a NULL driver dereferenced, an index outside `g_bundle`.
-/

namespace Greybus

open Reasoning

/-- What a handler does with the core before it returns its result: it allocates its response,
sees whether that worked, and fills the payload in. -/
inductive HandlerProg where
  | done (result : UInt8)
  | allocResponse (size : Nat) (k : Bool → HandlerProg)
  | fillResponse (bytes : List UInt8) (k : HandlerProg)

/-- The function of a table entry: `GB_HANDLER` sets `handler`, `GB_FAST_HANDLER` sets
`fast_handler`. -/
inductive HandlerFn where
  | handler (f : Operation → HandlerProg)
  | fastHandler

/-- `struct gb_operation_handler`. -/
structure OperationHandler where
  type : UInt8
  fn : HandlerFn

def gbCompareHandlers (h₁ h₂ : OperationHandler) : Int := h₁.type.toNat - h₂.type.toNat

/-- A `qsort` of handler tables: some permutation that `gb_compare_handlers` sorts. -/
structure HandlerSort where
  run : List OperationHandler → List OperationHandler
  perm : ∀ tab, (run tab).Perm tab
  sorted : ∀ tab, (run tab).Pairwise fun h₁ h₂ => gbCompareHandlers h₁ h₂ ≤ 0

/-- `struct gb_driver`.  Of `init` only its presence is kept: what it returns is the
environment's choice. -/
structure Driver where
  hasInit : Bool
  opHandlers : Option (List OperationHandler)
  opHandlersCount : Nat
  bundle : Option BundleRef
  count_eq : ∀ tab, opHandlers = some tab → opHandlersCount = tab.length

/-- `driver->bundle = bundle`. -/
def Driver.setBundle (driver : Driver) (b : BundleRef) : Driver := { driver with bundle := some b }

/-- `qsort(driver->op_handlers, ..)`, when there is a table. -/
def Driver.sortHandlers (sort : HandlerSort) (driver : Driver) : Driver :=
  { driver with
    opHandlers := driver.opHandlers.map sort.run
    count_eq := by
      intro tab htab
      obtain ⟨tab', htab', rfl⟩ := Option.map_eq_some_iff.mp htab
      rw [driver.count_eq tab' htab', (sort.perm tab').length_eq] }

@[simp] theorem Driver.sortHandlers_bundle (sort : HandlerSort) (driver : Driver) :
    (driver.sortHandlers sort).bundle = driver.bundle := rfl

@[simp] theorem Driver.setBundle_bundle (driver : Driver) (b : BundleRef) :
    (driver.setBundle b).bundle = some b := rfl

/-- `struct gb_bundle`; `devCount` is the number of entries allocated for `dev`. -/
structure Bundle where
  id : Int
  cportStart : Nat
  devCount : Nat
  deriving DecidableEq, Repr

/-- The fields of `struct gb_cport_driver` that registration sets. -/
structure CportDriver where
  driver : Option DriverRef
  exitWorker : Bool
  deriving DecidableEq, Repr

/-- The file's statics: `g_cport`, `g_bundle`, and the bundles and drivers they point to. -/
structure Core where
  cportCount : Nat
  gCport : Nat → CportDriver
  gBundle : List (Option BundleRef)
  bundles : List Bundle
  drivers : DriverRef → Driver

/-- `gb_init`, when its allocations succeed. -/
def gbInit (m : ManifestState) (cportCount : Nat) (drivers : DriverRef → Driver) : Core where
  cportCount := cportCount
  gCport := fun _ => { driver := none, exitWorker := false }
  gBundle := List.replicate (m.maxBundleId + 1) none
  bundles := []
  drivers := drivers

/-- `find_operation_handler`; the inner `none` is its NULL. -/
def findOperationHandler (core : Core) (type : UInt8) (cport : Nat) :
    Option (Option OperationHandler) :=
  match (core.gCport cport).driver with
  | none => none
  | some d =>
    match (core.drivers d).opHandlers with
    | none => some none
    | some tab =>
      if type = invalidType then some none
      else
        BinarySearch.search (·.type.toNat) tab type.toNat ((core.drivers d).opHandlersCount + 1) 0
          ((core.drivers d).opHandlersCount - 1)

-- On a sorted table the search stays inside the table and ends; its answer is an entry of the
-- type, or there is none.
theorem findOperationHandler_sorted {core : Core} {cport : Nat} {d : DriverRef}
    {tab : List OperationHandler} {type : UInt8} (hd : (core.gCport cport).driver = some d)
    (htab : (core.drivers d).opHandlers = some tab)
    (hsorted : tab.Pairwise fun h₁ h₂ => gbCompareHandlers h₁ h₂ ≤ 0)
    (htype : type ≠ invalidType) :
    ∃ res, findOperationHandler core type cport = some res ∧
      (∀ h, res = some h → h ∈ tab ∧ h.type = type) ∧
      (res = none → ∀ h ∈ tab, h.type ≠ type) := by
  have hcount := (core.drivers d).count_eq tab htab
  have hkeys : tab.Pairwise fun h₁ h₂ => h₁.type.toNat ≤ h₂.type.toNat :=
    hsorted.imp fun h => by unfold gbCompareHandlers at h; omega
  obtain ⟨res, hres, hans⟩ := BinarySearch.search_answer hkeys type.toNat (tab.length + 1) 0
    (tab.length - 1) (by omega) (by omega) (by omega) (by push_cast; omega)
  refine ⟨res, ?_, fun h hh => ?_, fun hnone h hmem heq => ?_⟩
  · simp only [findOperationHandler, hd, htab, if_neg htype, hcount, hres]
  · obtain ⟨hmem, hkey⟩ := hans.sound h hh
    exact ⟨hmem, UInt8.toNat_inj.mp hkey⟩
  · obtain ⟨i, hi, rfl⟩ := List.getElem_of_mem hmem
    exact hans.complete hnone i hi (by omega) (by omega) (congrArg UInt8.toNat heq)

-- On any table the search ends, and finds only entries of the type.
theorem findOperationHandler_found {core : Core} {cport : Nat} {d : DriverRef}
    {tab : List OperationHandler} (hd : (core.gCport cport).driver = some d)
    (htab : (core.drivers d).opHandlers = some tab) (type : UInt8) :
    ∃ res, findOperationHandler core type cport = some res ∧
      ∀ h, res = some h → h ∈ tab ∧ h.type = type := by
  have hcount := (core.drivers d).count_eq tab htab
  simp only [findOperationHandler, hd, htab]
  by_cases htype : type = invalidType
  · rw [if_pos htype]
    exact ⟨none, rfl, by simp⟩
  rw [if_neg htype, hcount]
  obtain ⟨res, hres, hfound⟩ := BinarySearch.search_found (·.type.toNat) tab type.toNat
    (tab.length + 1) 0 (tab.length - 1) (by omega) (by omega) (by omega) (by push_cast; omega)
  exact ⟨res, hres, fun h hh => ⟨(hfound h hh).1, UInt8.toNat_inj.mp (hfound h hh).2⟩⟩

/-! ## Registration -/

/-- What the environment decides during one registration: whether `calloc` succeeds, what
`driver->init` returns when there is one, and what `pthread_create` returns. -/
structure RegisterEnv where
  callocOk : Bool
  initRet : Int
  createRet : Int
  deriving DecidableEq, Repr

/-- `g_bundle[bundle_id]`. -/
def Core.bundleAt (core : Core) (bundleId : Int) : Option (Option BundleRef) :=
  if bundleId < 0 then none else core.gBundle[bundleId.toNat]?

/-- The bundle that `_gb_register_driver` allocates and stores in `g_bundle`. -/
def Core.addBundle (core : Core) (m : ManifestState) (bundleId : Int) : Core :=
  { core with
    bundles := core.bundles ++ [{ id := bundleId, cportStart := m.getStartCportBundle bundleId,
                                  devCount := m.getNumCportsBundle bundleId }]
    gBundle := core.gBundle.set bundleId.toNat (some core.bundles.length) }

def Core.updateDriver (core : Core) (d : DriverRef) (f : Driver → Driver) : Core :=
  { core with drivers := Function.update core.drivers d (f (core.drivers d)) }

def Core.setCport (core : Core) (cport : Nat) (c : CportDriver) : Core :=
  { core with gCport := Function.update core.gCport cport c }

/-- `_gb_register_driver` from `driver->bundle = bundle` on. -/
def bindDriver (sort : HandlerSort) (env : RegisterEnv) (cport : Nat) (d : DriverRef)
    (b : BundleRef) (core : Core) : Int × Core :=
  let core := core.updateDriver d (·.setBundle b)
  if (core.drivers d).hasInit ∧ env.initRet ≠ 0 then (env.initRet, core)
  else
    let core := core.updateDriver d (·.sortHandlers sort)
    let core := core.setCport cport { core.gCport cport with exitWorker := false }
    if env.createRet ≠ 0 then (env.createRet, core)
    else (0, core.setCport cport { core.gCport cport with driver := some d })

/-- `_gb_register_driver`. -/
def gbRegisterDriver (sort : HandlerSort) (m : ManifestState) (env : RegisterEnv) (cport : Nat)
    (bundleId : Int) (driver : Option DriverRef) (core : Core) : Option (Int × Core) :=
  if core.cportCount ≤ cport then some (-EINVAL, core)
  else
    match driver with
    | none => some (-EINVAL, core)
    | some d =>
      if (core.gCport cport).driver.isSome then some (-EEXIST, core)
      else if (core.drivers d).opHandlers.isNone ∧ 0 < (core.drivers d).opHandlersCount then
        some (-EINVAL, core)
      else if 0 ≤ bundleId ∧ (m.maxBundleId : Int) < bundleId then some (-EINVAL, core)
      else
        match core.bundleAt bundleId with
        | none => none
        | some (some b) => some (bindDriver sort env cport d b core)
        | some none =>
          if !env.callocOk then some (-ENOMEM, core)
          else some (bindDriver sort env cport d core.bundles.length (core.addBundle m bundleId))

end Greybus
