import Greybus.Core.Registration

/-!
# The search for a handler

`_gb_register_driver` sorts the table of the driver, and `find_operation_handler` searches it by
halves.  Of a table with one entry for each type the search finds what a linear search of the table
finds as the driver declares it, for as long as the driver stays registered.
-/

namespace Greybus

open Reasoning Reasoning.Transition

/-- `find_operation_handler`, with the indices `m` at which it looks. -/
def findOperationHandlerRun (core : Core) (type : UInt8) (cport : Nat) :
    List Int × Option (Option OperationHandler) :=
  match (core.gCport cport).driver with
  | none => ([], none)
  | some d =>
    match (core.drivers d).opHandlers with
    | none => ([], some none)
    | some tab =>
      if type = invalidType then ([], some none)
      else
        BinarySearch.searchRun (·.type.toNat) tab type.toNat ((core.drivers d).opHandlersCount + 1)
          0 ((core.drivers d).opHandlersCount - 1)

theorem findOperationHandlerRun_snd (core : Core) (type : UInt8) (cport : Nat) :
    (findOperationHandlerRun core type cport).2 = findOperationHandler core type cport := by
  rw [findOperationHandlerRun, findOperationHandler]
  cases (core.gCport cport).driver with
  | none => rfl
  | some d =>
    dsimp only
    cases (core.drivers d).opHandlers with
    | none => rfl
    | some tab =>
      dsimp only
      split
      next => rfl
      next => exact BinarySearch.searchRun_snd _ _ _ _ _ _

/-! ## A sorted table -/

section Search

variable {core : Core} {cport : Nat} {d : DriverRef} {tab declared : List OperationHandler}
  {type : UInt8}

theorem toNat_types_nodup (hdistinct : (declared.map (·.type)).Nodup) :
    (declared.map (·.type.toNat)).Nodup := by
  have hnodup := hdistinct.map (fun _ _ => UInt8.toNat_inj.mp)
  rwa [List.map_map] at hnodup

-- A sorted permutation of the declared table is searched as the declared table.
theorem findOperationHandler_perm (hd : (core.gCport cport).driver = some d)
    (htab : (core.drivers d).opHandlers = some tab) (hperm : tab.Perm declared)
    (hsorted : tab.Pairwise fun h₁ h₂ => gbCompareHandlers h₁ h₂ ≤ 0)
    (hdistinct : (declared.map (·.type)).Nodup) (htype : type ≠ invalidType) :
    findOperationHandler core type cport = some (declared.find? fun h => h.type = type) := by
  have hkeys : tab.Pairwise fun h₁ h₂ => h₁.type.toNat ≤ h₂.type.toNat :=
    hsorted.imp fun h => by unfold gbCompareHandlers at h; omega
  simp only [findOperationHandler, hd, htab, if_neg htype, (core.drivers d).count_eq tab htab]
  rw [BinarySearch.search_eq_find? hperm hkeys (toNat_types_nodup hdistinct)]
  simp only [UInt8.toNat_inj]

theorem findOperationHandlerRun_inside (hd : (core.gCport cport).driver = some d)
    (htab : (core.drivers d).opHandlers = some tab) :
    ∀ m ∈ (findOperationHandlerRun core type cport).1, 0 ≤ m ∧ m < tab.length := by
  intro m hm
  simp only [findOperationHandlerRun, hd, htab, (core.drivers d).count_eq tab htab] at hm
  split at hm
  next => cases hm
  next =>
    have hinside := BinarySearch.searchRun_inside hm
    omega

end Search

/-! ## Runs of registrations -/

section Runs

variable {sort : HandlerSort} {declared : DriverRef → Option (List OperationHandler)}
  {hist regs : List Registration} {core core' : Core} {r : Registration}

/-- A registration gives the cport, which was free, its driver, and sorts the driver's table. -/
structure TableSorted (sort : HandlerSort) (r : Registration) (core core' : Core) : Prop where
  free : (core.gCport r.cport).driver = none
  registered : (core'.gCport r.cport).driver = some r.driver
  cports : ∀ cport, cport ≠ r.cport → core'.gCport cport = core.gCport cport
  sorted : (core'.drivers r.driver).opHandlers
    = (core.drivers r.driver).opHandlers.map sort.run
  drivers : ∀ d, d ≠ r.driver → core'.drivers d = core.drivers d

theorem bindDriver_tableSorted {b : BundleRef} {env : RegisterEnv}
    (hfree : (core.gCport r.cport).driver = none)
    (h : bindDriver sort env r.cport r.driver b core = (0, core')) :
    TableSorted sort r core core' := by
  obtain ⟨hcports, hdrivers, -, -⟩ := bindDriver_success h
  refine ⟨hfree, ?_, fun cport hne => ?_, ?_, fun d hne => ?_⟩
  · rw [hcports, Function.update_self]
  · rw [hcports, Function.update_of_ne hne]
  · rw [hdrivers, Function.update_self]
    rfl
  · rw [hdrivers, Function.update_of_ne hne]

theorem register_tableSorted (h : register sort core r = some core') :
    TableSorted sort r core core' := by
  obtain ⟨hfree, ⟨b, -, hbind⟩ | ⟨-, hbind⟩⟩ := register_binds h
  · exact bindDriver_tableSorted hfree hbind
  · have htable : TableSorted sort r (core.addBundle r.manifest r.bundleId) core' :=
      bindDriver_tableSorted hfree hbind
    obtain ⟨-, hregistered, hcports, hsorted, hdrivers⟩ := htable
    exact ⟨hfree, hregistered, hcports, hsorted, hdrivers⟩

/-- After the registrations of `hist` the cports have their drivers, every table has the entries of
the declared one, and the tables of the drivers that have been registered are sorted. -/
structure TablesInv (declared : DriverRef → Option (List OperationHandler))
    (hist : List Registration) (core : Core) : Prop where
  cports : ∀ r ∈ hist, (core.gCport r.cport).driver = some r.driver
  tables : ∀ d tab, declared d = some tab →
    ∃ tab', (core.drivers d).opHandlers = some tab' ∧ tab'.Perm tab ∧
      ((∃ r ∈ hist, r.driver = d) → tab'.Pairwise fun h₁ h₂ => gbCompareHandlers h₁ h₂ ≤ 0)

theorem TablesInv.register (h : TablesInv declared hist core) (hr : TableSorted sort r core core') :
    TablesInv declared (hist ++ [r]) core' := by
  refine ⟨fun r₀ hr₀ => ?_, fun d tab htab => ?_⟩
  · rcases List.mem_append.mp hr₀ with hold | hnew
    · have hne : r₀.cport ≠ r.cport := by
        intro heq
        have htaken := h.cports r₀ hold
        rw [heq, hr.free] at htaken
        cases htaken
      rw [hr.cports r₀.cport hne]
      exact h.cports r₀ hold
    · obtain rfl := List.mem_singleton.mp hnew
      exact hr.registered
  · obtain ⟨tab', htab', hperm, hsorted⟩ := h.tables d tab htab
    by_cases hd : d = r.driver
    · subst hd
      refine ⟨sort.run tab', ?_, (sort.perm tab').trans hperm, fun _ => sort.sorted tab'⟩
      rw [hr.sorted, htab', Option.map_some]
    · refine ⟨tab', ?_, hperm, ?_⟩
      · rw [hr.drivers d hd]
        exact htab'
      · rintro ⟨r₀, hr₀, rfl⟩
        rcases List.mem_append.mp hr₀ with hold | hnew
        · exact hsorted ⟨r₀, hold, rfl⟩
        · exact absurd (congrArg Registration.driver (List.mem_singleton.mp hnew)) hd

theorem run_tablesInv (h : TablesInv declared hist core)
    (hrun : run (register sort) core regs = some core') :
    TablesInv declared (hist ++ regs) core' :=
  run_register (fun _ _ _ _ h hregister => h.register (register_tableSorted hregister)) h hrun

/-- After any run of successful registrations `find_operation_handler` finds for each of them, in a
table with one entry for each type, what a linear search of the table finds as it was declared, and
looks only inside the table. -/
theorem findOperationHandler_eq_find? {tab : List OperationHandler} {type : UInt8}
    (hrun : run (register sort) core regs = some core') (hr : r ∈ regs)
    (htab : (core.drivers r.driver).opHandlers = some tab)
    (hdistinct : (tab.map (·.type)).Nodup) (htype : type ≠ invalidType) :
    findOperationHandler core' type r.cport = some (tab.find? fun h => h.type = type) ∧
      ∀ m ∈ (findOperationHandlerRun core' type r.cport).1, 0 ≤ m ∧ m < tab.length := by
  have hinit : TablesInv (fun d => (core.drivers d).opHandlers) [] core := by
    refine ⟨List.forall_mem_nil _, fun d tab htab => ⟨tab, htab, .refl _, ?_⟩⟩
    rintro ⟨r, hr, -⟩
    cases hr
  have hinv := run_tablesInv hinit hrun
  rw [List.nil_append] at hinv
  obtain ⟨tab', htab', hperm, hsorted⟩ := hinv.tables r.driver tab htab
  have hd := hinv.cports r hr
  refine ⟨findOperationHandler_perm hd htab' hperm (hsorted ⟨r, hr, rfl⟩) hdistinct htype, ?_⟩
  rw [← hperm.length_eq]
  exact findOperationHandlerRun_inside hd htab'

end Runs

/-- Entries for these types. -/
def tableOf (types : List UInt8) : List OperationHandler := types.map fun type =>
  ⟨type, .handler fun _ => .done type⟩

/-- A core for two cports whose drivers have entries for these types. -/
def coreOf (types : List UInt8) : Core :=
  gbInit { ManifestState.initial with maxBundleId := 2 } 2 fun _ =>
    ⟨false, some (tableOf types), types.length, none, fun tab h => by
      cases h
      exact (List.length_map _).symm⟩

theorem findOperationHandler_eq_find?_three :
    ∃ core', run (register insertionHandlerSort) (coreOf [0x30, 0x01, 0x20])
        [registration 0 1 0, registration 1 2 0] = some core' ∧
      findOperationHandler core' 0x20 0
        = some ((tableOf [0x30, 0x01, 0x20]).find? fun h => h.type = 0x20) ∧
      ∀ m ∈ (findOperationHandlerRun core' 0x20 0).1, 0 ≤ m ∧ m < 3 := by
  have hsome : (run (register insertionHandlerSort) (coreOf [0x30, 0x01, 0x20])
      [registration 0 1 0, registration 1 2 0]).isSome := by decide
  have hrun := (Option.some_get hsome).symm
  exact ⟨_, hrun, @findOperationHandler_eq_find? _ _ _ _ (registration 0 1 0) _ _ hrun
    List.mem_cons_self rfl (by decide) (by decide)⟩

-- The largest type is declared first, and found behind the two others; an empty table is not
-- looked at.
example :
    (run (register insertionHandlerSort) (coreOf [0x30, 0x01, 0x20]) [registration 0 1 0]).map
        (fun core => (findOperationHandlerRun core 0x30 0).1) = some [1, 2] ∧
      (run (register insertionHandlerSort) (coreOf []) [registration 0 1 0]).map
        (fun core => (findOperationHandlerRun core 0x30 0).1) = some [] := by
  decide

end Greybus
