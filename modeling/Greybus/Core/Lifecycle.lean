import Greybus.Core.Receive
import Greybus.Core.Registration

/-!
# The core's life

`cport_count` bounds the cports, and `g_cport` holds them.  `gb_init` and `gb_deinit` write the two
apart, and every entry point takes a cport below `cport_count` for an entry of the table.
-/

namespace Greybus.Lifecycle

open Reasoning.Transition

/-! ## The code -/

/-- What `g_cport` points to. -/
inductive Table where
  | null
  | live (entries : Nat)
  | freed
  deriving DecidableEq, Repr

/-- The statics of `greybus-core.c`.  The entries in `core` are those of a live table; a `g_bundle`
that is NULL or freed has no entries in `core`. -/
structure Statics where
  core : Core
  table : Table
  -- `transport_backend` is set.
  backend : Bool

/-- What the code reaches for that is not there. -/
inductive Fault where
  -- `g_cport[cport]` of a NULL or freed table, or past its end.
  | table
  -- `transport_backend` is NULL.
  | backend
  -- `g_bundle[bundle_id]`, or the handlers of the driver.
  | other
  deriving DecidableEq, Repr

abbrev Result (α : Type) := Except Fault α

/-- `g_cport[cport]`. -/
def Statics.cportAt (s : Statics) (cport : Nat) : Result CportDriver :=
  match s.table with
  | .live entries => if cport < entries then .ok (s.core.gCport cport) else .error .table
  | _ => .error .table

/-- What the environment decides during `gb_init`: whether the two `calloc` succeed, and the value
of `unipro_cport_count`. -/
structure InitEnv where
  bundleOk : Bool
  cportCount : Nat
  cportOk : Bool
  deriving DecidableEq, Repr

/-- `gb_init`. -/
def gbInit (m : ManifestState) (env : InitEnv) (transport : Bool) (s : Statics) : Int × Statics :=
  if !transport then (-EINVAL, s)
  else if !env.bundleOk then (-ENOMEM, { s with core := { s.core with gBundle := [] } })
  else if !env.cportOk then
    (-ENOMEM, { s with
      core := { s.core with gBundle := [], cportCount := env.cportCount }, table := .null })
  else
    let core := Greybus.gbInit m env.cportCount s.core.drivers
    (0, { core := { core with bundles := s.core.bundles }, table := .live env.cportCount,
          backend := true })

/-- `_gb_register_driver`. -/
def gbRegisterDriver (sort : HandlerSort) (m : ManifestState) (env : RegisterEnv) (cport : Nat)
    (bundleId : Int) (driver : Option DriverRef) (s : Statics) : Result (Int × Statics) :=
  if s.core.cportCount ≤ cport ∨ driver = none then .ok (-EINVAL, s)
  else do
    let _ ← s.cportAt cport
    match Greybus.gbRegisterDriver sort m env cport bundleId driver s.core with
    | none => .error .other
    | some (ret, core) => .ok (ret, { s with core := core })

/-- `gb_unregister_driver`. -/
def gbUnregisterDriver (cport : Nat) (s : Statics) : Result (Int × Statics) :=
  if s.core.cportCount ≤ cport then .ok (-EINVAL, s)
  else do
    let c ← s.cportAt cport
    if c.driver = none ∨ !s.backend then .ok (-EINVAL, s)
    else .ok (0, { s with core := s.core.setCport cport { driver := none, exitWorker := true } })

/-- The loop of `gb_deinit` over the cports; the watchdog and the semaphore are in the table. -/
def unregisterAll (s : Statics) : List Nat → Result Statics
  | [] => .ok s
  | cport :: cports => do
    let (_, s) ← gbUnregisterDriver cport s
    let _ ← s.cportAt cport
    unregisterAll s cports

/-- `gb_deinit`. -/
def gbDeinit (s : Statics) : Result Statics :=
  if !s.backend then .ok s
  else do
    let s ← unregisterAll s (List.range s.core.cportCount)
    match s.table with
    | .null => .ok { s with backend := false }
    | .live _ => .ok { s with table := .freed, backend := false }
    | .freed => .error .table

/-- `greybus_rx_handler`, without its record on the tape. -/
def greybusRxHandler (memory : Bool) (cport : Nat) (data : Option (List UInt8)) (s : Statics) :
    Result Receipt :=
  if s.core.cportCount ≤ cport ∨ data = none then .ok (.refused (-EINVAL))
  else do
    let _ ← s.cportAt cport
    match rxCheck s.core cport data with
    | .error ret => .ok (.refused ret)
    | .ok call =>
      match rxDispatch s.core memory call with
      | none => .error .other
      | some receipt => .ok receipt

/-- `gb_listen`; `ret` is what the transport returns. -/
def gbListen (cport : Nat) (ret : Int) (s : Statics) : Result Int :=
  if s.core.cportCount ≤ cport then .ok (-EINVAL)
  else do
    let c ← s.cportAt cport
    if c.driver = none then .ok (-EINVAL)
    else if !s.backend then .error .backend
    else .ok ret

/-- `enum gb_event`, or no value of it. -/
inductive Event where
  | connected
  | disconnected
  | invalid
  deriving DecidableEq, Repr

/-- `gb_notify`. -/
def gbNotify (cport : Nat) (event : Event) (s : Statics) : Result Int :=
  if s.core.cportCount ≤ cport then .ok (-EINVAL)
  else do
    let c ← s.cportAt cport
    if c.driver = none then .ok (-ENOTCONN)
    else if event = .invalid then .ok (-EINVAL)
    else .ok 0

/-- `gb_operation_create`: whether it gives an operation.  It looks at `cport_count` alone. -/
def gbOperationCreate (cport : Nat) (mallocOk allocOk : Bool) (s : Statics) : Result Bool :=
  if s.core.cportCount ≤ cport then .ok false
  else if !mallocOk then .ok false
  else if !s.backend then .error .backend
  else .ok allocOk

/-- One call in the core's life. -/
inductive Call where
  | init (m : ManifestState) (env : InitEnv) (transport : Bool)
  | register (sort : HandlerSort) (m : ManifestState) (env : RegisterEnv) (cport : Nat)
      (bundleId : Int) (driver : Option DriverRef)
  | unregister (cport : Nat)
  | deinit

/-- There is no state after a call that faults. -/
def step (s : Statics) : Call → Option Statics
  | .init m env transport => some (gbInit m env transport s).2
  | .register sort m env cport bundleId driver =>
    (gbRegisterDriver sort m env cport bundleId driver s).toOption.map (·.2)
  | .unregister cport => (gbUnregisterDriver cport s).toOption.map (·.2)
  | .deinit => (gbDeinit s).toOption

/-- The statics before the first call. -/
def boot (drivers : DriverRef → Driver) : Statics where
  core :=
    { cportCount := 0, gCport := fun _ => ⟨none, false⟩, gBundle := [], bundles := [],
      drivers := drivers }
  table := .null
  backend := false

/-! ## The table -/

/-- Below `cport_count` the table has its entries. -/
def Statics.TableOk (s : Statics) : Prop :=
  0 < s.core.cportCount → ∃ entries, s.table = .live entries ∧ s.core.cportCount ≤ entries

/-- No entry point reaches for a table that is not there, whatever the cport. -/
structure Statics.NoTableFault (s : Statics) : Prop where
  tableOk : s.TableOk
  rxHandler : ∀ memory cport data, greybusRxHandler memory cport data s ≠ .error .table
  unregister : ∀ cport, gbUnregisterDriver cport s ≠ .error .table
  listen : ∀ cport ret, gbListen cport ret s ≠ .error .table
  notify : ∀ cport event, gbNotify cport event s ≠ .error .table
  operationCreate : ∀ cport mallocOk allocOk,
    gbOperationCreate cport mallocOk allocOk s ≠ .error .table

variable {α β : Type} {s s' : Statics} {cport : Nat}

theorem bind_eq_ok {x : Result α} {f : α → Result β} {b : β} :
    x >>= f = .ok b ↔ ∃ a, x = .ok a ∧ f a = .ok b := by
  cases x with
  | error e => simp [bind, Except.bind]
  | ok a => simp [bind, Except.bind]

theorem toOption_eq_some {x : Result α} {a : α} : x.toOption = some a ↔ x = .ok a := by
  cases x with
  | error e => simp [Except.toOption]
  | ok a => simp [Except.toOption]

theorem Statics.TableOk.cportAt (hs : s.TableOk) (hcport : ¬ s.core.cportCount ≤ cport) :
    s.cportAt cport = .ok (s.core.gCport cport) := by
  obtain ⟨entries, htable, hle⟩ := hs (by omega)
  unfold Statics.cportAt
  rw [htable]
  exact if_pos (by omega)

-- The bound is checked first, and what comes after the entry is read does not read another.
theorem Statics.TableOk.guarded (hs : s.TableOk) {x : α} {f : CportDriver → Result α}
    (hf : ∀ c, f c ≠ .error .table) (p : Prop) [Decidable p]
    (hp : ¬ p → ¬ s.core.cportCount ≤ cport) :
    (if p then .ok x else s.cportAt cport >>= f) ≠ .error .table := by
  by_cases hbound : p
  · rw [if_pos hbound]
    intro h
    cases h
  · rw [if_neg hbound, hs.cportAt (hp hbound)]
    exact hf (s.core.gCport cport)

theorem noTableFault_iff : s.NoTableFault ↔ s.TableOk := by
  refine ⟨fun h => h.tableOk, fun hs => ⟨hs, ?_, ?_, ?_, ?_, ?_⟩⟩
  · intro memory cport data
    apply hs.guarded _ _ fun hp hle => hp (Or.inl hle)
    intro c
    split
    next => simp
    next => split <;> simp
  · intro cport
    apply hs.guarded _ _ id
    intro c
    split <;> simp
  · intro cport ret
    apply hs.guarded _ _ id
    intro c
    split
    next => simp
    next => split <;> simp
  · intro cport event
    apply hs.guarded _ _ id
    intro c
    split
    next => simp
    next => split <;> simp
  · intro cport mallocOk allocOk
    unfold gbOperationCreate
    split
    next => simp
    next =>
      split
      next => simp
      next => split <;> simp

/-! ## What a call does to the table -/

/-- The call leaves the bound and the table as they are. -/
structure Statics.SameTable (s s' : Statics) : Prop where
  cportCount : s'.core.cportCount = s.core.cportCount
  table : s'.table = s.table
  backend : s'.backend = s.backend

theorem Statics.SameTable.tableOk_iff (h : s.SameTable s') : s'.TableOk ↔ s.TableOk := by
  unfold Statics.TableOk
  rw [h.cportCount, h.table]

theorem bindDriver_cportCount (sort : HandlerSort) (env : RegisterEnv) (cport : Nat) (d : DriverRef)
    (b : BundleRef) (core : Core) :
    (bindDriver sort env cport d b core).2.cportCount = core.cportCount := by
  unfold bindDriver
  dsimp only
  split
  next => rfl
  next => split <;> rfl

-- A call that returns has left the core as it was, or has registered a driver in it.
theorem gbRegisterDriver_core {sort : HandlerSort} {m : ManifestState} {env : RegisterEnv}
    {bundleId : Int} {driver : Option DriverRef} {ret : Int}
    (h : gbRegisterDriver sort m env cport bundleId driver s = .ok (ret, s')) :
    s' = s ∨ ∃ d res, RegisterDriver sort m env cport bundleId d s.core res ∧
      s' = { s with core := res.2 } := by
  unfold gbRegisterDriver at h
  split at h
  next =>
    obtain ⟨-, rfl⟩ := Prod.mk.inj (Except.ok.inj h)
    exact .inl rfl
  next hargs =>
    obtain ⟨c, -, h⟩ := bind_eq_ok.mp h
    cases hcall : Greybus.gbRegisterDriver sort m env cport bundleId driver s.core with
    | none =>
      rw [hcall] at h
      cases h
    | some res =>
      rw [hcall] at h
      obtain ⟨-, rfl⟩ := Prod.mk.inj (Except.ok.inj h)
      cases driver with
      | none => exact absurd (Or.inr rfl) hargs
      | some d => exact .inr ⟨d, res, gbRegisterDriver_registers hcall, rfl⟩

theorem gbRegisterDriver_sameTable {sort : HandlerSort} {m : ManifestState} {env : RegisterEnv}
    {bundleId : Int} {driver : Option DriverRef} {ret : Int}
    (h : gbRegisterDriver sort m env cport bundleId driver s = .ok (ret, s')) :
    s.SameTable s' := by
  rcases gbRegisterDriver_core h with rfl | ⟨d, res, hcase, rfl⟩
  · exact ⟨rfl, rfl, rfl⟩
  refine ⟨?_, rfl, rfl⟩
  cases hcase with
  | refused => rfl
  | found => exact bindDriver_cportCount _ _ _ _ _ _
  | added => exact bindDriver_cportCount _ _ _ _ _ _

theorem gbUnregisterDriver_sameTable {ret : Int}
    (h : gbUnregisterDriver cport s = .ok (ret, s')) : s.SameTable s' := by
  unfold gbUnregisterDriver at h
  split at h
  next =>
    obtain ⟨-, rfl⟩ := Prod.mk.inj (Except.ok.inj h)
    exact ⟨rfl, rfl, rfl⟩
  next =>
    obtain ⟨c, -, h⟩ := bind_eq_ok.mp h
    split at h
    next =>
      obtain ⟨-, rfl⟩ := Prod.mk.inj (Except.ok.inj h)
      exact ⟨rfl, rfl, rfl⟩
    next =>
      obtain ⟨-, rfl⟩ := Prod.mk.inj (Except.ok.inj h)
      exact ⟨rfl, rfl, rfl⟩

theorem unregisterAll_sameTable {cports : List Nat} (h : unregisterAll s cports = .ok s') :
    s.SameTable s' := by
  induction cports generalizing s with
  | nil =>
    obtain rfl := Except.ok.inj h
    exact ⟨rfl, rfl, rfl⟩
  | cons cport cports ih =>
    unfold unregisterAll at h
    obtain ⟨⟨ret, s₁⟩, hcall, h⟩ := bind_eq_ok.mp h
    obtain ⟨-, -, hrest⟩ := bind_eq_ok.mp h
    have hsame := gbUnregisterDriver_sameTable hcall
    have hsame' := ih hrest
    exact ⟨hsame'.cportCount.trans hsame.cportCount, hsame'.table.trans hsame.table,
      hsame'.backend.trans hsame.backend⟩

/-- The call is no `gb_init` that finds cports and no memory for them, and no `gb_deinit` of a core
with cports. -/
def KeepsTable (s : Statics) (c : Call) (_ : Statics) : Prop :=
  match c with
  | .init _ env transport =>
    transport = true → env.bundleOk = true → env.cportOk = false → env.cportCount = 0
  | .deinit => s.backend = true → s.core.cportCount = 0
  | _ => True

theorem gbInit_tableOk_iff (hs : s.TableOk) (m : ManifestState) (env : InitEnv)
    (transport : Bool) :
    (gbInit m env transport s).2.TableOk ↔ KeepsTable s (.init m env transport) s' := by
  obtain ⟨bundleOk, cportCount, cportOk⟩ := env
  unfold gbInit KeepsTable
  cases transport with
  | false => exact iff_of_true hs fun h => absurd h Bool.false_ne_true
  | true =>
    cases bundleOk with
    | false => exact iff_of_true hs fun _ h => absurd h Bool.false_ne_true
    | true =>
      cases cportOk with
      | false =>
        constructor
        · intro h _ _ _
          by_contra hne
          obtain ⟨entries, htable, -⟩ := h (Nat.pos_of_ne_zero hne)
          cases htable
        · intro h hpos
          exact absurd (h rfl rfl rfl) (Nat.ne_of_gt hpos)
      | true =>
        refine iff_of_true (fun _ => ⟨cportCount, rfl, Nat.le_refl _⟩) fun _ _ h => ?_
        cases h

-- After `gb_deinit` there is no table, but the bound is what it was.
theorem gbDeinit_frees (hbackend : s.backend = true) (h : gbDeinit s = .ok s') :
    s'.core.cportCount = s.core.cportCount ∧ ∀ entries, s'.table ≠ .live entries := by
  unfold gbDeinit at h
  rw [hbackend] at h
  obtain ⟨s₁, hall, h⟩ := bind_eq_ok.mp h
  have hsame := unregisterAll_sameTable hall
  split at h
  next htable =>
    obtain rfl := Except.ok.inj h
    refine ⟨hsame.cportCount, fun entries hlive => ?_⟩
    cases htable.symm.trans hlive
  next =>
    obtain rfl := Except.ok.inj h
    refine ⟨hsame.cportCount, fun entries hlive => ?_⟩
    cases hlive
  next => cases h

theorem gbDeinit_tableOk_iff (hs : s.TableOk) (h : gbDeinit s = .ok s') :
    s'.TableOk ↔ KeepsTable s .deinit s' := by
  unfold KeepsTable
  cases hbackend : s.backend with
  | false =>
    unfold gbDeinit at h
    rw [hbackend] at h
    obtain rfl := Except.ok.inj h
    exact iff_of_true hs fun h => absurd h Bool.false_ne_true
  | true =>
    obtain ⟨hcount, hdead⟩ := gbDeinit_frees hbackend h
    constructor
    · intro hs' _
      by_contra hne
      obtain ⟨entries, hlive, -⟩ := hs' (by omega)
      exact hdead entries hlive
    · intro hzero hpos
      have hzero' := hzero rfl
      omega

theorem step_tableOk_iff (hs : s.TableOk) {c : Call} (h : step s c = some s') :
    s'.TableOk ↔ KeepsTable s c s' := by
  cases c with
  | init m env transport =>
    obtain rfl := Option.some.inj h
    exact gbInit_tableOk_iff hs m env transport
  | register sort m env cport bundleId driver =>
    obtain ⟨⟨ret, s₁⟩, hcall, rfl⟩ := Option.map_eq_some_iff.mp h
    have hsame := gbRegisterDriver_sameTable (toOption_eq_some.mp hcall)
    exact iff_of_true (hsame.tableOk_iff.mpr hs) trivial
  | unregister cport =>
    obtain ⟨⟨ret, s₁⟩, hcall, rfl⟩ := Option.map_eq_some_iff.mp h
    have hsame := gbUnregisterDriver_sameTable (toOption_eq_some.mp hcall)
    exact iff_of_true (hsame.tableOk_iff.mpr hs) trivial
  | deinit => exact gbDeinit_tableOk_iff hs (toOption_eq_some.mp h)

theorem boot_tableOk (drivers : DriverRef → Driver) : (boot drivers).TableOk :=
  fun hpos => absurd hpos (Nat.lt_irrefl 0)

/-- In every state of a run the entry points stay inside a live table, exactly when no `gb_init` of
the run finds cports and no memory for them, and no `gb_deinit` frees the table of a core with
cports. -/
theorem throughout_noTableFault_iff (drivers : DriverRef → Driver) (calls : List Call) :
    Throughout step Statics.NoTableFault (boot drivers) calls ↔
      EachStep step KeepsTable (boot drivers) calls := by
  apply throughout_iff_eachStep
  · intro s c s' hs hstep
    rw [noTableFault_iff]
    exact step_tableOk_iff hs.tableOk hstep
  · exact noTableFault_iff.mpr (boot_tableOk drivers)

def noDrivers : DriverRef → Driver := fun _ => ⟨false, none, 0, none, by simp⟩

/-- A core of one cport is brought up and shut down. -/
def shutDown : List Call := [.init .initial ⟨true, 1, true⟩ true, .deinit]

/-- There is no memory for the table of one cport. -/
def noMemory : List Call := [.init .initial ⟨true, 1, false⟩ true]

-- A ping that arrives after either is looked up in a table that is not there.
theorem throughout_noTableFault_lost :
    (run step (boot noDrivers) shutDown).map
        (greybusRxHandler true 0 (some [8, 0, 1, 0, 0, 0, 0, 0])) = some (.error .table) ∧
      (run step (boot noDrivers) noMemory).map
        (greybusRxHandler true 0 (some [8, 0, 1, 0, 0, 0, 0, 0])) = some (.error .table) ∧
      ¬ Throughout step Statics.NoTableFault (boot noDrivers) shutDown ∧
      ¬ Throughout step Statics.NoTableFault (boot noDrivers) noMemory := by
  have hshut : (run step (boot noDrivers) shutDown).map
      (greybusRxHandler true 0 (some [8, 0, 1, 0, 0, 0, 0, 0])) = some (.error .table) := rfl
  have hmem : (run step (boot noDrivers) noMemory).map
      (greybusRxHandler true 0 (some [8, 0, 1, 0, 0, 0, 0, 0])) = some (.error .table) := rfl
  refine ⟨hshut, hmem, fun hall => ?_, fun hall => ?_⟩
  · obtain ⟨s, hrun, hfault⟩ := Option.map_eq_some_iff.mp hshut
    exact (hall shutDown s List.prefix_rfl hrun).rxHandler _ _ _ hfault
  · obtain ⟨s, hrun, hfault⟩ := Option.map_eq_some_iff.mp hmem
    exact (hall noMemory s List.prefix_rfl hrun).rxHandler _ _ _ hfault

end Greybus.Lifecycle
