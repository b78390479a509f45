import Greybus.Core.Lifecycle
import Greybus.Manifest.Parse

/-!
# The table of bundles

`gb_init` gives `g_bundle` one entry more than the largest bundle id that the manifests have had by
then.  `_gb_register_driver` and `gb_bundle_get_by_id` compare with the largest id of their own
time.
-/

namespace Greybus.Lifecycle

open Reasoning.Memory Reasoning.Transition

/-! ## The code -/

/-- `gb_bundle_get_by_id`. -/
def gbBundleGetById (m : ManifestState) (bundleId : Nat) (s : Statics) :
    Result (Option BundleRef) :=
  if m.maxBundleId < bundleId then .ok none
  else
    match s.core.bundleAt bundleId with
    | none => .error .other
    | some b => .ok b

/-- The parser and the core.  `sized` is what `max_bundle_id` was when `gb_init` allocated the
`g_bundle` that is there. -/
structure System where
  manifest : ManifestState
  statics : Statics
  sized : Option Nat

/-- A call of the parser or of the core. -/
inductive Entry where
  | parse (mem : Mem) (malloc : Nat → Bool) (size : Nat)
  | release (mem : Mem) (malloc : Nat → Bool) (size : Nat)
  | init (env : InitEnv) (transport : Bool)
  | register (sort : HandlerSort) (env : RegisterEnv) (cport : Nat) (bundleId : Int)
      (driver : Option DriverRef)
  | unregister (cport : Nat)
  | deinit
  | getById (bundleId : Nat)

namespace System

/-- What `gb_init` leaves allocated. -/
def initSized (x : System) (env : InitEnv) (transport : Bool) : Option Nat :=
  if !transport then x.sized
  else if env.bundleOk && env.cportOk then some x.manifest.maxBundleId
  else none

/-- There is no state after a call that faults. -/
def step (cfg : Config) (x : System) : Entry → Option System
  | .parse mem malloc size =>
    (manifestParse cfg mem malloc size x.manifest).map fun r => { x with manifest := r.2 }
  | .release mem malloc size =>
    (manifestRelease cfg mem malloc size x.manifest).map fun r => { x with manifest := r.2 }
  | .init env transport =>
    some { x with
      statics := (gbInit x.manifest env transport x.statics).2
      sized := x.initSized env transport }
  | .register sort env cport bundleId driver =>
    (gbRegisterDriver sort x.manifest env cport bundleId driver x.statics).toOption.map fun r =>
    { x with statics := r.2 }
  | .unregister cport =>
    (gbUnregisterDriver cport x.statics).toOption.map fun r => { x with statics := r.2 }
  | .deinit => (gbDeinit x.statics).toOption.map fun s => { x with statics := s }
  | .getById bundleId =>
    (gbBundleGetById x.manifest bundleId x.statics).toOption.map fun _ => x

def boot (drivers : DriverRef → Driver) : System := ⟨.initial, Lifecycle.boot drivers, none⟩

/-- An access of the call to `g_bundle` falls inside it. -/
def Inside (x : System) : Entry → Prop
  | .register sort env cport bundleId driver =>
    gbRegisterDriver sort x.manifest env cport bundleId driver x.statics ≠ .error .other
  | .getById bundleId => gbBundleGetById x.manifest bundleId x.statics ≠ .error .other
  | _ => True

/-- The index at which the call reaches for an entry of `g_bundle`, if its checks let it. -/
inductive Reaches (x : System) : Entry → Int → Prop
  | register {sort : HandlerSort} {env : RegisterEnv} {cport entries : Nat} {bundleId : Int}
      {d : DriverRef} : cport < x.statics.core.cportCount → x.statics.table = .live entries →
      cport < entries → (x.statics.core.gCport cport).driver = none →
      ¬ ((x.statics.core.drivers d).opHandlers.isNone ∧
        0 < (x.statics.core.drivers d).opHandlersCount) →
      ¬ (0 ≤ bundleId ∧ (x.manifest.maxBundleId : Int) < bundleId) →
      Reaches x (.register sort env cport bundleId (some d)) bundleId
  | getById {bundleId : Nat} : bundleId ≤ x.manifest.maxBundleId →
      Reaches x (.getById bundleId) bundleId

end System

/-! ## The size of the table -/

/-- `g_bundle` has the entries that it was allocated with. -/
def System.Sized (x : System) : Prop :=
  x.statics.core.gBundle.length = x.sized.elim 0 (· + 1)

variable {s s' : Statics} {x x' : System}

theorem bindDriver_gBundle (sort : HandlerSort) (env : RegisterEnv) (cport : Nat) (d : DriverRef)
    (b : BundleRef) (core : Core) :
    (bindDriver sort env cport d b core).2.gBundle = core.gBundle := by
  unfold bindDriver
  dsimp only
  split
  next => rfl
  next => split <;> rfl

theorem gbRegisterDriver_gBundle {sort : HandlerSort} {m : ManifestState} {env : RegisterEnv}
    {cport : Nat} {bundleId : Int} {driver : Option DriverRef} {ret : Int}
    (h : gbRegisterDriver sort m env cport bundleId driver s = .ok (ret, s')) :
    s'.core.gBundle.length = s.core.gBundle.length := by
  rcases gbRegisterDriver_core h with rfl | ⟨d, res, hcase, rfl⟩
  · rfl
  cases hcase with
  | refused => rfl
  | found => exact congrArg List.length (bindDriver_gBundle _ _ _ _ _ _)
  | added =>
    refine (congrArg List.length (bindDriver_gBundle _ _ _ _ _ _)).trans ?_
    exact List.length_set

theorem gbUnregisterDriver_gBundle {cport : Nat} {ret : Int}
    (h : gbUnregisterDriver cport s = .ok (ret, s')) : s'.core.gBundle = s.core.gBundle := by
  unfold gbUnregisterDriver at h
  split at h
  next =>
    obtain ⟨-, rfl⟩ := Prod.mk.inj (Except.ok.inj h)
    rfl
  next =>
    obtain ⟨c, -, h⟩ := bind_eq_ok.mp h
    split at h <;> obtain ⟨-, rfl⟩ := Prod.mk.inj (Except.ok.inj h) <;> rfl

theorem unregisterAll_gBundle {cports : List Nat} (h : unregisterAll s cports = .ok s') :
    s'.core.gBundle = s.core.gBundle := by
  induction cports generalizing s with
  | nil =>
    obtain rfl := Except.ok.inj h
    rfl
  | cons cport cports ih =>
    unfold unregisterAll at h
    obtain ⟨⟨ret, s₁⟩, hcall, h⟩ := bind_eq_ok.mp h
    obtain ⟨-, -, hrest⟩ := bind_eq_ok.mp h
    exact (ih hrest).trans (gbUnregisterDriver_gBundle hcall)

theorem gbDeinit_gBundle (h : gbDeinit s = .ok s') : s'.core.gBundle = s.core.gBundle := by
  unfold gbDeinit at h
  split at h
  next =>
    obtain rfl := Except.ok.inj h
    rfl
  next =>
    obtain ⟨s₁, hall, h⟩ := bind_eq_ok.mp h
    have hsame := unregisterAll_gBundle hall
    split at h
    next =>
      obtain rfl := Except.ok.inj h
      exact hsame
    next =>
      obtain rfl := Except.ok.inj h
      exact hsame
    next => cases h

namespace System

theorem init_sized (hx : x.Sized) (env : InitEnv) (transport : Bool) :
    (gbInit x.manifest env transport x.statics).2.core.gBundle.length
      = (x.initSized env transport).elim 0 (· + 1) := by
  obtain ⟨bundleOk, cportCount, cportOk⟩ := env
  cases transport with
  | false => exact hx
  | true =>
    cases bundleOk with
    | false => rfl
    | true =>
      cases cportOk with
      | false => rfl
      | true => exact List.length_replicate

theorem step_sized {cfg : Config} (hx : x.Sized) {c : Entry} (h : step cfg x c = some x') :
    x'.Sized := by
  cases c with
  | parse mem malloc size =>
    obtain ⟨r, -, rfl⟩ := Option.map_eq_some_iff.mp h
    exact hx
  | release mem malloc size =>
    obtain ⟨r, -, rfl⟩ := Option.map_eq_some_iff.mp h
    exact hx
  | init env transport =>
    obtain rfl := Option.some.inj h
    exact init_sized hx env transport
  | register sort env cport bundleId driver =>
    obtain ⟨⟨ret, s'⟩, hcall, rfl⟩ := Option.map_eq_some_iff.mp h
    exact (gbRegisterDriver_gBundle (toOption_eq_some.mp hcall)).trans hx
  | unregister cport =>
    obtain ⟨⟨ret, s'⟩, hcall, rfl⟩ := Option.map_eq_some_iff.mp h
    exact (congrArg List.length (gbUnregisterDriver_gBundle (toOption_eq_some.mp hcall))).trans hx
  | deinit =>
    obtain ⟨s', hcall, rfl⟩ := Option.map_eq_some_iff.mp h
    exact (congrArg List.length (gbDeinit_gBundle (toOption_eq_some.mp hcall))).trans hx
  | getById bundleId =>
    obtain ⟨b, -, rfl⟩ := Option.map_eq_some_iff.mp h
    exact hx

theorem run_sized {cfg : Config} {drivers : DriverRef → Driver} {calls : List Entry}
    (hrun : run (step cfg) (boot drivers) calls = some x) : x.Sized :=
  run_induct (fun _ _ _ hx h => step_sized hx h) (show (boot drivers).Sized from rfl) hrun

/-! ## The accesses -/

theorem bundleAt_eq_none (hx : x.Sized) (bundleId : Int) :
    x.statics.core.bundleAt bundleId = none ↔
      ¬ ∃ k : Nat, x.sized = some k ∧ 0 ≤ bundleId ∧ bundleId ≤ k := by
  unfold Core.bundleAt
  rw [Sized] at hx
  by_cases hneg : bundleId < 0
  · rw [if_pos hneg]
    refine iff_of_true rfl ?_
    rintro ⟨k, -, hpos, -⟩
    omega
  · rw [if_neg hneg, List.getElem?_eq_none_iff, hx]
    cases x.sized with
    | none => simp
    | some k =>
      simp only [Option.elim_some, Option.some.injEq, exists_eq_left']
      omega

theorem cportAt_cases (s : Statics) (cport : Nat) :
    (∃ entries, s.table = .live entries ∧ cport < entries ∧
        s.cportAt cport = .ok (s.core.gCport cport)) ∨
      (∀ entries, s.table = .live entries → ¬ cport < entries) ∧
        s.cportAt cport = .error .table := by
  unfold Statics.cportAt
  cases s.table with
  | null => exact .inr ⟨fun entries h => Table.noConfusion h, rfl⟩
  | freed => exact .inr ⟨fun entries h => Table.noConfusion h, rfl⟩
  | live entries =>
    by_cases hlt : cport < entries
    · exact .inl ⟨entries, rfl, hlt, if_pos hlt⟩
    · refine .inr ⟨fun entries' h => ?_, if_neg hlt⟩
      cases h
      exact hlt

theorem gbBundleGetById_inside_iff (bundleId : Nat) :
    x.Inside (.getById bundleId) ↔
      (bundleId ≤ x.manifest.maxBundleId → x.statics.core.bundleAt bundleId ≠ none) := by
  show gbBundleGetById x.manifest bundleId x.statics ≠ .error .other ↔ _
  rw [gbBundleGetById]
  by_cases hmax : x.manifest.maxBundleId < bundleId
  · rw [if_pos hmax]
    exact iff_of_true (fun h => by cases h) fun hle => absurd hmax (Nat.not_lt.mpr hle)
  · rw [if_neg hmax]
    cases x.statics.core.bundleAt bundleId with
    | none => exact iff_of_false (not_not.mpr rfl) fun h => h (Nat.not_lt.mp hmax) rfl
    | some b => exact iff_of_true (fun h => by cases h) fun _ h => by cases h

theorem gbRegisterDriver_eq_none_iff {sort : HandlerSort} {m : ManifestState} {env : RegisterEnv}
    {cport : Nat} {bundleId : Int} {d : DriverRef} {core : Core} (hcport : cport < core.cportCount) :
    Greybus.gbRegisterDriver sort m env cport bundleId (some d) core = none ↔
      (core.gCport cport).driver = none ∧
        ¬ ((core.drivers d).opHandlers.isNone ∧ 0 < (core.drivers d).opHandlersCount) ∧
        ¬ (0 ≤ bundleId ∧ (m.maxBundleId : Int) < bundleId) ∧ core.bundleAt bundleId = none := by
  unfold Greybus.gbRegisterDriver
  rw [if_neg (Nat.not_le.mpr hcport)]
  dsimp only
  split
  next htaken =>
    refine iff_of_false (fun h => by cases h) fun h => ?_
    rw [h.1] at htaken
    cases htaken
  next hfree =>
    have hfree : (core.gCport cport).driver = none := by simpa using hfree
    split
    next hhandlers => exact iff_of_false (fun h => by cases h) fun h => h.2.1 hhandlers
    next hhandlers =>
      split
      next hmax => exact iff_of_false (fun h => by cases h) fun h => h.2.2.1 hmax
      next hmax =>
        split
        next hat => exact iff_of_true rfl ⟨hfree, hhandlers, hmax, hat⟩
        next b hat => exact iff_of_false (fun h => by cases h) fun h => by simp [hat] at h
        next hat =>
          refine iff_of_false (fun h => ?_) fun h => by simp [hat] at h
          split at h <;> cases h

theorem register_inside_iff (sort : HandlerSort) (env : RegisterEnv) (cport : Nat) (bundleId : Int)
    (driver : Option DriverRef) :
    x.Inside (.register sort env cport bundleId driver) ↔
      (Reaches x (.register sort env cport bundleId driver) bundleId →
        x.statics.core.bundleAt bundleId ≠ none) := by
  show gbRegisterDriver sort x.manifest env cport bundleId driver x.statics ≠ .error .other ↔ _
  by_cases hargs : x.statics.core.cportCount ≤ cport ∨ driver = none
  · rw [gbRegisterDriver, if_pos hargs]
    refine iff_of_true (fun h => by cases h) fun h => ?_
    cases h with
    | register hcport =>
      rcases hargs with hle | hnone
      · exact absurd hcport (Nat.not_lt.mpr hle)
      · cases hnone
  · obtain ⟨hcport, hdriver⟩ := not_or.mp hargs
    have hcport := Nat.not_le.mp hcport
    obtain ⟨d, rfl⟩ := Option.ne_none_iff_exists'.mp hdriver
    have hnone := @gbRegisterDriver_eq_none_iff sort x.manifest env cport bundleId d x.statics.core
      hcport
    rw [gbRegisterDriver, if_neg hargs]
    rcases cportAt_cases x.statics cport with ⟨entries, htable, hlt, hentry⟩ | ⟨hdead, hentry⟩
    · rw [hentry]
      constructor
      · intro hinside hreach hat
        cases hreach with
        | register _ _ _ hfree hhandlers hmax =>
          have hcall := hnone.mpr ⟨hfree, hhandlers, hmax, hat⟩
          refine hinside ?_
          simp only [bind, Except.bind, hcall]
      · intro hreach hfault
        cases hcall : Greybus.gbRegisterDriver sort x.manifest env cport bundleId (some d)
            x.statics.core with
        | none =>
          obtain ⟨hfree, hhandlers, hmax, hat⟩ := hnone.mp hcall
          exact hreach (.register hcport htable hlt hfree hhandlers hmax) hat
        | some res => simp [bind, Except.bind, hcall] at hfault
    · rw [hentry]
      refine iff_of_true (fun h => by cases h) fun hreach => ?_
      cases hreach with
      | register _ htable hlt => exact absurd hlt (hdead _ htable)

/-- After any run of calls of the parser and the core, an access of a further call to `g_bundle`
falls inside it exactly if the call is refused before, or its bundle id is not negative and not
larger than the largest id at the last `gb_init`, if that has allocated the table. -/
theorem run_inside_iff {cfg : Config} {drivers : DriverRef → Driver} {calls : List Entry}
    (hrun : run (step cfg) (boot drivers) calls = some x) (c : Entry) :
    x.Inside c ↔ ∀ bundleId, Reaches x c bundleId →
      ∃ k : Nat, x.sized = some k ∧ 0 ≤ bundleId ∧ bundleId ≤ k := by
  have hx := run_sized hrun
  have hat : ∀ bundleId, x.statics.core.bundleAt bundleId ≠ none ↔
      ∃ k : Nat, x.sized = some k ∧ 0 ≤ bundleId ∧ bundleId ≤ k := fun bundleId => by
    rw [ne_eq, bundleAt_eq_none hx, not_not]
  cases c with
  | register sort env cport bundleId driver =>
    rw [register_inside_iff, hat]
    constructor
    · intro h id hreach
      cases hreach with
      | register hcport htable hlt hfree hhandlers hmax =>
        exact h (.register hcport htable hlt hfree hhandlers hmax)
    · exact fun h hreach => h bundleId hreach
  | getById bundleId =>
    rw [gbBundleGetById_inside_iff, hat]
    constructor
    · intro h id hreach
      cases hreach with
      | getById hle => exact h hle
    · exact fun h hle => h bundleId (.getById hle)
  | parse | release | init | unregister | deinit =>
    exact iff_of_true trivial fun id hreach => by cases hreach

end System

/-- A manifest with the bundle 2. -/
def secondBundle : List UInt8 := [12, 0, 0, 1] ++ [8, 0, 3, 0, 2, 10, 0, 0]

def parseSecondBundle : Entry := .parse (ofBuffer secondBundle fun _ => none) (fun _ => true) 12

-- The bundle 2 is there for a `gb_init` that comes after its manifest.
theorem System.run_inside_parsed :
    ∃ x, run (step .native) (boot noDrivers) [parseSecondBundle, .init ⟨true, 1, true⟩ true]
        = some x ∧ x.Inside (.getById 2) := by
  have hsized : (run (step .native) (boot noDrivers)
      [parseSecondBundle, .init ⟨true, 1, true⟩ true]).map (·.sized) = some (some 2) := rfl
  obtain ⟨x, hrun, hsized⟩ := Option.map_eq_some_iff.mp hsized
  refine ⟨x, hrun, (run_inside_iff hrun _).mpr fun bundleId hreach => ?_⟩
  cases hreach
  exact ⟨2, hsized, by decide, by decide⟩

-- A registration without a bundle reads before the table, and a bundle of a later manifest is
-- looked up behind it.
theorem System.run_inside_outside :
    (∃ x, run (step .native) (boot noDrivers) [.init ⟨true, 1, true⟩ true] = some x ∧
      ¬ x.Inside (.register insertionHandlerSort ⟨true, 0, 0⟩ 0 (-1) (some 0))) ∧
    ∃ x, run (step .native) (boot noDrivers) [.init ⟨true, 1, true⟩ true, parseSecondBundle]
        = some x ∧ ¬ x.Inside (.getById 2) :=
  ⟨⟨_, rfl, fun hinside => hinside rfl⟩, ⟨_, rfl, fun hinside => hinside rfl⟩⟩

end Greybus.Lifecycle
