import Greybus.Core.Registration
import Greybus.Manifest.Parse
import Greybus.Reasoning.Numbering

/-!
# The CPorts of a manifest

The parser accepts CPorts with any ids.  The core takes their number for a bound on their ids, and a
driver takes the number of a bundle's CPorts for a bound on their distances from the first.
-/

namespace Greybus

open Reasoning.Memory Reasoning.Numbering Reasoning.Transition

/-! ## The code -/

/-- `manifest_get_num_cports`. -/
def ManifestState.getNumCports (m : ManifestState) : Nat := m.cports.length

/-- The bundle that `_gb_register_driver` allocates for `bundle_id`. -/
def ManifestState.newBundle (m : ManifestState) (bundleId : Int) : Bundle where
  id := bundleId
  cportStart := m.getStartCportBundle bundleId
  devCount := m.getNumCportsBundle bundleId

@[simp] theorem addBundle_bundles (core : Core) (m : ManifestState) (bundleId : Int) :
    (core.addBundle m bundleId).bundles = core.bundles ++ [m.newBundle bundleId] := rfl

/-- `cport - bundle->cport_start`, the `cport_idx` that `gb_gpio_init`, `gb_i2c_init` and
`gb_spi_init` store through and that the handlers read through. -/
def Bundle.cportIdx (bundle : Bundle) (cport : Nat) : Nat :=
  (cport + (2 ^ 32 - bundle.cportStart % 2 ^ 32)) % 2 ^ 32

/-- The static driver that `enable_cports` registers for a protocol, if it is compiled in. -/
abbrev Build := Nat → Option DriverRef

/-- The body of the loop in `enable_cports`: what `_gb_register_driver` returns is dropped. -/
def enableCport (sort : HandlerSort) (m : ManifestState) (build : Build) (core : Core)
    (a : GbCport × RegisterEnv) : Option Core :=
  match build a.1.protocol with
  | none => some core
  | some d => (gbRegisterDriver sort m a.2 a.1.id a.1.bundle (some d) core).map (·.2)

/-! ## Device indices -/

/-- The ids of a bundle's CPorts. -/
def ManifestState.cportIds (m : ManifestState) (bundleId : Int) : List Nat :=
  (m.cports.filter fun c => (c.bundle : Int) = bundleId).map (·.id)

theorem getNumCportsBundle_eq (m : ManifestState) (bundleId : Int) :
    m.getNumCportsBundle bundleId = (m.cportIds bundleId).length := by
  rw [ManifestState.getNumCportsBundle, ManifestState.cportIds, List.length_map,
    List.countP_eq_length_filter]

-- The loop of `manifest_get_start_cport_bundle` keeps the smallest id that it has seen.
theorem getStartCportBundle_loop (cports : List GbCport) (bundleId : Int) (start : Nat) :
    let r := cports.foldl
      (fun cportId c => if (c.bundle : Int) = bundleId ∧ c.id < cportId then c.id else cportId) start
    r ≤ start ∧ (∀ c ∈ cports, (c.bundle : Int) = bundleId → r ≤ c.id) ∧
      (r = start ∨ ∃ c ∈ cports, (c.bundle : Int) = bundleId ∧ c.id = r) := by
  induction cports generalizing start with
  | nil => simp
  | cons c cports ih =>
    rw [List.foldl_cons]
    split
    next hc =>
      obtain ⟨hle, hall, hfound⟩ := ih c.id
      refine ⟨le_trans hle (Nat.le_of_lt hc.2), fun c' hc' hb => ?_, .inr ?_⟩
      · rcases List.mem_cons.mp hc' with rfl | hmem
        · exact hle
        · exact hall c' hmem hb
      · rcases hfound with heq | ⟨c', hc', hb, hid⟩
        · exact ⟨c, List.mem_cons_self, hc.1, heq.symm⟩
        · exact ⟨c', List.mem_cons_of_mem _ hc', hb, hid⟩
    next hc =>
      obtain ⟨hle, hall, hfound⟩ := ih start
      refine ⟨hle, fun c' hc' hb => ?_, hfound.imp_right ?_⟩
      · rcases List.mem_cons.mp hc' with rfl | hmem
        · have hge : start ≤ c'.id := not_lt.mp fun hlt => hc ⟨hb, hlt⟩
          exact le_trans hle hge
        · exact hall c' hmem hb
      · rintro ⟨c', hc', hb, hid⟩
        exact ⟨c', List.mem_cons_of_mem _ hc', hb, hid⟩

theorem mem_cportIds {m : ManifestState} {bundleId : Int} {i : Nat} :
    i ∈ m.cportIds bundleId ↔ ∃ c ∈ m.cports, (c.bundle : Int) = bundleId ∧ c.id = i := by
  simp only [ManifestState.cportIds, List.mem_map, List.mem_filter, decide_eq_true_eq, and_assoc]

-- The start of a bundle with CPorts is the smallest of their ids.
theorem getStartCportBundle_min {m : ManifestState} {bundleId : Int}
    (hids : ∀ i ∈ m.cportIds bundleId, i < uintMax) (hne : m.cportIds bundleId ≠ []) :
    m.getStartCportBundle bundleId ∈ m.cportIds bundleId ∧
      ∀ i ∈ m.cportIds bundleId, m.getStartCportBundle bundleId ≤ i := by
  obtain ⟨-, hall, hfound⟩ := getStartCportBundle_loop m.cports bundleId uintMax
  have hmin : ∀ i ∈ m.cportIds bundleId, m.getStartCportBundle bundleId ≤ i := by
    intro i hi
    obtain ⟨c, hc, hb, rfl⟩ := mem_cportIds.mp hi
    exact hall c hc hb
  refine ⟨?_, hmin⟩
  rcases hfound with hmax | hmem
  · obtain ⟨i, hi⟩ := List.exists_mem_of_ne_nil _ hne
    have hle := hmin i hi
    have hlt := hids i hi
    rw [ManifestState.getStartCportBundle, hmax] at hle
    omega
  · exact mem_cportIds.mpr hmem

theorem cportIdx_of_le {bundle : Bundle} {cport : Nat} (hle : bundle.cportStart ≤ cport)
    (hlt : cport < 2 ^ 32) : bundle.cportIdx cport = cport - bundle.cportStart := by
  unfold Bundle.cportIdx
  omega

/-- Every CPort's device index is inside the array that is allocated for its bundle. -/
def DevicesFit (m : ManifestState) : Prop :=
  ∀ c ∈ m.cports, (m.newBundle c.bundle).cportIdx c.id < (m.newBundle c.bundle).devCount

instance (m : ManifestState) : Decidable (DevicesFit m) :=
  inferInstanceAs (Decidable (∀ c ∈ m.cports, _))

theorem devicesFit_iff_of_lt {m : ManifestState} (hids : ∀ c ∈ m.cports, c.id < 2 ^ 16) :
    DevicesFit m ↔ ∀ b, (gaps (m.cportIds b)).card ≤ repeats (m.cportIds b) := by
  have hbound : ∀ b, ∀ i ∈ m.cportIds b, i < 2 ^ 16 := by
    intro b i hi
    obtain ⟨c, hc, -, rfl⟩ := mem_cportIds.mp hi
    exact hids c hc
  have hindex : ∀ b, m.cportIds b ≠ [] →
      ((∀ i ∈ m.cportIds b, (m.newBundle b).cportIdx i < (m.newBundle b).devCount) ↔
        (gaps (m.cportIds b)).card ≤ repeats (m.cportIds b)) := by
    intro b hne
    obtain ⟨hlo, hmin⟩ := getStartCportBundle_min
      (fun i hi => lt_trans (hbound b i hi) (by decide)) hne
    rw [← indices_lt_iff hlo hmin]
    refine forall₂_congr fun i hi => ?_
    have hlt := hbound b i hi
    rw [cportIdx_of_le (hmin i hi) (by omega)]
    simp only [ManifestState.newBundle, getNumCportsBundle_eq]
  constructor
  · intro hfit b
    by_cases hne : m.cportIds b = []
    · rw [hne]
      decide
    · refine (hindex b hne).mp fun i hi => ?_
      obtain ⟨c, hc, rfl, rfl⟩ := mem_cportIds.mp hi
      exact hfit c hc
  · intro hgaps c hc
    have hmem : c.id ∈ m.cportIds c.bundle := mem_cportIds.mpr ⟨c, hc, rfl, rfl⟩
    exact (hindex _ (List.ne_nil_of_mem hmem)).mpr (hgaps _) c.id hmem

-- The ids come from 16-bit fields.
theorem manifestParse_cports {cfg : Config} {data : List UInt8} {after : Nat → Option UInt8}
    {malloc : Nat → Bool} {m : ManifestState}
    (h : manifestParse cfg (ofBuffer data after) malloc data.length .initial = some (true, m)) :
    ∀ c ∈ m.cports, c.id < 2 ^ 16 := by
  obtain ⟨-, ds, -, rfl⟩ := manifestParse_accepts (holds_ofBuffer data after) h
  intro c hc
  rw [registerAll_cports, ManifestState.initial, List.nil_append] at hc
  obtain ⟨d, -, hd⟩ := List.mem_filterMap.mp hc
  obtain ⟨-, hd⟩ := Option.ite_none_right_eq_some.mp hd
  obtain rfl := Option.some.inj hd
  exact le16_lt _ _

/-- The device indices of an accepted manifest stay inside the arrays exactly when every bundle
leaves out no more CPort ids between its first and its last than it uses again. -/
theorem devicesFit_iff {cfg : Config} {data : List UInt8} {after : Nat → Option UInt8}
    {malloc : Nat → Bool} {m : ManifestState}
    (h : manifestParse cfg (ofBuffer data after) malloc data.length .initial = some (true, m)) :
    DevicesFit m ↔ ∀ b, (gaps (m.cportIds b)).card ≤ repeats (m.cportIds b) :=
  devicesFit_iff_of_lt (manifestParse_cports h)

/-- Two bundles, with CPorts 0 and 1 of the first and CPort 2 of the second, all GPIO. -/
def adjacentManifest : List UInt8 :=
  [44, 0, 0, 1, 8, 0, 3, 0, 1, 0x0a, 0, 0, 8, 0, 3, 0, 2, 0x0a, 0, 0,
    8, 0, 4, 0, 0, 0, 1, 2, 8, 0, 4, 0, 1, 0, 1, 2, 8, 0, 4, 0, 2, 0, 2, 2]

/-- The same with CPort 1 in the second bundle and CPorts 0 and 2 in the first. -/
def interleavedManifest : List UInt8 :=
  [44, 0, 0, 1, 8, 0, 3, 0, 1, 0x0a, 0, 0, 8, 0, 3, 0, 2, 0x0a, 0, 0,
    8, 0, 4, 0, 0, 0, 1, 2, 8, 0, 4, 0, 1, 0, 2, 2, 8, 0, 4, 0, 2, 0, 1, 2]

theorem devicesFit_iff_adjacent :
    ∃ m, manifestParse .native (ofBuffer adjacentManifest fun _ => none) (fun _ => true) 44 .initial
        = some (true, m) ∧
      (DevicesFit m ↔ ∀ b, (gaps (m.cportIds b)).card ≤ repeats (m.cportIds b)) := by
  have hparse : manifestParse .native (ofBuffer adjacentManifest fun _ => none) (fun _ => true)
      adjacentManifest.length .initial
      = some (true, { ManifestState.initial with
          cports := [⟨0, 1, 2⟩, ⟨1, 1, 2⟩, ⟨2, 2, 2⟩], maxBundleId := 2 }) := by decide +kernel
  exact ⟨_, hparse, devicesFit_iff hparse⟩

-- CPort 2 has index 2 in an array of 2 entries.
theorem devicesFit_interleaved :
    ∃ m, manifestParse .native (ofBuffer interleavedManifest fun _ => none) (fun _ => true) 44
        .initial = some (true, m) ∧
      ⟨2, 1, 2⟩ ∈ m.cports ∧ (m.newBundle 1).cportIdx 2 = 2 ∧ (m.newBundle 1).devCount = 2 ∧
      ¬ DevicesFit m :=
  ⟨{ ManifestState.initial with cports := [⟨0, 1, 2⟩, ⟨1, 2, 2⟩, ⟨2, 1, 2⟩], maxBundleId := 2 },
    by decide +kernel, by decide, by decide, by decide, by decide⟩

/-! ## Registering every CPort -/

/-- The checks of `_gb_register_driver` on the cport: it is in range, and it has no driver yet. -/
def Core.Accepts (core : Core) (cport : Nat) : Prop :=
  cport < core.cportCount ∧ (core.gCport cport).driver = none

instance (core : Core) (cport : Nat) : Decidable (core.Accepts cport) :=
  inferInstanceAs (Decidable (_ ∧ _))

theorem bindDriver_frame (sort : HandlerSort) (env : RegisterEnv) (cport : Nat) (d : DriverRef)
    (b : BundleRef) (core : Core) :
    (bindDriver sort env cport d b core).2.cportCount = core.cportCount ∧
      ∀ i, i ≠ cport → (bindDriver sort env cport d b core).2.gCport i = core.gCport i := by
  unfold bindDriver
  simp only
  split
  · exact ⟨rfl, fun _ _ => rfl⟩
  · split
    · exact ⟨rfl, fun i hi => Function.update_of_ne hi _ _⟩
    · refine ⟨rfl, fun i hi => ?_⟩
      simp [Core.setCport, Core.updateDriver, Function.update_of_ne hi]

-- A registration changes no other cport.
theorem gbRegisterDriver_frame {sort : HandlerSort} {m : ManifestState} {env : RegisterEnv}
    {cport : Nat} {bundleId : Int} {d : DriverRef} {core : Core} {res : Int × Core}
    (h : gbRegisterDriver sort m env cport bundleId (some d) core = some res) :
    res.2.cportCount = core.cportCount ∧ ∀ i, i ≠ cport → res.2.gCport i = core.gCport i := by
  cases gbRegisterDriver_registers h with
  | refused => exact ⟨rfl, fun _ _ => rfl⟩
  | found => exact bindDriver_frame ..
  | added => exact bindDriver_frame ..

theorem enableCport_frame {sort : HandlerSort} {m : ManifestState} {build : Build}
    {core core' : Core} {a : GbCport × RegisterEnv}
    (h : enableCport sort m build core a = some core') :
    core'.cportCount = core.cportCount ∧ ∀ i, i ≠ a.1.id → core'.gCport i = core.gCport i := by
  unfold enableCport at h
  split at h
  · obtain rfl := Option.some.inj h
    exact ⟨rfl, fun _ _ => rfl⟩
  · obtain ⟨res, hres, rfl⟩ := Option.map_eq_some_iff.mp h
    exact gbRegisterDriver_frame hres

theorem run_enableCport_frame {sort : HandlerSort} {m : ManifestState} {build : Build}
    {core core' : Core} {as : List (GbCport × RegisterEnv)} {i : Nat}
    (hi : ∀ a ∈ as, a.1.id ≠ i) (hrun : run (enableCport sort m build) core as = some core') :
    core'.gCport i = core.gCport i := by
  induction as generalizing core with
  | nil =>
    rw [run_nil, Option.some.injEq] at hrun
    rw [hrun]
  | cons a as ih =>
    obtain ⟨core₁, hstep, hrest⟩ := run_cons_eq_some.mp hrun
    rw [ih (fun b hb => hi b (List.mem_cons_of_mem _ hb)) hrest]
    exact (enableCport_frame hstep).2 i (hi a List.mem_cons_self).symm

/-- What the core makes of the CPorts of a manifest, with as many cports as these: their ids are in
range and all different, every registration that `enable_cports` attempts gets past the checks on
the cport, and no CPort is left without a driver when the registrations that get past them
succeed. -/
structure CportsServed (sort : HandlerSort) (m : ManifestState) (build : Build)
    (drivers : DriverRef → Driver) : Prop where
  below : ∀ c ∈ m.cports, c.id < m.getNumCports
  distinct : (m.cports.map (·.id)).Nodup
  accepted : ∀ envs, EachStep (enableCport sort m build)
    (fun core a _ => (build a.1.protocol).isSome → core.Accepts a.1.id)
    (gbInit m m.getNumCports drivers) (m.cports.zip envs)
  served : ∀ envs core, envs.length = m.cports.length →
    run (enableCport sort m build) (gbInit m m.getNumCports drivers) (m.cports.zip envs)
      = some core →
    EachStep (enableCport sort m build)
      (fun core a core' => core.Accepts a.1.id → (core'.gCport a.1.id).driver.isSome)
      (gbInit m m.getNumCports drivers) (m.cports.zip envs) →
    ∀ c ∈ m.cports, (core.gCport c.id).driver.isSome

section Enable

variable {sort : HandlerSort} {m : ManifestState} {build : Build} {core : Core}
  {cports : List GbCport}

-- Registering one CPort leaves the others acceptable when no id comes twice.
theorem accepts_rest {c : GbCport} {env : RegisterEnv} {core' : Core}
    (hstep : enableCport sort m build core (c, env) = some core')
    (hnodup : ((c :: cports).map (·.id)).Nodup)
    (haccepts : ∀ c' ∈ c :: cports, core.Accepts c'.id) :
    ∀ c' ∈ cports, core'.Accepts c'.id := by
  obtain ⟨hcount, hframe⟩ := enableCport_frame hstep
  intro c' hc'
  obtain ⟨hlt, hfree⟩ := haccepts c' (List.mem_cons_of_mem _ hc')
  have hne : c'.id ≠ c.id := by
    rw [List.map_cons, List.nodup_cons] at hnodup
    exact fun heq => hnodup.1 (heq ▸ List.mem_map_of_mem hc')
  refine ⟨hcount ▸ hlt, ?_⟩
  rw [hframe _ hne]
  exact hfree

theorem eachStep_accepts (envs : List RegisterEnv) (hnodup : (cports.map (·.id)).Nodup)
    (haccepts : ∀ c ∈ cports, core.Accepts c.id) :
    EachStep (enableCport sort m build)
      (fun core a _ => (build a.1.protocol).isSome → core.Accepts a.1.id) core
      (cports.zip envs) := by
  induction cports generalizing core envs with
  | nil => exact trivial
  | cons c cports ih =>
    cases envs with
    | nil => exact trivial
    | cons env envs =>
      intro core' hstep
      refine ⟨fun _ => haccepts c List.mem_cons_self,
        ih envs ?_ (accepts_rest hstep hnodup haccepts)⟩
      exact (List.nodup_cons.mp hnodup).2

theorem run_served {envs : List RegisterEnv} {core' : Core}
    (hlen : envs.length = cports.length) (hnodup : (cports.map (·.id)).Nodup)
    (haccepts : ∀ c ∈ cports, core.Accepts c.id)
    (hrun : run (enableCport sort m build) core (cports.zip envs) = some core')
    (hsucceed : EachStep (enableCport sort m build)
      (fun core a core' => core.Accepts a.1.id → (core'.gCport a.1.id).driver.isSome) core
      (cports.zip envs)) :
    ∀ c ∈ cports, (core'.gCport c.id).driver.isSome := by
  induction cports generalizing core envs with
  | nil => exact fun c hc => nomatch hc
  | cons c cports ih =>
    cases envs with
    | nil => cases hlen
    | cons env envs =>
      rw [List.zip_cons_cons] at hrun hsucceed
      obtain ⟨core₁, hstep, hrest⟩ := run_cons_eq_some.mp hrun
      obtain ⟨hfirst, hsucceed'⟩ := hsucceed core₁ hstep
      obtain ⟨hnew, hnodup'⟩ := List.nodup_cons.mp hnodup
      intro c' hc'
      rcases List.mem_cons.mp hc' with rfl | hmem
      · have hother : ∀ a ∈ cports.zip envs, a.1.id ≠ c'.id := by
          intro a ha heq
          exact hnew (List.mem_map.mpr ⟨a.1, (List.of_mem_zip ha).1, heq⟩)
        rw [run_enableCport_frame hother hrest]
        exact hfirst (haccepts c' List.mem_cons_self)
      · exact ih (Nat.succ.inj hlen) hnodup' (accepts_rest hstep hnodup haccepts) hrest hsucceed'
          c' hmem

end Enable

theorem cportsServed_iff_perm (sort : HandlerSort) (m : ManifestState) (build : Build)
    (drivers : DriverRef → Driver) :
    CportsServed sort m build drivers ↔
      (m.cports.map (·.id)).Perm (List.range m.cports.length) := by
  have hlen : (m.cports.map (·.id)).length = m.cports.length := List.length_map ..
  rw [← hlen, perm_range_iff, hlen]
  constructor
  · intro h
    refine ⟨fun i hi => ?_, h.distinct⟩
    obtain ⟨c, hc, rfl⟩ := List.mem_map.mp hi
    exact h.below c hc
  · rintro ⟨hlt, hnodup⟩
    have hbelow : ∀ c ∈ m.cports, c.id < m.getNumCports :=
      fun c hc => hlt _ (List.mem_map_of_mem hc)
    have haccepts : ∀ c ∈ m.cports, (gbInit m m.getNumCports drivers).Accepts c.id :=
      fun c hc => ⟨hbelow c hc, rfl⟩
    exact ⟨hbelow, hnodup, fun envs => eachStep_accepts envs hnodup haccepts,
      fun envs core hlen hrun hsucceed => run_served hlen hnodup haccepts hrun hsucceed⟩

/-- A build with a driver for GPIO alone. -/
def gpioBuild : Build := fun protocol => if protocol = 2 then some 0 else none

/-- Drivers that all serve the type of `versionHandler`. -/
def versionDrivers : DriverRef → Driver := (oneHandlerCore versionHandler).drivers

/-- A manifest without the control CPort: bundle 1 with the GPIO CPort 1. -/
def controllessManifest : List UInt8 :=
  [20, 0, 0, 1, 8, 0, 3, 0, 1, 0x0a, 0, 0, 8, 0, 4, 0, 1, 0, 1, 2]

end Greybus
