import Greybus.Manifest.Parse

/-!
# Releasing a manifest

`manifest_release` walks over the same descriptors as `manifest_parse`.  Parsing appends one CPort
for every CPORT descriptor; releasing removes, for every CPORT descriptor, all CPorts with its id.
-/

namespace Greybus

open Reasoning.Memory

variable {cfg : Config}

/-- The ids of the CPORT descriptors, in order and with their repetitions. -/
def Descriptor.cportIds (ds : List (Descriptor cfg)) : List Nat :=
  (ds.filterMap Descriptor.cport?).map GbCport.id

/-- The id occurs in the manifest. -/
def HasCportId (cfg : Config) (data : List UInt8) (id : Nat) : Prop :=
  ∃ ds : List (Descriptor cfg),
    data.drop sizeofManifestHeader = Descriptor.encode ds ∧ id ∈ Descriptor.cportIds ds

/-! ## The walk of a release -/

theorem Descriptor.cportIds_cons (d : Descriptor cfg) (ds : List (Descriptor cfg)) :
    cportIds (d :: ds) = (d.cport?.toList.map GbCport.id) ++ cportIds ds := by
  unfold cportIds
  cases hc : d.cport? with
  | none => simp [hc]
  | some c => simp [hc]

theorem Descriptor.visit_true_cports (d : Descriptor cfg) (g : ManifestState) :
    (d.visit true g).cports
      = g.cports.filter fun c => c.id ∉ d.cport?.toList.map GbCport.id := by
  unfold visit
  cases hc : d.cport? with
  | none =>
    rw [register_cports, hc, Option.toList_none, List.append_nil]
    exact (List.filter_eq_self.mpr fun _ _ => rfl).symm
  | some c =>
    show (g.freeCport c.id).cports = _
    simp [ManifestState.freeCport]

-- A descriptor's CPorts are gone after it, so a repeated id finds nothing more to free.
theorem visitAll_true_cports (ds : List (Descriptor cfg)) (g : ManifestState) :
    (visitAll true ds g).cports = g.cports.filter fun c => c.id ∉ Descriptor.cportIds ds := by
  induction ds generalizing g with
  | nil => exact (List.filter_eq_self.mpr fun _ _ => rfl).symm
  | cons d ds ih =>
    have htail := ih (d.visit true g)
    unfold visitAll at htail ⊢
    rw [List.foldl_cons, htail, d.visit_true_cports, List.filter_filter]
    apply List.filter_congr
    intro c _
    rw [← Bool.decide_and]
    apply decide_eq_decide.mpr
    rw [Descriptor.cportIds_cons, List.mem_append, not_or, and_comm]

theorem manifestRelease_encode {mem : Mem} (malloc : Nat → Bool) {data : List UInt8}
    {ds : List (Descriptor cfg)} (g : ManifestState) (hmem : Holds mem 0 data)
    (hlong : sizeofManifestHeader ≤ data.length) (hsize : data.length < 2 ^ cfg.sizeBits)
    (hds : data.drop sizeofManifestHeader = Descriptor.encode ds) :
    manifestRelease cfg mem malloc data.length g = some (true, visitAll true ds g) := by
  have hbody := hmem.drop hlong
  have hlen := congrArg List.length hds
  rw [List.length_drop] at hlen
  rw [hds, Nat.zero_add] at hbody
  have halloc : AllAllocated malloc true sizeofManifestHeader ds :=
    allAllocated_of_forall fun hr => absurd hr (by decide)
  unfold manifestRelease manifestParseRelease
  rw [if_neg (by decide)]
  unfold parseDescriptors
  rw [Config.sizeSub_eq hlong hsize, hlen]
  exact parseLoop_encode ds g hbody halloc (by omega) (Nat.lt_succ_self _)

/-! ## Parsing and releasing -/

-- What the parser has appended is what the release removes.
theorem filter_registered (ds : List (Descriptor cfg)) {cports : List GbCport}
    (hfree : ∀ c ∈ cports, c.id ∉ Descriptor.cportIds ds) :
    (cports ++ ds.filterMap Descriptor.cport?).filter (fun c => c.id ∉ Descriptor.cportIds ds)
      = cports := by
  have hkept : cports.filter (fun c => c.id ∉ Descriptor.cportIds ds) = cports :=
    List.filter_eq_self.mpr fun c hc => decide_eq_true (hfree c hc)
  have hgone : (ds.filterMap Descriptor.cport?).filter
      (fun c => c.id ∉ Descriptor.cportIds ds) = [] := by
    apply List.filter_eq_nil_iff.mpr
    intro c hc
    have hid : c.id ∈ Descriptor.cportIds ds := List.mem_map_of_mem hc
    simpa using hid
  rw [List.filter_append, hkept, hgone, List.append_nil]

/-- `manifest_parse` and then `manifest_release` on the same bytes, which the parser accepts, leave
the list of CPorts as it was, unless an id of the manifest was in use before. -/
theorem manifestRelease_restores {mem mem' : Mem} {malloc : Nat → Bool} (malloc' : Nat → Bool)
    {data : List UInt8} {g g' : ManifestState} (hmem : Holds mem 0 data)
    (hmem' : Holds mem' 0 data)
    (hparse : manifestParse cfg mem malloc data.length g = some (true, g'))
    (hfree : ∀ c ∈ g.cports, ¬ HasCportId cfg data c.id) :
    ∃ g'', manifestRelease cfg mem' malloc' data.length g' = some (true, g'') ∧
      g''.cports = g.cports := by
  obtain ⟨hvalid, ds, hds, rfl⟩ := manifestParse_accepts hmem hparse
  refine ⟨visitAll true ds (registerAll ds g), ?_, ?_⟩
  · exact manifestRelease_encode malloc' _ hmem' (Nat.le_of_lt hvalid.long)
      (hvalid.drop_length_lt cfg 0) hds
  · rw [visitAll_true_cports, registerAll_cports]
    exact filter_registered ds fun c hc hid => hfree c hc ⟨ds, hds, hid⟩

/-- A manifest with the CPort 1 in two bundles and the CPort 2 between them. -/
def twiceDeclared : List UInt8 :=
  [28, 0, 0, 1] ++ [8, 0, 4, 0, 1, 0, 0, 2] ++ [8, 0, 4, 0, 2, 0, 0, 3] ++ [8, 0, 4, 0, 1, 0, 1, 4]

theorem manifestRelease_restores_twiceDeclared :
    ∃ g' g'', manifestParse .native (ofBuffer twiceDeclared fun _ => none) (fun _ => true)
        twiceDeclared.length { ManifestState.initial with cports := [⟨9, 0, 7⟩] }
          = some (true, g') ∧
      g'.cports = [⟨9, 0, 7⟩, ⟨1, 0, 2⟩, ⟨2, 0, 3⟩, ⟨1, 1, 4⟩] ∧
      manifestRelease .native (ofBuffer twiceDeclared fun _ => none) (fun _ => true)
        twiceDeclared.length g' = some (true, g'') ∧
      g''.cports = [⟨9, 0, 7⟩] := by
  have hsome : (manifestParse .native (ofBuffer twiceDeclared fun _ => none) (fun _ => true)
      twiceDeclared.length { ManifestState.initial with cports := [⟨9, 0, 7⟩] }
        = some (true, { ManifestState.initial with
            cports := [⟨9, 0, 7⟩, ⟨1, 0, 2⟩, ⟨2, 0, 3⟩, ⟨1, 1, 4⟩] })) := by decide +kernel
  have hfree : ∀ c ∈ [(⟨9, 0, 7⟩ : GbCport)], ¬ HasCportId .native twiceDeclared c.id := by
    rintro c hc ⟨ds, hds, hid⟩
    rw [List.mem_singleton] at hc
    subst hc
    have heq : ds = [⟨[8, 0, 4, 0, 1, 0, 0, 2], by decide⟩, ⟨[8, 0, 4, 0, 2, 0, 0, 3], by decide⟩,
        ⟨[8, 0, 4, 0, 1, 0, 1, 4], by decide⟩] := Descriptor.encode_injective hds.symm
    subst heq
    revert hid
    decide
  obtain ⟨g'', hrelease, hcports⟩ := manifestRelease_restores (fun _ => true)
    (holds_ofBuffer _ _) (holds_ofBuffer twiceDeclared fun _ => none) hsome hfree
  exact ⟨_, g'', hsome, rfl, hrelease, hcports⟩

end Greybus
