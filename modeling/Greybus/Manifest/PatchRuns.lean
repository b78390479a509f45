import Greybus.Manifest.Ids

/-!
# Sequences of patches

Fragments are patched into a base manifest one after another.  The ids stay right as long as no kind
of descriptor comes in twice: the first fragment with ids of a kind that has been seen before makes
the recorded maximum larger than every id.
-/

namespace Greybus

open Reasoning.Memory Reasoning.Numbering Reasoning.Transition

variable {cfg : Config}

/-- A fragment of well-formed descriptors. -/
structure Fragment (cfg : Config) where
  data : List UInt8
  descriptors : List (Descriptor cfg)
  valid : HeaderValid data
  body : data.drop sizeofManifestHeader = Descriptor.encode descriptors

/-- A call of `manifest_patch`: the fragment with the memory behind it, the heap it meets, and the
number of rounds. -/
structure Patch (cfg : Config) where
  fragment : Fragment cfg
  after : Nat → Option UInt8
  heap : Heap
  fuel : Nat

/-- The blob and the parsed state between two patches.  `applied` lists the fragments that have been
taken in, each with the state it met. -/
structure PatchedManifest (cfg : Config) where
  blob : List UInt8
  g : ManifestState
  applied : List (ManifestState × List (Descriptor cfg))

def PatchedManifest.ofBase (cfg : Config) (base : List UInt8) (g : ManifestState) :
    PatchedManifest cfg := ⟨base, g, []⟩

/-- One patch that ends and returns true. -/
def applyPatch (s : PatchedManifest cfg) (p : Patch cfg) : Option (PatchedManifest cfg) :=
  (manifestPatch cfg p.heap p.fuel (ofBuffer p.fragment.data p.after) p.fragment.data.length s.blob
    s.g).bind fun res =>
  if res.1 then
    some { blob := res.2.blob, g := res.2.g, applied := s.applied ++ [(s.g, p.fragment.descriptors)] }
  else none

/-- The descriptors of the blob: those of the base and the renumbered ones of the fragments. -/
def PatchedManifest.descriptors (ds : List (Descriptor cfg)) (s : PatchedManifest cfg) :
    List (Descriptor cfg) :=
  ds ++ s.applied.flatMap fun a => Descriptor.patched a.1 a.2

/-- The ids of the blob are right: no kind uses one twice, string references stand for the strings
that they stood for in their fragment, and the recorded maxima are the largest ids. -/
structure KeepsIds (ds : List (Descriptor cfg)) (s : PatchedManifest cfg) : Prop where
  valid : HeaderValid s.blob
  body : s.blob.drop sizeofManifestHeader = Descriptor.encode (s.descriptors ds)
  distinct : ∀ k, (Descriptor.ids k (s.descriptors ds)).Nodup
  references : ∀ a ∈ s.applied, ∀ d ∈ a.2, ∀ r, d.stringRef? = some r →
    ∀ e, Descriptor.Denotes a.2 r e → ∃ r', (d.renumber a.1).stringRef? = some r' ∧
      Descriptor.Denotes (s.descriptors ds) r' (e.renumber a.1)
  maxima : ∀ k, s.g.maxId k = largest (Descriptor.ids k (s.descriptors ds))

/-- The ids of one kind in the base and in the fragments, before any renumbering. -/
def PatchedManifest.groups (ds : List (Descriptor cfg)) (s : PatchedManifest cfg) (k : IdKind) :
    List (List Nat) :=
  Descriptor.ids k ds :: s.applied.map fun a => Descriptor.ids k a.2

/-- Nothing has been renumbered so far, because no kind has come in twice. -/
structure Unshifted (ds : List (Descriptor cfg)) (s : PatchedManifest cfg) : Prop where
  valid : HeaderValid s.blob
  body : s.blob.drop sizeofManifestHeader = Descriptor.encode (s.descriptors ds)
  ids : ∀ k, Descriptor.ids k (s.descriptors ds) = (s.groups ds k).flatten
  once : ∀ k, AtMostOne (s.groups ds k)
  maxima : ∀ k, s.g.maxId k = largest (s.groups ds k).flatten

/-! ## One patch -/

/-- What a patch does when it ends. -/
structure Applied (s : PatchedManifest cfg) (p : Patch cfg) (s' : PatchedManifest cfg) : Prop where
  applied : s'.applied = s.applied ++ [(s.g, p.fragment.descriptors)]
  maxId : ∀ k, s'.g.maxId k = cfg.sizeAdd (s.g.maxId k)
    (largest ((Descriptor.ids k p.fragment.descriptors).map fun i => (i + s.g.maxId k) % 256))
  blob : s.blob.length + Descriptor.keptSize p.fragment.descriptors ≤ 65535 →
    headerSize s'.blob = s'.blob.length ∧
      s'.blob = setHeaderSize s.blob (s.blob.length + Descriptor.keptSize p.fragment.descriptors)
        ++ Descriptor.encode (Descriptor.patched s.g p.fragment.descriptors)

theorem applyPatch_applied {s s' : PatchedManifest cfg} {p : Patch cfg}
    (hvalid : HeaderValid s.blob) (h : applyPatch s p = some s') : Applied s p s' := by
  obtain ⟨⟨ok, t⟩, hrun, hret⟩ := Option.bind_eq_some_iff.mp h
  obtain ⟨-, hs'⟩ := Option.ite_none_right_eq_some.mp hret
  obtain rfl := Option.some.inj hs'
  have hlong : 4 < s.blob.length := hvalid.long
  have hmem := holds_ofBuffer p.fragment.data p.after
  refine ⟨rfl, fun k => ?_, fun hfit => ?_⟩
  · exact manifestPatch_maxId hmem (by omega) p.fragment.valid p.fragment.body hrun k
  · exact (manifestPatch_blob hmem (Nat.le_of_lt hlong) hvalid.size p.fragment.valid
      p.fragment.body (by omega) hrun).2

theorem Applied.descriptors {s s' : PatchedManifest cfg} {p : Patch cfg} (h : Applied s p s')
    (ds : List (Descriptor cfg)) :
    s'.descriptors ds = s.descriptors ds ++ Descriptor.patched s.g p.fragment.descriptors := by
  simp only [PatchedManifest.descriptors, h.applied, List.flatMap_append, List.flatMap_cons,
    List.flatMap_nil, List.append_nil, List.append_assoc]

theorem Applied.groups {s s' : PatchedManifest cfg} {p : Patch cfg} (h : Applied s p s')
    (ds : List (Descriptor cfg)) (k : IdKind) :
    s'.groups ds k = s.groups ds k ++ [Descriptor.ids k p.fragment.descriptors] := by
  simp only [PatchedManifest.groups, h.applied, List.map_append, List.map_cons, List.map_nil,
    List.cons_append]

theorem Config.sizeAdd_of_lt {a b : Nat} (h : a + b < 2 ^ 32) : cfg.sizeAdd a b = a + b :=
  Nat.mod_eq_of_lt (Nat.lt_of_lt_of_le h cfg.two_pow_le)

theorem Descriptor.encode_patched_length (g : ManifestState) (ds : List (Descriptor cfg)) :
    (encode (patched g ds)).length = keptSize ds := by
  have hsize : (fun d : Descriptor cfg => (d.renumber g).bytes.length) = size :=
    funext fun d => d.renumber_size g
  simp only [encode, patched, List.length_flatMap, List.map_map, keptSize, Function.comp_def, hsize]

-- The blob is a manifest with the new descriptors exactly when they fit.
theorem Applied.length_le {s s' : PatchedManifest cfg} {p : Patch cfg} {ds : List (Descriptor cfg)}
    (h : Applied s p s')
    (hbody : s.blob.drop sizeofManifestHeader = Descriptor.encode (s.descriptors ds))
    (hlong : sizeofManifestHeader < s.blob.length) (hvalid : HeaderValid s'.blob)
    (hbody' : s'.blob.drop sizeofManifestHeader = Descriptor.encode (s'.descriptors ds)) :
    s.blob.length + Descriptor.keptSize p.fragment.descriptors ≤ 65535 := by
  have hlen := congrArg List.length hbody
  have hlen' := congrArg List.length hbody'
  have hlong' := hvalid.long
  have hlt := hvalid.length_lt
  rw [h.descriptors, Descriptor.encode_append, List.length_append,
    Descriptor.encode_patched_length] at hlen'
  rw [List.length_drop] at hlen hlen'
  omega

namespace Unshifted

variable {ds : List (Descriptor cfg)} {s s' : PatchedManifest cfg} {p : Patch cfg}

theorem maxId_le (h : Unshifted ds s) (k : IdKind) :
    s.g.maxId k ≤ ((s.groups ds k).map largest).sum := by
  rw [h.maxima]
  exact largest_flatten_le_sum _

-- Within 255 the 8-bit addition is the addition of numbers.
theorem raised (h : Unshifted ds s) {k : IdKind}
    (hsum : ((s.groups ds k).map largest).sum
      + largest (Descriptor.ids k p.fragment.descriptors) ≤ 255) :
    ((Descriptor.ids k p.fragment.descriptors).map fun i => (i + s.g.maxId k) % 256)
      = (Descriptor.ids k p.fragment.descriptors).map (· + s.g.maxId k) := by
  have hmax := h.maxId_le k
  refine List.map_congr_left fun i hi => Nat.mod_eq_of_lt ?_
  have hle := le_largest hi
  omega

-- The first fragment that brings in a kind keeps its ids.
theorem step (h : Unshifted ds s) (ha : Applied s p s')
    (hfit : s.blob.length + Descriptor.keptSize p.fragment.descriptors ≤ 65535)
    (hsum : ∀ k, ((s.groups ds k).map largest).sum
      + largest (Descriptor.ids k p.fragment.descriptors) ≤ 255)
    (honce : ∀ k, (s.groups ds k).flatten = [] ∨ Descriptor.ids k p.fragment.descriptors = []) :
    Unshifted ds s' := by
  have hraised : ∀ k, (Descriptor.ids k p.fragment.descriptors).map (· + s.g.maxId k)
      = Descriptor.ids k p.fragment.descriptors := by
    intro k
    rcases honce k with hempty | hempty
    · rw [h.maxima k, hempty]
      exact List.map_id _
    · rw [hempty, List.map_nil]
  obtain ⟨hsize, hblob⟩ := ha.blob hfit
  obtain ⟨hvalid, hbody⟩ := setHeaderSize_manifest h.valid h.body hblob hsize
  refine ⟨hvalid, by rw [hbody, ha.descriptors], fun k => ?_, fun k => ?_, fun k => ?_⟩
  · rw [ha.descriptors, ha.groups, Descriptor.ids_append, Descriptor.ids_patched,
      h.raised (hsum k), hraised k, h.ids, List.flatten_append, List.flatten_singleton]
  · rw [ha.groups, atMostOne_concat]
    exact ⟨h.once k, honce k⟩
  · have hle := h.maxId_le k
    have hbound := hsum k
    rw [ha.maxId, h.raised (hsum k), hraised k, Config.sizeAdd_of_lt (by omega), ha.groups,
      List.flatten_append, List.flatten_singleton, largest_append, ← h.maxima]
    rcases honce k with hempty | hempty
    · rw [h.maxima k, hempty]
      simp
    · simp [hempty]

-- A second fragment with ids of a kind doubles the maximum that it was raised by.
theorem once_of_maximum (h : Unshifted ds s) (ha : Applied s p s') {k : IdKind}
    (hsum : ((s.groups ds k).map largest).sum
      + largest (Descriptor.ids k p.fragment.descriptors) ≤ 255)
    (hpos : ∀ i ∈ (s.groups ds k).flatten, 1 ≤ i)
    (hmax : s'.g.maxId k = largest (Descriptor.ids k (s'.descriptors ds))) :
    (s.groups ds k).flatten = [] ∨ Descriptor.ids k p.fragment.descriptors = [] := by
  by_cases hempty : Descriptor.ids k p.fragment.descriptors = []
  · exact .inr hempty
  · left
    have hle := h.maxId_le k
    rw [ha.maxId, ha.descriptors, Descriptor.ids_append, Descriptor.ids_patched, h.raised hsum,
      largest_append, h.ids, ← h.maxima, largest_map_add hempty,
      Config.sizeAdd_of_lt (by omega)] at hmax
    rw [← largest_eq_zero hpos, ← h.maxima]
    omega

theorem keepsIds (h : Unshifted ds s)
    (hnodup : ∀ k, ∀ xs ∈ s.groups ds k, xs.Nodup) : KeepsIds ds s := by
  have hdistinct : ∀ k, (Descriptor.ids k (s.descriptors ds)).Nodup := by
    intro k
    rw [h.ids]
    exact (h.once k).nodup_flatten (hnodup k)
  refine ⟨h.valid, h.body, hdistinct, fun a ha d hd r hr e he => ?_, fun k => ?_⟩
  · have hmem : e ∈ a.2.filter fun d => d.id? .string = some r := by rw [he]; exact .head _
    obtain ⟨hin, hid⟩ := List.mem_filter.mp hmem
    have hid' : e.id? .string = some r := by simpa using hid
    refine ⟨(r + a.1.maxStringId) % 256, by rw [Descriptor.renumber_stringRef?, hr]; rfl, ?_⟩
    refine Descriptor.denotes_of_mem (hdistinct .string) ?_
      (by rw [Descriptor.renumber_id?, hid']; rfl)
    refine List.mem_append_right _ (List.mem_flatMap.mpr ⟨a, ha, List.mem_map.mpr ⟨e, ?_, rfl⟩⟩)
    exact List.mem_filter.mpr ⟨hin, Descriptor.kept_of_id? hid'⟩
  · rw [h.ids, h.maxima]

end Unshifted

/-! ## Runs -/

/-- The ids of one kind that the fragments of `patches` bring. -/
def patchGroups (patches : List (Patch cfg)) (k : IdKind) : List (List Nat) :=
  patches.map fun p => Descriptor.ids k p.fragment.descriptors

/-- The bytes that `patches` add. -/
def patchesSize (patches : List (Patch cfg)) : Nat :=
  (patches.map fun p => Descriptor.keptSize p.fragment.descriptors).sum

namespace Unshifted

variable {ds : List (Descriptor cfg)} {s s₁ : PatchedManifest cfg} {p : Patch cfg}
  {patches : List (Patch cfg)}

-- The ids are right after a patch exactly when it fits and brings in no kind again.
theorem keepsIds_step (h : Unshifted ds s) (ha : Applied s p s₁)
    (hnum : ∀ k, ∀ xs ∈ s₁.groups ds k, xs.Nodup ∧ ∀ i ∈ xs, 1 ≤ i)
    (hsum : ∀ k, ((s₁.groups ds k).map largest).sum ≤ 255) :
    KeepsIds ds s₁ ↔
      s.blob.length + Descriptor.keptSize p.fragment.descriptors ≤ 65535 ∧
        ∀ k, (s.groups ds k).flatten = [] ∨ Descriptor.ids k p.fragment.descriptors = [] := by
  have hsum₁ : ∀ k, ((s.groups ds k).map largest).sum
      + largest (Descriptor.ids k p.fragment.descriptors) ≤ 255 := by
    intro k
    simpa only [ha.groups, List.map_append, List.map_cons, List.map_nil, List.sum_append,
      List.sum_cons, List.sum_nil, Nat.add_zero] using hsum k
  constructor
  · intro hkeeps
    refine ⟨ha.length_le h.body h.valid.long hkeeps.valid hkeeps.body, fun k => ?_⟩
    refine h.once_of_maximum ha (hsum₁ k) (fun i hi => ?_) (hkeeps.maxima k)
    obtain ⟨xs, hxs, hixs⟩ := List.mem_flatten.mp hi
    refine (hnum k xs ?_).2 i hixs
    rw [ha.groups]
    exact List.mem_append_left _ hxs
  · rintro ⟨hfit, honce⟩
    exact (h.step ha hfit hsum₁ honce).keepsIds fun k xs hxs => (hnum k xs hxs).1

theorem run_iff {s' : PatchedManifest cfg} (h : Unshifted ds s)
    (hrun : run applyPatch s patches = some s')
    (hnum : ∀ k, ∀ xs ∈ s.groups ds k ++ patchGroups patches k, xs.Nodup ∧ ∀ i ∈ xs, 1 ≤ i)
    (hsum : ∀ k, ((s.groups ds k ++ patchGroups patches k).map largest).sum ≤ 255) :
    Throughout applyPatch (KeepsIds ds) s patches ↔
      s.blob.length + patchesSize patches ≤ 65535 ∧
        ∀ k, AtMostOne (s.groups ds k ++ patchGroups patches k) := by
  have hkeeps : KeepsIds ds s :=
    h.keepsIds fun k xs hxs => (hnum k xs (List.mem_append_left _ hxs)).1
  induction patches generalizing s with
  | nil =>
    have hlt := h.valid.length_lt
    rw [throughout_nil]
    refine iff_of_true hkeeps ⟨?_, fun k => ?_⟩
    · simp only [patchesSize, List.map_nil, List.sum_nil]
      omega
    · simpa [patchGroups] using h.once k
  | cons p patches ih =>
    obtain ⟨s₁, hstep, hrest⟩ := run_cons_eq_some.mp hrun
    have ha := applyPatch_applied h.valid hstep
    have hgroups : ∀ k, s.groups ds k ++ patchGroups (p :: patches) k
        = s₁.groups ds k ++ patchGroups patches k := by
      intro k
      rw [ha.groups, List.append_assoc]
      rfl
    simp only [hgroups] at hnum hsum ⊢
    have hone := h.keepsIds_step ha (fun k xs hxs => hnum k xs (List.mem_append_left _ hxs))
      fun k => by
        have hk := hsum k
        rw [List.map_append, List.sum_append] at hk
        omega
    have hsize : s.blob.length + patchesSize (p :: patches)
        = s.blob.length + Descriptor.keptSize p.fragment.descriptors + patchesSize patches := by
      simp [patchesSize, Nat.add_assoc]
    rw [throughout_cons hstep, hsize]
    by_cases hgood : KeepsIds ds s₁
    · obtain ⟨hfit, honce⟩ := hone.mp hgood
      have hblob := congrArg List.length (ha.blob hfit).2
      rw [List.length_append, setHeaderSize_length, Descriptor.encode_patched_length] at hblob
      have h₁ : Unshifted ds s₁ := by
        refine h.step ha hfit (fun k => ?_) honce
        have hk := hsum k
        simp only [ha.groups, List.map_append, List.map_cons, List.map_nil, List.sum_append,
          List.sum_cons, List.sum_nil] at hk
        omega
      rw [and_iff_right hkeeps, ← hblob]
      exact ih h₁ hrest hnum hsum hgood
    · refine iff_of_false (fun hall => hgood (throughout_now hall.2)) ?_
      rintro ⟨hfits, honces⟩
      refine hgood (hone.mpr ⟨by omega, fun k => ?_⟩)
      have hk := (honces k).sublist (List.sublist_append_left _ _)
      rw [ha.groups] at hk
      exact (atMostOne_concat.mp hk).2

end Unshifted

-- The initial parse records the largest ids of the base.
theorem unshifted_base {base : List UInt8} {ds : List (Descriptor cfg)} (hvalid : HeaderValid base)
    (hds : base.drop sizeofManifestHeader = Descriptor.encode ds) :
    Unshifted ds (.ofBase cfg base (registerAll ds .initial)) := by
  have hmax : ∀ k, ManifestState.initial.maxId k = 0 := fun k => by cases k <;> rfl
  have hdescriptors : (PatchedManifest.ofBase cfg base (registerAll ds .initial)).descriptors ds
      = ds := List.append_nil _
  refine ⟨hvalid, by rw [hdescriptors]; exact hds, fun k => ?_, fun k => ?_, fun k => ?_⟩
  · rw [hdescriptors]
    exact (List.flatten_singleton ..).symm
  · exact List.pairwise_singleton ..
  · exact (registerAll_maxId k ds .initial).trans (by simp [hmax, PatchedManifest.groups,
      PatchedManifest.ofBase])

/-- The ids of one kind in the base and in the fragments of `patches`. -/
def idGroups (ds : List (Descriptor cfg)) (patches : List (Patch cfg)) (k : IdKind) :
    List (List Nat) := Descriptor.ids k ds :: patchGroups patches k

/-- Fragments are patched into an accepted base one after another.  After every patch the ids are
right exactly when everything fits and of the base and the fragments at most one has ids of each
kind. -/
theorem run_keepsIds_iff {base : List UInt8} {after : Nat → Option UInt8} {malloc : Nat → Bool}
    {ds : List (Descriptor cfg)} {g : ManifestState} {patches : List (Patch cfg)}
    {s : PatchedManifest cfg}
    (hbase : manifestParse cfg (ofBuffer base after) malloc base.length .initial = some (true, g))
    (hds : base.drop sizeofManifestHeader = Descriptor.encode ds)
    (hnum : ∀ k, ∀ xs ∈ idGroups ds patches k, xs.Nodup ∧ ∀ i ∈ xs, 1 ≤ i)
    (hsum : ∀ k, ((idGroups ds patches k).map largest).sum ≤ 255)
    (hrun : run applyPatch (.ofBase cfg base g) patches = some s) :
    Throughout applyPatch (KeepsIds ds) (.ofBase cfg base g) patches ↔
      base.length + patchesSize patches ≤ 65535 ∧ ∀ k, AtMostOne (idGroups ds patches k) := by
  obtain ⟨hvalid, rfl⟩ := manifestParse_registers (holds_ofBuffer _ _) hds hbase
  exact (unshifted_base hvalid hds).run_iff hrun hnum hsum

/-- A string descriptor of two characters with this id. -/
def sampleString (id : UInt8) (h : WellFormed .native [8, 0, 2, 0, 2, id, 0x61, 0x62]) :
    Descriptor .native := ⟨_, h⟩

/-- A patch of this fragment with room for everything. -/
def samplePatch (fragment : Fragment .native) : Patch .native where
  fragment := fragment
  after := fun _ => none
  heap := ⟨fun _ => true, fun _ => 0⟩
  fuel := 3

/-- A CPORT descriptor. -/
def sampleCport : Descriptor .native := ⟨[8, 0, 4, 0, 1, 0, 1, 3], by decide⟩

/-- A string and the property that it names. -/
def namedProperty : Fragment .native where
  data := [24, 0, 0, 1, 8, 0, 2, 0, 2, 1, 0x61, 0x62, 12, 0, 6, 0, 1, 1, 1, 2, 5, 0, 0, 0]
  descriptors := [sampleString 1 (by decide), sampleProperty]
  valid := ⟨by decide, by decide, by decide⟩
  body := by decide

-- A base without strings takes in one fragment with them.
theorem run_keepsIds_iff_named :
    ∃ g s, manifestParse .native (ofBuffer ([12, 0, 0, 1] ++ sampleCport.bytes) fun _ => none)
        (fun _ => true) 12 .initial = some (true, g) ∧
      run applyPatch (.ofBase .native ([12, 0, 0, 1] ++ sampleCport.bytes) g)
        [samplePatch namedProperty] = some s ∧
      Throughout applyPatch (KeepsIds [sampleCport])
        (.ofBase .native ([12, 0, 0, 1] ++ sampleCport.bytes) g) [samplePatch namedProperty] := by
  have hbase : manifestParse .native (ofBuffer ([12, 0, 0, 1] ++ sampleCport.bytes) fun _ => none)
      (fun _ => true) ([12, 0, 0, 1] ++ sampleCport.bytes).length .initial
      = some (true, { ManifestState.initial with cports := [⟨1, 1, 3⟩] }) := by
    decide +kernel
  have hrun : (run applyPatch (.ofBase .native ([12, 0, 0, 1] ++ sampleCport.bytes)
      { ManifestState.initial with cports := [⟨1, 1, 3⟩] })
      [samplePatch namedProperty]).isSome := by decide +kernel
  have hstrings : idGroups [sampleCport] [samplePatch namedProperty] .string = [[], [1]] := by
    decide
  have hproperties : idGroups [sampleCport] [samplePatch namedProperty] .property = [[], [1]] := by
    decide
  have hdevices : idGroups [sampleCport] [samplePatch namedProperty] .device = [[], []] := by
    decide
  refine ⟨_, _, hbase, (Option.some_get hrun).symm, ?_⟩
  refine (run_keepsIds_iff hbase (by decide) ?_ ?_ (Option.some_get hrun).symm).mpr
    ⟨by decide, ?_⟩ <;>
  · intro k
    cases k <;> simp [AtMostOne, hstrings, hproperties, hdevices]

/-- A fragment of one string with this id. -/
def stringFragment (id : UInt8) (h : WellFormed .native [8, 0, 2, 0, 2, id, 0x61, 0x62]) :
    Fragment .native where
  data := [12, 0, 0, 1, 8, 0, 2, 0, 2, id, 0x61, 0x62]
  descriptors := [sampleString id h]
  valid := ⟨by simp [sizeofManifestHeader], rfl, by simp [fieldAt, greybusVersionMajor]⟩
  body := rfl

/-- A base with the strings 99 and 100, a fragment with string 1, and one with string 154. -/
def collidingBase : List (Descriptor .native) :=
  [sampleString 99 (by decide), sampleString 100 (by decide)]

def collidingPatches : List (Patch .native) :=
  [samplePatch (stringFragment 1 (by decide)), samplePatch (stringFragment 154 (by decide))]

-- The second fragment is raised by 201 instead of 101: its string 154 becomes 99 again.
theorem run_keepsIds_collision :
    ∃ g s, manifestParse .native (ofBuffer ([20, 0, 0, 1] ++ Descriptor.encode collidingBase)
        fun _ => none) (fun _ => true) 20 .initial = some (true, g) ∧
      (∀ k, ∀ xs ∈ idGroups collidingBase collidingPatches k, xs.Nodup ∧ ∀ i ∈ xs, 1 ≤ i) ∧
      (∀ k, ((idGroups collidingBase collidingPatches k).map largest).sum ≤ 255) ∧
      run applyPatch (.ofBase .native ([20, 0, 0, 1] ++ Descriptor.encode collidingBase) g)
        collidingPatches = some s ∧
      Descriptor.ids .string (s.descriptors collidingBase) = [99, 100, 101, 99] ∧
      ¬ KeepsIds collidingBase s := by
  have hbase : manifestParse .native (ofBuffer ([20, 0, 0, 1] ++ Descriptor.encode collidingBase)
      fun _ => none) (fun _ => true) 20 .initial
      = some (true, { ManifestState.initial with maxStringId := 100 }) := by decide +kernel
  obtain ⟨s, hrun⟩ := Option.isSome_iff_exists.mp (show (run applyPatch
    (.ofBase .native ([20, 0, 0, 1] ++ Descriptor.encode collidingBase)
      { ManifestState.initial with maxStringId := 100 }) collidingPatches).isSome by decide +kernel)
  have hids : (run applyPatch (.ofBase .native ([20, 0, 0, 1] ++ Descriptor.encode collidingBase)
      { ManifestState.initial with maxStringId := 100 }) collidingPatches).map
        (fun s => Descriptor.ids .string (s.descriptors collidingBase))
      = some [99, 100, 101, 99] := by decide +kernel
  rw [hrun, Option.map_some, Option.some.injEq] at hids
  have hstrings : idGroups collidingBase collidingPatches .string = [[99, 100], [1], [154]] := by
    decide
  have hproperties : idGroups collidingBase collidingPatches .property = [[], [], []] := by decide
  have hdevices : idGroups collidingBase collidingPatches .device = [[], [], []] := by decide
  refine ⟨_, s, hbase, fun k => ?_, fun k => ?_, hrun, hids, fun hkeeps => ?_⟩
  · cases k <;> simp [hstrings, hproperties, hdevices]
  · cases k <;> simp [hstrings, hproperties, hdevices, largest]
  · have hnodup := hkeeps.distinct .string
    rw [hids] at hnodup
    exact absurd hnodup (by decide)

end Greybus
