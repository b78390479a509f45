import Greybus.Manifest.PatchedBlob
import Greybus.Reasoning.Numbering
import Greybus.Reasoning.Transition

/-!
# The ids of a patched manifest

Strings, properties and devices are numbered, each kind on its own, and properties and devices name
strings by their numbers.  `manifest_patch` raises the numbers of a fragment by the recorded maxima,
and then it adds the largest raised number to the maximum that it was raised by.
-/

namespace Greybus

open Reasoning.Memory Reasoning.Numbering Reasoning.Transition

variable {cfg : Config}

/-! ## Ids -/

/-- The kinds of descriptors whose ids are recorded. -/
inductive IdKind where
  | string | property | device
  deriving DecidableEq, Repr

def IdKind.type : IdKind → DescriptorType
  | .string => .string
  | .property => .property
  | .device => .device

/-- The offset of the id in a descriptor. -/
def IdKind.offset : IdKind → Nat
  | .string => 5
  | .property => 5
  | .device => 4

def ManifestState.maxId (g : ManifestState) : IdKind → Nat
  | .string => g.maxStringId
  | .property => g.maxPropertyId
  | .device => g.maxDeviceId

def ManifestState.maxPatchId (g : ManifestState) : IdKind → Nat
  | .string => g.maxPatchStringId
  | .property => g.maxPatchPropertyId
  | .device => g.maxPatchDeviceId

namespace Descriptor

/-- The id of a descriptor of this kind. -/
def id? (k : IdKind) (d : Descriptor cfg) : Option Nat :=
  if d.type = k.type then some (fieldAt d.bytes k.offset).toNat else none

/-- `propname_stringid` or `driver_stringid`. -/
def stringRef? (d : Descriptor cfg) : Option Nat :=
  match d.type with
  | .property => some (fieldAt d.bytes 6).toNat
  | .device => some (fieldAt d.bytes 5).toNat
  | _ => none

/-- The ids of one kind, in order. -/
def ids (k : IdKind) (ds : List (Descriptor cfg)) : List Nat := ds.filterMap (id? k)

@[simp] theorem ids_append (k : IdKind) (ds es : List (Descriptor cfg)) :
    ids k (ds ++ es) = ids k ds ++ ids k es := List.filterMap_append ..

/-- The string reference `r` stands for the string descriptor `e`. -/
def Denotes (ds : List (Descriptor cfg)) (r : Nat) (e : Descriptor cfg) : Prop :=
  ds.filter (fun d => d.id? .string = some r) = [e]

theorem denotes_of_mem {ds : List (Descriptor cfg)} (hnodup : (ids .string ds).Nodup)
    {e : Descriptor cfg} (he : e ∈ ds) {r : Nat} (hr : e.id? .string = some r) :
    Denotes ds r e := filter_eq_singleton hnodup he hr

/-! ## Renumbering -/

theorem toNat_fieldAt_raise {bs : List UInt8} {i n : Nat} (h : i < bs.length) :
    (fieldAt (raise bs i n) i).toNat = ((fieldAt bs i).toNat + n) % 256 := by
  rw [fieldAt_raise_self h, UInt8.toNat_add, UInt8.toNat_ofNat', Nat.add_mod_mod]

theorem renumber_id? (k : IdKind) (g : ManifestState) (d : Descriptor cfg) :
    (d.renumber g).id? k = (d.id? k).map fun i => (i + g.maxId k) % 256 := by
  have hlen : 8 ≤ d.bytes.length := d.wf.length_ge
  simp only [id?, renumber_type]
  by_cases ht : d.type = k.type
  · rw [if_pos ht, if_pos ht, Option.map_some, Option.some.injEq]
    cases k <;>
      simp only [IdKind.type] at ht <;>
      simp only [renumber, renumberedBytes, ht, IdKind.offset, ManifestState.maxId]
    · exact toNat_fieldAt_raise (by omega)
    · rw [fieldAt_raise_ne (by decide)]
      exact toNat_fieldAt_raise (by omega)
    · rw [fieldAt_raise_ne (by decide)]
      exact toNat_fieldAt_raise (by omega)
  · rw [if_neg ht, if_neg ht, Option.map_none]

theorem renumber_stringRef? (g : ManifestState) (d : Descriptor cfg) :
    (d.renumber g).stringRef? = d.stringRef?.map fun r => (r + g.maxStringId) % 256 := by
  have hlen : 8 ≤ d.bytes.length := d.wf.length_ge
  simp only [stringRef?, renumber_type]
  cases ht : d.type <;> simp only [Option.map_none, Option.map_some, Option.some.injEq]
  · have hsix : 6 < (raise d.bytes 5 g.maxPropertyId).length := by rw [raise_length]; omega
    simp only [renumber, renumberedBytes, ht]
    rw [toNat_fieldAt_raise hsix, fieldAt_raise_ne (by decide)]
  · have hfive : 5 < (raise d.bytes 4 g.maxDeviceId).length := by rw [raise_length]; omega
    simp only [renumber, renumberedBytes, ht]
    rw [toNat_fieldAt_raise hfive, fieldAt_raise_ne (by decide)]

-- Every descriptor with an id is appended.
theorem kept_of_id? {k : IdKind} {d : Descriptor cfg} {i : Nat} (h : d.id? k = some i) :
    d.kept = true := by
  obtain ⟨ht, -⟩ := Option.ite_none_right_eq_some.mp h
  cases k <;> simp only [kept, ht, IdKind.type]

theorem ids_patched (k : IdKind) (g : ManifestState) (ds : List (Descriptor cfg)) :
    ids k (patched g ds) = (ids k ds).map fun i => (i + g.maxId k) % 256 := by
  simp only [ids, patched, List.filterMap_map]
  induction ds with
  | nil => rfl
  | cons d ds ih =>
    cases hd : d.id? k with
    | none =>
      rw [List.filterMap_cons_none hd]
      cases hk : d.kept
      · rwa [List.filter_cons_of_neg (by simp [hk])]
      · rwa [List.filter_cons_of_pos hk, List.filterMap_cons_none (by simp [renumber_id?, hd])]
    | some i =>
      have hnew : (id? k ∘ renumber g) d = some ((i + g.maxId k) % 256) := by
        simp [renumber_id?, hd]
      rw [List.filterMap_cons_some hd, List.filter_cons_of_pos (kept_of_id? hd),
        List.filterMap_cons_some hnew, ih, List.map_cons]

/-! ## The recorded maxima -/

theorem register_maxId (k : IdKind) (d : Descriptor cfg) (g : ManifestState) :
    (d.register g).maxId k = (d.id? k).toList.foldl max (g.maxId k) := by
  cases k <;> cases ht : d.type <;>
    simp [register, id?, ht, IdKind.type, IdKind.offset, ManifestState.maxId,
      ManifestState.allocCport]

theorem notePatch_maxPatchId (k : IdKind) (d : Descriptor cfg) (g : ManifestState) :
    (d.notePatch g).maxPatchId k = ((d.renumber g).id? k).toList.foldl max (g.maxPatchId k) := by
  cases k <;> cases ht : d.type <;>
    simp [notePatch, id?, ht, IdKind.type, IdKind.offset, ManifestState.maxPatchId]

theorem notePatch_maxId (k : IdKind) (d : Descriptor cfg) (g : ManifestState) :
    (d.notePatch g).maxId k = g.maxId k := by
  cases k <;> cases ht : d.type <;> simp only [notePatch, ht, ManifestState.maxId]

-- Renumbering reads the recorded maxima, and a fragment is read without changing them.
theorem foldl_notePatch_maxId (k : IdKind) (ds : List (Descriptor cfg)) (g : ManifestState) :
    (ds.foldl (fun g d => d.notePatch g) g).maxId k = g.maxId k := by
  induction ds generalizing g with
  | nil => rfl
  | cons d ds ih => rw [List.foldl_cons, ih, notePatch_maxId]

theorem foldl_notePatch_maxPatchId (k : IdKind) (ds : List (Descriptor cfg)) (g : ManifestState) :
    (ds.foldl (fun g d => d.notePatch g) g).maxPatchId k
      = max (g.maxPatchId k) (largest ((ids k ds).map fun i => (i + g.maxId k) % 256)) := by
  induction ds generalizing g with
  | nil => simp [ids]
  | cons d ds ih =>
    rw [List.foldl_cons, ih, notePatch_maxPatchId, notePatch_maxId, renumber_id?, foldl_max]
    cases hd : d.id? k with
    | none => simp [ids, hd]
    | some i => simp [ids, hd, max_assoc]

end Descriptor

theorem registerAll_maxId (k : IdKind) (ds : List (Descriptor cfg)) (g : ManifestState) :
    (registerAll ds g).maxId k = max (g.maxId k) (largest (Descriptor.ids k ds)) := by
  induction ds generalizing g with
  | nil => simp [registerAll, Descriptor.ids]
  | cons d ds ih =>
    have htail := ih (d.register g)
    simp only [registerAll, List.foldl_cons] at htail ⊢
    rw [htail, d.register_maxId, foldl_max]
    cases hd : d.id? k with
    | none => simp [Descriptor.ids, hd]
    | some i => simp [Descriptor.ids, hd, max_assoc]

/-! ## What one patch does to the ids -/

-- The state that the loop ends with.
theorem patchLoop_state {heap : Heap} (ds : List (Descriptor cfg)) {fuel desc : Nat}
    {s s' : PatchState} (hmem : Holds s.mem desc (Descriptor.encode ds))
    (hsize : (Descriptor.encode ds).length < 2 ^ 32)
    (h : patchLoop cfg heap fuel desc (Descriptor.encode ds).length s = some s') :
    s'.g = ds.foldl (fun g d => d.notePatch g) s.g := by
  induction ds generalizing fuel desc s with
  | nil =>
    cases fuel with
    | zero => simp [patchLoop] at h
    | succ fuel =>
      simp only [patchLoop, Descriptor.encode_nil, List.length_nil, if_true,
        Option.some.injEq] at h
      rw [← h, List.foldl_nil]
  | cons d ds ih =>
    cases fuel with
    | zero => simp [patchLoop] at h
    | succ fuel =>
      rw [Descriptor.encode_cons] at hmem hsize h
      obtain ⟨mem, hrest, hround⟩ := patchLoop_descriptor d hmem hsize
      rw [hround] at h
      simp only [List.length_append] at hsize
      cases hk : d.kept <;> simp only [hk, if_true, if_false, Bool.false_eq_true] at h
      · exact ih hrest (by omega) h
      · split at h
        next => exact ih hrest (by omega) h
        next => simp at h

-- The recorded maximum is not the largest id: it is raised by the largest id that was raised by it.
theorem manifestPatch_maxId {heap : Heap} {fuel : Nat} {mem : Mem} {data blob : List UInt8}
    {ds : List (Descriptor cfg)} {g : ManifestState} {ok : Bool} {s' : PatchState}
    (hmem : Holds mem 0 data) (hblob : 2 ≤ blob.length) (hvalid : HeaderValid data)
    (hds : data.drop sizeofManifestHeader = Descriptor.encode ds)
    (h : manifestPatch cfg heap fuel mem data.length blob g = some (ok, s')) (k : IdKind) :
    s'.g.maxId k
      = cfg.sizeAdd (g.maxId k)
          (largest ((Descriptor.ids k ds).map fun i => (i + g.maxId k) % 256)) := by
  have hlt := hvalid.length_lt
  have hbody := hmem.drop (Nat.le_of_lt hvalid.long)
  have hlen := congrArg List.length hds
  rw [List.length_drop] at hlen
  rw [hds, Nat.zero_add] at hbody
  rw [manifestPatch_valid heap fuel g hmem hblob hvalid, hds] at h
  obtain ⟨t, hloop, heq⟩ := Option.map_eq_some_iff.mp h
  obtain ⟨-, rfl⟩ := Prod.mk.inj heq
  have hstate := patchLoop_state ds (s := ⟨mem, blob, headerSize blob, g.resetPatch⟩) hbody
    (by omega) hloop
  have hmax : g.resetPatch.maxId k = g.maxId k := by cases k <;> rfl
  have hpatch : g.resetPatch.maxPatchId k = 0 := by cases k <;> rfl
  have hadd : (t.g.addPatch cfg).maxId k = cfg.sizeAdd (t.g.maxId k) (t.g.maxPatchId k) := by
    cases k <;> rfl
  rw [hadd, hstate, Descriptor.foldl_notePatch_maxId, Descriptor.foldl_notePatch_maxPatchId, hmax,
    hpatch, Nat.zero_max]

end Greybus
