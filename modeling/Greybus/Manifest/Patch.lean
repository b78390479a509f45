import Greybus.Manifest.Parse

/-!
# Patching a manifest

`manifest_patch` renumbers the descriptors of a fragment in place and appends those that describe
strings, properties, devices and mikroBUS pins to the base blob.
-/

namespace Greybus

open Reasoning.Memory

/-! ## The code -/

/-- `*p += n` on a byte, with the value that is then stored. -/
def addToByte (mem : Mem) (p n : Nat) : Option (Mem × UInt8) :=
  (mem p).bind fun b => (store8 mem p (b + UInt8.ofNat n)).map fun mem => (mem, b + UInt8.ofNat n)

/-- The size checks that end `identify_patch_descriptor`; a skipped size is returned negated. -/
def checkPatchSize (descSize expectedSize : Nat) (skip : Bool) (mem : Mem) (g : ManifestState) :
    Int × Mem × ManifestState :=
  if descSize < expectedSize then (-EINVAL, mem, g)
  else if skip then (-(descSize : Int), mem, g)
  else (descSize, mem, g)

def identifyPatchDescriptor (cfg : Config) (mem : Mem) (desc size : Nat) (g : ManifestState) :
    Option (Int × Mem × ManifestState) :=
  if size < sizeofDescriptorHeader then some (-EINVAL, mem, g)
  else
    (load16 mem desc).bind fun descSize =>
    if descSize > size then some (-EINVAL, mem, g)
    else
      (mem (desc + 2)).bind fun type =>
      let expectedSize :=
        sizeofDescriptorHeader + (DescriptorType.ofByte type).sizeofBody
      match DescriptorType.ofByte type with
      | .string =>
        (mem (desc + 4)).bind fun length =>
        (addToByte mem (desc + 5) g.maxStringId).map fun (mem, id) =>
        checkPatchSize descSize (align (expectedSize + length.toNat)) false mem
          { g with maxPatchStringId := max g.maxPatchStringId id.toNat }
      | .interface => some (checkPatchSize descSize expectedSize true mem g)
      | .bundle => some (checkPatchSize descSize expectedSize true mem g)
      | .cport => some (checkPatchSize descSize expectedSize true mem g)
      | .property =>
        (mem (desc + 4)).bind fun length =>
        (addToByte mem (desc + 5) g.maxPropertyId).bind fun (mem, id) =>
        (addToByte mem (desc + 6) g.maxStringId).map fun (mem, _) =>
        checkPatchSize descSize (align (expectedSize + length.toNat)) false mem
          { g with maxPatchPropertyId := max g.maxPatchPropertyId id.toNat }
      | .device =>
        (addToByte mem (desc + 4) g.maxDeviceId).bind fun (mem, id) =>
        (addToByte mem (desc + 5) g.maxStringId).map fun (mem, _) =>
        checkPatchSize descSize expectedSize false mem
          { g with maxPatchDeviceId := max g.maxPatchDeviceId id.toNat }
      | .mikrobus =>
        if cfg.mikrobus then some (checkPatchSize descSize expectedSize false mem g)
        else some (-EINVAL, mem, g)
      | .invalid => some (-EINVAL, mem, g)

/-- The heap that `manifest_patch` meets: the sizes that `realloc` can provide, and the bytes of
memory that nothing was stored to. -/
structure Heap where
  realloc : Nat → Bool
  junk : Nat → UInt8

/-- The block of `size` bytes that `realloc` returns. -/
def Heap.resize (heap : Heap) (blob : List UInt8) (size : Nat) : List UInt8 :=
  (List.range size).map fun i => blob.getD i (heap.junk i)

/-- `header->size = size`. -/
def setHeaderSize (blob : List UInt8) (size : Nat) : List UInt8 :=
  (blob.set 0 (UInt8.ofNat size)).set 1 (UInt8.ofNat (size / 256))

/-- The variables of the loop in `manifest_patch`. -/
structure PatchState where
  mem : Mem
  blob : List UInt8
  manifestSize : Nat
  g : ManifestState

/-- The new blob and sizes once `realloc` has returned a block for `bytes`. -/
def PatchState.append (heap : Heap) (bytes : List UInt8) (s : PatchState) : PatchState :=
  let blob :=
    (heap.resize s.blob (s.manifestSize + bytes.length)).take s.manifestSize ++ bytes
  { s with
    blob := setHeaderSize blob ((headerSize blob + bytes.length) % 2 ^ 16)
    manifestSize := (s.manifestSize + bytes.length) % 2 ^ 16 }

/-- The branch of the loop that appends a descriptor: `realloc`, `memcpy` and the size updates.
Without memory the copy goes to an address near 0, which is `none`. -/
def appendDescriptor (heap : Heap) (desc descSize : Nat) (s : PatchState) : Option PatchState :=
  if heap.realloc (s.manifestSize + descSize) then
    (loadN s.mem desc descSize).map fun bytes => s.append heap bytes
  else none

/-- At most `fuel` rounds of the loop in `manifest_patch`. -/
def patchLoop (cfg : Config) (heap : Heap) : Nat → Nat → Nat → PatchState → Option PatchState
  | 0, _, _, _ => none
  | fuel + 1, desc, size, s =>
    if size = 0 then some s
    else
      (identifyPatchDescriptor cfg s.mem desc size s.g).bind fun (descSize, mem, g) =>
      if descSize ≤ 0 then
        patchLoop cfg heap fuel (desc + (-descSize).toNat) (cfg.sizeSub size (-descSize).toNat)
          { s with mem, g }
      else
        (appendDescriptor heap desc descSize.toNat { s with mem, g }).bind fun s =>
        patchLoop cfg heap fuel (desc + descSize.toNat) (cfg.sizeSub size descSize.toNat) s

/-- The maxima of the patch before its first descriptor. -/
def ManifestState.resetPatch (g : ManifestState) : ManifestState :=
  { g with
    maxPatchPropertyId := 0
    maxPatchDeviceId := 0
    maxPatchStringId := 0 }

/-- The maxima of the patch are added to the recorded ones. -/
def ManifestState.addPatch (cfg : Config) (g : ManifestState) : ManifestState :=
  { g with
    maxPropertyId := cfg.sizeAdd g.maxPropertyId g.maxPatchPropertyId
    maxDeviceId := cfg.sizeAdd g.maxDeviceId g.maxPatchDeviceId
    maxStringId := cfg.sizeAdd g.maxStringId g.maxPatchStringId }

/-- `manifest_patch` on the fragment at address 0; the blob is a block of its own. -/
def manifestPatch (cfg : Config) (heap : Heap) (fuel : Nat) (mem : Mem) (size : Nat)
    (blob : List UInt8) (g : ManifestState) : Option (Bool × PatchState) :=
  if blob.length < 2 then none
  else
    let s : PatchState := { mem, blob, manifestSize := headerSize blob, g }
    if size ≤ sizeofManifestHeader then some (false, s)
    else
      (load16 mem 0).bind fun fragmentSize =>
      if fragmentSize ≠ size then some (false, s)
      else
        (mem 2).bind fun versionMajor =>
        if versionMajor > greybusVersionMajor then some (false, s)
        else
          (patchLoop cfg heap fuel sizeofManifestHeader (cfg.sizeSub size sizeofManifestHeader)
            { s with g := g.resetPatch }).map fun s => (true, { s with g := s.g.addPatch cfg })

/-! ## Renumbering -/

/-- The byte at offset `i` raised by `n` modulo 256. -/
def raise (bs : List UInt8) (i n : Nat) : List UInt8 :=
  bs.set i (fieldAt bs i + UInt8.ofNat n)

@[simp] theorem raise_length (bs : List UInt8) (i n : Nat) : (raise bs i n).length = bs.length := by
  simp [raise]

theorem fieldAt_raise_ne {bs : List UInt8} {i j n : Nat} (h : i ≠ j) :
    fieldAt (raise bs i n) j = fieldAt bs j := by
  simp only [fieldAt, raise, List.getD_eq_getElem?_getD, List.getElem?_set_ne h]

theorem fieldAt_raise_self {bs : List UInt8} {i n : Nat} (h : i < bs.length) :
    fieldAt (raise bs i n) i = fieldAt bs i + UInt8.ofNat n := by
  simp [fieldAt, raise, List.getD_eq_getElem?_getD, h]

-- Raising a byte that the checks do not read keeps a descriptor well formed.
theorem WellFormed.raise {cfg : Config} {bs : List UInt8} {i : Nat} (h : WellFormed cfg bs)
    (hi : 5 ≤ i ∨ (4 ≤ i ∧ typeOf bs = .device)) (n : Nat) : WellFormed cfg (raise bs i n) := by
  obtain ⟨hdecl, m, hmin, hle⟩ := h
  have hsize : declaredSize (Greybus.raise bs i n) = declaredSize bs := by
    simp only [declaredSize, fieldAt_raise_ne (show i ≠ 0 by omega),
      fieldAt_raise_ne (show i ≠ 1 by omega)]
  have htype : typeOf (Greybus.raise bs i n) = typeOf bs := by
    simp only [typeOf, fieldAt_raise_ne (show i ≠ 2 by omega)]
  refine ⟨by rw [hsize, hdecl, raise_length], m, ?_, by rwa [raise_length]⟩
  rw [← hmin]
  rcases hi with hi | ⟨-, hdev⟩
  · simp only [minimumSize, htype, fieldAt_raise_ne (show i ≠ 4 by omega)]
  · simp only [minimumSize, htype, hdev]

namespace Descriptor

variable {cfg : Config}

/-- The types that `manifest_patch` appends. -/
def kept (d : Descriptor cfg) : Bool :=
  match d.type with
  | .interface | .bundle | .cport => false
  | _ => true

/-- The bytes of `d` with its id and its string references raised by the recorded maxima. -/
def renumberedBytes (g : ManifestState) (d : Descriptor cfg) : List UInt8 :=
  match d.type with
  | .string => raise d.bytes 5 g.maxStringId
  | .property => raise (raise d.bytes 5 g.maxPropertyId) 6 g.maxStringId
  | .device => raise (raise d.bytes 4 g.maxDeviceId) 5 g.maxStringId
  | _ => d.bytes

theorem renumberedBytes_wf (g : ManifestState) (d : Descriptor cfg) :
    WellFormed cfg (d.renumberedBytes g) := by
  unfold renumberedBytes
  split
  next => exact d.wf.raise (.inl (by decide)) _
  next => exact (d.wf.raise (.inl (by decide)) _).raise (.inl (by decide)) _
  next ht => exact (d.wf.raise (.inr ⟨by decide, ht⟩) _).raise (.inl (by decide)) _
  next => exact d.wf

/-- The descriptor as it is after `identify_patch_descriptor`. -/
def renumber (g : ManifestState) (d : Descriptor cfg) : Descriptor cfg :=
  ⟨d.renumberedBytes g, d.renumberedBytes_wf g⟩

@[simp] theorem renumber_size (g : ManifestState) (d : Descriptor cfg) :
    (d.renumber g).size = d.size := by
  simp only [size, renumber, renumberedBytes]
  split <;> simp

@[simp] theorem renumber_type (g : ManifestState) (d : Descriptor cfg) :
    (d.renumber g).type = d.type := by
  simp only [type, typeOf, renumber, renumberedBytes]
  split <;> simp [fieldAt_raise_ne]

/-- What `identify_patch_descriptor` changes in the state. -/
def notePatch (d : Descriptor cfg) (g : ManifestState) : ManifestState :=
  match d.type with
  | .string =>
    { g with
      maxPatchStringId := max g.maxPatchStringId (fieldAt (d.renumber g).bytes 5).toNat }
  | .property =>
    { g with
      maxPatchPropertyId := max g.maxPatchPropertyId (fieldAt (d.renumber g).bytes 5).toNat }
  | .device =>
    { g with
      maxPatchDeviceId := max g.maxPatchDeviceId (fieldAt (d.renumber g).bytes 4).toNat }
  | _ => g

-- The recorded maxima stay as they are while a fragment is read.
theorem renumber_notePatch (d e : Descriptor cfg) (g : ManifestState) :
    e.renumber (d.notePatch g) = e.renumber g := by
  cases hd : d.type <;> simp only [renumber, renumberedBytes, notePatch, hd]

/-- The descriptors that a fragment adds to the base, as they are appended. -/
def patched (g : ManifestState) (ds : List (Descriptor cfg)) : List (Descriptor cfg) :=
  (ds.filter kept).map (renumber g)

/-- The bytes that a fragment adds to the base. -/
def keptSize (ds : List (Descriptor cfg)) : Nat := ((ds.filter kept).map size).sum

end Descriptor

/-! ## One descriptor -/

theorem addToByte_holds {mem : Mem} {desc i : Nat} {bs : List UInt8} (h : Holds mem desc bs)
    (hi : i < bs.length) (n : Nat) :
    ∃ mem', addToByte mem (desc + i) n = some (mem', fieldAt (raise bs i n) i) ∧
      Holds mem' desc (raise bs i n) ∧ ∀ a, desc + bs.length ≤ a → mem' a = mem a := by
  refine ⟨_, ?_, h.update hi (fieldAt bs i + UInt8.ofNat n), fun a ha => ?_⟩
  · rw [addToByte, h.load8 hi, Option.bind_some, h.store8 hi, fieldAt_raise_self hi]
    rfl
  · exact Function.update_of_ne (by omega) _ _

theorem checkPatchSize_of_le {descSize expectedSize : Nat} (skip : Bool) (mem : Mem)
    (g : ManifestState) (h : expectedSize ≤ descSize) :
    checkPatchSize descSize expectedSize skip mem g
      = (if skip then -(descSize : Int) else descSize, mem, g) := by
  rw [checkPatchSize, if_neg (by omega)]
  cases skip <;> rfl

-- A well-formed descriptor in memory is renumbered in place, noted and consumed whole.
theorem identifyPatchDescriptor_descriptor {cfg : Config} {mem : Mem} {desc size : Nat}
    (d : Descriptor cfg) (g : ManifestState) (hmem : Holds mem desc d.bytes)
    (hsize : d.size ≤ size) :
    ∃ mem', identifyPatchDescriptor cfg mem desc size g
        = some (if d.kept then (d.size : Int) else -d.size, mem', d.notePatch g) ∧
      Holds mem' desc (d.renumber g).bytes ∧ ∀ a, desc + d.size ≤ a → mem' a = mem a := by
  have hlen : 8 ≤ d.size := d.wf.length_ge
  obtain ⟨hdecl, m, hmin, hle⟩ := d.wf
  have hheader : load16 mem desc = some d.size :=
    (load16_header hmem (Nat.le_trans (by decide) hlen)).trans (congrArg some hdecl)
  have hsecond : mem (desc + 2) = some (fieldAt d.bytes 2) :=
    hmem.load8 (Nat.lt_of_lt_of_le (by decide) hlen)
  have hlength : mem (desc + 4) = some (fieldAt d.bytes 4) :=
    hmem.load8 (Nat.lt_of_lt_of_le (by decide) hlen)
  have htype : DescriptorType.ofByte (fieldAt d.bytes 2) = d.type := rfl
  have hnot : ¬ size < sizeofDescriptorHeader := by simp only [sizeofDescriptorHeader]; omega
  change m ≤ d.size at hle
  simp only [minimumSize, show typeOf d.bytes = d.type from rfl] at hmin
  simp only [identifyPatchDescriptor, if_neg hnot, hheader, Option.bind_some,
    if_neg (Nat.not_lt.mpr hsize), hsecond, htype]
  cases ht : d.type <;>
    simp only [ht, Option.some.injEq, Option.ite_none_right_eq_some, reduceCtorEq] at hmin
  case string =>
    subst hmin
    obtain ⟨mem₁, hadd, hheld, hframe⟩ :=
      addToByte_holds hmem (Nat.lt_of_lt_of_le (show 5 < 8 by decide) hlen) g.maxStringId
    have hren : (d.renumber g).bytes = raise d.bytes 5 g.maxStringId := by
      simp only [Descriptor.renumber, Descriptor.renumberedBytes, ht]
    refine ⟨mem₁, ?_, hren ▸ hheld, hframe⟩
    simp only [hlength, hadd, hren, Option.bind_some, Option.map_some,
      checkPatchSize_of_le _ _ _ hle, Descriptor.kept, Descriptor.notePatch, ht]
    rfl
  case property =>
    subst hmin
    obtain ⟨mem₁, hadd₁, hheld₁, hframe₁⟩ :=
      addToByte_holds hmem (Nat.lt_of_lt_of_le (show 5 < 8 by decide) hlen) g.maxPropertyId
    obtain ⟨mem₂, hadd₂, hheld₂, hframe₂⟩ := addToByte_holds hheld₁
      (i := 6) (by rw [raise_length]; exact Nat.lt_of_lt_of_le (by decide) hlen) g.maxStringId
    have hren : (d.renumber g).bytes
        = raise (raise d.bytes 5 g.maxPropertyId) 6 g.maxStringId := by
      simp only [Descriptor.renumber, Descriptor.renumberedBytes, ht]
    refine ⟨mem₂, ?_, hren ▸ hheld₂, fun a ha => ?_⟩
    · simp only [hlength, hadd₁, hadd₂, hren, Option.bind_some, Option.map_some,
        checkPatchSize_of_le _ _ _ hle, fieldAt_raise_ne (show 6 ≠ 5 by decide),
        Descriptor.kept, Descriptor.notePatch, ht]
      rfl
    · rw [hframe₂ a (by rwa [raise_length]), hframe₁ a ha]
  case device =>
    subst hmin
    obtain ⟨mem₁, hadd₁, hheld₁, hframe₁⟩ :=
      addToByte_holds hmem (Nat.lt_of_lt_of_le (show 4 < 8 by decide) hlen) g.maxDeviceId
    obtain ⟨mem₂, hadd₂, hheld₂, hframe₂⟩ := addToByte_holds hheld₁
      (i := 5) (by rw [raise_length]; exact Nat.lt_of_lt_of_le (by decide) hlen) g.maxStringId
    have hren : (d.renumber g).bytes
        = raise (raise d.bytes 4 g.maxDeviceId) 5 g.maxStringId := by
      simp only [Descriptor.renumber, Descriptor.renumberedBytes, ht]
    refine ⟨mem₂, ?_, hren ▸ hheld₂, fun a ha => ?_⟩
    · simp only [hadd₁, hadd₂, hren, Option.bind_some, Option.map_some,
        checkPatchSize_of_le _ _ _ hle, fieldAt_raise_ne (show 5 ≠ 4 by decide),
        Descriptor.kept, Descriptor.notePatch, ht]
      rfl
    · rw [hframe₂ a (by rwa [raise_length]), hframe₁ a ha]
  case mikrobus =>
    obtain ⟨hcfg, rfl⟩ := hmin
    have hren : (d.renumber g).bytes = d.bytes := by
      simp only [Descriptor.renumber, Descriptor.renumberedBytes, ht]
    refine ⟨mem, ?_, hren ▸ hmem, fun _ _ => rfl⟩
    simp only [hcfg, if_true, checkPatchSize_of_le _ _ _ hle, Descriptor.kept,
      Descriptor.notePatch, ht]
    rfl
  all_goals
    subst hmin
    have hren : (d.renumber g).bytes = d.bytes := by
      simp only [Descriptor.renumber, Descriptor.renumberedBytes, ht]
    refine ⟨mem, ?_, hren ▸ hmem, fun _ _ => rfl⟩
    simp only [checkPatchSize_of_le _ _ _ hle, Descriptor.kept, Descriptor.notePatch, ht]
    rfl

/-! ## The loop -/

/-- Every `realloc` that these descriptors cause, from a blob of `n` bytes on, finds memory. -/
def ReallocsSucceed {cfg : Config} (heap : Heap) : Nat → List (Descriptor cfg) → Prop
  | _, [] => True
  | n, d :: ds =>
    if d.kept then heap.realloc (n + d.size) = true ∧ ReallocsSucceed heap (n + d.size) ds
    else ReallocsSucceed heap n ds

-- One round of the loop on a well-formed descriptor.
theorem patchLoop_descriptor {cfg : Config} {heap : Heap} {fuel desc : Nat} {s : PatchState}
    (d : Descriptor cfg) {rest : List UInt8} (hmem : Holds s.mem desc (d.bytes ++ rest))
    (hsize : (d.bytes ++ rest).length < 2 ^ 32) :
    ∃ mem, Holds mem (desc + d.size) rest ∧
      patchLoop cfg heap (fuel + 1) desc (d.bytes ++ rest).length s =
        if d.kept then
          if heap.realloc (s.manifestSize + d.size) then
            patchLoop cfg heap fuel (desc + d.size) rest.length
              (PatchState.append heap (d.renumber s.g).bytes { s with mem, g := d.notePatch s.g })
          else none
        else
          patchLoop cfg heap fuel (desc + d.size) rest.length
            { s with mem, g := d.notePatch s.g } := by
  obtain ⟨hd, hrest⟩ := holds_append.mp hmem
  have hpos := d.size_pos
  simp only [List.length_append, show d.bytes.length = d.size from rfl] at hsize hrest ⊢
  obtain ⟨mem, hid, hheld, hframe⟩ :=
    identifyPatchDescriptor_descriptor d s.g hd (Nat.le_add_right d.size rest.length)
  have hsub : cfg.sizeSub (d.size + rest.length) d.size = rest.length := by
    rw [Config.sizeSub_of_le (by omega) hsize, Nat.add_sub_cancel_left]
  refine ⟨mem, hrest.congr fun i _ => hframe _ (by omega), ?_⟩
  rw [patchLoop, if_neg (by omega), hid, Option.bind_some]
  cases hk : d.kept
  · simp only [Bool.false_eq_true, if_false]
    rw [if_pos (by omega), Int.neg_neg, Int.toNat_natCast, hsub]
  · simp only [if_true]
    rw [if_neg (by omega), Int.toNat_natCast, hsub, appendDescriptor]
    have hload := hheld.loadN
    rw [show (d.renumber s.g).bytes.length = d.size from d.renumber_size s.g] at hload
    split
    · rw [hload]
      rfl
    · rfl

theorem PatchState.append_manifestSize {heap : Heap} {bytes : List UInt8} {s : PatchState}
    (h : s.manifestSize + bytes.length < 2 ^ 16) :
    (s.append heap bytes).manifestSize = s.manifestSize + bytes.length :=
  Nat.mod_eq_of_lt h

theorem Descriptor.keptSize_cons {cfg : Config} (d : Descriptor cfg) (ds : List (Descriptor cfg)) :
    keptSize (d :: ds) = (if d.kept then d.size else 0) + keptSize ds := by
  cases hk : d.kept <;> simp [keptSize, hk]

-- The loop gets through a sequence of descriptors that fits exactly when every `realloc` does.
theorem patchLoop_returns {cfg : Config} {heap : Heap} (ds : List (Descriptor cfg))
    {fuel desc : Nat} {s : PatchState} (hmem : Holds s.mem desc (Descriptor.encode ds))
    (hsize : (Descriptor.encode ds).length < 2 ^ 32)
    (hfit : s.manifestSize + Descriptor.keptSize ds < 2 ^ 16) (hfuel : ds.length < fuel) :
    (patchLoop cfg heap fuel desc (Descriptor.encode ds).length s).isSome
      ↔ ReallocsSucceed heap s.manifestSize ds := by
  induction ds generalizing fuel desc s with
  | nil =>
    obtain ⟨fuel, rfl⟩ : ∃ k, fuel = k + 1 := ⟨fuel - 1, by omega⟩
    simp [patchLoop, ReallocsSucceed]
  | cons d ds ih =>
    obtain ⟨fuel, rfl⟩ : ∃ k, fuel = k + 1 := ⟨fuel - 1, by omega⟩
    rw [Descriptor.encode_cons] at hmem hsize ⊢
    obtain ⟨mem, hrest, hround⟩ := patchLoop_descriptor d hmem hsize
    rw [hround, ReallocsSucceed]
    simp only [List.length_append] at hsize
    simp only [List.length_cons] at hfuel
    rw [d.keptSize_cons] at hfit
    cases hk : d.kept <;> simp only [hk, if_true, if_false, Bool.false_eq_true] at hfit ⊢
    · have htail : s.manifestSize + Descriptor.keptSize ds < 2 ^ 16 := by omega
      exact ih hrest (by omega) htail (by omega)
    · have hlen : (d.renumber s.g).bytes.length = d.size := d.renumber_size s.g
      have hadd : s.manifestSize + (d.renumber s.g).bytes.length < 2 ^ 16 := by omega
      cases heap.realloc (s.manifestSize + d.size)
      · simp
      · simp only [if_true, true_and]
        have hnew : (PatchState.append heap (d.renumber s.g).bytes
            { s with mem, g := d.notePatch s.g }).manifestSize = s.manifestSize + d.size := by
          rw [← hlen]
          exact PatchState.append_manifestSize hadd
        rw [← hnew]
        exact ih hrest (by omega) (by omega) (by omega)

-- More rounds than the loop needs change nothing.
theorem patchLoop_mono {cfg : Config} {heap : Heap} {fuel fuel' desc size : Nat}
    {s s' : PatchState} (hle : fuel ≤ fuel')
    (h : patchLoop cfg heap fuel desc size s = some s') :
    patchLoop cfg heap fuel' desc size s = some s' := by
  induction fuel generalizing fuel' desc size s with
  | zero => simp [patchLoop] at h
  | succ fuel ih =>
    obtain ⟨fuel', rfl⟩ : ∃ k, fuel' = k + 1 := ⟨fuel' - 1, by omega⟩
    rw [patchLoop] at h ⊢
    split at h
    next hdone => rw [if_pos hdone, h]
    next hmore =>
      rw [if_neg hmore]
      obtain ⟨⟨descSize, mem, g⟩, hid, hround⟩ := Option.bind_eq_some_iff.mp h
      simp only [hid, Option.bind_some] at hround ⊢
      split at hround
      next hskip => rw [if_pos hskip]; exact ih (by omega) hround
      next happ =>
        rw [if_neg happ]
        obtain ⟨t, hap, hrest⟩ := Option.bind_eq_some_iff.mp hround
        rw [hap, Option.bind_some]
        exact ih (by omega) hrest

end Greybus
