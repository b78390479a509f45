import Greybus.Manifest.Patch

/-!
# The patched blob

Patching a manifest with a fragment of well-formed descriptors gives a manifest again, with the same
CPorts.  After its header checks `manifest_patch` has no way to reject a fragment.
-/

namespace Greybus

open Reasoning.Memory

/-! ## The size field -/

theorem headerSize_setHeaderSize {blob : List UInt8} {n : Nat} (hblob : 2 ≤ blob.length)
    (hn : n < 2 ^ 16) : headerSize (setHeaderSize blob n) = n := by
  have h0 : fieldAt (setHeaderSize blob n) 0 = UInt8.ofNat n := by
    simp [fieldAt, setHeaderSize, List.getD_eq_getElem?_getD, show 0 < blob.length by omega]
  have h1 : fieldAt (setHeaderSize blob n) 1 = UInt8.ofNat (n / 256) := by
    simp [fieldAt, setHeaderSize, List.getD_eq_getElem?_getD, show 1 < blob.length by omega]
  rw [headerSize, h0, h1, le16_split hn]

@[simp] theorem setHeaderSize_length (blob : List UInt8) (n : Nat) :
    (setHeaderSize blob n).length = blob.length := by
  simp [setHeaderSize]

theorem setHeaderSize_append {blob bytes : List UInt8} {n : Nat} (hblob : 2 ≤ blob.length) :
    setHeaderSize (blob ++ bytes) n = setHeaderSize blob n ++ bytes := by
  simp only [setHeaderSize]
  rw [List.set_append_left _ _ (by omega), List.set_append_left _ _ (by rw [List.length_set]; omega)]

@[simp] theorem setHeaderSize_setHeaderSize (blob : List UInt8) (m n : Nat) :
    setHeaderSize (setHeaderSize blob m) n = setHeaderSize blob n := by
  match blob with
  | [] => rfl
  | [b] => rfl
  | b :: c :: rest => rfl

theorem setHeaderSize_headerSize {blob : List UInt8} (hblob : 2 ≤ blob.length) :
    setHeaderSize blob (headerSize blob) = blob := by
  match blob, hblob with
  | b :: c :: rest, _ =>
    have hb := b.toNat_lt
    have hlo : UInt8.ofNat (le16 b c) = b := by
      apply UInt8.toNat_inj.mp
      simp only [UInt8.toNat_ofNat', le16]
      omega
    have hhi : UInt8.ofNat (le16 b c / 256) = c := by
      have hc := c.toNat_lt
      apply UInt8.toNat_inj.mp
      simp only [UInt8.toNat_ofNat', le16]
      omega
    simp [setHeaderSize, headerSize, fieldAt, hlo, hhi]

/-! ## What the loop appends -/

theorem Heap.resize_take {heap : Heap} {blob : List UInt8} {size : Nat} (h : blob.length ≤ size) :
    (heap.resize blob size).take blob.length = blob := by
  apply List.ext_getElem?
  intro i
  by_cases hi : i < blob.length
  · simp [Heap.resize, hi, show i < size by omega]
  · rw [List.getElem?_eq_none (by simp; omega), List.getElem?_eq_none (by omega)]

/-- The blob is as long as its header and the loop's counter say. -/
structure PatchState.SizesAgree (s : PatchState) : Prop where
  hasHeader : sizeofManifestHeader ≤ s.blob.length
  header : headerSize s.blob = s.blob.length
  counter : s.manifestSize = s.blob.length

theorem PatchState.append_blob {heap : Heap} {bytes : List UInt8} {s : PatchState}
    (h : s.SizesAgree) (hfit : s.blob.length + bytes.length < 2 ^ 16) :
    (s.append heap bytes).blob
      = setHeaderSize s.blob (s.blob.length + bytes.length) ++ bytes := by
  have htwo : 2 ≤ s.blob.length := Nat.le_trans (by decide) h.hasHeader
  have hheader : headerSize (s.blob ++ bytes) = s.blob.length := by
    rw [← h.header]
    simp only [headerSize, fieldAt, List.getD_append _ _ _ _ (show 0 < s.blob.length by omega),
      List.getD_append _ _ _ _ (show 1 < s.blob.length by omega)]
  simp only [PatchState.append, h.counter, Heap.resize_take (Nat.le_add_right _ _), hheader,
    Nat.mod_eq_of_lt hfit, setHeaderSize_append htwo]

theorem PatchState.append_sizesAgree {heap : Heap} {bytes : List UInt8} {s : PatchState}
    (h : s.SizesAgree) (hfit : s.blob.length + bytes.length < 2 ^ 16) :
    (s.append heap bytes).SizesAgree := by
  have hheader := h.hasHeader
  have hblob : (s.append heap bytes).blob = _ := append_blob h hfit
  have hlen : (s.append heap bytes).blob.length = s.blob.length + bytes.length := by
    rw [hblob, List.length_append, setHeaderSize_length]
  refine ⟨by rw [hlen]; omega, ?_, ?_⟩
  · rw [hlen, hblob, ← setHeaderSize_append (Nat.le_trans (by decide) hheader),
      headerSize_setHeaderSize _ hfit]
    rw [List.length_append]
    exact Nat.le_trans (Nat.le_trans (by decide) hheader) (Nat.le_add_right _ _)
  · rw [append_manifestSize (by rw [h.counter]; exact hfit), h.counter, hlen]

namespace Descriptor

variable {cfg : Config}

theorem patched_notePatch (d : Descriptor cfg) (g : ManifestState) (ds : List (Descriptor cfg)) :
    patched (d.notePatch g) ds = patched g ds := by
  have hsame : renumber (d.notePatch g) = renumber g := funext fun e => renumber_notePatch d e g
  simp only [patched, hsame]

-- What is appended registers no CPorts.
theorem patched_cports (g : ManifestState) (ds : List (Descriptor cfg)) :
    (patched g ds).filterMap cport? = [] := by
  simp only [patched, List.filterMap_map, List.filterMap_eq_nil_iff, List.mem_filter,
    Function.comp_apply, cport?, renumber_type]
  rintro d ⟨-, hk⟩
  rw [if_neg]
  intro ht
  simp [kept, ht] at hk

end Descriptor

-- What the loop has appended when it ends.
theorem patchLoop_blob {cfg : Config} {heap : Heap} (ds : List (Descriptor cfg))
    {fuel desc : Nat} {s s' : PatchState} (hmem : Holds s.mem desc (Descriptor.encode ds))
    (hsize : (Descriptor.encode ds).length < 2 ^ 32) (hs : s.SizesAgree)
    (hfit : s.blob.length + Descriptor.keptSize ds < 2 ^ 16)
    (h : patchLoop cfg heap fuel desc (Descriptor.encode ds).length s = some s') :
    s'.SizesAgree ∧
      s'.blob = setHeaderSize s.blob (s.blob.length + Descriptor.keptSize ds)
        ++ Descriptor.encode (Descriptor.patched s.g ds) := by
  induction ds generalizing fuel desc s with
  | nil =>
    cases fuel with
    | zero => simp [patchLoop] at h
    | succ fuel =>
      have htwo : 2 ≤ s.blob.length := Nat.le_trans (by decide) hs.hasHeader
      have hself := setHeaderSize_headerSize htwo
      rw [hs.header] at hself
      simp only [patchLoop, Descriptor.encode_nil, List.length_nil, if_true,
        Option.some.injEq] at h
      subst h
      refine ⟨hs, ?_⟩
      simp [Descriptor.keptSize, Descriptor.patched, hself]
  | cons d ds ih =>
    cases fuel with
    | zero => simp [patchLoop] at h
    | succ fuel =>
      rw [Descriptor.encode_cons] at hmem hsize h
      obtain ⟨mem, hrest, hround⟩ := patchLoop_descriptor d hmem hsize
      rw [hround] at h
      simp only [List.length_append] at hsize
      rw [d.keptSize_cons] at hfit ⊢
      have hmid : PatchState.SizesAgree { s with mem, g := d.notePatch s.g } :=
        ⟨hs.hasHeader, hs.header, hs.counter⟩
      cases hk : d.kept <;> simp only [hk, if_true, if_false, Bool.false_eq_true] at h hfit ⊢
      · have htail : s.blob.length + Descriptor.keptSize ds < 2 ^ 16 := by omega
        obtain ⟨hs', hblob⟩ := ih hrest (by omega) hmid htail h
        refine ⟨hs', ?_⟩
        rw [hblob, Descriptor.patched_notePatch, Nat.zero_add]
        simp [Descriptor.patched, hk]
      · split at h
        next =>
          have hlen : (d.renumber s.g).bytes.length = d.size := d.renumber_size s.g
          have hadd : s.blob.length + (d.renumber s.g).bytes.length < 2 ^ 16 := by omega
          have hnew : (PatchState.append heap (d.renumber s.g).bytes _).blob = _ :=
            PatchState.append_blob hmid hadd
          have hnewLen := congrArg List.length hnew
          simp only [List.length_append, setHeaderSize_length, hlen] at hnewLen
          obtain ⟨hs', hblob⟩ := ih hrest (by omega) (PatchState.append_sizesAgree hmid hadd)
            (by omega) h
          have htwo : 2 ≤ s.blob.length := Nat.le_trans (by decide) hs.hasHeader
          refine ⟨hs', ?_⟩
          rw [hblob, hnewLen, hnew, setHeaderSize_append (by rwa [setHeaderSize_length]),
            setHeaderSize_setHeaderSize]
          simp only [PatchState.append, Descriptor.patched_notePatch]
          simp [Descriptor.patched, hk, Nat.add_assoc]
        next => simp at h

/-! ## The whole function -/

-- With a valid fragment header `manifest_patch` is the loop, and then it has succeeded.
theorem manifestPatch_valid {cfg : Config} {mem : Mem} {data blob : List UInt8} (heap : Heap)
    (fuel : Nat) (g : ManifestState) (hmem : Holds mem 0 data) (hblob : 2 ≤ blob.length)
    (hvalid : HeaderValid data) :
    manifestPatch cfg heap fuel mem data.length blob g
      = (patchLoop cfg heap fuel sizeofManifestHeader (data.drop sizeofManifestHeader).length
          { mem, blob, manifestSize := headerSize blob, g := g.resetPatch }).map fun s =>
        (true, { s with g := s.g.addPatch cfg }) := by
  have hlong : 4 < data.length := hvalid.long
  have hsize : load16 mem 0 = some data.length := by
    rw [hmem.load16 (i := 0) (by omega)]
    exact congrArg some hvalid.size
  have hversion : mem 2 = some (fieldAt data 2) := hmem.load8 (i := 2) (by omega)
  have hlt := hvalid.length_lt
  simp only [manifestPatch, if_neg (Nat.not_lt.mpr hblob), if_neg (Nat.not_le.mpr hvalid.long),
    hsize, hversion, Option.bind_some, ne_eq, not_true, if_false, gt_iff_lt,
    UInt8.not_lt.mpr hvalid.version, List.length_drop]
  rw [Config.sizeSub_of_le (Nat.le_of_lt hvalid.long) (by omega)]

theorem manifestPatch_invalid {cfg : Config} {mem : Mem} {data blob : List UInt8} (heap : Heap)
    (fuel : Nat) (g : ManifestState) (hmem : Holds mem 0 data) (hblob : 2 ≤ blob.length)
    (hvalid : ¬ HeaderValid data) :
    manifestPatch cfg heap fuel mem data.length blob g
      = some (false, { mem, blob, manifestSize := headerSize blob, g }) := by
  simp only [manifestPatch, if_neg (Nat.not_lt.mpr hblob)]
  split
  next => rfl
  next hlong =>
    simp only [sizeofManifestHeader, Nat.not_le] at hlong
    rw [hmem.load16 (i := 0) (by omega), Option.bind_some]
    split
    next => rfl
    next hsize =>
      have hversion : mem 2 = some (fieldAt data 2) := hmem.load8 (i := 2) (by omega)
      rw [hversion, Option.bind_some, if_pos]
      by_contra hv
      exact hvalid ⟨hlong, not_not.mp hsize, UInt8.not_lt.mp hv⟩

-- A fragment of well-formed descriptors that fits is taken in within one round for each of them,
-- exactly when every `realloc` finds memory.
theorem manifestPatch_encode {cfg : Config} {heap : Heap} {mem : Mem} {data blob : List UInt8}
    {ds : List (Descriptor cfg)} {fuel : Nat} (g : ManifestState) (hmem : Holds mem 0 data)
    (hblob : 2 ≤ blob.length) (hvalid : HeaderValid data)
    (hds : data.drop sizeofManifestHeader = Descriptor.encode ds)
    (hfit : headerSize blob + Descriptor.keptSize ds < 2 ^ 16) (hfuel : ds.length < fuel) :
    (manifestPatch cfg heap fuel mem data.length blob g).isSome
      ↔ ReallocsSucceed heap (headerSize blob) ds := by
  have hlt := hvalid.length_lt
  have hbody := hmem.drop (Nat.le_of_lt hvalid.long)
  have hlen := congrArg List.length hds
  rw [List.length_drop] at hlen
  rw [hds, Nat.zero_add] at hbody
  rw [manifestPatch_valid heap fuel g hmem hblob hvalid, hds, Option.isSome_map]
  exact patchLoop_returns ds (s := ⟨mem, blob, headerSize blob, g.resetPatch⟩) hbody (by omega) hfit
    hfuel

theorem Descriptor.patched_resetPatch {cfg : Config} (g : ManifestState)
    (ds : List (Descriptor cfg)) : patched g.resetPatch ds = patched g ds := rfl

-- The blob that a fragment of well-formed descriptors leaves behind.
theorem manifestPatch_blob {cfg : Config} {heap : Heap} {mem : Mem} {data blob : List UInt8}
    {ds : List (Descriptor cfg)} {fuel : Nat} {g : ManifestState} {ok : Bool} {s' : PatchState}
    (hmem : Holds mem 0 data) (hheader : sizeofManifestHeader ≤ blob.length)
    (hblob : headerSize blob = blob.length) (hvalid : HeaderValid data)
    (hds : data.drop sizeofManifestHeader = Descriptor.encode ds)
    (hfit : blob.length + Descriptor.keptSize ds < 2 ^ 16)
    (h : manifestPatch cfg heap fuel mem data.length blob g = some (ok, s')) :
    ok = true ∧ headerSize s'.blob = s'.blob.length ∧
      s'.blob = setHeaderSize blob (blob.length + Descriptor.keptSize ds)
        ++ Descriptor.encode (Descriptor.patched g ds) := by
  have htwo : 2 ≤ blob.length := Nat.le_trans (by decide) hheader
  have hlt := hvalid.length_lt
  have hbody := hmem.drop (Nat.le_of_lt hvalid.long)
  have hlen := congrArg List.length hds
  rw [List.length_drop] at hlen
  rw [hds, Nat.zero_add] at hbody
  rw [manifestPatch_valid heap fuel g hmem htwo hvalid, hds] at h
  obtain ⟨t, hloop, heq⟩ := Option.map_eq_some_iff.mp h
  obtain ⟨rfl, rfl⟩ := Prod.mk.inj heq
  obtain ⟨hs, hbytes⟩ := patchLoop_blob ds
    (s := ⟨mem, blob, headerSize blob, g.resetPatch⟩) hbody (by omega)
    ⟨hheader, hblob, hblob⟩ hfit hloop
  exact ⟨rfl, hs.header, by rw [hbytes, Descriptor.patched_resetPatch]⟩

-- A manifest with more descriptors at its end is a manifest.
theorem setHeaderSize_manifest {cfg : Config} {base : List UInt8}
    {ds es : List (Descriptor cfg)} (hvalid : HeaderValid base)
    (hds : base.drop sizeofManifestHeader = Descriptor.encode ds)
    {blob : List UInt8} {n : Nat} (hblob : blob = setHeaderSize base n ++ Descriptor.encode es)
    (hsize : headerSize blob = blob.length) :
    HeaderValid blob ∧ blob.drop sizeofManifestHeader = Descriptor.encode (ds ++ es) := by
  have hlong : 4 < base.length := hvalid.long
  have hversion : fieldAt (setHeaderSize base n) 2 = fieldAt base 2 := by
    simp [fieldAt, setHeaderSize, List.getD_eq_getElem?_getD]
  have hbody : (setHeaderSize base n).drop sizeofManifestHeader = Descriptor.encode ds := by
    rw [← hds]
    cases base with
    | nil => simp at hlong
    | cons b rest =>
      cases rest with
      | nil => simp at hlong
      | cons c rest => rfl
  refine ⟨⟨?_, hsize, ?_⟩, ?_⟩
  · rw [hblob, List.length_append, setHeaderSize_length]
    simp only [sizeofManifestHeader]
    omega
  · have htwo : 2 < (setHeaderSize base n).length := by rw [setHeaderSize_length]; omega
    have hfield : fieldAt blob 2 = fieldAt base 2 := by
      rw [← hversion, hblob, fieldAt, List.getD_append _ _ _ _ htwo, fieldAt]
    exact hfield ▸ hvalid.version
  · have hfour : sizeofManifestHeader ≤ (setHeaderSize base n).length := by
      rw [setHeaderSize_length]
      exact Nat.le_of_lt hlong
    rw [hblob, List.drop_append_of_le_length hfour, hbody, Descriptor.encode_append]

/-- Patching an accepted manifest with a fragment of well-formed descriptors that fits appends the
renumbered descriptors, and the result is an accepted manifest with the CPorts of the base. -/
theorem manifestPatch_appends {cfg : Config} {heap : Heap} {base data : List UInt8}
    {afterBase after : Nat → Option UInt8} {malloc : Nat → Bool} {fuel : Nat}
    {g g₀ g₁ : ManifestState} {ds : List (Descriptor cfg)}
    (hbase : manifestParse cfg (ofBuffer base afterBase) malloc base.length g₀ = some (true, g₁))
    (hvalid : HeaderValid data)
    (hds : data.drop sizeofManifestHeader = Descriptor.encode ds)
    (hfit : base.length + Descriptor.keptSize ds ≤ 65535)
    (hrealloc : ReallocsSucceed heap base.length ds) (hfuel : ds.length < fuel) :
    ∃ s', manifestPatch cfg heap fuel (ofBuffer data after) data.length base g = some (true, s') ∧
      s'.blob = setHeaderSize base (base.length + Descriptor.keptSize ds)
        ++ Descriptor.encode (Descriptor.patched g ds) ∧
      headerSize s'.blob = s'.blob.length ∧
      ∀ after' g₂, ∃ gBase gNew,
        manifestParse cfg (ofBuffer base after') (fun _ => true) base.length g₂
          = some (true, gBase) ∧
        manifestParse cfg (ofBuffer s'.blob after') (fun _ => true) s'.blob.length g₂
          = some (true, gNew) ∧
        gNew.cports = gBase.cports := by
  obtain ⟨hbaseValid, dsBase, hdsBase, -⟩ := manifestParse_accepts (holds_ofBuffer _ _) hbase
  have hmem := holds_ofBuffer data after
  have hlong : 4 < base.length := hbaseValid.long
  have hsize := hbaseValid.size
  have hfit' : headerSize base + Descriptor.keptSize ds < 2 ^ 16 := by rw [hsize]; omega
  obtain ⟨⟨ok, s'⟩, hrun⟩ := Option.isSome_iff_exists.mp
    ((manifestPatch_encode g hmem (by omega) hvalid hds hfit' hfuel).mpr (hsize ▸ hrealloc))
  obtain ⟨rfl, hnewSize, hnewBlob⟩ := manifestPatch_blob hmem (Nat.le_of_lt hlong) hsize hvalid hds
    (by omega) hrun
  obtain ⟨hnewValid, hnewBody⟩ := setHeaderSize_manifest hbaseValid hdsBase hnewBlob hnewSize
  refine ⟨s', hrun, hnewBlob, hnewSize, fun after' g₂ => ⟨_, _,
    manifestParse_encode g₂ (holds_ofBuffer _ _) (fun _ => rfl) hbaseValid hdsBase,
    manifestParse_encode g₂ (holds_ofBuffer _ _) (fun _ => rfl) hnewValid hnewBody, ?_⟩⟩
  rw [registerAll_cports, registerAll_cports, List.filterMap_append, Descriptor.patched_cports,
    List.append_nil]

/-- A CPORT and a string descriptor. -/
def sampleBase : List UInt8 :=
  [20, 0, 0, 1, 8, 0, 4, 0, 1, 0, 1, 3, 8, 0, 2, 0, 2, 1, 0x61, 0x62]

/-- An interface descriptor. -/
def sampleInterface : Descriptor .native := ⟨[8, 0, 1, 0, 1, 2, 0, 0], by decide⟩

/-- A property descriptor with id 1, named by string 1. -/
def sampleProperty : Descriptor .native := ⟨[12, 0, 6, 0, 1, 1, 1, 2, 5, 0, 0, 0], by decide⟩

theorem manifestPatch_appends_sample :
    ∃ s', manifestPatch .native ⟨fun _ => true, fun _ => 0⟩ 3
        (ofBuffer ([24, 0, 0, 1] ++ sampleInterface.bytes ++ sampleProperty.bytes) fun _ => none) 24
        sampleBase { ManifestState.initial with maxStringId := 1 } = some (true, s') ∧
      s'.blob = setHeaderSize sampleBase (20 + 12) ++ [12, 0, 6, 0, 1, 1, 2, 2, 5, 0, 0, 0] ∧
      headerSize s'.blob = s'.blob.length ∧
      ∀ after' g₂, ∃ gBase gNew,
        manifestParse .native (ofBuffer sampleBase after') (fun _ => true) 20 g₂
          = some (true, gBase) ∧
        manifestParse .native (ofBuffer s'.blob after') (fun _ => true) s'.blob.length g₂
          = some (true, gNew) ∧
        gNew.cports = gBase.cports :=
  have hbase : manifestParse .native (ofBuffer sampleBase fun _ => none) (fun _ => true) 20
      ManifestState.initial
      = some (true, { ManifestState.initial with cports := [⟨1, 1, 3⟩], maxStringId := 1 }) := by
    decide +kernel
  have hds : ([24, 0, 0, 1] ++ sampleInterface.bytes ++ sampleProperty.bytes).drop
      sizeofManifestHeader = Descriptor.encode [sampleInterface, sampleProperty] := by decide
  manifestPatch_appends hbase ⟨by decide, by decide, by decide⟩ hds (by decide) ⟨rfl, trivial⟩
    (by decide)

/-! ## Malformed fragments -/

/-- Some number of rounds brings `manifest_patch` to this result. -/
def PatchReturns (cfg : Config) (heap : Heap) (mem : Mem) (size : Nat) (blob : List UInt8)
    (g : ManifestState) (ok : Bool) (s : PatchState) : Prop :=
  ∃ fuel, manifestPatch cfg heap fuel mem size blob g = some (ok, s)

/-- The fragments that may be patched in: header, descriptors and combined size are right. -/
def Patchable (cfg : Config) (blob data : List UInt8) : Prop :=
  HeaderValid data ∧ ∃ ds : List (Descriptor cfg),
    data.drop sizeofManifestHeader = Descriptor.encode ds ∧
      headerSize blob + Descriptor.keptSize ds < 2 ^ 16

/-- `manifest_patch` either takes in a fragment that may be patched in, or refuses it and leaves
the blob and the recorded maxima as they were. -/
def PatchesOrRefuses (cfg : Config) (heap : Heap) (blob data : List UInt8)
    (after : Nat → Option UInt8) (g : ManifestState) : Prop :=
  (Patchable cfg blob data ∧
    ∃ s, PatchReturns cfg heap (ofBuffer data after) data.length blob g true s) ∨
  ∃ s, PatchReturns cfg heap (ofBuffer data after) data.length blob g false s ∧ s.blob = blob ∧
    s.g.maxStringId = g.maxStringId ∧ s.g.maxPropertyId = g.maxPropertyId ∧
    s.g.maxDeviceId = g.maxDeviceId

/-- Once the header is valid, that is so exactly for the fragments that could be taken in. -/
theorem patchesOrRefuses_iff {cfg : Config} {heap : Heap} {blob data : List UInt8}
    {after : Nat → Option UInt8} {g : ManifestState} (hblob : 2 ≤ blob.length) :
    PatchesOrRefuses cfg heap blob data after g ↔
      (HeaderValid data → ∃ ds : List (Descriptor cfg),
        data.drop sizeofManifestHeader = Descriptor.encode ds ∧
          headerSize blob + Descriptor.keptSize ds < 2 ^ 16 ∧
          ReallocsSucceed heap (headerSize blob) ds) := by
  have hmem := holds_ofBuffer data after
  constructor
  · rintro (⟨⟨hvalid, ds, hds, hfit⟩, s, fuel, hrun⟩ | ⟨s, ⟨fuel, hrun⟩, -⟩) hvalid'
    · refine ⟨ds, hds, hfit, ?_⟩
      -- rounds are added until there is one for each descriptor
      rw [manifestPatch_valid heap fuel g hmem hblob hvalid] at hrun
      obtain ⟨t, hloop, -⟩ := Option.map_eq_some_iff.mp hrun
      have hmore := patchLoop_mono (Nat.le_max_left fuel (ds.length + 1)) hloop
      rw [← manifestPatch_encode g hmem hblob hvalid hds hfit
          (Nat.lt_of_lt_of_le (Nat.lt_succ_self _) (Nat.le_max_right fuel (ds.length + 1))),
        manifestPatch_valid heap _ g hmem hblob hvalid, hmore]
      rfl
    · rw [manifestPatch_valid heap fuel g hmem hblob hvalid'] at hrun
      obtain ⟨t, -, heq⟩ := Option.map_eq_some_iff.mp hrun
      exact absurd (Prod.mk.inj heq).1 (by decide)
  · intro hgood
    by_cases hvalid : HeaderValid data
    · obtain ⟨ds, hds, hfit, hrealloc⟩ := hgood hvalid
      obtain ⟨⟨ok, s⟩, hrun⟩ := Option.isSome_iff_exists.mp
        ((manifestPatch_encode g hmem hblob hvalid hds hfit (Nat.lt_succ_self _)).mpr hrealloc)
      have hok := hrun
      rw [manifestPatch_valid heap _ g hmem hblob hvalid] at hok
      obtain ⟨t, -, heq⟩ := Option.map_eq_some_iff.mp hok
      obtain rfl := (Prod.mk.inj heq).1
      exact .inl ⟨⟨hvalid, ds, hds, hfit⟩, s, _, hrun⟩
    · exact .inr ⟨_, ⟨0, manifestPatch_invalid heap 0 g hmem hblob hvalid⟩, rfl, rfl, rfl, rfl⟩

theorem patchesOrRefuses_iff_sample :
    PatchesOrRefuses .native ⟨fun _ => true, fun _ => 0⟩ sampleBase
        ([12, 0, 0, 1] ++ sampleInterface.bytes) (fun _ => none) ManifestState.initial ↔
      (HeaderValid ([12, 0, 0, 1] ++ sampleInterface.bytes) →
        ∃ ds : List (Descriptor .native),
          ([12, 0, 0, 1] ++ sampleInterface.bytes).drop sizeofManifestHeader
            = Descriptor.encode ds ∧
          headerSize sampleBase + Descriptor.keptSize ds < 2 ^ 16 ∧
          ReallocsSucceed ⟨fun _ => true, fun _ => 0⟩ (headerSize sampleBase) ds) :=
  patchesOrRefuses_iff (by decide)

-- A body of 22 bytes with an invalid descriptor type is skipped whole and accepted.
theorem patchesOrRefuses_invalidType :
    (∃ s, PatchReturns .native ⟨fun _ => true, fun _ => 0⟩
      (ofBuffer ([26, 0, 0, 1] ++ List.replicate 22 0) fun _ => none) 26 sampleBase
      ManifestState.initial true s) ∧
    ¬ PatchesOrRefuses .native ⟨fun _ => true, fun _ => 0⟩ sampleBase
      ([26, 0, 0, 1] ++ List.replicate 22 0) (fun _ => none) ManifestState.initial := by
  refine ⟨⟨_, 2, rfl⟩, ?_⟩
  rintro (⟨⟨hvalid, ds, hds, -⟩, -⟩ | ⟨s, ⟨fuel, hrun⟩, -⟩)
  · have hreject : manifestParse .native
        (ofBuffer ([26, 0, 0, 1] ++ List.replicate 22 0) fun _ => none) (fun _ => true) 26
        ManifestState.initial = some (false, ManifestState.initial) := by decide +kernel
    have haccept := hreject.symm.trans (manifestParse_encode ManifestState.initial
      (holds_ofBuffer _ fun _ => none) (fun _ => rfl) hvalid hds)
    simp at haccept
  · rw [manifestPatch_valid _ fuel _ (holds_ofBuffer _ _) (by decide)
      ⟨by decide, by decide, by decide⟩] at hrun
    obtain ⟨t, -, heq⟩ := Option.map_eq_some_iff.mp hrun
    exact absurd (Prod.mk.inj heq).1 (by decide)

end Greybus
