import Greybus.Manifest.PatchedBlob
import Greybus.Manifest.WalkBounds

/-!
# What the walk over a fragment touches

The loop of `manifest_patch` takes the error code of `identify_patch_descriptor` for the size of a
descriptor to skip.  Where no well-formed descriptor begins it goes on 22 bytes further.
-/

namespace Greybus

open Reasoning.Memory

variable {cfg : Config}

/-! ## The rounds -/

/-- How a call of `manifest_patch` ends. -/
inductive PatchEnd where
  | returned (ok : Bool) (s : PatchState)
  -- The loop has rounds left to make.
  | unfinished
  -- It reaches for a byte of the fragment that is not there.
  | outside
  -- `realloc` has found no memory, and the copy goes to an address near 0.
  | noMemory

def PatchEnd.result : PatchEnd → Option (Bool × PatchState)
  | .returned ok s => some (ok, s)
  | _ => none

/-- The loop of `manifest_patch` with the rounds that it makes. -/
def patchLoopRounds (cfg : Config) (heap : Heap) :
    Nat → Nat → Nat → PatchState → List Round × PatchEnd
  | 0, _, _, _ => ([], .unfinished)
  | fuel + 1, desc, size, s =>
    if size = 0 then ([], .returned true { s with g := s.g.addPatch cfg })
    else
      match identifyPatchDescriptor cfg s.mem desc size s.g with
      | none => ([⟨desc, size, 0⟩], .outside)
      | some (descSize, mem, g) =>
        if descSize ≤ 0 then
          let tail := patchLoopRounds cfg heap fuel (desc + (-descSize).toNat)
            (cfg.sizeSub size (-descSize).toNat) { s with mem, g }
          (⟨desc, size, (-descSize).toNat⟩ :: tail.1, tail.2)
        else if heap.realloc (s.manifestSize + descSize.toNat) then
          match loadN mem desc descSize.toNat with
          | none => ([⟨desc, size, descSize.toNat⟩], .outside)
          | some bytes =>
            let tail := patchLoopRounds cfg heap fuel (desc + descSize.toNat)
              (cfg.sizeSub size descSize.toNat) (PatchState.append heap bytes { s with mem, g })
            (⟨desc, size, descSize.toNat⟩ :: tail.1, tail.2)
        else ([⟨desc, size, descSize.toNat⟩], .noMemory)

/-- `manifest_patch` with the rounds of its loop, on a blob whose header is there. -/
def manifestPatchRounds (cfg : Config) (heap : Heap) (fuel : Nat) (mem : Mem) (size : Nat)
    (blob : List UInt8) (g : ManifestState) : List Round × PatchEnd :=
  let s : PatchState := { mem, blob, manifestSize := headerSize blob, g }
  if size ≤ sizeofManifestHeader then ([], .returned false s)
  else
    match load16 mem 0 with
    | none => ([], .outside)
    | some fragmentSize =>
      if fragmentSize ≠ size then ([], .returned false s)
      else
        match mem 2 with
        | none => ([], .outside)
        | some versionMajor =>
          if versionMajor > greybusVersionMajor then ([], .returned false s)
          else
            patchLoopRounds cfg heap fuel sizeofManifestHeader
              (cfg.sizeSub size sizeofManifestHeader) { s with g := g.resetPatch }

theorem patchLoopRounds_snd (heap : Heap) (fuel desc size : Nat) (s : PatchState) :
    (patchLoopRounds cfg heap fuel desc size s).2.result
      = (patchLoop cfg heap fuel desc size s).map fun s =>
          (true, { s with g := s.g.addPatch cfg }) := by
  induction fuel generalizing desc size s with
  | zero => rfl
  | succ fuel ih =>
    unfold patchLoopRounds patchLoop
    split
    next => rfl
    next =>
      cases hid : identifyPatchDescriptor cfg s.mem desc size s.g with
      | none => rfl
      | some res =>
        obtain ⟨descSize, mem, g⟩ := res
        simp only [Option.bind_some]
        split
        next => exact ih _ _ _
        next =>
          unfold appendDescriptor
          split
          next =>
            cases loadN mem desc descSize.toNat with
            | none => rfl
            | some bytes => exact ih _ _ _
          next => rfl

-- The rounds are those of `manifest_patch`.
theorem manifestPatchRounds_snd {blob : List UInt8} (hblob : 2 ≤ blob.length) (heap : Heap)
    (fuel : Nat) (mem : Mem) (size : Nat) (g : ManifestState) :
    (manifestPatchRounds cfg heap fuel mem size blob g).2.result
      = manifestPatch cfg heap fuel mem size blob g := by
  unfold manifestPatchRounds manifestPatch
  rw [if_neg (Nat.not_lt.mpr hblob)]
  split
  next => rfl
  next =>
    cases load16 mem 0 with
    | none => rfl
    | some fragmentSize =>
      simp only [Option.bind_some]
      split
      next => rfl
      next =>
        cases mem 2 with
        | none => rfl
        | some versionMajor =>
          simp only [Option.bind_some]
          split
          next => rfl
          next => exact patchLoopRounds_snd _ _ _ _ _

/-! ## One descriptor -/

theorem addToByte_frame {mem mem' : Mem} {p n : Nat} {b : UInt8}
    (h : addToByte mem p n = some (mem', b)) : ∀ a, a ≠ p → mem' a = mem a := by
  obtain ⟨c, -, h⟩ := Option.bind_eq_some_iff.mp h
  obtain ⟨mem₁, hstore, h⟩ := Option.map_eq_some_iff.mp h
  obtain ⟨rfl, -⟩ := Prod.mk.inj h
  obtain ⟨-, hstore⟩ := Option.ite_none_right_eq_some.mp hstore
  obtain rfl := Option.some.inj hstore
  exact fun a ha => Function.update_of_ne ha _ _

theorem addToByte_frame_twice {mem mem₁ mem₂ : Mem} {p q n k : Nat} {b c : UInt8}
    (h₁ : addToByte mem p n = some (mem₁, b)) (h₂ : addToByte mem₁ q k = some (mem₂, c)) :
    ∀ a, a ≠ p → a ≠ q → mem₂ a = mem a :=
  fun a hp hq => (addToByte_frame h₂ a hq).trans (addToByte_frame h₁ a hp)

theorem checkPatchSize_cases {descSize expectedSize : Nat} {skip : Bool} {mem mem' : Mem}
    {g g' : ManifestState} {r : Int}
    (h : checkPatchSize descSize expectedSize skip mem g = (r, mem', g')) :
    mem' = mem ∧ (r = -EINVAL ∨ expectedSize ≤ descSize) := by
  unfold checkPatchSize at h
  split at h
  next =>
    obtain ⟨rfl, hrest⟩ := Prod.mk.inj h
    exact ⟨(Prod.mk.inj hrest).1.symm, .inl rfl⟩
  next hsize =>
    refine ⟨?_, .inr (Nat.not_lt.mp hsize)⟩
    split at h
    next => exact (Prod.mk.inj (Prod.mk.inj h).2).1.symm
    next => exact (Prod.mk.inj (Prod.mk.inj h).2).1.symm

-- At most three bytes behind the header are raised, and a size that is not the error code has
-- passed the checks.
theorem identifyPatchDescriptor_checked {mem mem' : Mem} {desc : Nat} {rest : List UInt8}
    {g g' : ManifestState} {r : Int} (hmem : Holds mem desc rest)
    (h : identifyPatchDescriptor cfg mem desc rest.length g = some (r, mem', g')) :
    (∀ a, desc + 7 ≤ a → mem' a = mem a) ∧
      (r = -EINVAL ∨ declaredSize rest ≤ rest.length ∧
        ∃ m, minimumSize cfg rest = some m ∧ m ≤ declaredSize rest) := by
  have hrefused : ∀ {mem₁ : Mem} {G : ManifestState},
      some (-EINVAL, mem₁, G) = some (r, mem', g') → mem' = mem₁ ∧ r = -EINVAL := by
    intro mem₁ G heq
    obtain ⟨rfl, hrest⟩ := Prod.mk.inj (Option.some.inj heq)
    exact ⟨(Prod.mk.inj hrest).1.symm, rfl⟩
  unfold identifyPatchDescriptor at h
  split at h
  next =>
    obtain ⟨rfl, hr⟩ := hrefused h
    exact ⟨fun _ _ => rfl, .inl hr⟩
  next hhead =>
  simp only [sizeofDescriptorHeader, Nat.not_lt] at hhead
  have hheader := load16_header hmem (by omega)
  have hsecond : mem (desc + 2) = some (fieldAt rest 2) := hmem.load8 (by omega)
  simp only [hheader, hsecond, Option.bind_some] at h
  split at h
  next =>
    obtain ⟨rfl, hr⟩ := hrefused h
    exact ⟨fun _ _ => rfl, .inl hr⟩
  next hfits =>
  have hdone : ∀ {m : Nat} {skip : Bool} {mem₁ : Mem} {G : ManifestState},
      checkPatchSize (declaredSize rest) m skip mem₁ G = (r, mem', g') →
      (∀ a, desc + 7 ≤ a → mem₁ a = mem a) →
      (m ≤ declaredSize rest → minimumSize cfg rest = some m) →
      (∀ a, desc + 7 ≤ a → mem' a = mem a) ∧
        (r = -EINVAL ∨ declaredSize rest ≤ rest.length ∧
          ∃ m, minimumSize cfg rest = some m ∧ m ≤ declaredSize rest) := by
    intro m skip mem₁ G hc hframe hm
    obtain ⟨rfl, hr⟩ := checkPatchSize_cases hc
    exact ⟨hframe, hr.imp_right fun hle => ⟨Nat.not_lt.mp hfits, m, hm hle, hle⟩⟩
  cases ht : DescriptorType.ofByte (fieldAt rest 2) <;> simp only [ht] at h
  case string =>
    obtain ⟨length, hl, h⟩ := Option.bind_eq_some_iff.mp h
    obtain ⟨⟨mem₁, id⟩, hadd, hc⟩ := Option.map_eq_some_iff.mp h
    refine hdone hc (fun a ha => addToByte_frame hadd a (by omega)) fun hle => ?_
    obtain rfl := length_of_le hmem (Nat.not_lt.mp hfits) hl (by decide) hle
    simp only [minimumSize, typeOf, ht]
  case property =>
    obtain ⟨length, hl, h⟩ := Option.bind_eq_some_iff.mp h
    obtain ⟨⟨mem₁, id⟩, hadd₁, h⟩ := Option.bind_eq_some_iff.mp h
    obtain ⟨⟨mem₂, name⟩, hadd₂, hc⟩ := Option.map_eq_some_iff.mp h
    refine hdone hc (fun a ha => ?_) fun hle => ?_
    · exact addToByte_frame_twice hadd₁ hadd₂ a (by omega) (by omega)
    · obtain rfl := length_of_le hmem (Nat.not_lt.mp hfits) hl (by decide) hle
      simp only [minimumSize, typeOf, ht]
  case device =>
    obtain ⟨⟨mem₁, id⟩, hadd₁, h⟩ := Option.bind_eq_some_iff.mp h
    obtain ⟨⟨mem₂, driver⟩, hadd₂, hc⟩ := Option.map_eq_some_iff.mp h
    refine hdone hc (fun a ha => ?_) fun _ => by simp only [minimumSize, typeOf, ht]
    exact addToByte_frame_twice hadd₁ hadd₂ a (by omega) (by omega)
  case mikrobus =>
    split at h
    next hcfg =>
      refine hdone (Option.some.inj h) (fun _ _ => rfl) fun _ => ?_
      simp only [minimumSize, typeOf, ht, hcfg, if_true]
    next =>
      obtain ⟨rfl, hr⟩ := hrefused h
      exact ⟨fun _ _ => rfl, .inl hr⟩
  case invalid =>
    obtain ⟨rfl, hr⟩ := hrefused h
    exact ⟨fun _ _ => rfl, .inl hr⟩
  case interface | bundle | cport =>
    refine hdone (Option.some.inj h) (fun _ _ => rfl) fun _ => ?_
    simp only [minimumSize, typeOf, ht]

/-- A well-formed descriptor lies at the front. -/
def StartsWithDescriptor (cfg : Config) (rest : List UInt8) : Prop :=
  ∃ (d : Descriptor cfg) (tail : List UInt8), rest = d.bytes ++ tail

-- Where none lies the function returns its error code, if it returns.
theorem identifyPatchDescriptor_refuses {mem mem' : Mem} {desc : Nat} {rest : List UInt8}
    {g g' : ManifestState} {r : Int} (hmem : Holds mem desc rest)
    (hnone : ¬ StartsWithDescriptor cfg rest)
    (h : identifyPatchDescriptor cfg mem desc rest.length g = some (r, mem', g')) :
    r = -EINVAL ∧ ∀ a, desc + 7 ≤ a → mem' a = mem a := by
  obtain ⟨hframe, hr | ⟨hfits, m, hmin, hle⟩⟩ := identifyPatchDescriptor_checked hmem h
  · exact ⟨hr, hframe⟩
  · obtain ⟨d, tail, hrest, -⟩ := exists_descriptor hfits hmin hle
    exact absurd ⟨d, tail, hrest⟩ hnone

-- Seven bytes are all that it touches.
theorem identifyPatchDescriptor_isSome {mem : Mem} {desc : Nat} {rest : List UInt8}
    (g : ManifestState) (hmem : Holds mem desc rest) (hlong : 7 ≤ rest.length) :
    (identifyPatchDescriptor cfg mem desc rest.length g).isSome := by
  have hheader := load16_header hmem (by omega)
  have hsecond : mem (desc + 2) = some (fieldAt rest 2) := hmem.load8 (by omega)
  have hlength : mem (desc + 4) = some (fieldAt rest 4) := hmem.load8 (by omega)
  unfold identifyPatchDescriptor
  split
  next => rfl
  next =>
  simp only [hheader, hsecond, hlength, Option.bind_some]
  split
  next => rfl
  next =>
  cases ht : DescriptorType.ofByte (fieldAt rest 2) <;> simp only
  case string =>
    obtain ⟨mem₁, hadd, -⟩ := addToByte_holds hmem (show 5 < rest.length by omega) g.maxStringId
    rw [hadd]
    rfl
  case property =>
    obtain ⟨mem₁, hadd₁, hheld, -⟩ :=
      addToByte_holds hmem (show 5 < rest.length by omega) g.maxPropertyId
    obtain ⟨mem₂, hadd₂, -⟩ := addToByte_holds hheld
      (show 6 < (raise rest 5 g.maxPropertyId).length by rw [raise_length]; omega) g.maxStringId
    rw [hadd₁, Option.bind_some, hadd₂]
    rfl
  case device =>
    obtain ⟨mem₁, hadd₁, hheld, -⟩ :=
      addToByte_holds hmem (show 4 < rest.length by omega) g.maxDeviceId
    obtain ⟨mem₂, hadd₂, -⟩ := addToByte_holds hheld
      (show 5 < (raise rest 4 g.maxDeviceId).length by rw [raise_length]; omega) g.maxStringId
    rw [hadd₁, Option.bind_some, hadd₂]
    rfl
  case mikrobus => split <;> rfl
  all_goals rfl

/-! ## The loop -/

/-- The bytes can be cut up from the front: into well-formed descriptors and, where none lies, into
blocks of `EINVAL` bytes. -/
inductive PatchFits (cfg : Config) : List UInt8 → Prop
  | nil : PatchFits cfg []
  | descriptor (d : Descriptor cfg) {tail : List UInt8} :
      PatchFits cfg tail → PatchFits cfg (d.bytes ++ tail)
  | refused {rest : List UInt8} : ¬ StartsWithDescriptor cfg rest →
      EINVAL.toNat ≤ rest.length → PatchFits cfg (rest.drop EINVAL.toNat) → PatchFits cfg rest

/-- No subtraction from the remaining size wraps, and nothing is touched that is not there. -/
structure RoundsInside (run : List Round × PatchEnd) : Prop where
  used : ∀ rd ∈ run.1, rd.used ≤ rd.size
  inside : run.2 ≠ .outside

theorem roundsInside_nil {e : PatchEnd} (h : e ≠ .outside) : RoundsInside ([], e) :=
  ⟨fun _ hrd => absurd hrd List.not_mem_nil, h⟩

theorem roundsInside_cons {rd : Round} {rds : List Round} {e : PatchEnd} :
    RoundsInside (rd :: rds, e) ↔ rd.used ≤ rd.size ∧ RoundsInside (rds, e) := by
  constructor
  · intro h
    exact ⟨h.used rd List.mem_cons_self,
      fun rd' hrd => h.used rd' (List.mem_cons_of_mem rd hrd), h.inside⟩
  · rintro ⟨hrd, h⟩
    refine ⟨fun rd' hmem => ?_, h.inside⟩
    rcases List.mem_cons.mp hmem with rfl | hmem
    · exact hrd
    · exact h.used rd' hmem

-- A round on a well-formed descriptor leaves the loop to the bytes behind it, or ends it for want
-- of memory.
theorem patchLoopRounds_descriptor (heap : Heap) {desc : Nat} {s : PatchState}
    (d : Descriptor cfg) {tail : List UInt8} (hmem : Holds s.mem desc (d.bytes ++ tail))
    (hsize : (d.bytes ++ tail).length < 2 ^ cfg.sizeBits) :
    (∃ s' : PatchState, Holds s'.mem (desc + d.size) tail ∧
      ∀ fuel, patchLoopRounds cfg heap (fuel + 1) desc (d.bytes ++ tail).length s
        = (⟨desc, (d.bytes ++ tail).length, d.size⟩
              :: (patchLoopRounds cfg heap fuel (desc + d.size) tail.length s').1,
            (patchLoopRounds cfg heap fuel (desc + d.size) tail.length s').2)) ∨
      heap.realloc (s.manifestSize + d.size) = false ∧
        ∀ fuel, patchLoopRounds cfg heap (fuel + 1) desc (d.bytes ++ tail).length s
          = ([⟨desc, (d.bytes ++ tail).length, d.size⟩], .noMemory) := by
  obtain ⟨hd, htail⟩ := holds_append.mp hmem
  have hpos := d.size_pos
  simp only [List.length_append, show d.bytes.length = d.size from rfl] at hsize htail ⊢
  obtain ⟨mem, hid, hheld, hframe⟩ :=
    identifyPatchDescriptor_descriptor d s.g hd (Nat.le_add_right d.size tail.length)
  have hrest : Holds mem (desc + d.size) tail := htail.congr fun i _ => hframe _ (by omega)
  have hsub : cfg.sizeSub (d.size + tail.length) d.size = tail.length := by
    rw [Config.sizeSub_eq (by omega) hsize, Nat.add_sub_cancel_left]
  cases hk : d.kept with
  | false =>
    refine .inl ⟨{ s with mem, g := d.notePatch s.g }, hrest, fun fuel => ?_⟩
    rw [patchLoopRounds, if_neg (by omega), hid]
    simp only [hk, Bool.false_eq_true, if_false]
    rw [if_pos (by omega), Int.neg_neg, Int.toNat_natCast, hsub]
  | true =>
    have hload := hheld.loadN
    rw [show (d.renumber s.g).bytes.length = d.size from d.renumber_size s.g] at hload
    have hround : ∀ fuel, patchLoopRounds cfg heap (fuel + 1) desc (d.size + tail.length) s
        = if heap.realloc (s.manifestSize + d.size) then
            (⟨desc, d.size + tail.length, d.size⟩ ::
                (patchLoopRounds cfg heap fuel (desc + d.size) tail.length
                  (PatchState.append heap (d.renumber s.g).bytes
                    { s with mem, g := d.notePatch s.g })).1,
              (patchLoopRounds cfg heap fuel (desc + d.size) tail.length
                (PatchState.append heap (d.renumber s.g).bytes
                  { s with mem, g := d.notePatch s.g })).2)
          else ([⟨desc, d.size + tail.length, d.size⟩], .noMemory) := by
      intro fuel
      rw [patchLoopRounds, if_neg (by omega), hid]
      simp only [hk, if_true]
      rw [if_neg (by omega), Int.toNat_natCast, hsub, hload]
    cases hroom : heap.realloc (s.manifestSize + d.size) with
    | false => exact .inr ⟨rfl, fun fuel => by rw [hround, hroom, if_neg (by decide)]⟩
    | true => exact .inl ⟨_, hrest, fun fuel => by rw [hround, hroom, if_pos rfl]⟩

-- Where no descriptor lies the error code is skipped.
theorem patchLoopRounds_refused (heap : Heap) {desc : Nat} {s : PatchState}
    {rest : List UInt8} (hmem : Holds s.mem desc rest)
    (hnone : ¬ StartsWithDescriptor cfg rest) (hne : rest ≠ []) :
    (∃ s' : PatchState, (∀ a, desc + 7 ≤ a → s'.mem a = s.mem a) ∧
      ∀ fuel, patchLoopRounds cfg heap (fuel + 1) desc rest.length s
        = (⟨desc, rest.length, EINVAL.toNat⟩ ::
              (patchLoopRounds cfg heap fuel (desc + EINVAL.toNat)
                (cfg.sizeSub rest.length EINVAL.toNat) s').1,
            (patchLoopRounds cfg heap fuel (desc + EINVAL.toNat)
              (cfg.sizeSub rest.length EINVAL.toNat) s').2)) ∨
      identifyPatchDescriptor cfg s.mem desc rest.length s.g = none ∧
        ∀ fuel, patchLoopRounds cfg heap (fuel + 1) desc rest.length s
          = ([⟨desc, rest.length, 0⟩], .outside) := by
  have hlen : rest.length ≠ 0 := fun h => hne (List.length_eq_zero_iff.mp h)
  cases hid : identifyPatchDescriptor cfg s.mem desc rest.length s.g with
  | none =>
    refine .inr ⟨rfl, fun fuel => ?_⟩
    rw [patchLoopRounds, if_neg hlen, hid]
  | some res =>
    obtain ⟨r, mem, g⟩ := res
    obtain ⟨rfl, hframe⟩ := identifyPatchDescriptor_refuses hmem hnone hid
    refine .inl ⟨{ s with mem, g }, hframe, fun fuel => ?_⟩
    rw [patchLoopRounds, if_neg hlen, hid]
    rfl

-- Seven bytes of the skipped ones may have been raised, the rest is as it was.
theorem holds_skip {mem mem' : Mem} {desc : Nat} {rest : List UInt8} (hmem : Holds mem desc rest)
    (hlong : EINVAL.toNat ≤ rest.length) (hframe : ∀ a, desc + 7 ≤ a → mem' a = mem a) :
    Holds mem' (desc + EINVAL.toNat) (rest.drop EINVAL.toNat) := by
  have heinval : EINVAL.toNat = 22 := rfl
  exact (hmem.drop hlong).congr fun i _ => hframe _ (by omega)

theorem sizeSub_EINVAL {rest : List UInt8} (hlong : EINVAL.toNat ≤ rest.length)
    (hsize : rest.length < 2 ^ cfg.sizeBits) :
    cfg.sizeSub rest.length EINVAL.toNat = (rest.drop EINVAL.toNat).length := by
  rw [Config.sizeSub_eq hlong hsize, List.length_drop]

-- On bytes that can be cut up so the loop stays inside, and ends.
theorem PatchFits.inside (heap : Heap) {rest : List UInt8} (h : PatchFits cfg rest)
    (fuel : Nat) {desc : Nat} {s : PatchState} (hmem : Holds s.mem desc rest)
    (hsize : rest.length < 2 ^ cfg.sizeBits) :
    RoundsInside (patchLoopRounds cfg heap fuel desc rest.length s) ∧
      (rest.length < fuel →
        (patchLoopRounds cfg heap fuel desc rest.length s).2 ≠ .unfinished) := by
  induction h generalizing fuel desc s with
  | nil =>
    cases fuel with
    | zero => exact ⟨roundsInside_nil (by simp), fun hfuel => absurd hfuel (Nat.not_lt_zero _)⟩
    | succ fuel =>
      rw [patchLoopRounds, if_pos List.length_nil]
      exact ⟨roundsInside_nil (by simp), fun _ => by simp⟩
  | @descriptor d tail _ ih =>
    have hpos := d.size_pos
    have hsplit : (d.bytes ++ tail).length = d.size + tail.length := List.length_append
    cases fuel with
    | zero => exact ⟨roundsInside_nil (by simp), fun hfuel => absurd hfuel (Nat.not_lt_zero _)⟩
    | succ fuel =>
      rcases patchLoopRounds_descriptor heap d hmem hsize with ⟨s', hheld, hrun⟩ | ⟨-, hrun⟩
      · obtain ⟨hinside, hends⟩ := ih fuel hheld (by omega)
        rw [hrun, roundsInside_cons]
        exact ⟨⟨by rw [hsplit]; exact Nat.le_add_right _ _, hinside⟩, fun hfuel => hends (by omega)⟩
      · rw [hrun, roundsInside_cons]
        exact ⟨⟨by rw [hsplit]; exact Nat.le_add_right _ _, roundsInside_nil (by simp)⟩,
          fun _ => by simp⟩
  | @refused rest hnone hlong _ ih =>
    have hdrop : (rest.drop EINVAL.toNat).length = rest.length - EINVAL.toNat := List.length_drop
    have heinval : EINVAL.toNat = 22 := rfl
    have hne : rest ≠ [] := by
      rintro rfl
      exact absurd hlong (by decide)
    cases fuel with
    | zero => exact ⟨roundsInside_nil (by simp), fun hfuel => absurd hfuel (Nat.not_lt_zero _)⟩
    | succ fuel =>
      rcases patchLoopRounds_refused heap hmem hnone hne with ⟨s', hframe, hrun⟩ | ⟨hout, -⟩
      · obtain ⟨hinside, hends⟩ := ih fuel (holds_skip hmem hlong hframe) (by omega)
        rw [hrun, sizeSub_EINVAL hlong hsize, roundsInside_cons]
        exact ⟨⟨hlong, hinside⟩, fun hfuel => hends (by omega)⟩
      · have hsome :=
          @identifyPatchDescriptor_isSome cfg _ _ _ s.g hmem (show 7 ≤ rest.length by omega)
        rw [hout] at hsome
        cases hsome

-- Nothing else keeps it inside, when memory does not run out.
theorem patchFits_of_inside {heap : Heap} (hroom : ∀ n, heap.realloc n = true) (n : Nat)
    {rest : List UInt8} (hn : rest.length ≤ n) {desc : Nat} {s : PatchState}
    (hmem : Holds s.mem desc rest) (hsize : rest.length < 2 ^ cfg.sizeBits)
    (h : ∀ fuel, RoundsInside (patchLoopRounds cfg heap fuel desc rest.length s)) :
    PatchFits cfg rest := by
  induction n generalizing rest desc s with
  | zero =>
    obtain rfl := List.length_eq_zero_iff.mp (Nat.le_zero.mp hn)
    exact .nil
  | succ n ih =>
    by_cases hne : rest = []
    · rw [hne]
      exact .nil
    by_cases hstart : StartsWithDescriptor cfg rest
    · obtain ⟨d, tail, rfl⟩ := hstart
      have hpos := d.size_pos
      have hsplit : (d.bytes ++ tail).length = d.size + tail.length := List.length_append
      rcases patchLoopRounds_descriptor heap d hmem hsize with ⟨s', hheld, hrun⟩ | ⟨hfull, -⟩
      · refine .descriptor d (ih (by omega) hheld (by omega) fun fuel => ?_)
        have hround := h (fuel + 1)
        rw [hrun, roundsInside_cons] at hround
        exact hround.2
      · rw [hroom] at hfull
        cases hfull
    · rcases patchLoopRounds_refused heap hmem hstart hne with ⟨s', hframe, hrun⟩ | ⟨-, hrun⟩
      · have hlong : EINVAL.toNat ≤ rest.length := by
          have hround := h 1
          rw [hrun, roundsInside_cons] at hround
          exact hround.1
        have heinval : EINVAL.toNat = 22 := rfl
        have hdrop : (rest.drop EINVAL.toNat).length = rest.length - EINVAL.toNat :=
          List.length_drop
        refine .refused hstart hlong
          (ih (by omega) (holds_skip hmem hlong hframe) (by omega) fun fuel => ?_)
        have hround := h (fuel + 1)
        rw [hrun, sizeSub_EINVAL hlong hsize, roundsInside_cons] at hround
        exact hround.2
      · have hround := h 1
        rw [hrun] at hround
        exact absurd rfl hround.inside

/-! ## One call -/

/-- A call on a fragment of `n` bytes stays inside it and ends: no more than `n` rounds are made. -/
structure WithinFragment (run : Nat → List Round × PatchEnd) (n : Nat) : Prop where
  rounds : ∀ fuel, RoundsInside (run fuel)
  ends : (run n).2 ≠ .unfinished

theorem manifestPatchRounds_valid {mem : Mem} {data : List UInt8} (heap : Heap) (fuel : Nat)
    (blob : List UInt8) (g : ManifestState) (hmem : Holds mem 0 data) (hvalid : HeaderValid data) :
    manifestPatchRounds cfg heap fuel mem data.length blob g
      = patchLoopRounds cfg heap fuel sizeofManifestHeader (data.drop sizeofManifestHeader).length
          { mem, blob, manifestSize := headerSize blob, g := g.resetPatch } := by
  have hlong : 4 < data.length := hvalid.long
  have hsize : load16 mem 0 = some data.length := by
    rw [hmem.load16 (i := 0) (by omega)]
    exact congrArg some hvalid.size
  have hversion : mem 2 = some (fieldAt data 2) := hmem.load8 (i := 2) (by omega)
  have hlt := hvalid.length_lt
  unfold manifestPatchRounds
  simp only [if_neg (Nat.not_le.mpr hvalid.long), hsize, hversion, ne_eq, not_true, if_false,
    gt_iff_lt, UInt8.not_lt.mpr hvalid.version, List.length_drop]
  rw [Config.sizeSub_of_le (Nat.le_of_lt hvalid.long) (by omega)]

theorem manifestPatchRounds_invalid {mem : Mem} {data : List UInt8} (heap : Heap) (fuel : Nat)
    (blob : List UInt8) (g : ManifestState) (hmem : Holds mem 0 data)
    (hvalid : ¬ HeaderValid data) :
    manifestPatchRounds cfg heap fuel mem data.length blob g
      = ([], .returned false { mem, blob, manifestSize := headerSize blob, g }) := by
  unfold manifestPatchRounds
  split
  next => rfl
  next hlong =>
    simp only [sizeofManifestHeader, Nat.not_le] at hlong
    rw [hmem.load16 (i := 0) (by omega)]
    dsimp only
    split
    next => rfl
    next hsize =>
      have hversion : mem 2 = some (fieldAt data 2) := hmem.load8 (i := 2) (by omega)
      rw [hversion]
      refine if_pos ?_
      by_contra hv
      exact hvalid ⟨hlong, not_not.mp hsize, UInt8.not_lt.mp hv⟩

/-- All calls on a fragment stay inside it and end, exactly if its header is refused or its body can
be cut up into well-formed descriptors and, where none lies, blocks of 22 bytes. -/
theorem manifestPatch_within_iff (cfg : Config) (data : List UInt8) (after : Nat → Option UInt8)
    (blob : List UInt8) (g : ManifestState) :
    (∀ heap, WithinFragment (fun fuel =>
        manifestPatchRounds cfg heap fuel (ofBuffer data after) data.length blob g) data.length) ↔
      (HeaderValid data → PatchFits cfg (data.drop sizeofManifestHeader)) := by
  have hmem := holds_ofBuffer data after
  by_cases hvalid : HeaderValid data
  · have hbody := hvalid.body hmem
    have hsize := hvalid.drop_length_lt cfg sizeofManifestHeader
    have hlong : 4 < data.length := hvalid.long
    have hdrop : (data.drop sizeofManifestHeader).length = data.length - 4 := List.length_drop
    constructor
    · intro hwithin _
      have hrounds := (hwithin ⟨fun _ => true, fun _ => 0⟩).rounds
      simp only [manifestPatchRounds_valid _ _ blob g hmem hvalid] at hrounds
      exact patchFits_of_inside (fun _ => rfl) _ (Nat.le_refl _) hbody hsize hrounds
    · intro hfits heap
      refine ⟨fun fuel => ?_, ?_⟩
      · rw [manifestPatchRounds_valid _ _ blob g hmem hvalid]
        exact ((hfits hvalid).inside heap fuel hbody hsize).1
      · rw [manifestPatchRounds_valid _ _ blob g hmem hvalid]
        exact ((hfits hvalid).inside heap data.length hbody hsize).2 (by omega)
  · refine iff_of_true (fun heap => ⟨fun fuel => ?_, ?_⟩) fun h => absurd h hvalid
    · rw [manifestPatchRounds_invalid _ _ blob g hmem hvalid]
      exact roundsInside_nil (by simp)
    · rw [manifestPatchRounds_invalid _ _ blob g hmem hvalid]
      simp

/-- A fragment whose one descriptor has the type 0. -/
def untypedFragment : List UInt8 := [8, 0, 0, 1] ++ [4, 0, 0, 0]

-- With 4 bytes left the loop subtracts 22.
theorem untypedFragment_not_within :
    ¬ WithinFragment (fun fuel => manifestPatchRounds .native ⟨fun _ => true, fun _ => 0⟩ fuel
      (ofBuffer untypedFragment fun _ => none) 8 [4, 0, 0, 1] .initial) 8 := by
  intro hwithin
  have hrounds := (hwithin.rounds 1).used
  have hround : (manifestPatchRounds .native ⟨fun _ => true, fun _ => 0⟩ 1
      (ofBuffer untypedFragment fun _ => none) 8 [4, 0, 0, 1] .initial).1 = [⟨4, 4, 22⟩] := rfl
  rw [hround] at hrounds
  exact absurd (hrounds _ List.mem_cons_self) (by decide)

end Greybus
