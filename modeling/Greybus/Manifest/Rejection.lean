import Greybus.Manifest.Parse
import Greybus.Reasoning.Growth

/-!
# Rejected manifests

A descriptor takes effect when the walk comes to it, and nothing takes an effect back when a later
descriptor is refused.  Even a refused descriptor raises the recorded maximum of its ids.
-/

namespace Greybus

open Reasoning.Memory Reasoning.Growth

variable {cfg : Config}

/-- The fields that a parse may change are the same. -/
structure SameManifest (g g' : ManifestState) : Prop where
  cports : g'.cports = g.cports
  maxBundleId : g'.maxBundleId = g.maxBundleId
  maxStringId : g'.maxStringId = g.maxStringId
  maxPropertyId : g'.maxPropertyId = g.maxPropertyId
  maxDeviceId : g'.maxDeviceId = g.maxDeviceId

/-- The number of CPorts and the recorded maxima together. -/
def ManifestState.weight (g : ManifestState) : Nat :=
  g.cports.length + g.maxBundleId + g.maxStringId + g.maxPropertyId + g.maxDeviceId

theorem SameManifest.weight_eq {g g' : ManifestState} (h : SameManifest g g') :
    g'.weight = g.weight := by
  simp only [ManifestState.weight, h.cports, h.maxBundleId, h.maxStringId, h.maxPropertyId,
    h.maxDeviceId]

/-! ## What is recorded of a descriptor before it is checked -/

/-- The byte at an address, as a number. -/
def byteAt (mem : Mem) (a : Nat) : Nat := ((mem a).getD 0).toNat

/-- The state that `identify_descriptor` leaves behind for the bytes `rest` at `desc`, whether it
accepts them or not. -/
def noted (mem : Mem) (malloc : Nat → Bool) (desc : Nat) (rest : List UInt8) (g : ManifestState) :
    ManifestState :=
  if sizeofDescriptorHeader ≤ rest.length ∧ declaredSize rest ≤ rest.length then
    match typeOf rest with
    | .string => { g with maxStringId := max g.maxStringId (byteAt mem (desc + 5)) }
    | .bundle => { g with maxBundleId := max g.maxBundleId (byteAt mem (desc + 4)) }
    | .property => { g with maxPropertyId := max g.maxPropertyId (byteAt mem (desc + 5)) }
    | .device => { g with maxDeviceId := max g.maxDeviceId (byteAt mem (desc + 4)) }
    | .cport =>
      if sizeofDescriptorHeader + DescriptorType.sizeofBody .cport ≤ declaredSize rest ∧
          malloc desc = true then
        g.allocCport {
          id := le16 (fieldAt rest 4) (fieldAt rest 5)
          bundle := (fieldAt rest 6).toNat
          protocol := (fieldAt rest 7).toNat }
      else g
    | .interface => g
    | .mikrobus => g
    | .invalid => g
  else g

/-- The bytes `rest` at `desc` tell the parser nothing new: its id is not above the maximum, and no
CPort gets memory.  Bytes that are too short for a descriptor are not looked at. -/
def Quiet (mem : Mem) (malloc : Nat → Bool) (desc : Nat) (rest : List UInt8) (g : ManifestState) :
    Prop :=
  sizeofDescriptorHeader ≤ rest.length → declaredSize rest ≤ rest.length →
    match typeOf rest with
    | .string => byteAt mem (desc + 5) ≤ g.maxStringId
    | .bundle => byteAt mem (desc + 4) ≤ g.maxBundleId
    | .property => byteAt mem (desc + 5) ≤ g.maxPropertyId
    | .device => byteAt mem (desc + 4) ≤ g.maxDeviceId
    | .cport =>
      sizeofDescriptorHeader + DescriptorType.sizeofBody .cport ≤ declaredSize rest →
        malloc desc = false
    | .interface => True
    | .mikrobus => True
    | .invalid => True

theorem checkSize_snd (descSize expectedSize : Nat) (g : ManifestState) :
    (checkSize descSize expectedSize g).2 = g := by
  unfold checkSize
  split <;> rfl

theorem identifyDescriptor_noted {mem : Mem} {malloc : Nat → Bool} {desc : Nat}
    {rest : List UInt8} {g g' : ManifestState} {r : Int} (hmem : Holds mem desc rest)
    (h : identifyDescriptor cfg mem malloc desc rest.length false g = some (r, g')) :
    g' = noted mem malloc desc rest g := by
  show (r, g').2 = _
  generalize (r, g') = res at h
  unfold identifyDescriptor at h
  unfold noted
  split at h
  next hhead =>
    rw [if_neg (by omega), ← Option.some.inj h]
  next hhead =>
  simp only [sizeofDescriptorHeader, Nat.not_lt] at hhead
  have hheader := load16_header hmem (by omega)
  have hsecond : mem (desc + 2) = some (fieldAt rest 2) := hmem.load8 (by omega)
  simp only [hheader, hsecond, Option.bind_some] at h
  split at h
  next hbig => rw [if_neg (by omega), ← Option.some.inj h]
  next hfits =>
  rw [if_pos ⟨hhead, by omega⟩]
  unfold typeOf
  cases ht : DescriptorType.ofByte (fieldAt rest 2) <;> simp only [ht] at h ⊢
  case string | property =>
    simp only [Option.bind_eq_some_iff, Option.map_eq_some_iff] at h
    obtain ⟨length, -, id, hid, rfl⟩ := h
    rw [checkSize_snd, byteAt, hid, Option.getD_some]
  case bundle | device =>
    obtain ⟨id, hid, rfl⟩ := Option.map_eq_some_iff.mp h
    rw [checkSize_snd, byteAt, hid, Option.getD_some]
  case interface => rw [← Option.some.inj h, checkSize_snd]
  case invalid => rw [← Option.some.inj h]
  case mikrobus =>
    split at h
    next => rw [← Option.some.inj h, checkSize_snd]
    next => rw [← Option.some.inj h]
  case cport =>
    split at h
    next hlong =>
      simp only [sizeofDescriptorHeader, DescriptorType.sizeofBody] at hlong
      cases hm : malloc desc with
      | false =>
        simp only [hm, Bool.not_false, if_true, Bool.false_eq_true, if_false, Option.some.injEq]
          at h
        rw [if_neg (by simp), ← h]
      | true =>
        have hid : load16 mem (desc + 4) = some (le16 (fieldAt rest 4) (fieldAt rest 5)) :=
          hmem.load16 (by omega)
        have hbundle : mem (desc + 6) = some (fieldAt rest 6) := hmem.load8 (by omega)
        have hprotocol : mem (desc + 7) = some (fieldAt rest 7) := hmem.load8 (by omega)
        simp only [hm, Bool.not_false, if_true, hid, hbundle, hprotocol, Option.bind_some,
          Option.map_some, Option.some.injEq] at h
        rw [if_pos ⟨hlong, rfl⟩, ← h, checkSize_snd]
    next hshort => rw [if_neg (fun hc => hshort hc.1), ← Option.some.inj h, checkSize_snd]

-- What is recorded only grows, and stays the same for quiet bytes alone.
theorem noted_spec (mem : Mem) (malloc : Nat → Bool) (desc : Nat) (rest : List UInt8)
    (g : ManifestState) :
    Grows ManifestState.weight g (noted mem malloc desc rest g) ∧
      (noted mem malloc desc rest g = g ↔ Quiet mem malloc desc rest g) := by
  unfold noted Quiet
  split
  next hin =>
    rw [forall_prop_of_true hin.1, forall_prop_of_true hin.2]
    cases typeOf rest with
    | string | bundle | property | device =>
      apply grows_of_cases
      · intro hle
        simp only [Nat.max_eq_left hle]
      · intro hlt
        simp only [ManifestState.weight]
        omega
    | cport =>
      apply grows_of_cases
      · intro hquiet
        apply if_neg
        rintro ⟨hlong, hmalloc⟩
        rw [hquiet hlong] at hmalloc
        cases hmalloc
      · intro hnew
        simp only [Classical.not_imp, Bool.not_eq_false] at hnew
        simp only [if_pos hnew, ManifestState.weight, ManifestState.allocCport,
          List.length_append, List.length_singleton]
        omega
    | interface | mikrobus | invalid => exact ⟨.refl _ _, iff_of_true rfl trivial⟩
  next hout =>
    refine ⟨.refl _ _, iff_of_true rfl fun hhead hfits => ?_⟩
    exact absurd ⟨hhead, hfits⟩ hout

theorem identifyDescriptor_grows {mem : Mem} {malloc : Nat → Bool} {desc : Nat}
    {rest : List UInt8} {g g' : ManifestState} {r : Int} (hmem : Holds mem desc rest)
    (h : identifyDescriptor cfg mem malloc desc rest.length false g = some (r, g')) :
    Grows ManifestState.weight g g' ∧ (g' = g ↔ Quiet mem malloc desc rest g) := by
  rw [identifyDescriptor_noted hmem h]
  exact noted_spec mem malloc desc rest g

/-! ## The walk -/

-- A descriptor that is accepted is quiet exactly when it changes nothing.
theorem visit_grows {mem : Mem} {malloc : Nat → Bool} {desc : Nat} {rest : List UInt8}
    (d : Descriptor cfg) (g : ManifestState) (hmem : Holds mem desc (d.bytes ++ rest))
    (halloc : d.Allocated malloc false desc) :
    Grows ManifestState.weight g (d.visit false g) ∧
      (d.visit false g = g ↔ Quiet mem malloc desc (d.bytes ++ rest) g) := by
  have hsize : d.size ≤ (d.bytes ++ rest).length := by
    rw [List.length_append]
    exact Nat.le_add_right _ _
  exact identifyDescriptor_grows hmem
    (identifyDescriptor_visit d g (holds_append.mp hmem).1 hsize halloc)

theorem register_grows (d : Descriptor cfg) (g : ManifestState) :
    Grows ManifestState.weight g (d.register g) := by
  rw [← d.visit_false]
  have hmem := holds_ofBuffer (d.bytes ++ []) fun _ => none
  exact (@visit_grows cfg _ (fun _ => true) _ _ d g hmem fun _ _ => rfl).1

theorem parseLoop_grows {mem : Mem} {malloc : Nat → Bool} {fuel desc : Nat} {rest : List UInt8}
    {g g' : ManifestState} {ok : Bool} (hmem : Holds mem desc rest)
    (hsize : rest.length < 2 ^ cfg.sizeBits)
    (h : parseLoop cfg mem malloc false fuel desc rest.length g = some (ok, g')) :
    Grows ManifestState.weight g g' := by
  obtain ⟨ds, tail, rfl, halloc, hend⟩ := parseLoop_walk hmem hsize h
  have hds : Grows ManifestState.weight g (visitAll false ds g) := by
    rw [visitAll_false]
    exact foldl_grows (fun g d => register_grows d g) ds g
  rcases hend with ⟨-, hres⟩ | ⟨-, r, g₁, -, hres, hid⟩
  · rw [(Prod.mk.inj hres).2]
    exact hds
  · rw [(Prod.mk.inj hres).2]
    exact hds.trans (identifyDescriptor_grows (holds_append.mp hmem).2 hid).1

-- What the first round has recorded stays recorded.
theorem parseLoop_first {mem : Mem} {malloc : Nat → Bool} {fuel desc : Nat} {rest : List UInt8}
    {g g' : ManifestState} {ok : Bool} (hmem : Holds mem desc rest)
    (hsize : rest.length < 2 ^ cfg.sizeBits)
    (hne : rest.length ≠ 0)
    (h : parseLoop cfg mem malloc false (fuel + 1) desc rest.length g = some (ok, g')) :
    ∃ r g₁, identifyDescriptor cfg mem malloc desc rest.length false g = some (r, g₁) ∧
      Grows ManifestState.weight g₁ g' := by
  rw [parseLoop, if_neg hne] at h
  obtain ⟨⟨r, g₁⟩, hid, hround⟩ := Option.bind_eq_some_iff.mp h
  refine ⟨r, g₁, hid, ?_⟩
  split at hround
  next =>
    obtain ⟨-, rfl⟩ := Prod.mk.inj (Option.some.inj hround)
    exact .refl _ _
  next hr =>
    obtain ⟨d, tail, rfl, rfl, -, -⟩ := identifyDescriptor_visits hmem hid (by omega)
    have htail := (holds_append.mp hmem).2
    simp only [List.length_append, show d.bytes.length = d.size from rfl] at hsize hround htail
    rw [Int.toNat_natCast, Config.sizeSub_eq (by omega) hsize,
      Nat.add_sub_cancel_left] at hround
    exact parseLoop_grows htail (by omega) hround

-- The walk over quiet descriptors changes nothing.
theorem visitAll_quiet {mem : Mem} {malloc : Nat → Bool} {desc : Nat} {tail : List UInt8}
    (ds : List (Descriptor cfg)) (g : ManifestState)
    (hmem : Holds mem desc (Descriptor.encode ds ++ tail))
    (halloc : AllAllocated malloc false desc ds)
    (hquiet : ∀ (es : List (Descriptor cfg)) (rest : List UInt8),
      Descriptor.encode ds ++ tail = Descriptor.encode es ++ rest →
      AllAllocated malloc false desc es →
      Quiet mem malloc (desc + (Descriptor.encode es).length) rest g) :
    visitAll false ds g = g := by
  induction ds generalizing desc with
  | nil => rfl
  | cons d ds ih =>
    rw [Descriptor.encode_cons, List.append_assoc] at hmem hquiet
    have hd : Quiet mem malloc desc (d.bytes ++ (Descriptor.encode ds ++ tail)) g :=
      hquiet [] _ rfl trivial
    have hsame : d.visit false g = g := (visit_grows d g hmem halloc.1).2.mpr hd
    have htail := ih (holds_append.mp hmem).2 halloc.2 fun es rest heq hes => by
      have hmore := hquiet (d :: es) rest (by rw [heq]; simp) ⟨halloc.1, hes⟩
      rw [Descriptor.encode_cons, List.length_append, ← Nat.add_assoc] at hmore
      exact hmore
    unfold visitAll at htail ⊢
    rw [List.foldl_cons, hsame, htail]

/-! ## The whole parser -/

/-- `manifest_parse` comes to the bytes `rest` after the descriptors `ds`. -/
def Reaches (malloc : Nat → Bool) (data : List UInt8) (ds : List (Descriptor cfg))
    (rest : List UInt8) : Prop :=
  data.drop sizeofManifestHeader = Descriptor.encode ds ++ rest ∧
    AllAllocated malloc false sizeofManifestHeader ds

-- A manifest that is walked over to its end is accepted.
theorem manifestParse_reaches_end {mem : Mem} {malloc : Nat → Bool} {data : List UInt8}
    {ds : List (Descriptor cfg)} (g : ManifestState) (hmem : Holds mem 0 data)
    (hvalid : HeaderValid data) (hreach : Reaches malloc data ds []) :
    manifestParse cfg mem malloc data.length g = some (true, visitAll false ds g) := by
  obtain ⟨hds, halloc⟩ := hreach
  have hbody := hvalid.body hmem
  have hlt := hvalid.drop_length_lt cfg sizeofManifestHeader
  rw [List.append_nil] at hds
  rw [hds] at hbody hlt
  rw [manifestParse_valid malloc g hmem hvalid, hds]
  exact parseLoop_encode ds g hbody halloc hlt (Nat.lt_succ_self _)

theorem manifestParse_reaches {mem : Mem} {malloc : Nat → Bool} {data : List UInt8}
    {g g' : ManifestState} (hmem : Holds mem 0 data)
    (h : manifestParse cfg mem malloc data.length g = some (true, g')) :
    ∃ ds : List (Descriptor cfg), Reaches malloc data ds [] := by
  obtain ⟨hvalid, -⟩ := manifestParse_accepts hmem h
  rw [manifestParse_valid malloc g hmem hvalid] at h
  obtain ⟨ds, hds, halloc, -⟩ :=
    parseLoop_accepts (hvalid.body hmem) (hvalid.drop_length_lt cfg _) h
  exact ⟨ds, by rw [hds, List.append_nil], halloc⟩

-- Quiet bytes leave everything as it was, up to the descriptor that is refused.
theorem unchanged_of_quiet {mem : Mem} {malloc : Nat → Bool} {data : List UInt8}
    {g g' : ManifestState} (hmem : Holds mem 0 data) (hvalid : HeaderValid data)
    (hparse : manifestParse cfg mem malloc data.length g = some (false, g'))
    (hquiet : ∀ (ds : List (Descriptor cfg)) rest, Reaches malloc data ds rest →
      Quiet mem malloc (sizeofManifestHeader + (Descriptor.encode ds).length) rest g) :
    g' = g := by
  have hbody := hvalid.body hmem
  rw [manifestParse_valid malloc g hmem hvalid] at hparse
  obtain ⟨ds, tail, hds, halloc, hend⟩ :=
    parseLoop_walk hbody (hvalid.drop_length_lt cfg _) hparse
  rw [hds] at hbody
  have hall : visitAll false ds g = g := by
    apply visitAll_quiet ds g hbody halloc
    intro es rest heq hes
    exact hquiet es rest ⟨hds.trans heq, hes⟩
  rw [hall] at hend
  rcases hend with ⟨-, hres⟩ | ⟨-, r, g₁, -, hres, hid⟩
  · simp at hres
  · rw [(Prod.mk.inj hres).2]
    have hgrows := (identifyDescriptor_grows (holds_append.mp hbody).2 hid).2
    exact hgrows.mpr (hquiet ds tail ⟨hds, halloc⟩)

-- A parse that leaves everything as it was has met quiet bytes only.
theorem quiet_of_reaches {mem : Mem} {malloc : Nat → Bool} {data : List UInt8}
    {ds : List (Descriptor cfg)} {rest : List UInt8} {g g' : ManifestState} {ok : Bool}
    (hmem : Holds mem 0 data) (hvalid : HeaderValid data) (hreach : Reaches malloc data ds rest)
    (hparse : manifestParse cfg mem malloc data.length g = some (ok, g'))
    (hsame : SameManifest g g') :
    Quiet mem malloc (sizeofManifestHeader + (Descriptor.encode ds).length) rest g := by
  obtain ⟨hds, halloc⟩ := hreach
  have hbody := hvalid.body hmem
  have hlt := hvalid.drop_length_lt cfg sizeofManifestHeader
  have hcount := Descriptor.length_encode_ge ds
  rw [hds] at hbody hlt
  have htail := (holds_append.mp hbody).2
  obtain ⟨k, hk⟩ : ∃ k, (Descriptor.encode ds ++ rest).length + 1 = ds.length + (k + 1) :=
    ⟨(Descriptor.encode ds ++ rest).length - ds.length, by rw [List.length_append]; omega⟩
  rw [manifestParse_valid malloc g hmem hvalid, hds, hk,
    parseLoop_over ds g hbody halloc hlt] at hparse
  rw [List.length_append] at hlt
  have hgrows : Grows ManifestState.weight g (visitAll false ds g) := by
    rw [visitAll_false]
    exact foldl_grows (fun g d => register_grows d g) ds g
  have hrest := parseLoop_grows htail (by omega) hparse
  have hweight := hsame.weight_eq
  -- the state has come back, so it has not changed on the way to `rest` or there
  have hle := hrest.size_le
  have hsame₁ : visitAll false ds g = g := hgrows.eq_of_size_le (by omega)
  rw [hsame₁] at hparse
  intro hhead
  simp only [sizeofDescriptorHeader] at hhead
  obtain ⟨r, g₁, hid, hlast⟩ := parseLoop_first htail (by omega) (by omega) hparse
  obtain ⟨hfirst, hquiet⟩ := identifyDescriptor_grows htail hid
  have hle₁ := hlast.size_le
  exact hquiet.mp (hfirst.eq_of_size_le (by omega)) hhead

/-- When `manifest_parse` returns false, the CPorts and the maxima are as they were exactly if the
header was refused or nothing that the parser came to was new to it, the descriptor it refused
included: no CPORT got memory, and no id was above the recorded maximum. -/
theorem manifestParse_false_unchanged_iff (cfg : Config) (malloc : Nat → Bool)
    (data : List UInt8) (after : Nat → UInt8) (g : ManifestState) :
    (∀ g', manifestParse cfg (ofBuffer data fun i => some (after i)) malloc data.length g
        = some (false, g') → SameManifest g g') ↔
      (HeaderValid data →
        (∃ ds : List (Descriptor cfg), Reaches malloc data ds []) ∨
          ∀ (ds : List (Descriptor cfg)) rest, Reaches malloc data ds rest →
            Quiet (ofBuffer data fun i => some (after i)) malloc
              (sizeofManifestHeader + (Descriptor.encode ds).length) rest g) := by
  have hmem := holds_ofBuffer data fun i => some (after i)
  constructor
  · intro hsame hvalid
    by_cases haccept : ∃ ds : List (Descriptor cfg), Reaches malloc data ds []
    · exact .inl haccept
    · right
      intro ds rest hreach
      obtain ⟨ok, g', hparse⟩ := @manifestParse_total cfg _ malloc _
        (ofBuffer_isSome data after) g hmem
      have hrefused : ok = false := by
        by_contra hok
        rw [Bool.not_eq_false] at hok
        subst hok
        exact haccept (manifestParse_reaches hmem hparse)
      subst hrefused
      exact quiet_of_reaches hmem hvalid hreach hparse (hsame g' hparse)
  · intro hcond g' hparse
    by_cases hvalid : HeaderValid data
    · rcases hcond hvalid with ⟨ds, hreach⟩ | hquiet
      · rw [manifestParse_reaches_end g hmem hvalid hreach] at hparse
        simp at hparse
      · rw [unchanged_of_quiet hmem hvalid hparse hquiet]
        exact ⟨rfl, rfl, rfl, rfl, rfl⟩
    · rw [manifestParse_invalid malloc g hmem hvalid, Option.some.injEq, Prod.mk.injEq] at hparse
      rw [← hparse.2]
      exact ⟨rfl, rfl, rfl, rfl, rfl⟩

/-- A CPORT descriptor in front of a descriptor of type 0. -/
def lateDefect : List UInt8 := [16, 0, 0, 1] ++ [8, 0, 4, 0, 1, 0, 0, 2] ++ [4, 0, 0, 0]

/-- The manifest is refused, and its CPort stays in the list. -/
theorem lateDefect_changes :
    ∃ g', manifestParse .native (ofBuffer lateDefect fun _ => some 0) (fun _ => true)
        lateDefect.length .initial = some (false, g') ∧
      g'.cports = [⟨1, 0, 2⟩] ∧ ¬ SameManifest .initial g' := by
  have hparse : manifestParse .native (ofBuffer lateDefect fun _ => some 0) (fun _ => true)
      lateDefect.length .initial
        = some (false, { ManifestState.initial with cports := [⟨1, 0, 2⟩] }) := by decide +kernel
  refine ⟨_, hparse, rfl, fun hsame => ?_⟩
  have hcports := hsame.cports
  revert hcports
  decide

end Greybus
