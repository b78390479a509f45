import Greybus.Manifest.Descriptor
import Mathlib.Data.Nat.Init

/-!
# Parsing a manifest

`manifest_parse` walks the descriptors after the header, and every descriptor changes the parsed
state as soon as it is seen.  The loop is compared with the sequences of well-formed descriptors.
-/

namespace Greybus

open Reasoning.Memory

/-! ## The code -/

/-- `alloc_cport`, with the fields that the caller stores. -/
def ManifestState.allocCport (g : ManifestState) (c : GbCport) : ManifestState :=
  { g with cports := g.cports ++ [c] }

def ManifestState.freeCport (g : ManifestState) (cportid : Nat) : ManifestState :=
  { g with cports := g.cports.filter fun c => c.id ≠ cportid }

/-- The size checks that end `identify_descriptor`. -/
def checkSize (descSize expectedSize : Nat) (g : ManifestState) : Int × ManifestState :=
  if descSize < expectedSize then (-EINVAL, g) else (descSize, g)

/-- `identify_descriptor` on the descriptor at address `desc`.  `malloc` says which descriptor's
`alloc_cport` finds memory; `none` is a read outside the memory. -/
def identifyDescriptor (cfg : Config) (mem : Mem) (malloc : Nat → Bool) (desc size : Nat)
    (release : Bool) (g : ManifestState) : Option (Int × ManifestState) :=
  if size < sizeofDescriptorHeader then some (-EINVAL, g)
  else
    (load16 mem desc).bind fun descSize =>
    if descSize > size then some (-EINVAL, g)
    else
      (mem (desc + 2)).bind fun type =>
      let expectedSize :=
        sizeofDescriptorHeader + (DescriptorType.ofByte type).sizeofBody
      match DescriptorType.ofByte type with
      | .string =>
        (mem (desc + 4)).bind fun length =>
        (mem (desc + 5)).map fun id =>
        checkSize descSize (align (expectedSize + length.toNat))
          { g with maxStringId := max g.maxStringId id.toNat }
      | .interface => some (checkSize descSize expectedSize g)
      | .bundle =>
        (mem (desc + 4)).map fun id =>
        checkSize descSize expectedSize { g with maxBundleId := max g.maxBundleId id.toNat }
      | .cport =>
        if descSize ≥ expectedSize then
          if !release then
            if malloc desc then
              (load16 mem (desc + 4)).bind fun id =>
              (mem (desc + 6)).bind fun bundle =>
              (mem (desc + 7)).map fun protocolId =>
              checkSize descSize expectedSize
                (g.allocCport { id, bundle := bundle.toNat, protocol := protocolId.toNat })
            else some (-ENOMEM, g)
          else
            (load16 mem (desc + 4)).map fun id =>
            checkSize descSize expectedSize (g.freeCport id)
        else some (checkSize descSize expectedSize g)
      | .property =>
        (mem (desc + 4)).bind fun length =>
        (mem (desc + 5)).map fun id =>
        checkSize descSize (align (expectedSize + length.toNat))
          { g with maxPropertyId := max g.maxPropertyId id.toNat }
      | .device =>
        (mem (desc + 4)).map fun id =>
        checkSize descSize expectedSize { g with maxDeviceId := max g.maxDeviceId id.toNat }
      | .mikrobus =>
        if cfg.mikrobus then some (checkSize descSize expectedSize g) else some (-EINVAL, g)
      | .invalid => some (-EINVAL, g)

/-- At most `fuel` rounds of the loop in `_manifest_parse`. -/
def parseLoop (cfg : Config) (mem : Mem) (malloc : Nat → Bool) (release : Bool) :
    Nat → Nat → Nat → ManifestState → Option (Bool × ManifestState)
  | 0, _, _, _ => none
  | fuel + 1, desc, size, g =>
    if size = 0 then some (true, g)
    else
      (identifyDescriptor cfg mem malloc desc size release g).bind fun res =>
      if res.1 ≤ 0 then some (false, res.2)
      else
        parseLoop cfg mem malloc release fuel (desc + res.1.toNat)
          (cfg.sizeSub size res.1.toNat) res.2

/-- The part of `_manifest_parse` after the header checks.  A round uses up at least one of the
remaining bytes, so that there are at most as many rounds. -/
def parseDescriptors (cfg : Config) (mem : Mem) (malloc : Nat → Bool) (release : Bool) (size : Nat)
    (g : ManifestState) : Option (Bool × ManifestState) :=
  let rest := cfg.sizeSub size sizeofManifestHeader
  parseLoop cfg mem malloc release (rest + 1) sizeofManifestHeader rest g

/-- `_manifest_parse` on the buffer at address 0. -/
def manifestParseRelease (cfg : Config) (mem : Mem) (malloc : Nat → Bool) (size : Nat)
    (release : Bool) (g : ManifestState) : Option (Bool × ManifestState) :=
  if !release then
    if size ≤ sizeofManifestHeader then some (false, g)
    else
      (load16 mem 0).bind fun manifestSize =>
      if manifestSize ≠ size then some (false, g)
      else
        (mem 2).bind fun versionMajor =>
        if versionMajor > greybusVersionMajor then some (false, g)
        else parseDescriptors cfg mem malloc release size g
  else parseDescriptors cfg mem malloc release size g

def manifestParse (cfg : Config) (mem : Mem) (malloc : Nat → Bool) (size : Nat)
    (g : ManifestState) : Option (Bool × ManifestState) :=
  manifestParseRelease cfg mem malloc size false g

def manifestRelease (cfg : Config) (mem : Mem) (malloc : Nat → Bool) (size : Nat)
    (g : ManifestState) : Option (Bool × ManifestState) :=
  manifestParseRelease cfg mem malloc size true g

/-! ## One descriptor -/

/-- What a parsed descriptor changes in the state. -/
def Descriptor.register {cfg : Config} (d : Descriptor cfg) (g : ManifestState) : ManifestState :=
  match d.type with
  | .string => { g with maxStringId := max g.maxStringId (fieldAt d.bytes 5).toNat }
  | .bundle => { g with maxBundleId := max g.maxBundleId (fieldAt d.bytes 4).toNat }
  | .cport =>
    g.allocCport {
      id := le16 (fieldAt d.bytes 4) (fieldAt d.bytes 5)
      bundle := (fieldAt d.bytes 6).toNat
      protocol := (fieldAt d.bytes 7).toNat }
  | .property => { g with maxPropertyId := max g.maxPropertyId (fieldAt d.bytes 5).toNat }
  | .device => { g with maxDeviceId := max g.maxDeviceId (fieldAt d.bytes 4).toNat }
  | .interface => g
  | .mikrobus => g
  | .invalid => g

theorem Descriptor.register_cports {cfg : Config} (d : Descriptor cfg) (g : ManifestState) :
    (d.register g).cports = g.cports ++ d.cport?.toList := by
  cases ht : d.type <;> simp [register, cport?, ht, ManifestState.allocCport]

theorem Descriptor.register_maxBundleId {cfg : Config} (d : Descriptor cfg) (g : ManifestState) :
    (d.register g).maxBundleId = d.bundleId?.toList.foldl max g.maxBundleId := by
  cases ht : d.type <;> simp [register, bundleId?, ht, ManifestState.allocCport]

/-- What a descriptor changes in the state when the walk comes to it; `release` frees its CPort. -/
def Descriptor.visit {cfg : Config} (release : Bool) (d : Descriptor cfg) (g : ManifestState) :
    ManifestState :=
  match d.cport? with
  | some c => if release then g.freeCport c.id else g.allocCport c
  | none => d.register g

theorem Descriptor.visit_false {cfg : Config} (d : Descriptor cfg) (g : ManifestState) :
    d.visit false g = d.register g := by
  cases ht : d.type <;> simp [visit, register, cport?, ht]

/-- The walk gets memory for the descriptor at `desc`, if it asks for any. -/
def Descriptor.Allocated {cfg : Config} (malloc : Nat → Bool) (release : Bool) (desc : Nat)
    (d : Descriptor cfg) : Prop :=
  release = false → d.cport?.isSome → malloc desc = true

theorem checkSize_of_le {descSize expectedSize : Nat} (g : ManifestState)
    (h : expectedSize ≤ descSize) : checkSize descSize expectedSize g = ((descSize : Int), g) := by
  rw [checkSize, if_neg (by omega)]

section Bytes

variable {mem : Mem} {desc : Nat} {rest : List UInt8}

theorem load16_header (hmem : Holds mem desc rest) (hlong : 2 ≤ rest.length) :
    load16 mem desc = some (declaredSize rest) := by
  rw [← Nat.add_zero desc, hmem.load16 hlong]
  rfl

-- A size that fits a body with a length byte reaches beyond that byte.
theorem length_of_le {b : Nat} {length : UInt8} (hmem : Holds mem desc rest)
    (hfits : declaredSize rest ≤ rest.length) (hl : mem (desc + 4) = some length) (hb : 0 < b)
    (hle : align (sizeofDescriptorHeader + b + length.toNat) ≤ declaredSize rest) :
    length = fieldAt rest 4 := by
  have hpad := le_align (sizeofDescriptorHeader + b + length.toNat)
  simp only [sizeofDescriptorHeader] at hpad hle
  have hin : mem (desc + 4) = some (fieldAt rest 4) := hmem.load8 (by omega)
  exact Option.some.inj (hl.symm.trans hin)

end Bytes

-- A well-formed descriptor in memory is consumed whole and takes effect.
theorem identifyDescriptor_visit {cfg : Config} {mem : Mem} {malloc : Nat → Bool} {release : Bool}
    {desc size : Nat} (d : Descriptor cfg) (g : ManifestState) (hmem : Holds mem desc d.bytes)
    (hsize : d.size ≤ size) (hmalloc : d.Allocated malloc release desc) :
    identifyDescriptor cfg mem malloc desc size release g
      = some ((d.size : Int), d.visit release g) := by
  have hlen : 8 ≤ d.size := d.wf.length_ge
  obtain ⟨hdecl, m, hmin, hle⟩ := d.wf
  have hfield : ∀ i, i < 8 → mem (desc + i) = some (fieldAt d.bytes i) :=
    fun i hi => hmem.load8 (Nat.lt_of_lt_of_le hi hlen)
  have hheader : load16 mem desc = some d.size :=
    (load16_header hmem (Nat.le_trans (by decide) hlen)).trans (congrArg some hdecl)
  have hid : load16 mem (desc + 4) = some (le16 (fieldAt d.bytes 4) (fieldAt d.bytes 5)) :=
    hmem.load16 (Nat.lt_of_lt_of_le (by decide) hlen)
  have htype : DescriptorType.ofByte (fieldAt d.bytes 2) = d.type := rfl
  have hnot : ¬ size < sizeofDescriptorHeader := by simp only [sizeofDescriptorHeader]; omega
  change m ≤ d.size at hle
  simp only [minimumSize, show typeOf d.bytes = d.type from rfl] at hmin
  simp only [identifyDescriptor, if_neg hnot, hheader, Option.bind_some,
    if_neg (Nat.not_lt.mpr hsize), hfield 2 (by decide), htype]
  cases ht : d.type <;>
    simp only [ht, Option.some.injEq, Option.ite_none_right_eq_some, reduceCtorEq] at hmin
  case mikrobus =>
    obtain ⟨hcfg, rfl⟩ := hmin
    simp only [hcfg, if_true, Descriptor.visit, Descriptor.cport?, Descriptor.register, ht,
      reduceCtorEq, if_false, checkSize_of_le _ hle]
  case cport =>
    subst hmin
    cases release with
    | true => simp [hid, hle, Descriptor.visit, Descriptor.cport?, ht, checkSize_of_le _ hle]
    | false =>
      have hm : malloc desc = true := hmalloc rfl (by simp [Descriptor.cport?, ht])
      simp [hfield, hid, hle, hm, Descriptor.visit, Descriptor.cport?, ht, checkSize_of_le _ hle]
  all_goals
    subst hmin
    simp [hfield, Descriptor.visit, Descriptor.cport?, Descriptor.register, ht,
      checkSize_of_le _ hle]

-- Without memory a CPORT ends the walk.
theorem identifyDescriptor_refused {cfg : Config} {mem : Mem} {malloc : Nat → Bool}
    {desc size : Nat} (d : Descriptor cfg) (g : ManifestState) (hmem : Holds mem desc d.bytes)
    (hsize : d.size ≤ size) (hcport : d.type = .cport) (hmalloc : malloc desc = false) :
    identifyDescriptor cfg mem malloc desc size false g = some (-ENOMEM, g) := by
  have hlen : 8 ≤ d.size := d.wf.length_ge
  have hheader : load16 mem desc = some d.size :=
    (load16_header hmem (Nat.le_trans (by decide) hlen)).trans (congrArg some d.wf.1)
  have htype : mem (desc + 2) = some (fieldAt d.bytes 2) :=
    hmem.load8 (Nat.lt_of_lt_of_le (by decide) hlen)
  have hof : DescriptorType.ofByte (fieldAt d.bytes 2) = .cport := hcport
  have hnot : ¬ size < sizeofDescriptorHeader := by simp only [sizeofDescriptorHeader]; omega
  have hmin : sizeofDescriptorHeader + DescriptorType.sizeofBody .cport ≤ d.size := hlen
  simp only [identifyDescriptor, if_neg hnot, hheader, Option.bind_some,
    if_neg (Nat.not_lt.mpr hsize), htype, hof, ge_iff_le, if_pos hmin, Bool.not_false, if_true,
    hmalloc, Bool.false_eq_true, if_false]

theorem checkSize_pos {descSize expectedSize : Nat} {g g' : ManifestState} {r : Int}
    (h : checkSize descSize expectedSize g = (r, g')) (hr : 0 < r) :
    expectedSize ≤ descSize ∧ r = descSize := by
  unfold checkSize at h
  split at h <;> simp only [Prod.mk.injEq] at h
  · simp only [← h.1, EINVAL] at hr
    omega
  · exact ⟨by omega, h.1.symm⟩

-- The sizes that an accepted descriptor was compared with.
theorem identifyDescriptor_minimum {cfg : Config} {mem : Mem} {malloc : Nat → Bool} {desc : Nat}
    {rest : List UInt8} {release : Bool} {g g' : ManifestState} {r : Int}
    (hmem : Holds mem desc rest)
    (h : identifyDescriptor cfg mem malloc desc rest.length release g = some (r, g')) (hr : 0 < r) :
    r = declaredSize rest ∧ declaredSize rest ≤ rest.length ∧
      ∃ m, minimumSize cfg rest = some m ∧ m ≤ declaredSize rest := by
  unfold identifyDescriptor at h
  split at h
  next => simp only [Option.some.injEq, Prod.mk.injEq, EINVAL] at h; omega
  next hhead =>
  simp only [sizeofDescriptorHeader, Nat.not_lt] at hhead
  have hheader := load16_header hmem (by omega)
  have hsecond : mem (desc + 2) = some (fieldAt rest 2) := hmem.load8 (by omega)
  simp only [hheader, hsecond, Option.bind_some] at h
  split at h
  next => simp only [Option.some.injEq, Prod.mk.injEq, EINVAL] at h; omega
  next hfits =>
  have hdone : ∀ {m : Nat} {G : ManifestState}, checkSize (declaredSize rest) m G = (r, g') →
      minimumSize cfg rest = some m →
      r = declaredSize rest ∧ declaredSize rest ≤ rest.length ∧
        ∃ m, minimumSize cfg rest = some m ∧ m ≤ declaredSize rest :=
    fun hc hm => ⟨(checkSize_pos hc hr).2, by omega, _, hm, (checkSize_pos hc hr).1⟩
  split at h
  case h_1 ht =>
    simp only [Option.bind_eq_some_iff, Option.map_eq_some_iff] at h
    obtain ⟨length, hl, id, -, hc⟩ := h
    obtain rfl := length_of_le hmem (Nat.not_lt.mp hfits) hl
      (by simp [ht, DescriptorType.sizeofBody]) (checkSize_pos hc hr).1
    exact hdone hc (by simp [minimumSize, typeOf, ht])
  case h_5 ht =>
    simp only [Option.bind_eq_some_iff, Option.map_eq_some_iff] at h
    obtain ⟨length, hl, id, -, hc⟩ := h
    obtain rfl := length_of_le hmem (Nat.not_lt.mp hfits) hl
      (by simp [ht, DescriptorType.sizeofBody]) (checkSize_pos hc hr).1
    exact hdone hc (by simp [minimumSize, typeOf, ht])
  case h_2 ht =>
    exact hdone (Option.some.inj h) (by simp [minimumSize, typeOf, ht])
  case h_3 ht =>
    obtain ⟨id, -, hc⟩ := Option.map_eq_some_iff.mp h
    exact hdone hc (by simp [minimumSize, typeOf, ht])
  case h_4 ht =>
    have hmin : minimumSize cfg rest
        = some (sizeofDescriptorHeader + (DescriptorType.ofByte (fieldAt rest 2)).sizeofBody) := by
      simp [minimumSize, typeOf, ht]
    split at h
    next =>
      split at h
      next =>
        split at h
        next =>
          simp only [Option.bind_eq_some_iff, Option.map_eq_some_iff] at h
          obtain ⟨id, -, bundle, -, protocolId, -, hc⟩ := h
          exact hdone hc hmin
        next => simp only [Option.some.injEq, Prod.mk.injEq, ENOMEM] at h; omega
      next =>
        obtain ⟨id, -, hc⟩ := Option.map_eq_some_iff.mp h
        exact hdone hc hmin
    next => exact hdone (Option.some.inj h) hmin
  case h_6 ht =>
    obtain ⟨id, -, hc⟩ := Option.map_eq_some_iff.mp h
    exact hdone hc (by simp [minimumSize, typeOf, ht])
  case h_7 ht =>
    split at h
    next hcfg => exact hdone (Option.some.inj h) (by simp [minimumSize, typeOf, ht, hcfg])
    next => simp only [Option.some.injEq, Prod.mk.injEq, EINVAL] at h; omega
  case h_8 ht =>
    simp only [Option.some.injEq, Prod.mk.injEq, EINVAL] at h
    omega

-- An accepted size is that of a well-formed descriptor at the front of the remaining bytes.
theorem identifyDescriptor_accepts {cfg : Config} {mem : Mem} {malloc : Nat → Bool} {desc : Nat}
    {rest : List UInt8} {release : Bool} {g g' : ManifestState} {r : Int}
    (hmem : Holds mem desc rest)
    (h : identifyDescriptor cfg mem malloc desc rest.length release g = some (r, g')) (hr : 0 < r) :
    ∃ (d : Descriptor cfg) (tail : List UInt8), rest = d.bytes ++ tail ∧ r = d.size := by
  obtain ⟨hsize, hfits, m, hmin, hle⟩ := identifyDescriptor_minimum hmem h hr
  obtain ⟨d, tail, hrest, hd⟩ := exists_descriptor hfits hmin hle
  exact ⟨d, tail, hrest, by rw [hsize, hd]⟩

-- So the descriptor got its memory and took effect.
theorem identifyDescriptor_visits {cfg : Config} {mem : Mem} {malloc : Nat → Bool} {desc : Nat}
    {rest : List UInt8} {release : Bool} {g g' : ManifestState} {r : Int}
    (hmem : Holds mem desc rest)
    (h : identifyDescriptor cfg mem malloc desc rest.length release g = some (r, g')) (hr : 0 < r) :
    ∃ (d : Descriptor cfg) (tail : List UInt8), rest = d.bytes ++ tail ∧ r = d.size ∧
      d.Allocated malloc release desc ∧ g' = d.visit release g := by
  obtain ⟨d, tail, rfl, rfl⟩ := identifyDescriptor_accepts hmem h hr
  have hd := (holds_append.mp hmem).1
  have hsize : d.size ≤ (d.bytes ++ tail).length := by
    rw [List.length_append]
    exact Nat.le_add_right _ _
  by_cases halloc : d.Allocated malloc release desc
  · rw [identifyDescriptor_visit d g hd hsize halloc, Option.some.injEq, Prod.mk.injEq] at h
    exact ⟨d, tail, rfl, rfl, halloc, h.2.symm⟩
  · simp only [Descriptor.Allocated, Classical.not_imp, Bool.not_eq_true] at halloc
    obtain ⟨rfl, hcport, hmalloc⟩ := halloc
    have htype : d.type = .cport := by
      by_contra hne
      simp [Descriptor.cport?, hne] at hcport
    rw [identifyDescriptor_refused d g hd hsize htype hmalloc, Option.some.injEq,
      Prod.mk.injEq] at h
    simp only [ENOMEM] at h
    omega

-- With all of memory readable there is always an answer.
theorem identifyDescriptor_total {cfg : Config} {mem : Mem} (hmem : ∀ a, (mem a).isSome)
    (malloc : Nat → Bool) (desc size : Nat) (release : Bool) (g : ManifestState) :
    (identifyDescriptor cfg mem malloc desc size release g).isSome := by
  obtain ⟨f, rfl⟩ : ∃ f : Nat → UInt8, mem = fun a => some (f a) :=
    ⟨fun a => (mem a).get (hmem a), funext fun a => by simp⟩
  simp only [identifyDescriptor, load16, Option.bind_some, Option.map_some]
  repeat' split
  all_goals rfl

/-! ## The loop -/

/-- Every descriptor of a sequence that lies at `desc` gets the memory it asks for. -/
def AllAllocated {cfg : Config} (malloc : Nat → Bool) (release : Bool) :
    Nat → List (Descriptor cfg) → Prop
  | _, [] => True
  | desc, d :: ds =>
    d.Allocated malloc release desc ∧ AllAllocated malloc release (desc + d.size) ds

/-- The state after the walk over the descriptors. -/
def visitAll {cfg : Config} (release : Bool) (ds : List (Descriptor cfg)) (g : ManifestState) :
    ManifestState :=
  ds.foldl (fun g d => d.visit release g) g

theorem allAllocated_of_forall {cfg : Config} {malloc : Nat → Bool} {release : Bool} {desc : Nat}
    {ds : List (Descriptor cfg)} (h : release = false → ∀ a, malloc a = true) :
    AllAllocated malloc release desc ds := by
  induction ds generalizing desc with
  | nil => trivial
  | cons d ds ih => exact ⟨fun hr _ => h hr desc, ih⟩

theorem Descriptor.length_encode_ge {cfg : Config} (ds : List (Descriptor cfg)) :
    8 * ds.length ≤ (Descriptor.encode ds).length := by
  induction ds with
  | nil => exact Nat.le_refl 0
  | cons d ds ih =>
    have hd := d.wf.length_ge
    simp only [Descriptor.encode_cons, List.length_append, List.length_cons]
    omega

-- The loop goes over a sequence of descriptors, one a round, and comes to what follows.
theorem parseLoop_over {cfg : Config} {mem : Mem} {malloc : Nat → Bool} {release : Bool}
    (ds : List (Descriptor cfg)) {fuel desc : Nat} {rest : List UInt8} (g : ManifestState)
    (hmem : Holds mem desc (Descriptor.encode ds ++ rest))
    (halloc : AllAllocated malloc release desc ds)
    (hsize : (Descriptor.encode ds ++ rest).length < 2 ^ cfg.sizeBits) :
    parseLoop cfg mem malloc release (ds.length + fuel) desc (Descriptor.encode ds ++ rest).length g
      = parseLoop cfg mem malloc release fuel (desc + (Descriptor.encode ds).length) rest.length
          (visitAll release ds g) := by
  induction ds generalizing desc g with
  | nil => simp [visitAll]
  | cons d ds ih =>
    have hpos := d.size_pos
    rw [Descriptor.encode_cons, List.append_assoc] at hmem hsize ⊢
    obtain ⟨hd, hds⟩ := holds_append.mp hmem
    simp only [List.length_append, show d.bytes.length = d.size from rfl] at hsize hds ⊢
    have hone := @identifyDescriptor_visit cfg mem malloc release desc
      (d.size + ((Descriptor.encode ds).length + rest.length)) d g hd (by omega) halloc.1
    rw [List.length_cons, Nat.add_right_comm, parseLoop, if_neg (by omega), hone,
      Option.bind_some, if_neg (by omega), Int.toNat_natCast,
      Config.sizeSub_eq (by omega) hsize, Nat.add_sub_cancel_left]
    have htail := ih (d.visit release g) hds halloc.2 (by rw [List.length_append]; omega)
    rw [List.length_append] at htail
    rw [htail, Nat.add_assoc]
    rfl

-- The loop accepts a sequence of descriptors.
theorem parseLoop_encode {cfg : Config} {mem : Mem} {malloc : Nat → Bool} {release : Bool}
    (ds : List (Descriptor cfg)) {fuel desc : Nat} (g : ManifestState)
    (hmem : Holds mem desc (Descriptor.encode ds)) (halloc : AllAllocated malloc release desc ds)
    (hsize : (Descriptor.encode ds).length < 2 ^ cfg.sizeBits)
    (hfuel : (Descriptor.encode ds).length < fuel) :
    parseLoop cfg mem malloc release fuel desc (Descriptor.encode ds).length g
      = some (true, visitAll release ds g) := by
  have hlen := Descriptor.length_encode_ge ds
  obtain ⟨k, rfl⟩ : ∃ k, fuel = ds.length + (k + 1) := ⟨fuel - ds.length - 1, by omega⟩
  have hloop := @parseLoop_over cfg mem malloc release ds (k + 1) desc [] g
    (by rwa [List.append_nil]) halloc (by rwa [List.append_nil])
  rw [List.append_nil] at hloop
  rw [hloop]
  rfl

/-- The loop, come to `tail` at `desc` with the state `g`, ends with `res`: it accepts, or
`identify_descriptor` refuses what lies there. -/
def EndsAt (cfg : Config) (mem : Mem) (malloc : Nat → Bool) (release : Bool) (desc : Nat)
    (tail : List UInt8) (g : ManifestState) (res : Bool × ManifestState) : Prop :=
  tail = [] ∧ res = (true, g) ∨
    tail ≠ [] ∧ ∃ r g', r ≤ 0 ∧ res = (false, g') ∧
      identifyDescriptor cfg mem malloc desc tail.length release g = some (r, g')

-- Whatever the bytes are, the loop goes over descriptors and ends at the first that is refused.
theorem parseLoop_walk {cfg : Config} {mem : Mem} {malloc : Nat → Bool} {release : Bool}
    {fuel desc : Nat} {rest : List UInt8} {g : ManifestState} {res : Bool × ManifestState}
    (hmem : Holds mem desc rest) (hsize : rest.length < 2 ^ cfg.sizeBits)
    (h : parseLoop cfg mem malloc release fuel desc rest.length g = some res) :
    ∃ (ds : List (Descriptor cfg)) (tail : List UInt8), rest = Descriptor.encode ds ++ tail ∧
      AllAllocated malloc release desc ds ∧
      EndsAt cfg mem malloc release (desc + (Descriptor.encode ds).length) tail
        (visitAll release ds g) res := by
  induction fuel generalizing desc rest g with
  | zero => simp [parseLoop] at h
  | succ fuel ih =>
    rw [parseLoop] at h
    split at h
    next hnil =>
      obtain rfl := List.eq_nil_of_length_eq_zero hnil
      exact ⟨[], [], rfl, trivial, .inl ⟨rfl, (Option.some.inj h).symm⟩⟩
    next hmore =>
      have hne : rest ≠ [] := fun hnil => hmore (by rw [hnil, List.length_nil])
      obtain ⟨⟨r, g₁⟩, hid, hloop⟩ := Option.bind_eq_some_iff.mp h
      split at hloop
      next hr =>
        exact ⟨[], rest, rfl, trivial,
          .inr ⟨hne, r, g₁, hr, (Option.some.inj hloop).symm, hid⟩⟩
      next hr =>
        obtain ⟨d, tail, rfl, rfl, halloc, rfl⟩ := identifyDescriptor_visits hmem hid (by omega)
        have htail := (holds_append.mp hmem).2
        simp only [List.length_append, show d.bytes.length = d.size from rfl] at hsize hloop htail
        rw [Int.toNat_natCast, Config.sizeSub_eq (by omega) hsize,
          Nat.add_sub_cancel_left] at hloop
        obtain ⟨ds, tail', rfl, hds, hend⟩ := ih htail (by omega) hloop
        refine ⟨d :: ds, tail', by simp, ⟨halloc, hds⟩, ?_⟩
        rw [Descriptor.encode_cons, List.length_append, ← Nat.add_assoc]
        exact hend

-- The loop accepts nothing but sequences of descriptors.
theorem parseLoop_accepts {cfg : Config} {mem : Mem} {malloc : Nat → Bool} {release : Bool}
    {fuel desc : Nat} {rest : List UInt8} {g g' : ManifestState} (hmem : Holds mem desc rest)
    (hsize : rest.length < 2 ^ cfg.sizeBits)
    (h : parseLoop cfg mem malloc release fuel desc rest.length g = some (true, g')) :
    ∃ ds : List (Descriptor cfg), rest = Descriptor.encode ds ∧
      AllAllocated malloc release desc ds ∧ g' = visitAll release ds g := by
  obtain ⟨ds, tail, rfl, halloc, hend⟩ := parseLoop_walk hmem hsize h
  rcases hend with ⟨rfl, hres⟩ | ⟨-, r, g₁, -, hres, -⟩
  · exact ⟨ds, List.append_nil _, halloc, (Prod.mk.inj hres).2⟩
  · simp at hres

-- The loop ends if every descriptor it comes to can be looked at.
theorem parseLoop_isSome {cfg : Config} {mem : Mem} {malloc : Nat → Bool} {release : Bool}
    {fuel desc : Nat} {rest : List UInt8} (g : ManifestState) (hmem : Holds mem desc rest)
    (hsize : rest.length < 2 ^ cfg.sizeBits) (hfuel : rest.length < fuel)
    (hlook : ∀ (ds : List (Descriptor cfg)) tail g, rest = Descriptor.encode ds ++ tail →
      (identifyDescriptor cfg mem malloc (desc + (Descriptor.encode ds).length) tail.length release
        g).isSome) :
    (parseLoop cfg mem malloc release fuel desc rest.length g).isSome := by
  induction fuel generalizing desc rest g with
  | zero => omega
  | succ fuel ih =>
    rw [parseLoop]
    split
    next => rfl
    next =>
      obtain ⟨⟨r, g₁⟩, hid⟩ := Option.isSome_iff_exists.mp (hlook [] rest g rfl)
      have hhere : identifyDescriptor cfg mem malloc desc rest.length release g = some (r, g₁) := hid
      rw [hhere, Option.bind_some]
      split
      next => rfl
      next hr =>
        obtain ⟨d, tail, rfl, rfl⟩ := identifyDescriptor_accepts hmem hhere (by simpa using hr)
        have htail := (holds_append.mp hmem).2
        have hpos := d.size_pos
        simp only [List.length_append, show d.bytes.length = d.size from rfl] at hsize hfuel htail ⊢
        rw [Int.toNat_natCast, Config.sizeSub_eq (by omega) hsize, Nat.add_sub_cancel_left]
        apply ih g₁ htail (by omega) (by omega)
        intro ds tail' g heq
        have hmore := hlook (d :: ds) tail' g (by rw [heq]; simp)
        rw [Descriptor.encode_cons, List.length_append, ← Nat.add_assoc] at hmore
        exact hmore

-- With all of memory readable it always ends.
theorem parseLoop_total {cfg : Config} {mem : Mem} {malloc : Nat → Bool} {release : Bool}
    (hall : ∀ a, (mem a).isSome) {fuel desc : Nat} {rest : List UInt8} (g : ManifestState)
    (hmem : Holds mem desc rest) (hsize : rest.length < 2 ^ cfg.sizeBits)
    (hfuel : rest.length < fuel) :
    ∃ ok g', parseLoop cfg mem malloc release fuel desc rest.length g = some (ok, g') := by
  have hsome := @parseLoop_isSome cfg mem malloc release fuel desc rest g hmem hsize hfuel
    fun ds tail g _ => identifyDescriptor_total hall malloc _ _ release g
  obtain ⟨⟨ok, g'⟩, hres⟩ := Option.isSome_iff_exists.mp hsome
  exact ⟨ok, g', hres⟩

/-! ## The whole parser -/

/-- The size field of a manifest header. -/
def headerSize (blob : List UInt8) : Nat := le16 (fieldAt blob 0) (fieldAt blob 1)

/-- What the parser checks before the first descriptor. -/
structure HeaderValid (data : List UInt8) : Prop where
  long : sizeofManifestHeader < data.length
  size : headerSize data = data.length
  version : fieldAt data 2 ≤ greybusVersionMajor

theorem HeaderValid.length_lt {data : List UInt8} (h : HeaderValid data) :
    data.length < 2 ^ 16 := by
  rw [← h.size]
  exact le16_lt _ _

theorem HeaderValid.drop_length_lt {data : List UInt8} (h : HeaderValid data) (cfg : Config)
    (k : Nat) : (data.drop k).length < 2 ^ cfg.sizeBits := by
  have hlt := h.length_lt
  have hpow := cfg.two_pow_le
  rw [List.length_drop]
  omega

theorem HeaderValid.body {mem : Mem} {data : List UInt8} (h : HeaderValid data)
    (hmem : Holds mem 0 data) : Holds mem sizeofManifestHeader (data.drop sizeofManifestHeader) := by
  have hbody := hmem.drop (Nat.le_of_lt h.long)
  rwa [Nat.zero_add] at hbody

/-- The state after the descriptors have been registered in order. -/
def registerAll {cfg : Config} (ds : List (Descriptor cfg)) (g : ManifestState) : ManifestState :=
  ds.foldl (fun g d => d.register g) g

theorem visitAll_false {cfg : Config} (ds : List (Descriptor cfg)) (g : ManifestState) :
    visitAll false ds g = registerAll ds g := by
  simp only [visitAll, registerAll, Descriptor.visit_false]

theorem registerAll_cports {cfg : Config} (ds : List (Descriptor cfg)) (g : ManifestState) :
    (registerAll ds g).cports = g.cports ++ ds.filterMap Descriptor.cport? := by
  induction ds generalizing g with
  | nil => simp [registerAll]
  | cons d ds ih =>
    have htail := ih (d.register g)
    simp only [registerAll, List.foldl_cons] at htail ⊢
    rw [htail, d.register_cports, List.append_assoc]
    cases hc : d.cport? <;> simp [hc]

theorem registerAll_maxBundleId {cfg : Config} (ds : List (Descriptor cfg)) (g : ManifestState) :
    (registerAll ds g).maxBundleId
      = (ds.filterMap Descriptor.bundleId?).foldl max g.maxBundleId := by
  induction ds generalizing g with
  | nil => simp [registerAll]
  | cons d ds ih =>
    have htail := ih (d.register g)
    simp only [registerAll, List.foldl_cons] at htail ⊢
    rw [htail, d.register_maxBundleId]
    cases hb : d.bundleId? <;> simp [hb]

-- With a valid header `manifest_parse` is the loop on the bytes after the header.
theorem manifestParse_valid {cfg : Config} {mem : Mem} {data : List UInt8} (malloc : Nat → Bool)
    (g : ManifestState) (hmem : Holds mem 0 data) (hvalid : HeaderValid data) :
    manifestParse cfg mem malloc data.length g
      = parseLoop cfg mem malloc false ((data.drop sizeofManifestHeader).length + 1)
          sizeofManifestHeader (data.drop sizeofManifestHeader).length g := by
  have hlong : 4 < data.length := hvalid.long
  have hsize : load16 mem 0 = some data.length := by
    rw [hmem.load16 (i := 0) (by omega)]
    exact congrArg some hvalid.size
  have hversion : mem 2 = some (fieldAt data 2) := hmem.load8 (i := 2) (by omega)
  have hlt := hvalid.length_lt
  simp only [manifestParse, manifestParseRelease, Bool.not_false, if_true,
    if_neg (Nat.not_le.mpr hvalid.long), hsize, hversion, Option.bind_some, ne_eq, not_true,
    if_false, gt_iff_lt, UInt8.not_lt.mpr hvalid.version, parseDescriptors, List.length_drop]
  rw [Config.sizeSub_of_le (Nat.le_of_lt hvalid.long) (by omega)]

theorem manifestParse_invalid {cfg : Config} {mem : Mem} {data : List UInt8} (malloc : Nat → Bool)
    (g : ManifestState) (hmem : Holds mem 0 data) (hvalid : ¬ HeaderValid data) :
    manifestParse cfg mem malloc data.length g = some (false, g) := by
  simp only [manifestParse, manifestParseRelease, Bool.not_false, if_true]
  split
  next => rfl
  next hlong =>
    simp only [sizeofManifestHeader, Nat.not_le] at hlong
    rw [hmem.load16 (i := 0) (by omega), Option.bind_some]
    split
    next => rfl
    next hsize =>
      have hversion : mem 2 = some (fieldAt data 2) := hmem.load8 (i := 2) (by omega)
      rw [hversion, Option.bind_some, if_pos]
      by_contra hv
      exact hvalid ⟨hlong, not_not.mp hsize, UInt8.not_lt.mp hv⟩

-- A valid header with a sequence of descriptors is accepted.
theorem manifestParse_encode {cfg : Config} {mem : Mem} {malloc : Nat → Bool} {data : List UInt8}
    {ds : List (Descriptor cfg)} (g : ManifestState) (hmem : Holds mem 0 data)
    (hmalloc : ∀ a, malloc a = true) (hvalid : HeaderValid data)
    (hds : data.drop sizeofManifestHeader = Descriptor.encode ds) :
    manifestParse cfg mem malloc data.length g = some (true, registerAll ds g) := by
  have hbody := hvalid.body hmem
  have hlt := hvalid.drop_length_lt cfg sizeofManifestHeader
  rw [hds] at hbody hlt
  rw [manifestParse_valid malloc g hmem hvalid, hds, ← visitAll_false]
  exact parseLoop_encode ds g hbody (allAllocated_of_forall fun _ => hmalloc) hlt
    (Nat.lt_succ_self _)

-- Nothing else is accepted.
theorem manifestParse_accepts {cfg : Config} {mem : Mem} {malloc : Nat → Bool} {data : List UInt8}
    {g g' : ManifestState} (hmem : Holds mem 0 data)
    (h : manifestParse cfg mem malloc data.length g = some (true, g')) :
    HeaderValid data ∧ ∃ ds : List (Descriptor cfg),
      data.drop sizeofManifestHeader = Descriptor.encode ds ∧ g' = registerAll ds g := by
  by_cases hvalid : HeaderValid data
  · rw [manifestParse_valid malloc g hmem hvalid] at h
    obtain ⟨ds, hds, -, hg⟩ :=
      parseLoop_accepts (hvalid.body hmem) (hvalid.drop_length_lt cfg _) h
    exact ⟨hvalid, ds, hds, hg.trans (visitAll_false ds g)⟩
  · rw [manifestParse_invalid malloc g hmem hvalid] at h
    simp at h

-- The state that an accepted manifest leaves behind.
theorem manifestParse_registers {cfg : Config} {mem : Mem} {malloc : Nat → Bool}
    {data : List UInt8} {ds : List (Descriptor cfg)} {g g' : ManifestState} (hmem : Holds mem 0 data)
    (hds : data.drop sizeofManifestHeader = Descriptor.encode ds)
    (h : manifestParse cfg mem malloc data.length g = some (true, g')) :
    HeaderValid data ∧ g' = registerAll ds g := by
  obtain ⟨hvalid, es, hes, rfl⟩ := manifestParse_accepts hmem h
  rw [Descriptor.encode_injective (hds.symm.trans hes)]
  exact ⟨hvalid, rfl⟩

theorem manifestParse_total {cfg : Config} {mem : Mem} {malloc : Nat → Bool} {data : List UInt8}
    (hall : ∀ a, (mem a).isSome) (g : ManifestState) (hmem : Holds mem 0 data) :
    ∃ ok g', manifestParse cfg mem malloc data.length g = some (ok, g') := by
  by_cases hvalid : HeaderValid data
  · rw [manifestParse_valid malloc g hmem hvalid]
    exact parseLoop_total hall g (hvalid.body hmem) (hvalid.drop_length_lt cfg _)
      (Nat.lt_succ_self _)
  · exact ⟨_, _, manifestParse_invalid malloc g hmem hvalid⟩

/-- `manifest_parse` accepts exactly the manifests with a valid header and a body of well-formed
descriptors, and then registers their CPorts and bundle ids. -/
theorem manifestParse_correct (cfg : Config) (data : List UInt8) (after : Nat → UInt8)
    (g : ManifestState) :
    ∃ ok g',
      manifestParse cfg (ofBuffer data fun i => some (after i)) (fun _ => true) data.length g
        = some (ok, g') ∧
      (ok = true ↔ HeaderValid data ∧ ∃ ds : List (Descriptor cfg),
        data.drop sizeofManifestHeader = Descriptor.encode ds) ∧
      (ok = true → ∀ ds : List (Descriptor cfg),
        data.drop sizeofManifestHeader = Descriptor.encode ds →
        g'.cports = g.cports ++ ds.filterMap Descriptor.cport? ∧
        g'.maxBundleId = (ds.filterMap Descriptor.bundleId?).foldl max g.maxBundleId) := by
  have hmem := holds_ofBuffer data fun i => some (after i)
  have hall := ofBuffer_isSome data after
  obtain ⟨ok, g', hrun⟩ : ∃ ok g', manifestParse cfg _ (fun _ => true) data.length g
      = some (ok, g') := manifestParse_total hall g hmem
  have hforward : ok = true → HeaderValid data ∧ ∃ ds : List (Descriptor cfg),
      data.drop sizeofManifestHeader = Descriptor.encode ds := by
    rintro rfl
    obtain ⟨hvalid, ds, hds, -⟩ := manifestParse_accepts hmem hrun
    exact ⟨hvalid, ds, hds⟩
  refine ⟨ok, g', hrun, ⟨hforward, fun ⟨hvalid, ds, hds⟩ => ?_⟩, fun hok ds hds => ?_⟩
  · have haccept := manifestParse_encode g hmem (fun _ => rfl) hvalid hds
    rw [hrun] at haccept
    exact (Prod.mk.inj (Option.some.inj haccept)).1
  · have haccept := manifestParse_encode g hmem (fun _ => rfl) (hforward hok).1 hds
    rw [hrun] at haccept
    obtain ⟨-, rfl⟩ := Prod.mk.inj (Option.some.inj haccept)
    exact ⟨registerAll_cports ds g, registerAll_maxBundleId ds g⟩

end Greybus
