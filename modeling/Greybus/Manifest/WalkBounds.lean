import Greybus.Manifest.Parse

/-!
# What the walk over the descriptors reads

Neither mode of `_manifest_parse` looks at a type's fields through the size checks alone: the
length and the id of a descriptor are read as soon as its header fits.  The rounds of the loop are
recorded here beside its result.
-/

namespace Greybus

open Reasoning.Memory

variable {cfg : Config}

/-! ## The rounds -/

/-- A round of the loop in `_manifest_parse`: where the descriptor lies, how many bytes remain, and
how many are subtracted. -/
structure Round where
  desc : Nat
  size : Nat
  used : Nat
  deriving DecidableEq, Repr

/-- The loop of `_manifest_parse` with the rounds that it makes. -/
def parseLoopRounds (cfg : Config) (mem : Mem) (malloc : Nat → Bool) (release : Bool) :
    Nat → Nat → Nat → ManifestState → List Round × Option (Bool × ManifestState)
  | 0, _, _, _ => ([], none)
  | fuel + 1, desc, size, g =>
    if size = 0 then ([], some (true, g))
    else
      match identifyDescriptor cfg mem malloc desc size release g with
      | none => ([⟨desc, size, 0⟩], none)
      | some (r, g) =>
        if r ≤ 0 then ([⟨desc, size, 0⟩], some (false, g))
        else
          let tail := parseLoopRounds cfg mem malloc release fuel (desc + r.toNat)
            (cfg.sizeSub size r.toNat) g
          (⟨desc, size, r.toNat⟩ :: tail.1, tail.2)

theorem parseLoopRounds_snd (mem : Mem) (malloc : Nat → Bool) (release : Bool)
    (fuel desc size : Nat) (g : ManifestState) :
    (parseLoopRounds cfg mem malloc release fuel desc size g).2
      = parseLoop cfg mem malloc release fuel desc size g := by
  induction fuel generalizing desc size g with
  | zero => rfl
  | succ fuel ih =>
    unfold parseLoopRounds parseLoop
    split
    next => rfl
    next =>
      cases hid : identifyDescriptor cfg mem malloc desc size release g with
      | none => rfl
      | some res =>
        rw [Option.bind_some]
        show (if res.1 ≤ 0 then _ else _ : List Round × Option (Bool × ManifestState)).2 = _
        split
        next => rfl
        next => exact ih _ _ _

-- A round takes no more than what remains, and at least 8 bytes unless it is the last.
theorem parseLoopRounds_bound {mem : Mem} {malloc : Nat → Bool} {release : Bool}
    {fuel desc : Nat} {rest : List UInt8} (g : ManifestState) (hmem : Holds mem desc rest)
    (hsize : rest.length < 2 ^ cfg.sizeBits) :
    (∀ rd ∈ (parseLoopRounds cfg mem malloc release fuel desc rest.length g).1,
        rd.used ≤ rd.size) ∧
      8 * (parseLoopRounds cfg mem malloc release fuel desc rest.length g).1.length
        ≤ rest.length + 7 := by
  induction fuel generalizing desc rest g with
  | zero => exact ⟨fun rd hrd => absurd hrd List.not_mem_nil, Nat.zero_le _⟩
  | succ fuel ih =>
    unfold parseLoopRounds
    split
    next => exact ⟨fun rd hrd => absurd hrd List.not_mem_nil, Nat.zero_le _⟩
    next hmore =>
      have hlast : ∀ out : Option (Bool × ManifestState),
          (∀ rd ∈ (([⟨desc, rest.length, 0⟩], out) : List Round × _).1, rd.used ≤ rd.size) ∧
            8 * (([⟨desc, rest.length, 0⟩], out) : List Round × _).1.length ≤ rest.length + 7 := by
        refine fun out => ⟨fun rd hrd => ?_, ?_⟩
        · rw [List.mem_singleton.mp hrd]
          exact Nat.zero_le _
        · rw [List.length_singleton]
          omega
      split
      next => exact hlast _
      next r g₁ hid =>
        split
        next => exact hlast _
        next hr =>
          obtain ⟨d, tail, rfl, rfl⟩ := identifyDescriptor_accepts hmem hid (by omega)
          have htail := (holds_append.mp hmem).2
          have hd : 8 ≤ d.size := d.wf.length_ge
          simp only [List.length_append, show d.bytes.length = d.size from rfl] at hsize htail ⊢
          rw [Int.toNat_natCast, Config.sizeSub_eq (by omega) hsize, Nat.add_sub_cancel_left]
          obtain ⟨hused, hcount⟩ := ih g₁ htail (by omega)
          refine ⟨fun rd hrd => ?_, ?_⟩
          · rcases List.mem_cons.mp hrd with rfl | hrd
            · show d.size ≤ d.size + tail.length
              omega
            · exact hused rd hrd
          · rw [List.length_cons]
            omega

/-! ## The fields of one descriptor -/

/-- The fields that are read before the type's size check lie in `rest`. -/
def FieldsPresent (rest : List UInt8) : Prop :=
  sizeofDescriptorHeader ≤ rest.length → declaredSize rest ≤ rest.length →
    match typeOf rest with
    | .string => 6 ≤ rest.length
    | .property => 6 ≤ rest.length
    | .bundle => 5 ≤ rest.length
    | .device => 5 ≤ rest.length
    | .cport => True
    | .interface => True
    | .mikrobus => True
    | .invalid => True

-- Those fields are all that is read.
theorem identifyDescriptor_isSome {mem : Mem} {malloc : Nat → Bool} {release : Bool} {desc : Nat}
    {rest : List UInt8} (g : ManifestState) (hmem : Holds mem desc rest)
    (hfields : FieldsPresent rest) :
    (identifyDescriptor cfg mem malloc desc rest.length release g).isSome := by
  unfold identifyDescriptor
  split
  next => rfl
  next hhead =>
  simp only [sizeofDescriptorHeader, Nat.not_lt] at hhead
  have hheader := load16_header hmem (by omega)
  have hsecond : mem (desc + 2) = some (fieldAt rest 2) := hmem.load8 (by omega)
  simp only [hheader, hsecond, Option.bind_some]
  split
  next => rfl
  next hfits =>
  have hfield := hfields hhead (by omega)
  unfold typeOf at hfield
  cases ht : DescriptorType.ofByte (fieldAt rest 2) <;> simp only [ht] at hfield ⊢
  case string | property =>
    have hlength : mem (desc + 4) = some (fieldAt rest 4) := hmem.load8 (by omega)
    have hid : mem (desc + 5) = some (fieldAt rest 5) := hmem.load8 (by omega)
    rw [hlength, hid]
    rfl
  case bundle | device =>
    have hid : mem (desc + 4) = some (fieldAt rest 4) := hmem.load8 (by omega)
    rw [hid]
    rfl
  case cport =>
    split
    next hlong =>
      simp only [sizeofDescriptorHeader, DescriptorType.sizeofBody] at hlong
      have hid : load16 mem (desc + 4) = some (le16 (fieldAt rest 4) (fieldAt rest 5)) :=
        hmem.load16 (by omega)
      have hbundle : mem (desc + 6) = some (fieldAt rest 6) := hmem.load8 (by omega)
      have hprotocol : mem (desc + 7) = some (fieldAt rest 7) := hmem.load8 (by omega)
      rw [hid, hbundle, hprotocol]
      split
      next =>
        split
        next => rfl
        next => rfl
      next => rfl
    next => rfl
  case mikrobus => split <;> rfl
  case interface | invalid => rfl

-- Without one of them the read goes beyond the last byte.
theorem identifyDescriptor_eq_none {mem : Mem} {malloc : Nat → Bool} {release : Bool} {desc : Nat}
    {rest : List UInt8} (g : ManifestState) (hmem : Holds mem desc rest)
    (hend : ∀ i, rest.length ≤ i → mem (desc + i) = none) (hfields : ¬ FieldsPresent rest) :
    identifyDescriptor cfg mem malloc desc rest.length release g = none := by
  simp only [FieldsPresent, Classical.not_imp] at hfields
  obtain ⟨hhead, hfits, hfield⟩ := hfields
  simp only [sizeofDescriptorHeader] at hhead
  have hheader := load16_header hmem (by omega)
  have hsecond : mem (desc + 2) = some (fieldAt rest 2) := hmem.load8 (by omega)
  unfold identifyDescriptor
  rw [if_neg (by simp only [sizeofDescriptorHeader]; omega), hheader, Option.bind_some,
    if_neg (by omega), hsecond, Option.bind_some]
  unfold typeOf at hfield
  cases ht : DescriptorType.ofByte (fieldAt rest 2) <;> simp only [ht] at hfield ⊢
  case string | property =>
    have hid : mem (desc + 5) = none := hend 5 (by omega)
    rw [hid]
    cases mem (desc + 4) <;> rfl
  case bundle | device =>
    have hid : mem (desc + 4) = none := hend 4 (by omega)
    rw [hid]
    rfl
  all_goals exact absurd trivial hfield

-- A walk that comes to such a descriptor does not come back.
theorem parseLoop_eq_none {mem : Mem} {malloc : Nat → Bool} {release : Bool} {desc : Nat}
    {ds : List (Descriptor cfg)} {rest : List UInt8} (g : ManifestState)
    (hmem : Holds mem desc (Descriptor.encode ds ++ rest))
    (hend : ∀ i, (Descriptor.encode ds ++ rest).length ≤ i → mem (desc + i) = none)
    (halloc : AllAllocated malloc release desc ds)
    (hsize : (Descriptor.encode ds ++ rest).length < 2 ^ cfg.sizeBits)
    (hfields : ¬ FieldsPresent rest) :
    parseLoop cfg mem malloc release ((Descriptor.encode ds ++ rest).length + 1) desc
      (Descriptor.encode ds ++ rest).length g = none := by
  have hcount := Descriptor.length_encode_ge ds
  obtain ⟨k, hk⟩ : ∃ k, (Descriptor.encode ds ++ rest).length + 1 = ds.length + (k + 1) :=
    ⟨(Descriptor.encode ds ++ rest).length - ds.length, by rw [List.length_append]; omega⟩
  have hne : rest.length ≠ 0 := by
    intro hnil
    apply hfields
    intro hhead
    simp only [sizeofDescriptorHeader] at hhead
    omega
  have hout : ∀ i, rest.length ≤ i → mem (desc + (Descriptor.encode ds).length + i) = none := by
    intro i hi
    rw [Nat.add_assoc]
    apply hend
    rw [List.length_append]
    omega
  rw [hk, parseLoop_over ds g hmem halloc hsize, parseLoop, if_neg hne,
    identifyDescriptor_eq_none _ (holds_append.mp hmem).2 hout hfields]
  rfl

/-! ## One call -/

theorem ofBuffer_none_of_le {data : List UInt8} {a : Nat} (h : data.length ≤ a) :
    ofBuffer data (fun _ => none) a = none := by
  unfold ofBuffer
  rw [if_neg (Nat.not_lt.mpr h)]

/-- The call gets to the loop: a release always does. -/
def Walked (release : Bool) (data : List UInt8) : Prop := release = false → HeaderValid data

/-- The rounds of `manifest_parse(data, n)` or `manifest_release(data, n)` once it gets to the
loop. -/
def manifestRounds (cfg : Config) (mem : Mem) (malloc : Nat → Bool) (release : Bool) (size : Nat)
    (g : ManifestState) (fuel : Nat) : List Round :=
  (parseLoopRounds cfg mem malloc release fuel sizeofManifestHeader
    (cfg.sizeSub size sizeofManifestHeader) g).1

/-- A call on the `n` bytes of `data` stays inside them: it returns although nothing behind them
can be read, no subtraction from the remaining size wraps, and there are at most `n / 4` rounds. -/
structure StaysInside (cfg : Config) (malloc : Nat → Bool) (after : Nat → Option UInt8)
    (release : Bool) (data : List UInt8) (g : ManifestState) : Prop where
  reads : (manifestParseRelease cfg (ofBuffer data fun _ => none) malloc data.length release
    g).isSome
  header : Walked release data → sizeofManifestHeader ≤ data.length
  rounds : Walked release data → ∀ fuel,
    (∀ rd ∈ manifestRounds cfg (ofBuffer data after) malloc release data.length g fuel,
        rd.used ≤ rd.size) ∧
      (manifestRounds cfg (ofBuffer data after) malloc release data.length g fuel).length
        ≤ data.length / 4

theorem manifestParseRelease_walked {mem : Mem} {data : List UInt8} (malloc : Nat → Bool)
    (release : Bool) (g : ManifestState) (hmem : Holds mem 0 data) (hwalked : Walked release data)
    (hlong : sizeofManifestHeader ≤ data.length) (hsize : data.length < 2 ^ cfg.sizeBits) :
    manifestParseRelease cfg mem malloc data.length release g
      = parseLoop cfg mem malloc release ((data.drop sizeofManifestHeader).length + 1)
          sizeofManifestHeader (data.drop sizeofManifestHeader).length g := by
  cases release with
  | false => exact manifestParse_valid malloc g hmem (hwalked rfl)
  | true =>
    unfold manifestParseRelease
    rw [if_neg (by decide)]
    unfold parseDescriptors
    rw [Config.sizeSub_eq hlong hsize, List.length_drop]

/-- All calls on a buffer stay inside it exactly if it is not a release of fewer bytes than a
header, and wherever the walk comes to, the fields that are read before the size check are there. -/
theorem manifestParse_staysInside_iff (cfg : Config) (release : Bool) (data : List UInt8)
    (hsize : data.length < 2 ^ cfg.sizeBits) :
    (∀ malloc after g, StaysInside cfg malloc after release data g) ↔
      (Walked release data → sizeofManifestHeader ≤ data.length ∧
        ∀ (ds : List (Descriptor cfg)) rest,
          data.drop sizeofManifestHeader = Descriptor.encode ds ++ rest → FieldsPresent rest) := by
  have hmem := holds_ofBuffer data fun _ => none
  have hbody : sizeofManifestHeader ≤ data.length → ∀ after : Nat → Option UInt8,
      Holds (ofBuffer data after) sizeofManifestHeader (data.drop sizeofManifestHeader) := by
    intro hlong after
    have hdrop := (holds_ofBuffer data after).drop hlong
    rwa [Nat.zero_add] at hdrop
  have hrest : (data.drop sizeofManifestHeader).length < 2 ^ cfg.sizeBits := by
    rw [List.length_drop]
    omega
  constructor
  · intro hstays hwalked
    have hlong := (hstays (fun _ => true) (fun _ => none) .initial).header hwalked
    refine ⟨hlong, fun ds rest hds => ?_⟩
    by_contra hfields
    have hreads := (hstays (fun _ => true) (fun _ => none) .initial).reads
    have hheld := hbody hlong fun _ => none
    rw [manifestParseRelease_walked _ release _ hmem hwalked hlong hsize] at hreads
    have hlen := congrArg List.length hds
    rw [List.length_drop] at hlen
    rw [hds] at hheld hrest hreads
    have hout : ∀ i, (Descriptor.encode ds ++ rest).length ≤ i →
        ofBuffer data (fun _ => none) (sizeofManifestHeader + i) = none :=
      fun i hi => ofBuffer_none_of_le (by omega)
    have halloc : AllAllocated (fun _ => true) release sizeofManifestHeader ds :=
      allAllocated_of_forall fun _ _ => rfl
    rw [parseLoop_eq_none .initial hheld hout halloc hrest hfields] at hreads
    cases hreads
  · intro hcond malloc after g
    refine ⟨?_, fun hwalked => (hcond hwalked).1, fun hwalked fuel => ?_⟩
    · by_cases hwalked : Walked release data
      · obtain ⟨hlong, hfields⟩ := hcond hwalked
        have hheld := hbody hlong fun _ => none
        rw [manifestParseRelease_walked malloc release g hmem hwalked hlong hsize]
        apply parseLoop_isSome g hheld hrest (Nat.lt_succ_self _)
        intro ds tail g hds
        rw [hds] at hheld
        exact identifyDescriptor_isSome g (holds_append.mp hheld).2 (hfields ds tail hds)
      · simp only [Walked, Classical.not_imp] at hwalked
        obtain ⟨rfl, hvalid⟩ := hwalked
        have hrefused := @manifestParse_invalid cfg _ _ malloc g hmem hvalid
        unfold manifestParse at hrefused
        rw [hrefused]
        rfl
    · obtain ⟨hlong, -⟩ := hcond hwalked
      obtain ⟨hused, hcount⟩ := @parseLoopRounds_bound cfg _ malloc release fuel _ _ g
        (hbody hlong after) hrest
      unfold manifestRounds
      rw [List.length_drop] at hused hcount
      rw [Config.sizeSub_eq hlong hsize]
      refine ⟨hused, ?_⟩
      simp only [sizeofManifestHeader] at hlong hcount ⊢
      omega

theorem manifestParse_staysInside_cport :
    StaysInside .native (fun _ => true) (fun _ => none) false
      ([12, 0, 0, 1] ++ [8, 0, 4, 0, 1, 0, 0, 2]) .initial := by
  apply (manifestParse_staysInside_iff .native false _ (by decide)).mpr
  intro _
  refine ⟨by decide, fun ds rest hds => ?_⟩
  have hlen : 8 = (Descriptor.encode ds ++ rest).length := congrArg List.length hds
  cases ds with
  | nil =>
    obtain rfl : [8, 0, 4, 0, 1, 0, 0, 2] = rest := hds
    exact fun _ _ => trivial
  | cons d ds =>
    have hd := d.wf.length_ge
    rw [Descriptor.encode_cons, List.length_append, List.length_append] at hlen
    intro hhead
    simp only [sizeofDescriptorHeader] at hhead
    omega

/-- A string descriptor of 4 bytes at the end of a manifest. -/
def shortString : List UInt8 := [8, 0, 0, 1] ++ [4, 0, 2, 0]

/-- The parser reads behind `shortString`, and the release of an empty buffer wraps at its start. -/
theorem shortString_not_inside :
    ¬ StaysInside .native (fun _ => true) (fun _ => none) false shortString .initial ∧
      ¬ StaysInside .native (fun _ => true) (fun _ => none) true [] .initial := by
  refine ⟨fun hinside => ?_, fun hinside => ?_⟩
  · have hreads := hinside.reads
    revert hreads
    decide +kernel
  · have hheader := hinside.header fun hrelease => absurd hrelease (by decide)
    revert hheader
    decide

end Greybus
