import Greybus.Core.Cports
import Greybus.Manifest.PatchRuns
import Greybus.Platform.CportMap
import Greybus.Protocols.Transfers
import Greybus.Transport.Message

/-!
# The service

`greybus_service_init`, which parses the manifest, patches the fragments into a copy of it and starts
the core, and the requests of the control protocol with which the peer fetches the manifest.
-/

namespace Greybus.Platform

open Reasoning.Memory

/-- A call of `manifest_get` or `manifest_get_fragment`: what it returns, and the bytes it gives with
the memory behind them. -/
structure ManifestBytes where
  ret : Int
  data : List UInt8
  after : Nat → Option UInt8

/-- A fragment, and what `manifest_patch` meets with it. -/
structure FragmentEnv extends ManifestBytes where
  heap : Heap
  fuel : Nat

/-- What `greybus_service_init` meets. -/
structure ServiceEnv where
  tlsInit : Int
  -- `device_get_binding` finds the bus.
  bus : Bool
  manifest : ManifestBytes
  -- Whether there is memory for the CPort of the descriptor at an address.
  malloc : Nat → Bool
  -- Whether there is memory for the copy.
  combined : Bool
  -- Two, or none without the CLICK manifests.
  fragments : List FragmentEnv
  -- `gb_transport_backend_init` gives a backend.
  backend : Bool
  gbInit : Int

/-- The statics: whether `xport` is set, `num_cports`, the parsed manifest, and the bytes that
`bridge_manifest` points to. -/
structure Service where
  xport : Bool
  numCports : Nat
  g : ManifestState
  bridgeManifest : Option (List UInt8)

def Service.initial : Service := ⟨false, 0, .initial, none⟩

/-- The fragments are patched into the blob: the value to return when one of them is refused, or
the new blob. -/
def patchFragments (cfg : Config) :
    List FragmentEnv → List UInt8 → ManifestState → Option (Except Int (List UInt8) × ManifestState)
  | [], blob, g => some (.ok blob, g)
  | f :: fs, blob, g =>
    if f.ret < 0 then some (.error f.ret, g)
    else
      (manifestPatch cfg f.heap f.fuel (ofBuffer f.data f.after) f.data.length blob g).bind fun r =>
        if !r.1 then some (.error (-EINVAL), r.2.g) else patchFragments cfg fs r.2.blob r.2.g

/-- `greybus_service_init` from `manifest_get_num_cports` on. -/
def startService (env : ServiceEnv) (combined : List UInt8) (s : Service) : Int × Service :=
  let s := { s with numCports := s.g.getNumCports }
  if s.numCports = 0 then (-EINVAL, s)
  else if !env.backend then (- EIO, s)
  else if env.gbInit < 0 then (env.gbInit, { s with xport := true, bridgeManifest := none })
  else (0, { s with xport := true, bridgeManifest := some combined })

/-- `greybus_service_init`; what `enable_cports` registers is no part of its statics. -/
def greybusServiceInit (cfg : Config) (env : ServiceEnv) (s : Service) : Option (Int × Service) :=
  if s.xport then some (-EALREADY, s)
  else if env.tlsInit < 0 then some (env.tlsInit, s)
  else if !env.bus then some (-ENODEV, s)
  else if env.manifest.ret < 0 then some (env.manifest.ret, s)
  else
    let mnfb := env.manifest.data
    (manifestParse cfg (ofBuffer mnfb env.manifest.after) env.malloc mnfb.length s.g).bind fun r =>
      let s := { s with g := r.2 }
      if !r.1 then some (-EINVAL, s)
      else if !env.combined then some (-ENOMEM, s)
      else
        (patchFragments cfg env.fragments mnfb s.g).map fun r =>
          let s := { s with g := r.2 }
          match r.1 with
          | .error ret => (ret, s)
          | .ok combined => startService env combined s

/-- `gb_control_get_manifest_size`. -/
def gbControlGetManifestSize (blob : Option (List UInt8)) (_operation : Operation) : HandlerProg :=
  .allocResponse 2 fun ok =>
    if !ok then .done OperationResult.noMemory.code
    else
      .fillResponse (le16Bytes (UInt16.ofNat (getManifestSize blob)))
        (.done OperationResult.success.code)

/-! ## The patched copy -/

section Patched

variable {cfg : Config}

theorem foldl_notePatch_cports (ds : List (Descriptor cfg)) (g : ManifestState) :
    (ds.foldl (fun g d => d.notePatch g) g).cports = g.cports := by
  induction ds generalizing g with
  | nil => rfl
  | cons d ds ih =>
    rw [List.foldl_cons, ih, Descriptor.notePatch]
    split <;> rfl

-- A patch registers no CPorts.
theorem manifestPatch_cports {heap : Heap} {mem : Mem} {data blob : List UInt8} {fuel : Nat}
    {ds : List (Descriptor cfg)} {g : ManifestState} {ok : Bool} {s' : PatchState}
    (hmem : Holds mem 0 data) (hblob : 2 ≤ blob.length) (hvalid : HeaderValid data)
    (hds : data.drop sizeofManifestHeader = Descriptor.encode ds)
    (h : manifestPatch cfg heap fuel mem data.length blob g = some (ok, s')) :
    s'.g.cports = g.cports := by
  have hbody := hvalid.body hmem
  have hlt := hvalid.length_lt
  have hlen := congrArg List.length hds
  rw [manifestPatch_valid heap fuel g hmem hblob hvalid] at h
  obtain ⟨t, hloop, heq⟩ := Option.map_eq_some_iff.mp h
  obtain ⟨rfl, rfl⟩ := Prod.mk.inj heq
  rw [hds] at hbody hloop
  have hsize : (Descriptor.encode ds).length < 2 ^ 32 := by
    rw [List.length_drop] at hlen
    omega
  have hg := patchLoop_state (s := ⟨mem, blob, headerSize blob, g.resetPatch⟩) ds hbody hsize hloop
  show t.g.cports = g.cports
  rw [hg, foldl_notePatch_cports]
  rfl

-- Fragments of well-formed descriptors that fit leave a manifest with the CPorts of the base.
theorem patchFragments_manifest {fs : List FragmentEnv} {dss : List (List (Descriptor cfg))}
    {blob blob' : List UInt8} {ds : List (Descriptor cfg)} {g g' : ManifestState}
    (hfragments : List.Forall₂ (fun f ds => f.data.drop sizeofManifestHeader = Descriptor.encode ds)
      fs dss)
    (hvalid : HeaderValid blob) (hds : blob.drop sizeofManifestHeader = Descriptor.encode ds)
    (hfit : blob.length + (dss.map Descriptor.keptSize).sum ≤ 65535)
    (h : patchFragments cfg fs blob g = some (.ok blob', g')) :
    g'.cports = g.cports ∧ HeaderValid blob' ∧ ∃ es : List (Descriptor cfg),
      blob'.drop sizeofManifestHeader = Descriptor.encode (ds ++ es) ∧
        es.filterMap Descriptor.cport? = [] := by
  induction hfragments generalizing blob ds g with
  | nil =>
    obtain ⟨hblob, rfl⟩ := Prod.mk.inj (Option.some.inj h)
    obtain rfl := Except.ok.inj hblob
    exact ⟨rfl, hvalid, [], by rw [List.append_nil, hds], rfl⟩
  | @cons f fds fs dss hf hfs ih =>
    have hlong : 4 < blob.length := hvalid.long
    have hmem := holds_ofBuffer f.data f.after
    rw [List.map_cons, List.sum_cons] at hfit
    rw [patchFragments] at h
    split at h
    next => cases (Prod.mk.inj (Option.some.inj h)).1
    next =>
      obtain ⟨⟨ok, s⟩, hpatch, h⟩ := Option.bind_eq_some_iff.mp h
      split at h
      next => cases (Prod.mk.inj (Option.some.inj h)).1
      next hok =>
        have hheader : HeaderValid f.data := by
          by_contra hinvalid
          rw [manifestPatch_invalid f.heap f.fuel g hmem (by omega) hinvalid] at hpatch
          obtain ⟨rfl, -⟩ := Prod.mk.inj (Option.some.inj hpatch)
          exact hok rfl
        obtain ⟨-, hsize, hblob⟩ := manifestPatch_blob hmem (Nat.le_of_lt hlong) hvalid.size hheader
          hf (by omega) hpatch
        obtain ⟨hvalid', hbody'⟩ := setHeaderSize_manifest hvalid hds hblob hsize
        have hlength : s.blob.length = blob.length + Descriptor.keptSize fds := by
          rw [hblob, List.length_append, setHeaderSize_length, Descriptor.encode_patched_length]
        obtain ⟨hcports, hnew, es, hbody, hnone⟩ := ih hvalid' hbody' (by omega) h
        refine ⟨?_, hnew, Descriptor.patched g fds ++ es, by rw [hbody, List.append_assoc], ?_⟩
        · rw [hcports, manifestPatch_cports hmem (by omega) hheader hf hpatch]
        · rw [List.filterMap_append, Descriptor.patched_cports, hnone, List.append_nil]

theorem patchFragments_error {fs : List FragmentEnv} {blob : List UInt8} {g g' : ManifestState}
    {r : Int} (h : patchFragments cfg fs blob g = some (.error r, g')) : r < 0 := by
  induction fs generalizing blob g with
  | nil => cases (Prod.mk.inj (Option.some.inj h)).1
  | cons f fs ih =>
    rw [patchFragments] at h
    split at h
    next hfailed =>
      obtain ⟨hr, -⟩ := Prod.mk.inj (Option.some.inj h)
      obtain rfl := Except.error.inj hr
      exact hfailed
    next =>
      obtain ⟨⟨ok, s⟩, -, h⟩ := Option.bind_eq_some_iff.mp h
      split at h
      next =>
        obtain ⟨hr, -⟩ := Prod.mk.inj (Option.some.inj h)
        obtain rfl := Except.error.inj hr
        decide
      next => exact ih h

end Patched

/-! ## What the peer fetches -/

/-- The program succeeds and leaves these bytes for the payload of the response, if there is a buffer
for it.  The size in the header is that of the message where that fits into 16 bits. -/
def Responds (prog : HandlerProg) (bytes : List UInt8) : Prop :=
  ∀ (tr : Transport) (p : Processing), tr.allocBuf p.allocs = true →
    (prog.run tr p).1 = OperationResult.success.code ∧
      ∃ m, (prog.run tr p).2.operation.responseBuffer = some m ∧ m.payload = bytes ∧
        m.hdr.size = hdrSize bytes.length

/-- The peer fetches this manifest, which has the descriptors of the base in front and in which the
parser finds the CPorts that the node has. -/
structure Fetches (cfg : Config) (base : List UInt8) (s : Service) (manifest : List UInt8) :
    Prop where
  size : ∀ operation, Responds (gbControlGetManifestSize s.bridgeManifest operation)
    (le16Bytes (UInt16.ofNat manifest.length))
  bytes : ∀ operation, Responds (gbControlGetManifest s.bridgeManifest operation) manifest
  base : base.drop sizeofManifestHeader <+: manifest.drop sizeofManifestHeader
  cports : ∀ after, ∃ g, manifestParse cfg (ofBuffer manifest after) (fun _ => true)
    manifest.length .initial = some (true, g) ∧ g.cports = s.g.cports
  numCports : s.numCports = s.g.cports.length ∧ s.numCports ≠ 0

theorem responds_fill {bytes : List UInt8} {n : Nat} (h : bytes.length = n) :
    Responds (.allocResponse n fun ok =>
      if !ok then .done OperationResult.noMemory.code
      else .fillResponse bytes (.done OperationResult.success.code)) bytes := by
  subst h
  intro tr p halloc
  simp [HandlerProg.run, gbOperationAllocResponse, halloc, Processing.setResponseBuffer,
    Processing.fillResponse, Message.response]

section Started

variable {cfg : Config} {env : ServiceEnv} {base combined : List UInt8} {ds es : List (Descriptor cfg)}
  {s s' : Service} {ret : Int}

theorem startService_fetches (hvalid : HeaderValid combined)
    (hbase : base.drop sizeofManifestHeader = Descriptor.encode ds)
    (hds : combined.drop sizeofManifestHeader = Descriptor.encode (ds ++ es))
    (hcports : s.g.cports = (ds ++ es).filterMap Descriptor.cport?)
    (hnone : s.bridgeManifest = none) (h : startService env combined s = (ret, s')) :
    if ret = 0 then Fetches cfg base s' combined else s'.bridgeManifest = none := by
  rw [startService] at h
  dsimp only at h
  split at h
  next =>
    obtain ⟨rfl, rfl⟩ := Prod.mk.inj h
    exact hnone
  next hsome =>
    split at h
    next =>
      obtain ⟨rfl, rfl⟩ := Prod.mk.inj h
      exact hnone
    next =>
      split at h
      next hfailed =>
        obtain ⟨rfl, rfl⟩ := Prod.mk.inj h
        rw [if_neg (by omega)]
      next =>
        obtain ⟨rfl, rfl⟩ := Prod.mk.inj h
        rw [if_pos rfl]
        have hsize : getManifestSize (some combined) = combined.length := hvalid.size
        refine ⟨fun operation => ?_, fun operation => ?_, ?_, fun after => ?_, rfl, hsome⟩
        · show Responds (gbControlGetManifestSize (some combined) operation) _
          rw [gbControlGetManifestSize, hsize]
          exact responds_fill rfl
        · show Responds (gbControlGetManifest (some combined) operation) _
          simp only [gbControlGetManifest, hsize, List.take_length]
          exact responds_fill rfl
        · rw [hbase, hds, Descriptor.encode_append]
          exact List.prefix_append _ _
        · refine ⟨_, manifestParse_encode .initial (holds_ofBuffer _ _) (fun _ => rfl) hvalid hds, ?_⟩
          rw [registerAll_cports, hcports]
          rfl

end Started

/-- When `greybus_service_init` succeeds with fragments of well-formed descriptors that fit, the
peer fetches a manifest in which it finds the CPorts that the node counts; when it fails, there is
none to fetch. -/
theorem greybusServiceInit_fetches {cfg : Config} {env : ServiceEnv}
    {dss : List (List (Descriptor cfg))} {ret : Int} {s : Service}
    (hfragments : List.Forall₂ (fun f ds => f.data.drop sizeofManifestHeader = Descriptor.encode ds)
      env.fragments dss)
    (hfit : env.manifest.data.length + (dss.map Descriptor.keptSize).sum ≤ 65535)
    (hinit : greybusServiceInit cfg env .initial = some (ret, s)) :
    if ret = 0 then ∃ manifest, Fetches cfg env.manifest.data s manifest
    else s.bridgeManifest = none := by
  rw [greybusServiceInit, if_neg (by decide)] at hinit
  split at hinit
  next hfailed =>
    obtain ⟨rfl, rfl⟩ := Prod.mk.inj (Option.some.inj hinit)
    rw [if_neg (by omega)]
    rfl
  split at hinit
  next =>
    obtain ⟨rfl, rfl⟩ := Prod.mk.inj (Option.some.inj hinit)
    rfl
  split at hinit
  next hfailed =>
    obtain ⟨rfl, rfl⟩ := Prod.mk.inj (Option.some.inj hinit)
    rw [if_neg (by omega)]
    rfl
  obtain ⟨⟨ok, g⟩, hparse, hinit⟩ := Option.bind_eq_some_iff.mp hinit
  dsimp only at hinit
  split at hinit
  next =>
    obtain ⟨rfl, rfl⟩ := Prod.mk.inj (Option.some.inj hinit)
    rfl
  next hok =>
    obtain rfl : ok = true := by simpa using hok
    obtain ⟨hvalid, ds, hds, rfl⟩ := manifestParse_accepts (holds_ofBuffer _ _) hparse
    split at hinit
    next =>
      obtain ⟨rfl, rfl⟩ := Prod.mk.inj (Option.some.inj hinit)
      rfl
    obtain ⟨⟨patched, g'⟩, hpatch, hinit⟩ := Option.map_eq_some_iff.mp hinit
    cases patched with
    | error r =>
      obtain ⟨rfl, rfl⟩ := Prod.mk.inj hinit
      have hr := patchFragments_error hpatch
      rw [if_neg (by omega)]
      rfl
    | ok combined =>
      obtain ⟨hcports, hnew, es, hbody, hes⟩ :=
        patchFragments_manifest hfragments hvalid hds hfit hpatch
      have hall : g'.cports = (ds ++ es).filterMap Descriptor.cport? := by
        rw [hcports, registerAll_cports, List.filterMap_append, hes, List.append_nil]
        rfl
      have hstarted := startService_fetches hnew hds hbody hall rfl hinit
      split
      next hret =>
        rw [if_pos hret] at hstarted
        exact ⟨combined, hstarted⟩
      next hret =>
        rw [if_neg hret] at hstarted
        exact hstarted

/-- A CPORT, patched with a string and the property that it names. -/
def patchedService : ServiceEnv where
  tlsInit := 0
  bus := true
  manifest := ⟨0, [12, 0, 0, 1] ++ sampleCport.bytes, fun _ => none⟩
  malloc := fun _ => true
  combined := true
  fragments := [⟨⟨0, namedProperty.data, fun _ => none⟩, ⟨fun _ => true, fun _ => 0⟩, 3⟩]
  backend := true
  gbInit := 0

theorem greybusServiceInit_fetches_patched : ∃ s manifest,
    greybusServiceInit .native patchedService .initial = some (0, s) ∧ s.numCports = 1 ∧
      Fetches .native patchedService.manifest.data s manifest := by
  have hsome : (greybusServiceInit .native patchedService .initial).map
      (fun r => (r.1, r.2.numCports)) = some (0, 1) := by decide +kernel
  obtain ⟨⟨ret, s⟩, hinit, hret⟩ := Option.map_eq_some_iff.mp hsome
  obtain ⟨rfl, hcount⟩ := Prod.mk.inj hret
  have hfragments : List.Forall₂ (fun (f : FragmentEnv) (ds : List (Descriptor .native)) =>
      f.data.drop sizeofManifestHeader = Descriptor.encode ds) patchedService.fragments
      [namedProperty.descriptors] := .cons namedProperty.body .nil
  have hfetches := greybusServiceInit_fetches hfragments (by decide) hinit
  rw [if_pos rfl] at hfetches
  obtain ⟨manifest, hmanifest⟩ := hfetches
  exact ⟨s, manifest, hinit, hcount, hmanifest⟩

end Greybus.Platform
