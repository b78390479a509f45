import Greybus.Protocols.Camera
import Greybus.Reasoning.Slices

/-!
# The buffers of a camera configuration

The blocks that `gb_camera_configure_streams` reads from its request, and the response that it fills
in.  The number of blocks is compared with a constant only, and the response is filled in without a
look whether there is one.
-/

namespace Greybus.Camera

open Reasoning.Slices

/-- `request->config[i]`, in the request's payload. -/
def configSlice (i : Nat) : Slice := ⟨4 + 8 * i, 8⟩

/-- `gb_camera_configure_streams`, with the blocks that it reads. -/
def configureStreamsRun (env : Env) (after : Nat → UInt8) (operation : Operation) (flags : Flags)
    (info : CameraInfo) : List Slice × Option Handled :=
  let request := operation.requestBuffer.payloadByte after
  if operation.requestBuffer.payloadSize < 4 then ([], some (refuse .invalid info))
  else if request 0 > maxStreamsNum then ([], some (refuse .invalid info))
  else if request 0 = 0 then
    if info.state < stateUnconfigured ∨ info.state > stateConfigured then
      ([], some (refuse .invalid info))
    else ([], some (unconfigureStreams env))
  else if info.state ≠ stateUnconfigured then ([], some (refuse .invalid info))
  -- The blocks are converted before anything else is allocated or asked of the driver.
  else if !env.mallocRequest then ([], some (refuse .noMemory info))
  else ((List.range (request 0).toNat).map configSlice, configureStreams env flags request info)

theorem configureStreamsRun_snd (env : Env) (after : Nat → UInt8) (operation : Operation)
    (flags : Flags) (info : CameraInfo) :
    (configureStreamsRun env after operation flags info).2
      = gbCameraConfigureStreams env after operation flags info := by
  unfold configureStreamsRun gbCameraConfigureStreams
  simp only [apply_ite Prod.snd]
  congr 4
  split
  next hmalloc => rw [configureStreams, if_pos hmalloc]
  next => rfl

/-- Blocks are read only from the payload, a request that announces more than it has is refused, and
what is stored lies in a response. -/
structure StreamsBounded (requestSize announced : Nat) (run : List Slice × Option Handled) :
    Prop where
  read : ∀ s ∈ run.1, s.stop ≤ requestSize
  refused : 4 ≤ requestSize → requestSize < 4 + 8 * announced →
    ∃ handled, run.2 = some handled ∧ handled.result = .invalid
  written : ∃ handled, run.2 = some handled ∧
    ∀ response, handled.response = some response → response.stored.length ≤ response.size

/-! ## What is stored -/

theorem length_responseBlock (ans : StreamsCfgAns) : (responseBlock ans).length = 16 := rfl

theorem length_configureStreamsResponse (a : StreamsAnswer) :
    (configureStreamsResponse a).length = 12 + 16 * a.numStreams.toNat := by
  have hblocks : ((List.range a.numStreams.toNat).flatMap fun i =>
      responseBlock (a.cfgAnswer i)).length = 16 * a.numStreams.toNat := by
    simp only [List.length_flatMap, length_responseBlock, List.map_const', List.length_range,
      List.sum_replicate_nat, Nat.mul_comm]
  rw [configureStreamsResponse, List.length_append, hblocks]
  rfl

section Run

variable {env : Env} {after : Nat → UInt8} {operation : Operation} {flags : Flags}
  {info : CameraInfo} {requestSize announced : Nat} {request : Nat → UInt8}

-- A request that is refused before its blocks are read.
theorem StreamsBounded.of_invalid :
    StreamsBounded requestSize announced ([], some (refuse .invalid info)) := by
  refine ⟨List.forall_mem_nil _, fun _ _ => ⟨_, rfl, rfl⟩, ⟨_, rfl, fun response hresponse => ?_⟩⟩
  cases hresponse

-- No block is announced, and nothing is stored.
theorem unconfigureStreams_bounded :
    StreamsBounded requestSize 0 ([], some (unconfigureStreams env)) := by
  refine ⟨List.forall_mem_nil _, fun hhdr hshort => absurd hshort (Nat.not_lt.mpr hhdr),
    ⟨_, rfl, fun response hresponse => ?_⟩⟩
  rw [unconfigureStreams] at hresponse
  split at hresponse
  next => cases hresponse
  next =>
    cases hmemory : env.allocResponse with
    | false =>
      rw [hmemory] at hresponse
      cases hresponse
    | true =>
      rw [hmemory] at hresponse
      cases hresponse
      exact Nat.zero_le _

theorem configSlice_stop (i : Nat) : (configSlice i).stop = 4 + 8 * (i + 1) := by
  show 4 + 8 * i + 8 = _
  omega

-- All the blocks are inside if the last one is.
theorem configSlices_inside {count : Nat} (hpos : 0 < count) :
    (∀ s ∈ (List.range count).map configSlice, s.stop ≤ requestSize) ↔
      4 + 8 * count ≤ requestSize := by
  rw [List.forall_mem_map]
  constructor
  · intro h
    have hlast := h (count - 1) (List.mem_range.mpr (by omega))
    rw [configSlice_stop] at hlast
    omega
  · intro h i hi
    have hlt := List.mem_range.mp hi
    rw [configSlice_stop]
    omega

/-- Nothing is stored, or there is a response to store into. -/
def StoresInside (env : Env) : Prop :=
  env.mallocRequest = false ∨ env.mallocAnswer = false ∨ env.setStreamsCfg.ret ≠ 0 ∨
    env.allocResponse = true

-- A driver that raises the number of streams would have more stored than was allocated.
theorem configureStreams_written_iff (hdriver : env.setStreamsCfg.numStreams ≤ request 0) :
    (∃ handled, configureStreams env flags request info = some handled ∧
      ∀ response, handled.response = some response → response.stored.length ≤ response.size) ↔
    StoresInside env := by
  rw [configureStreams, StoresInside]
  cases env.mallocRequest with
  | false => exact iff_of_true ⟨_, rfl, fun _ h => by cases h⟩ (.inl rfl)
  | true =>
    cases env.mallocAnswer with
    | false => exact iff_of_true ⟨_, rfl, fun _ h => by cases h⟩ (.inr (.inl rfl))
    | true =>
      by_cases hret : env.setStreamsCfg.ret ≠ 0
      · simp only [Bool.not_true, Bool.false_eq_true, if_false, if_pos hret]
        exact iff_of_true ⟨_, rfl, fun _ h => by cases h⟩ (.inr (.inr (.inl hret)))
      simp only [Bool.not_true, Bool.false_eq_true, if_false, if_neg hret]
      cases env.allocResponse with
      | false =>
        refine iff_of_false ?_ (by simp [hret])
        rintro ⟨handled, hnone, -⟩
        cases hnone
      | true =>
        refine iff_of_true ⟨_, rfl, fun response hresponse => ?_⟩ (.inr (.inr (.inr rfl)))
        cases hresponse
        show (configureStreamsResponse env.setStreamsCfg).length ≤ 12 + 16 * (request 0).toNat
        rw [length_configureStreamsResponse]
        have hle : env.setStreamsCfg.numStreams.toNat ≤ (request 0).toNat := hdriver
        omega

-- Past the checks, the blocks are read if there is memory for them.
theorem configureBlocks_bounded_iff (hhdr : 4 ≤ requestSize) (hpos : 0 < (request 0).toNat)
    (hdriver : env.setStreamsCfg.numStreams ≤ request 0) :
    StreamsBounded requestSize (request 0).toNat
        (if !env.mallocRequest then ([], some (refuse .noMemory info))
        else ((List.range (request 0).toNat).map configSlice,
          configureStreams env flags request info)) ↔
      4 + 8 * (request 0).toNat ≤ requestSize ∧ StoresInside env := by
  cases hmalloc : env.mallocRequest with
  | false =>
    rw [Bool.not_false, if_pos rfl]
    constructor
    · intro h
      refine ⟨Nat.not_lt.mp fun hshort => ?_, .inl hmalloc⟩
      obtain ⟨handled, hhandled, hresult⟩ := h.refused hhdr hshort
      cases hhandled
      cases hresult
    · rintro ⟨hfits, -⟩
      refine ⟨List.forall_mem_nil _, fun _ hshort => absurd hfits (Nat.not_le.mpr hshort),
        ⟨_, rfl, fun response hresponse => ?_⟩⟩
      cases hresponse
  | true =>
    rw [Bool.not_true, if_neg Bool.false_ne_true]
    constructor
    · intro h
      have hread := (configSlices_inside hpos).mp h.read
      exact ⟨hread, (configureStreams_written_iff hdriver).mp h.written⟩
    · rintro ⟨hfits, hstores⟩
      have hread := (configSlices_inside hpos).mpr hfits
      exact ⟨hread, fun _ hshort => absurd hfits (Nat.not_le.mpr hshort),
        (configureStreams_written_iff hdriver).mpr hstores⟩

end Run

/-- With a driver that does not raise the number of streams, a configuration reads blocks only from
the payload, is refused if it announces more than it has, and stores only into a response, exactly
if it is refused before its blocks are read, or asks for no streams, or has its blocks and does not
come to a response that there is no memory for. -/
theorem streamsBounded_iff (env : Env) (after : Nat → UInt8) (operation : Operation) (flags : Flags)
    (info : CameraInfo) :
    let request := operation.requestBuffer.payloadByte after
    let requestSize := operation.requestBuffer.payloadSize
    env.setStreamsCfg.numStreams ≤ request 0 →
    (StreamsBounded requestSize (request 0).toNat
        (configureStreamsRun env after operation flags info) ↔
      requestSize < 4 ∨ request 0 > maxStreamsNum ∨ request 0 = 0 ∨
        info.state ≠ stateUnconfigured ∨
        4 + 8 * (request 0).toNat ≤ requestSize ∧ StoresInside env) := by
  intro request requestSize hdriver
  rw [configureStreamsRun]
  by_cases hhdr : requestSize < 4
  · rw [if_pos hhdr]
    exact iff_of_true .of_invalid (.inl hhdr)
  rw [if_neg hhdr, or_iff_right hhdr]
  by_cases hmax : request 0 > maxStreamsNum
  · rw [if_pos hmax]
    exact iff_of_true .of_invalid (.inl hmax)
  rw [if_neg hmax, or_iff_right hmax]
  by_cases hzero : request 0 = 0
  · rw [if_pos hzero]
    refine iff_of_true ?_ (.inl hzero)
    split
    next => exact .of_invalid
    next =>
      rw [hzero]
      exact unconfigureStreams_bounded
  rw [if_neg hzero, or_iff_right hzero]
  by_cases hstate : info.state ≠ stateUnconfigured
  · rw [if_pos hstate]
    exact iff_of_true .of_invalid (.inl hstate)
  rw [if_neg hstate, or_iff_right hstate]
  have hpos : 0 < (request 0).toNat :=
    Nat.pos_of_ne_zero fun h => hzero (UInt8.toNat_inj.mp h)
  exact configureBlocks_bounded_iff (Nat.not_lt.mp hhdr) hpos hdriver

/-- A driver that accepts every configuration, with or without memory for a response. -/
def plainEnv (allocResponse : Bool) : Env :=
  ⟨true, true, allocResponse, (0, []), plainAnswer 0, 0, (0, 0)⟩

/-- A request for one stream, with so many zero bytes behind its header. -/
def oneStream (behind : Nat) : Operation :=
  .fresh 0 (requestOf 3 ([1, 0, 0, 0] ++ List.replicate behind 0))

theorem streamsBounded_iff_oneBlock :
    (plainEnv true).setStreamsCfg.numStreams
        ≤ (oneStream 8).requestBuffer.payloadByte (fun _ => 0) 0 ∧
      StreamsBounded 12 1
        (configureStreamsRun (plainEnv true) (fun _ => 0) (oneStream 8) ⟨1, 1⟩
          ⟨stateUnconfigured⟩) := by
  have hdriver : (plainEnv true).setStreamsCfg.numStreams
      ≤ (oneStream 8).requestBuffer.payloadByte (fun _ => 0) 0 := by decide
  exact ⟨hdriver, (streamsBounded_iff (plainEnv true) (fun _ => 0) (oneStream 8) ⟨1, 1⟩
    ⟨stateUnconfigured⟩ hdriver).mpr
    (.inr (.inr (.inr (.inr ⟨by decide, .inr (.inr (.inr rfl))⟩))))⟩

-- A block that is not there is read; a response that is not there is stored into.
theorem streamsBounded_fails :
    (oneStream 0).requestBuffer.payloadSize = 4 ∧
    (configureStreamsRun (plainEnv true) (fun _ => 0) (oneStream 0) ⟨1, 1⟩ ⟨stateUnconfigured⟩).1
      = [⟨4, 8⟩] ∧
    (gbCameraConfigureStreams (plainEnv true) (fun _ => 0) (oneStream 0) ⟨1, 1⟩
      ⟨stateUnconfigured⟩).map (·.result) = some .success ∧
    ¬ StreamsBounded 4 1 (configureStreamsRun (plainEnv true) (fun _ => 0) (oneStream 0) ⟨1, 1⟩
      ⟨stateUnconfigured⟩) ∧
    gbCameraConfigureStreams (plainEnv false) (fun _ => 0) (oneStream 8) ⟨1, 1⟩ ⟨stateUnconfigured⟩
      = none ∧
    ¬ StreamsBounded 12 1 (configureStreamsRun (plainEnv false) (fun _ => 0) (oneStream 8) ⟨1, 1⟩
      ⟨stateUnconfigured⟩) := by
  have hread : (configureStreamsRun (plainEnv true) (fun _ => 0) (oneStream 0) ⟨1, 1⟩
      ⟨stateUnconfigured⟩).1 = [⟨4, 8⟩] := by decide
  have hnone : gbCameraConfigureStreams (plainEnv false) (fun _ => 0) (oneStream 8) ⟨1, 1⟩
      ⟨stateUnconfigured⟩ = none := by decide
  refine ⟨by decide, hread, by decide, fun h => ?_, hnone, fun h => ?_⟩
  · exact absurd (h.read ⟨4, 8⟩ (hread ▸ List.mem_cons_self)) (by decide)
  · obtain ⟨handled, hhandled, -⟩ := h.written
    rw [configureStreamsRun_snd, hnone] at hhandled
    cases hhandled

end Greybus.Camera
