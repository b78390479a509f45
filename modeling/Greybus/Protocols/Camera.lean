import Greybus.Protocols.Transfers
import Greybus.Reasoning.Transition

/-!
# The camera

The handlers of the camera protocol.  What may be asked of the camera driver depends on one state
byte, which the handlers read and set.  The driver is not part of the repository: what it returns
and stores is chosen by the environment of a request, as are the allocations.
-/

namespace Greybus.Camera

open Reasoning.Transition

/-! ## The operational model -/

/-- `STATE_UNCONFIGURED`. -/
def stateUnconfigured : UInt8 := 2

/-- `STATE_CONFIGURED`. -/
def stateConfigured : UInt8 := 3

/-- `STATE_STREAMING`. -/
def stateStreaming : UInt8 := 4

/-- `MAX_STREAMS_NUM`. -/
def maxStreamsNum : UInt8 := 4

/-- `struct gb_camera_info`; the CPort and the device are only passed on. -/
structure CameraInfo where
  state : UInt8
  deriving DecidableEq, Repr

/-- The flags of `device_camera_set_streams_cfg`, which the driver's header defines. -/
structure Flags where
  -- `CAMERA_CONF_STREAMS_ADJUSTED`, in the result flags.
  adjusted : UInt8
  -- `CAMERA_CONF_STREAMS_TEST_ONLY`, in the request flags.
  testOnly : UInt8

/-! ## The driver -/

/-- `struct streams_cfg_req`. -/
structure StreamsCfgReq where
  width : Nat
  height : Nat
  format : Nat
  padding : Nat
  deriving DecidableEq, Repr

/-- `struct streams_cfg_ans`. -/
structure StreamsCfgAns where
  width : Nat
  height : Nat
  format : Nat
  virtualChannel : UInt8
  dataType : UInt8
  maxSize : Nat
  deriving DecidableEq, Repr

/-- `struct capture_info`, with the bytes that `settings` points to. -/
structure CaptureInfo where
  requestId : Nat
  streams : UInt8
  numFrames : Nat
  settings : List UInt8
  deriving DecidableEq, Repr

/-- What `device_camera_set_streams_cfg` returns and stores. -/
structure StreamsAnswer where
  ret : Int
  numStreams : UInt8
  resFlags : UInt8
  numLanes : UInt8
  busFreq : Nat
  linesPerSecond : Nat
  cfgAnswer : Nat → StreamsCfgAns

/-- A call of the driver. -/
inductive DriverCall where
  | capabilities
  | setStreamsCfg (numStreams flags : UInt8) (request : List StreamsCfgReq)
  | capture (request : CaptureInfo)
  | flush
  deriving DecidableEq, Repr

/-- What a request meets. -/
structure Env where
  -- The two calls of `malloc`, in order.
  mallocRequest : Bool
  mallocAnswer : Bool
  allocResponse : Bool
  capabilities : Int × List UInt8
  setStreamsCfg : StreamsAnswer
  capture : Int
  -- The return value and the stored request id.
  flush : Int × Nat

/-- A response that has been allocated, and the bytes that the handler stores from its start on. -/
structure Response where
  size : Nat
  stored : List UInt8
  deriving DecidableEq, Repr

/-- What a handler leaves behind. -/
structure Handled where
  result : OperationResult
  info : CameraInfo
  calls : List DriverCall
  response : Option Response
  deriving DecidableEq, Repr

/-- The handler returns early. -/
def refuse (result : OperationResult) (info : CameraInfo) : Handled := ⟨result, info, [], none⟩

/-! ## The handlers -/

section Handlers

variable (env : Env)

/-- `gb_camera_protocol_version`. -/
def gbCameraProtocolVersion (info : CameraInfo) : Handled :=
  if !env.allocResponse then refuse .noMemory info
  else ⟨.success, info, [], some ⟨2, [0, 1]⟩⟩

/-- `gb_camera_capabilities`. -/
def gbCameraCapabilities (info : CameraInfo) : Handled :=
  if info.state < stateUnconfigured then refuse .invalid info
  else
    let (ret, caps) := env.capabilities
    if ret ≠ 0 then ⟨gbErrnoToOpResult ret, info, [.capabilities], none⟩
    else if caps.length > gbMaxPayloadSize then ⟨.noMemory, info, [.capabilities], none⟩
    else if !env.allocResponse then ⟨.noMemory, info, [.capabilities], none⟩
    else ⟨.success, info, [.capabilities], some ⟨caps.length, caps⟩⟩

/-- `request->config[i]`. -/
def configBlock (request : Nat → UInt8) (i : Nat) : StreamsCfgReq where
  width := u16At request (4 + 8 * i)
  height := u16At request (4 + 8 * i + 2)
  format := u16At request (4 + 8 * i + 4)
  padding := u16At request (4 + 8 * i + 6)

/-- `response->config[i]`; the second data type is not used. -/
def responseBlock (ans : StreamsCfgAns) : List UInt8 :=
  bytes16 ans.width ++ bytes16 ans.height ++ bytes16 ans.format
    ++ [ans.virtualChannel, ans.dataType, 0, 0, 0, 0] ++ bytes32 ans.maxSize

/-- The fields of the response, and as many blocks as the driver says. -/
def configureStreamsResponse (a : StreamsAnswer) : List UInt8 :=
  [a.numStreams, a.resFlags, a.numLanes, 0] ++ bytes32 a.busFreq ++ bytes32 a.linesPerSecond
    ++ (List.range a.numStreams.toNat).flatMap fun i => responseBlock (a.cfgAnswer i)

/-- `gb_camera_configure_streams` for zero streams, after the state check. -/
def unconfigureStreams : Handled :=
  let info : CameraInfo := ⟨stateUnconfigured⟩
  let call := .setStreamsCfg 0 0 []
  if env.setStreamsCfg.ret ≠ 0 then
    ⟨gbErrnoToOpResult env.setStreamsCfg.ret, info, [call], none⟩
  else ⟨.success, info, [call], if env.allocResponse then some ⟨12, []⟩ else none⟩

/-- The state after the driver has accepted a configuration. -/
def configuredState (flags : Flags) (requestFlags resFlags : UInt8) : UInt8 :=
  if resFlags &&& flags.adjusted ≠ 0 then stateUnconfigured
  else if requestFlags &&& flags.testOnly ≠ 0 then stateUnconfigured
  else stateConfigured

/-- `gb_camera_configure_streams` for at least one stream, after the state check.  The response is
filled in without a look whether it was allocated: `none` is a store through NULL. -/
def configureStreams (flags : Flags) (request : Nat → UInt8) (info : CameraInfo) :
    Option Handled :=
  if !env.mallocRequest then some (refuse .noMemory info)
  else if !env.mallocAnswer then some (refuse .noMemory info)
  else
    let numStreams := request 0
    let call := .setStreamsCfg numStreams (request 1)
      ((List.range numStreams.toNat).map (configBlock request))
    let a := env.setStreamsCfg
    if a.ret ≠ 0 then some ⟨.invalid, info, [call], none⟩
    else if !env.allocResponse then none
    else
      some ⟨.success, ⟨configuredState flags (request 1) a.resFlags⟩, [call],
        some ⟨12 + 16 * numStreams.toNat, configureStreamsResponse a⟩⟩

-- What lies behind the request's buffer.
variable (after : Nat → UInt8) (operation : Operation)

/-- `gb_camera_configure_streams`. -/
def gbCameraConfigureStreams (flags : Flags) (info : CameraInfo) : Option Handled :=
  let request := operation.requestBuffer.payloadByte after
  if operation.requestBuffer.payloadSize < 4 then some (refuse .invalid info)
  else if request 0 > maxStreamsNum then some (refuse .invalid info)
  else if request 0 = 0 then
    if info.state < stateUnconfigured ∨ info.state > stateConfigured then
      some (refuse .invalid info)
    else some (unconfigureStreams env)
  else if info.state ≠ stateUnconfigured then some (refuse .invalid info)
  else configureStreams env flags request info

/-- The capture that a request asks for. -/
def captureInfo : CaptureInfo :=
  let request := operation.requestBuffer.payloadByte after
  { requestId := u32At request 0
    streams := request 4
    numFrames := u16At request 6
    settings :=
      (List.range (operation.requestBuffer.payloadSize - 8)).map fun i => request (8 + i) }

/-- `gb_camera_capture`. -/
def gbCameraCapture (info : CameraInfo) : Handled :=
  if info.state ≠ stateConfigured ∧ info.state ≠ stateStreaming then refuse .invalid info
  else if operation.requestBuffer.payloadSize < 8 then refuse .invalid info
  else if operation.requestBuffer.payloadByte after 5 ≠ 0 then refuse .invalid info
  else if !env.mallocRequest then refuse .noMemory info
  else
    let call := .capture (captureInfo after operation)
    if env.capture ≠ 0 then ⟨gbErrnoToOpResult env.capture, info, [call], none⟩
    else ⟨.success, info, [call], none⟩

/-- `gb_camera_flush`. -/
def gbCameraFlush (info : CameraInfo) : Handled :=
  if info.state ≠ stateStreaming ∧ info.state ≠ stateConfigured then refuse .invalid info
  else
    let (ret, requestId) := env.flush
    if ret ≠ 0 then ⟨gbErrnoToOpResult ret, info, [.flush], none⟩
    else
      let info : CameraInfo := ⟨stateConfigured⟩
      if !env.allocResponse then ⟨.noMemory, info, [.flush], none⟩
      else ⟨.success, info, [.flush], some ⟨4, bytes32 requestId⟩⟩

end Handlers

/-- `gb_camera_init`: what it returns, and `info` if it succeeds. -/
def gbCameraInit (zalloc deviceOpen : Bool) : Int × Option CameraInfo :=
  if !zalloc then (-ENOMEM, none)
  else if !deviceOpen then (- EIO, none)
  else (0, some ⟨stateUnconfigured⟩)

theorem gbCameraInit_info {zalloc deviceOpen : Bool} {ret : Int} {info : CameraInfo}
    (h : gbCameraInit zalloc deviceOpen = (ret, some info)) : info = ⟨stateUnconfigured⟩ := by
  cases zalloc with
  | false => cases h
  | true =>
    cases deviceOpen with
    | false => cases h
    | true => exact (Option.some.inj (congrArg Prod.snd h)).symm

/-- A handler, which may come to an undefined store. -/
abbrev Handler := Env → (Nat → UInt8) → Operation → CameraInfo → Option Handled

/-- `gb_camera_handlers`. -/
def gbCameraHandlers (flags : Flags) : List (UInt8 × Handler) :=
  [(0x01, fun env _ _ info => some (gbCameraProtocolVersion env info)),
   (0x02, fun env _ _ info => some (gbCameraCapabilities env info)),
   (0x03, fun env after operation info => gbCameraConfigureStreams env after operation flags info),
   (0x04, fun env after operation info => some (gbCameraCapture env after operation info)),
   (0x05, fun env _ _ info => some (gbCameraFlush env info))]

/-! ## Requests -/

/-- A request of the camera protocol, and what it meets. -/
structure Request where
  type : UInt8
  after : Nat → UInt8
  operation : Operation
  env : Env

/-- A byte of the payload. -/
def Request.byte (r : Request) (i : Nat) : UInt8 := r.operation.requestBuffer.payloadByte r.after i

section Requests

variable (flags : Flags)

/-- The handler of a request, run; there is none for a type that is not in the table. -/
def serve (info : CameraInfo) (r : Request) : Option Handled :=
  ((gbCameraHandlers flags).find? fun h => h.1 = r.type).bind fun h =>
    h.2 r.env r.after r.operation info

def step (info : CameraInfo) (r : Request) : Option CameraInfo := (serve flags info r).map (·.info)

/-- The driver was asked to configure at least one stream, and accepted it as it was. -/
def Handled.Configures (out : Handled) (env : Env) : Prop :=
  ∃ numStreams requestFlags request,
    .setStreamsCfg numStreams requestFlags request ∈ out.calls ∧ numStreams ≠ 0 ∧
      env.setStreamsCfg.ret = 0 ∧ requestFlags &&& flags.testOnly = 0 ∧
      env.setStreamsCfg.resFlags &&& flags.adjusted = 0

def Configures (info : CameraInfo) (r : Request) (_ : CameraInfo) : Prop :=
  ∃ out, serve flags info r = some out ∧ out.Configures flags r.env

end Requests

/-- A configure-streams request for no streams that passes the state check. -/
def Request.Unconfigures (r : Request) (info : CameraInfo) : Prop :=
  r.type = 0x03 ∧ 4 ≤ r.operation.requestBuffer.payloadSize ∧ r.byte 0 = 0 ∧
    stateUnconfigured ≤ info.state ∧ info.state ≤ stateConfigured

instance (r : Request) (info : CameraInfo) : Decidable (r.Unconfigures info) :=
  inferInstanceAs (Decidable (_ ∧ _ ∧ _ ∧ _ ∧ _))

/-- The states in which the driver is asked to capture and to flush. -/
def CameraInfo.InUse (info : CameraInfo) : Prop :=
  info.state = stateConfigured ∨ info.state = stateStreaming

def DriverCall.IsStreaming : DriverCall → Prop
  | .capture _ => True
  | .flush => True
  | _ => False

/-- A handler has forwarded a capture or a flush to the driver. -/
def Handled.Streams (out : Handled) : Prop := ∃ call ∈ out.calls, call.IsStreaming

variable {flags : Flags} {info info' : CameraInfo} {r : Request} {out : Handled}

/-- What a request can come to. -/
inductive Served (flags : Flags) (info : CameraInfo) (r : Request) : Handled → Prop
  | kept {out : Handled} (hinfo : out.info = info) (hcalls : out.Streams → info.InUse)
      (hkeeps : ¬ r.Unconfigures info) : Served flags info r out
  | unconfigured {out : Handled} (hinfo : out.info.state = stateUnconfigured)
      (hcalls : ¬ out.Streams) (hr : r.Unconfigures info) : Served flags info r out
  | configured {out : Handled} (hres : out.result = .success)
      (hinfo : out.info.state = stateConfigured) (hcalls : ¬ out.Streams)
      (hout : out.Configures flags r.env) : Served flags info r out
  | flushed {out : Handled} (hinfo : out.info.state = stateConfigured) (huse : info.InUse)
      (hkeeps : ¬ r.Unconfigures info) : Served flags info r out

theorem not_streams_nil (h : out.calls = []) : ¬ out.Streams := by
  rintro ⟨call, hcall, -⟩
  rw [h] at hcall
  exact absurd hcall List.not_mem_nil

theorem not_streams_singleton {call : DriverCall} (h : out.calls = [call])
    (hcall : ¬ call.IsStreaming) : ¬ out.Streams := by
  rintro ⟨call', hmem, hstream⟩
  rw [h, List.mem_singleton] at hmem
  exact hcall (hmem ▸ hstream)

theorem served_refuse {result : OperationResult} (hkeeps : ¬ r.Unconfigures info) :
    Served flags info r (refuse result info) :=
  .kept rfl (fun h => absurd h (not_streams_nil rfl)) hkeeps

theorem not_unconfigures_of_type (htype : r.type ≠ 0x03) : ¬ r.Unconfigures info :=
  fun h => htype h.1

theorem served_unconfigureStreams (hr : r.Unconfigures info) :
    Served flags info r (unconfigureStreams r.env) := by
  unfold unconfigureStreams
  dsimp only
  split
  next => exact .unconfigured rfl (not_streams_singleton rfl id) hr
  next => exact .unconfigured rfl (not_streams_singleton rfl id) hr

-- A configuration that is adjusted or only tested leaves the camera unconfigured.
theorem configuredState_cases (requestFlags resFlags : UInt8) :
    configuredState flags requestFlags resFlags = stateUnconfigured ∨
      configuredState flags requestFlags resFlags = stateConfigured ∧
        requestFlags &&& flags.testOnly = 0 ∧ resFlags &&& flags.adjusted = 0 := by
  unfold configuredState
  by_cases hadjusted : resFlags &&& flags.adjusted = 0
  · rw [if_neg (not_not_intro hadjusted)]
    by_cases htest : requestFlags &&& flags.testOnly = 0
    · rw [if_neg (not_not_intro htest)]
      exact .inr ⟨rfl, htest, hadjusted⟩
    · rw [if_pos htest]
      exact .inl rfl
  · rw [if_pos hadjusted]
    exact .inl rfl

theorem served_configureStreams (hstreams : r.byte 0 ≠ 0)
    (hstate : info.state = stateUnconfigured)
    (h : configureStreams r.env flags (r.operation.requestBuffer.payloadByte r.after) info
      = some out) :
    Served flags info r out := by
  have hkeeps : ¬ r.Unconfigures info := fun h => hstreams h.2.2.1
  unfold configureStreams at h
  dsimp only at h
  split at h
  next =>
    obtain rfl := Option.some.inj h
    exact served_refuse hkeeps
  split at h
  next =>
    obtain rfl := Option.some.inj h
    exact served_refuse hkeeps
  split at h
  next =>
    obtain rfl := Option.some.inj h
    exact .kept rfl (fun hs => absurd hs (not_streams_singleton rfl id)) hkeeps
  next hret =>
    split at h
    next => cases h
    obtain rfl := Option.some.inj h
    rcases @configuredState_cases flags (r.byte 1) r.env.setStreamsCfg.resFlags with
      hcfg | ⟨hcfg, htest, hadjusted⟩
    · refine .kept ?_ (fun hs => absurd hs (not_streams_singleton rfl id)) hkeeps
      show CameraInfo.mk _ = info
      exact congrArg CameraInfo.mk (hcfg.trans hstate.symm)
    · exact .configured rfl hcfg (not_streams_singleton rfl id)
        ⟨_, _, _, List.mem_singleton_self _, hstreams, Decidable.not_not.mp hret, htest, hadjusted⟩

theorem served_gbCameraConfigureStreams (htype : r.type = 0x03)
    (h : gbCameraConfigureStreams r.env r.after r.operation flags info = some out) :
    Served flags info r out := by
  unfold gbCameraConfigureStreams at h
  dsimp only at h
  split at h
  next hshort =>
    obtain rfl := Option.some.inj h
    exact served_refuse fun hun => absurd hun.2.1 (by omega)
  next hsize =>
    split at h
    next hmany =>
      obtain rfl := Option.some.inj h
      apply served_refuse
      intro hun
      have hzero : r.byte 0 = 0 := hun.2.2.1
      have hmax : maxStreamsNum < r.byte 0 := hmany
      rw [hzero] at hmax
      exact absurd hmax (by decide)
    split at h
    next hzero =>
      split at h
      next hstate =>
        obtain rfl := Option.some.inj h
        apply served_refuse
        intro hun
        rcases hstate with hlow | hhigh
        · exact absurd hun.2.2.2.1 (UInt8.not_le.mpr hlow)
        · exact absurd hun.2.2.2.2 (UInt8.not_le.mpr hhigh)
      next hstate =>
        obtain ⟨hlow, hhigh⟩ := not_or.mp hstate
        obtain rfl := Option.some.inj h
        exact served_unconfigureStreams
          ⟨htype, by omega, hzero, UInt8.not_lt.mp hlow, UInt8.not_lt.mp hhigh⟩
    next hstreams =>
      split at h
      next =>
        obtain rfl := Option.some.inj h
        exact served_refuse fun hun => hstreams hun.2.2.1
      next hstate => exact served_configureStreams hstreams (Decidable.not_not.mp hstate) h

theorem served_gbCameraCapture (htype : r.type ≠ 0x03) :
    Served flags info r (gbCameraCapture r.env r.after r.operation info) := by
  have hkeeps : ¬ r.Unconfigures info := not_unconfigures_of_type htype
  unfold gbCameraCapture
  by_cases huse : info.state ≠ stateConfigured ∧ info.state ≠ stateStreaming
  · rw [if_pos huse]
    exact served_refuse hkeeps
  rw [if_neg huse]
  have hinuse : info.InUse := by
    unfold CameraInfo.InUse
    by_cases hcfg : info.state = stateConfigured
    · exact .inl hcfg
    · exact .inr (Decidable.not_not.mp fun hstream => huse ⟨hcfg, hstream⟩)
  split
  next => exact served_refuse hkeeps
  split
  next => exact served_refuse hkeeps
  split
  next => exact served_refuse hkeeps
  dsimp only
  split
  next => exact .kept rfl (fun _ => hinuse) hkeeps
  next => exact .kept rfl (fun _ => hinuse) hkeeps

theorem served_gbCameraFlush (htype : r.type ≠ 0x03) :
    Served flags info r (gbCameraFlush r.env info) := by
  have hkeeps : ¬ r.Unconfigures info := not_unconfigures_of_type htype
  unfold gbCameraFlush
  by_cases huse : info.state ≠ stateStreaming ∧ info.state ≠ stateConfigured
  · rw [if_pos huse]
    exact served_refuse hkeeps
  rw [if_neg huse]
  have hinuse : info.InUse := by
    unfold CameraInfo.InUse
    by_cases hcfg : info.state = stateConfigured
    · exact .inl hcfg
    · exact .inr (Decidable.not_not.mp fun hstream => huse ⟨hstream, hcfg⟩)
  dsimp only
  split
  next => exact .kept rfl (fun _ => hinuse) hkeeps
  split
  next => exact .flushed rfl hinuse hkeeps
  next => exact .flushed rfl hinuse hkeeps

-- The other two requests leave the state alone and ask the driver for no stream.
theorem served_gbCameraProtocolVersion (htype : r.type ≠ 0x03) :
    Served flags info r (gbCameraProtocolVersion r.env info) := by
  have hkeeps : ¬ r.Unconfigures info := not_unconfigures_of_type htype
  unfold gbCameraProtocolVersion
  split
  next => exact served_refuse hkeeps
  next => exact .kept rfl (fun hs => absurd hs (not_streams_nil rfl)) hkeeps

theorem served_gbCameraCapabilities (htype : r.type ≠ 0x03) :
    Served flags info r (gbCameraCapabilities r.env info) := by
  have hkeeps : ¬ r.Unconfigures info := not_unconfigures_of_type htype
  unfold gbCameraCapabilities
  split
  next => exact served_refuse hkeeps
  dsimp only
  split
  next => exact .kept rfl (fun hs => absurd hs (not_streams_singleton rfl id)) hkeeps
  split
  next => exact .kept rfl (fun hs => absurd hs (not_streams_singleton rfl id)) hkeeps
  split
  next => exact .kept rfl (fun hs => absurd hs (not_streams_singleton rfl id)) hkeeps
  next => exact .kept rfl (fun hs => absurd hs (not_streams_singleton rfl id)) hkeeps

theorem serve_served (h : serve flags info r = some out) : Served flags info r out := by
  unfold serve at h
  obtain ⟨⟨type, handler⟩, hfind, hout⟩ := Option.bind_eq_some_iff.mp h
  have htype : type = r.type := by simpa using List.find?_some hfind
  have hmem := List.mem_of_find?_eq_some hfind
  simp only [gbCameraHandlers, List.mem_cons, List.not_mem_nil, or_false, Prod.mk.injEq] at hmem
  rcases hmem with ⟨rfl, rfl⟩ | ⟨rfl, rfl⟩ | ⟨rfl, rfl⟩ | ⟨rfl, rfl⟩ | ⟨rfl, rfl⟩
  · obtain rfl := Option.some.inj hout
    exact served_gbCameraProtocolVersion (by rw [← htype]; decide)
  · obtain rfl := Option.some.inj hout
    exact served_gbCameraCapabilities (by rw [← htype]; decide)
  · exact served_gbCameraConfigureStreams htype.symm hout
  · obtain rfl := Option.some.inj hout
    exact served_gbCameraCapture (by rw [← htype]; decide)
  · obtain rfl := Option.some.inj hout
    exact served_gbCameraFlush (by rw [← htype]; decide)

theorem step_served (h : step flags info r = some info') :
    ∃ out, serve flags info r = some out ∧ out.info = info' ∧ Served flags info r out := by
  obtain ⟨out, hserve, hinfo⟩ := Option.map_eq_some_iff.mp h
  exact ⟨out, hserve, hinfo, serve_served hserve⟩

/-! ## Errors -/

/-- The states that `gb_camera_init` and the handlers leave. -/
def CameraInfo.Settled (info : CameraInfo) : Prop :=
  info.state = stateUnconfigured ∨ info.state = stateConfigured

theorem step_settled (hinfo : info.Settled) (h : step flags info r = some info') :
    info'.Settled := by
  obtain ⟨out, -, rfl, hserved⟩ := step_served h
  cases hserved with
  | kept hkept => rwa [hkept]
  | unconfigured hun => exact .inl hun
  | configured hres hcfg => exact .inr hcfg
  | flushed hcfg => exact .inr hcfg

/-- A request that is not answered with success leaves the state as it was. -/
def ErrorKeeps (flags : Flags) (info : CameraInfo) (r : Request) (info' : CameraInfo) : Prop :=
  ∀ out, serve flags info r = some out → out.result ≠ .success → info' = info

/-- A request that is not answered with success leaves the state as it was, but for a request for
no streams that passes the state check: it leaves the camera unconfigured. -/
def ErrorKeepsOrUnconfigures (flags : Flags) (info : CameraInfo) (r : Request)
    (info' : CameraInfo) : Prop :=
  ∀ out, serve flags info r = some out → out.result ≠ .success →
    if r.Unconfigures info then info'.state = stateUnconfigured else info' = info

theorem step_errorKeepsOrUnconfigures (hinfo : info.Settled) (h : step flags info r = some info') :
    ErrorKeepsOrUnconfigures flags info r info' := by
  intro out' hout' hfail
  obtain ⟨out, hout, rfl, hserved⟩ := step_served h
  obtain rfl : out = out' := Option.some.inj (hout.symm.trans hout')
  cases hserved with
  | kept hkept hcalls hkeeps =>
    rw [if_neg hkeeps]
    exact hkept
  | unconfigured hun hcalls hr =>
    rw [if_pos hr]
    exact hun
  | configured hres => exact absurd hres hfail
  | flushed hcfg huse hkeeps =>
    rw [if_neg hkeeps]
    -- The state is configured before a flush as after it: no handler leaves it streaming.
    have hstate : info.state = stateConfigured := by
      rcases hinfo with hun | hcfg
      · rcases huse with huse | huse
        · exact huse
        · rw [hun] at huse
          exact absurd huse (by decide)
      · exact hcfg
    cases info
    exact congrArg CameraInfo.mk (hcfg.trans hstate.symm)

/-- In every run of camera requests, an error leaves the operational state as it was, or
unconfigures a camera that a request for no streams found in order. -/
theorem eachStep_errorKeepsOrUnconfigures (flags : Flags) (zalloc deviceOpen : Bool) (ret : Int)
    (info : CameraInfo) (rs : List Request)
    (hinit : gbCameraInit zalloc deviceOpen = (ret, some info)) :
    EachStep (step flags) (ErrorKeepsOrUnconfigures flags) info rs := by
  have hsettled : info.Settled := by
    rw [gbCameraInit_info hinit]
    exact .inl rfl
  have hiff : EachStep (step flags) (ErrorKeepsOrUnconfigures flags) info rs ↔
      EachStep (step flags) (fun _ _ _ => True) info rs :=
    eachStep_congr (fun _ _ _ => step_settled)
      (fun _ _ _ hinfo hstep => iff_of_true (step_errorKeepsOrUnconfigures hinfo hstep) trivial)
      hsettled
  exact hiff.mpr (eachStep_of_forall (fun _ _ _ _ => trivial) info)

/-- The driver's answer to a configuration, without anything adjusted. -/
def plainAnswer (ret : Int) : StreamsAnswer where
  ret := ret
  numStreams := 0
  resFlags := 0
  numLanes := 0
  busFreq := 0
  linesPerSecond := 0
  cfgAnswer := fun _ => ⟨0, 0, 0, 0, 0, 0⟩

/-- A configure-streams request without flags, and the driver's return value. -/
def configureRequest (numStreams : UInt8) (ret : Int) : Request where
  type := 0x03
  after := fun _ => 0
  operation :=
    .fresh 0 ⟨{ size := 12, id := 1, type := 0x03, result := 0, pad := 0 }, [numStreams, 0, 0, 0]⟩
  env := ⟨true, true, true, (0, []), plainAnswer ret, 0, (0, 0)⟩

theorem eachStep_errorKeepsOrUnconfigures_unconfigure :
    EachStep (step ⟨1, 1⟩) (ErrorKeepsOrUnconfigures ⟨1, 1⟩) ⟨stateUnconfigured⟩
      [configureRequest 1 0, configureRequest 0 (- EIO)] :=
  eachStep_errorKeepsOrUnconfigures ⟨1, 1⟩ true true 0 ⟨stateUnconfigured⟩ _ rfl

-- One stream is configured, and the driver then fails to stop it: the camera is unconfigured.
theorem eachStep_errorKeeps_unconfigure :
    run (step ⟨1, 1⟩) ⟨stateUnconfigured⟩ [configureRequest 1 0] = some ⟨stateConfigured⟩ ∧
      (serve ⟨1, 1⟩ ⟨stateConfigured⟩ (configureRequest 0 (- EIO))).map (·.result)
        = some .unknownError ∧
      ¬ EachStep (step ⟨1, 1⟩) (ErrorKeeps ⟨1, 1⟩) ⟨stateUnconfigured⟩
        [configureRequest 1 0, configureRequest 0 (- EIO)] := by
  refine ⟨by decide, by decide, fun heach => ?_⟩
  obtain ⟨-, hrest⟩ := heach ⟨stateConfigured⟩ rfl
  obtain ⟨hkeeps, -⟩ := hrest ⟨stateUnconfigured⟩ rfl
  have hsame := hkeeps _ rfl (by decide)
  exact absurd hsame (by decide)

/-! ## Captures and flushes -/

-- A camera is in use only by a configuration, and not beyond a request for no streams.
theorem step_inUse (h : step flags info r = some info') (huse : info'.InUse) :
    Configures flags info r info' ∨ info.InUse ∧ ¬ r.Unconfigures info := by
  obtain ⟨out, hserve, rfl, hserved⟩ := step_served h
  cases hserved with
  | kept hkept hcalls hkeeps =>
    rw [hkept] at huse
    exact .inr ⟨huse, hkeeps⟩
  | unconfigured hun =>
    unfold CameraInfo.InUse at huse
    rw [hun] at huse
    exact absurd huse (by decide)
  | configured hres hcfg hcalls hout => exact .inl ⟨out, hserve, hout⟩
  | flushed hcfg hwas hkeeps => exact .inr ⟨hwas, hkeeps⟩

theorem serve_inUse (h : serve flags info r = some out) (hstreams : out.Streams) : info.InUse := by
  cases serve_served h with
  | kept hkept hcalls => exact hcalls hstreams
  | unconfigured hun hcalls => exact absurd hstreams hcalls
  | configured hres hcfg hcalls => exact absurd hstreams hcalls
  | flushed hcfg huse => exact huse

/-- A capture or a flush reaches the driver only after a configuration that the driver accepted as
it was, and no request for no streams has passed the state check since. -/
theorem since_configures_of_streams (flags : Flags) (zalloc deviceOpen : Bool) (ret : Int)
    (info₀ info : CameraInfo) (rs : List Request) (r : Request) (out : Handled)
    (hinit : gbCameraInit zalloc deviceOpen = (ret, some info₀))
    (hrun : run (step flags) info₀ rs = some info)
    (hserve : serve flags info r = some out) (hstreams : out.Streams) :
    Since (step flags) (Configures flags) (fun info r _ => r.Unconfigures info) info₀ rs := by
  have hinit' : ¬ info₀.InUse := by
    rw [gbCameraInit_info hinit]
    unfold CameraInfo.InUse
    decide
  have hstep : ∀ info r info', step flags info r = some info' → info'.InUse →
      Configures flags info r info' ∨ info.InUse ∧ ¬ r.Unconfigures info := fun _ _ _ => step_inUse
  exact since_of_run hstep hinit' hrun (serve_inUse hserve hstreams)

/-- A flush request that the driver answers. -/
def flushRequest : Request where
  type := 0x05
  after := fun _ => 0
  operation := .fresh 0 ⟨{ size := 8, id := 2, type := 0x05, result := 0, pad := 0 }, []⟩
  env := ⟨true, true, true, (0, []), plainAnswer 0, 0, (0, 7)⟩

theorem since_configures_of_streams_flush :
    Since (step ⟨1, 1⟩) (Configures ⟨1, 1⟩) (fun info r _ => r.Unconfigures info)
      ⟨stateUnconfigured⟩ [configureRequest 1 0] :=
  since_configures_of_streams ⟨1, 1⟩ true true 0 ⟨stateUnconfigured⟩ ⟨stateConfigured⟩
    [configureRequest 1 0] flushRequest
    ⟨.success, ⟨stateConfigured⟩, [.flush], some ⟨4, [7, 0, 0, 0]⟩⟩ rfl (by decide) (by decide)
    ⟨.flush, List.mem_singleton_self _, trivial⟩

end Greybus.Camera
