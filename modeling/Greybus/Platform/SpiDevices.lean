import Greybus.Core.Cports
import Greybus.Platform.CportMap
import Greybus.Protocols.Transfers
import Greybus.Reasoning.Packed

/-!
# The SPI devices of a node

A control node of the device tree pairs its SPI controller with itself and maps its cport to the
controller.  A request about the bus goes the way back: from the cport to the controller, and from
there to the control node, whose configuration answers it.  A transfer finds the controller in the
bundle that it is handed, which is the one that the driver was registered for last.  The drivers
that put one device of their own in the place of `bundle->dev` are left out.  Assertions are enabled,
and the node has the byte order of the protocol.
-/

namespace Greybus.SpiDevices

open Platform Reasoning.Packed Reasoning.TwoKeys Reasoning.Transition

/-! ## The device tree -/

/-- `struct gb_spi_master_config_response`. -/
structure MasterConfig where
  bpwMask : UInt32
  minSpeedHz : UInt32
  maxSpeedHz : UInt32
  mode : UInt16
  flags : UInt16
  numChipselect : UInt8
  deriving DecidableEq, Repr

/-- `struct gb_spi_device_config_response`. -/
structure DeviceConfig where
  mode : UInt16
  bpw : UInt8
  maxSpeedHz : UInt32
  deviceType : UInt8
  name : { l : List UInt8 // l.length = 32 }
  deriving DecidableEq, Repr

/-- `struct spi_cs_control`. -/
structure CsControl where
  gpioPort : Option DevRef
  gpioPin : UInt8
  gpioDtFlags : UInt16
  delay : UInt32
  deriving DecidableEq, Repr

/-- `struct greybus_spi_control_config`; both arrays are indexed by the chip select. -/
structure ControlConfig where
  id : UInt8
  greybusSpiController : Option DevRef
  ctrlRsp : MasterConfig
  numPeripherals : UInt8
  periphRsp : UInt8 → DeviceConfig
  csControl : UInt8 → CsControl

/-- The control nodes, with `dev->config` of each. -/
abbrev Tree := DevRef → ControlConfig

/-! ## Pairs -/

/-- `struct devpair`. -/
structure DevPair where
  a : DevRef
  b : DevRef
  deriving DecidableEq, Repr

/-- `gb_spidev_from_zephyr_spidev`. -/
def gbSpidevFromZephyrSpidev (pairs : List DevPair) (dev : Option DevRef) : Option DevRef :=
  (pairs.find? fun p => some p.a = dev).map (·.b)

/-- `gb_add_spipair`; `reallocOk` says whether `realloc` gives memory. -/
def gbAddSpipair (reallocOk : Bool) (a b : Option DevRef) (pairs : List DevPair) :
    Int × List DevPair :=
  match a, b with
  | some a, some b =>
    if pairs.any fun p => p.a = a ∨ p.b = b then (-EALREADY, pairs)
    else if !reallocOk then (-ENOMEM, pairs)
    else (0, pairs ++ [⟨a, b⟩])
  | _, _ => (-EINVAL, pairs)

/-! ## Initialisation -/

/-- What the initialisation of a control node meets: whether `realloc` gives memory for the pair and
for the mapping, and whether `device_get_binding` finds the bus. -/
structure InitEnv where
  pairOk : Bool
  binding : Bool
  mapOk : Bool
  deriving DecidableEq, Repr

structure State where
  pairs : List DevPair
  map : List MapEntry
  -- The control nodes that have said that they are probed.
  probed : List DevRef
  -- `bundle->dev` of each bundle.
  dev : BundleRef → Nat → Option DevRef
  -- `gb_spi_driver.bundle`.
  driverBundle : Option BundleRef
  -- The cports that `gb_spi_init` has found a device for, with their bundles.
  served : List (Nat × BundleRef)

def State.initial : State := ⟨[], [], [], fun _ _ => none, none, []⟩

/-- `greybus_spi_control_init`; none is the assertion that fails. -/
def greybusSpiControlInit (tree : Tree) (env : InitEnv) (dev : DevRef) (s : State) :
    Option (Int × State) :=
  match (tree dev).greybusSpiController with
  | none => some (-ENODEV, s)
  | some controller =>
    let (r, pairs) := gbAddSpipair env.pairOk (some controller) (some dev) s.pairs
    if r ≠ 0 then none
    else if !env.binding then some (-ENODEV, { s with pairs })
    else
      let (r, map) :=
        gbAddCportDeviceMapping env.mapOk (tree dev).id.toNat (some controller) s.map
      if r < 0 then some (r, { s with pairs, map })
      else some (0, { s with pairs, map, probed := s.probed ++ [dev] })

/-- `bundle->dev[i] = dev`. -/
def State.setDev (s : State) (b : BundleRef) (i : Nat) (dev : Option DevRef) : State :=
  { s with dev := Function.update s.dev b (Function.update (s.dev b) i dev) }

/-- The body of `gb_gpio_init`, `gb_i2c_init` and `gb_spi_init`; none is a store behind
`bundle->dev`. -/
def initDev (bundles : BundleRef → Bundle) (cport : Nat) (b : BundleRef) (s : State) :
    Option (Int × State) :=
  let cportIdx := (bundles b).cportIdx cport
  if (bundles b).devCount ≤ cportIdx then none
  else
    let dev := gbCportToDevice s.map cport
    some (if dev.isNone then - EIO else 0, s.setDev b cportIdx dev)

/-- `gb_spi_init`. -/
def gbSpiInit (bundles : BundleRef → Bundle) (cport : Nat) (b : BundleRef) (s : State) :
    Option (Int × State) :=
  (initDev bundles cport b s).map fun (r, s) =>
    (r, if r = 0 then { s with served := s.served ++ [(cport, b)] } else s)

/-- `_gb_register_driver` of `gb_spi_driver`, when it comes to `driver->bundle = bundle`, up to what
`driver->init` returns. -/
def bindSpiDriver (bundles : BundleRef → Bundle) (cport : Nat) (b : BundleRef) (s : State) :
    Option (Int × State) :=
  gbSpiInit bundles cport b { s with driverBundle := some b }

/-- What changes the state: a control node is initialised, another kind of node maps its cport, or
a driver is registered for a cport of a bundle. -/
inductive Action where
  | control (dev : DevRef) (env : InitEnv)
  | mapping (call : MapCall)
  | driver (cport : UInt32) (b : BundleRef)
  -- The GPIO driver or the I2C driver, whose bundle is a field of its own.
  | otherDriver (cport : UInt32) (b : BundleRef)

def step (tree : Tree) (bundles : BundleRef → Bundle) (s : State) : Action → Option State
  | .control dev env => (greybusSpiControlInit tree env dev s).map (·.2)
  | .mapping call => some { s with map := (call.exec s.map).2 }
  | .driver cport b => (bindSpiDriver bundles cport.toNat b s).map (·.2)
  | .otherDriver cport b => (initDev bundles cport.toNat b s).map (·.2)

/-! ## Requests -/

section Requests

variable (tree : Tree)

/-- `gb_plat_api_controller_config_response` of a device that is not NULL. -/
def gbPlatApiControllerConfigResponse (dev : DevRef) : Int × MasterConfig := (0, (tree dev).ctrlRsp)

/-- `gb_plat_api_peripheral_config_response` of a device that is not NULL. -/
def gbPlatApiPeripheralConfigResponse (dev : DevRef) (chipSelect : UInt8) :
    Int × Option DeviceConfig :=
  if chipSelect ≥ (tree dev).numPeripherals then (-EINVAL, none)
  else (0, some ((tree dev).periphRsp chipSelect))

/-- `gb_plat_api_get_cs_control` of a device that is not NULL. -/
def gbPlatApiGetCsControl (dev : DevRef) (chipSelect : UInt8) : Int × Option CsControl :=
  if chipSelect ≥ (tree dev).numPeripherals then (-EINVAL, none)
  else if ((tree dev).csControl chipSelect).gpioPort.isNone then (-ENODEV, none)
  else (0, some ((tree dev).csControl chipSelect))

/-- The packed `struct gb_spi_master_config_response`. -/
def masterConfigResponse : Codec (UInt32 × UInt32 × UInt32 × UInt16 × UInt16 × UInt8) :=
  .pair .le32 (.pair .le32 (.pair .le32 (.pair .le16 (.pair .le16 .byte))))

def MasterConfig.bytes (c : MasterConfig) : List UInt8 :=
  masterConfigResponse.encode
    (c.bpwMask, c.minSpeedHz, c.maxSpeedHz, c.mode, c.flags, c.numChipselect)

/-- The packed `struct gb_spi_device_config_response`. -/
def deviceConfigResponse :
    Codec (UInt16 × UInt8 × UInt32 × UInt8 × { l : List UInt8 // l.length = 32 }) :=
  .pair .le16 (.pair .byte (.pair .le32 (.pair .byte (.bytes 32))))

def DeviceConfig.bytes (c : DeviceConfig) : List UInt8 :=
  deviceConfigResponse.encode (c.mode, c.bpw, c.maxSpeedHz, c.deviceType, c.name)

/-- The result of a request and the payload of its response. -/
structure Answer where
  result : OperationResult
  response : Option (List UInt8)
  deriving DecidableEq, Repr

/-- `device_spi_get_master_config`; none is the assertion that fails. -/
def deviceSpiGetMasterConfig (pairs : List DevPair) (dev : Option DevRef) :
    Option (Int × Option MasterConfig) :=
  match gbSpidevFromZephyrSpidev pairs dev with
  | none => some (-ENODEV, none)
  | some gbSpidev =>
    let (ret, response) := gbPlatApiControllerConfigResponse tree gbSpidev
    if ret ≠ 0 then none else some (0, some response)

/-- `gb_spi_protocol_master_config`; `memory` says whether there is a buffer for the response. -/
def gbSpiProtocolMasterConfig (s : State) (memory : Bool) (operation : Operation) :
    Option Answer :=
  if !memory then some ⟨.noMemory, none⟩
  else
    (deviceSpiGetMasterConfig tree s.pairs (gbCportToDevice s.map operation.cport)).map fun answer =>
      if answer.1 ≠ 0 then
        ⟨gbErrnoToOpResult answer.1, some (List.replicate masterConfigResponse.size 0)⟩
      else ⟨.success, answer.2.map MasterConfig.bytes⟩

/-- `device_spi_get_device_config`; none is the assertion that fails, or the API of NULL. -/
def deviceSpiGetDeviceConfig (pairs : List DevPair) (dev : Option DevRef) (cs : UInt8) :
    Option (Int × Option DeviceConfig) :=
  match gbSpidevFromZephyrSpidev pairs dev with
  | none => none
  | some gbSpidev =>
    let (ret, response) := gbPlatApiPeripheralConfigResponse tree gbSpidev cs
    if ret ≠ 0 then none else some (0, response)

/-- `gb_spi_protocol_device_config`. -/
def gbSpiProtocolDeviceConfig (s : State) (memory : Bool) (operation : Operation) :
    Option Answer :=
  if operation.requestBuffer.payloadSize < 1 then some ⟨.invalid, none⟩
  else if !memory then some ⟨.noMemory, none⟩
  else
    let cs := operation.requestBuffer.payload.getD 0 0
    (deviceSpiGetDeviceConfig tree s.pairs (gbCportToDevice s.map operation.cport) cs).map
      fun answer => ⟨.success, answer.2.map DeviceConfig.bytes⟩

/-- `spi_config->operation`, by what is ORed into it. -/
structure SpiOperation where
  wordSize : UInt8
  cpha : Bool
  cpol : Bool
  csActiveHigh : Bool
  lsbFirst : Bool
  loop : Bool
  deriving DecidableEq, Repr

/-- `struct spi_config`; without a chip select of its own, `cs` is what was in it. -/
structure ZephyrSpiConfig where
  frequency : UInt32
  slave : UInt8
  operation : SpiOperation
  cs : Option CsControl
  deriving DecidableEq, Repr

/-- `request_to_spi_config`. -/
def requestToSpiConfig (pairs : List DevPair) (chipSelect mode : UInt8) (freq : UInt32)
    (bitsPerWord : UInt8) (spiDev : Option DevRef) : Int × Option ZephyrSpiConfig :=
  match gbSpidevFromZephyrSpidev pairs spiDev with
  | none => (-ENODEV, none)
  | some gbSpidev =>
    (0, some {
      frequency := freq
      slave := chipSelect
      operation := {
        wordSize := bitsPerWord
        cpha := mode &&& 0x01 ≠ 0
        cpol := mode &&& 0x02 ≠ 0
        csActiveHigh := mode &&& 0x04 ≠ 0
        lsbFirst := mode &&& 0x08 ≠ 0
        loop := mode &&& 0x20 ≠ 0 }
      cs := (gbPlatApiGetCsControl tree gbSpidev chipSelect).2 })

/-- `bundle->dev[cport_idx]` in `gb_spi_protocol_transfer`, where `gb_process_request` hands over
the bundle of the driver; none is the assertion that fails, or an index behind `bundle->dev`. -/
def transferDev (bundles : BundleRef → Bundle) (s : State) (operation : Operation) :
    Option (Option DevRef) :=
  s.driverBundle.bind fun b =>
    let cportIdx := (bundles b).cportIdx operation.cport
    if (bundles b).devCount ≤ cportIdx then none else some (s.dev b cportIdx)

/-- What `gb_spi_protocol_transfer` configures the bus with. -/
def transferConfig (bundles : BundleRef → Bundle) (s : State) (operation : Operation)
    (chipSelect mode : UInt8) (freq : UInt32) (bitsPerWord : UInt8) :
    Option (Int × Option ZephyrSpiConfig) :=
  (transferDev bundles s operation).map fun dev =>
    requestToSpiConfig tree s.pairs chipSelect mode freq bitsPerWord dev

end Requests

/-! ## What one step does -/

variable {tree : Tree} {bundles : BundleRef → Bundle} {s s' : State}

theorem gbSpidevFromZephyrSpidev_eq_some_iff {pairs : List DevPair}
    (h : OneToOne DevPair.a DevPair.b pairs) {dev : Option DevRef} {n : DevRef} :
    gbSpidevFromZephyrSpidev pairs dev = some n ↔ ∃ d, dev = some d ∧ ⟨d, n⟩ ∈ pairs := by
  cases dev with
  | none =>
    have hnone : pairs.find? (fun p => some p.a = none) = none :=
      List.find?_eq_none.mpr fun p _ => by simp
    rw [gbSpidevFromZephyrSpidev, hnone]
    simp
  | some d =>
    simp only [gbSpidevFromZephyrSpidev, Option.some.injEq, lookup_eq_some_iff h.fst]
    constructor
    · rintro ⟨p, hp, rfl, rfl⟩
      exact ⟨p.a, rfl, hp⟩
    · rintro ⟨d', rfl, hp⟩
      exact ⟨_, hp, rfl, rfl⟩

-- A pair is added when neither of its devices is in another one.
theorem gbAddSpipair_cases {reallocOk : Bool} {a b : DevRef} {pairs : List DevPair}
    (h : (gbAddSpipair reallocOk (some a) (some b) pairs).1 = 0) :
    pairs.find? (fun p => p.a = a) = none ∧ pairs.find? (fun p => p.b = b) = none ∧
      (gbAddSpipair reallocOk (some a) (some b) pairs).2 = pairs ++ [⟨a, b⟩] := by
  unfold gbAddSpipair at h ⊢
  dsimp only at h ⊢
  split at h
  next => exact absurd h (show ¬ -EALREADY = 0 by decide)
  next hany =>
    have hnew : ∀ p ∈ pairs, p.a ≠ a ∧ p.b ≠ b := by simpa using hany
    rw [if_neg hany]
    split at h
    next => exact absurd h (show ¬ -ENOMEM = 0 by decide)
    next hmemory =>
      rw [if_neg hmemory]
      exact ⟨List.find?_eq_none.mpr fun p hp => by simpa using (hnew p hp).1,
        List.find?_eq_none.mpr fun p hp => by simpa using (hnew p hp).2, rfl⟩

theorem gbAddCportDeviceMapping_nonpos (reallocOk : Bool) (cport : Nat) (dev : Option DevRef)
    (map : List MapEntry) : (gbAddCportDeviceMapping reallocOk cport dev map).1 ≤ 0 := by
  unfold gbAddCportDeviceMapping
  split
  next => exact show -EINVAL ≤ 0 by decide
  split
  next => exact show -EALREADY ≤ 0 by decide
  split
  next => exact show -ENOMEM ≤ 0 by decide
  next => exact Int.le_refl 0

/-- What `greybus_spi_control_init` does to the state: nothing, or it adds a pair, or it adds the
pair and the mapping of the cport. -/
inductive Inits (tree : Tree) (dev : DevRef) (s : State) : State → Prop
  | nothing : Inits tree dev s s
  | paired {controller : DevRef} : (tree dev).greybusSpiController = some controller →
      s.pairs.find? (fun p => p.a = controller) = none →
      s.pairs.find? (fun p => p.b = dev) = none →
      Inits tree dev s { s with pairs := s.pairs ++ [⟨controller, dev⟩] }
  | probed {controller : DevRef} : (tree dev).greybusSpiController = some controller →
      s.pairs.find? (fun p => p.a = controller) = none →
      s.pairs.find? (fun p => p.b = dev) = none →
      s.map.find? (fun e => e.cport = (tree dev).id.toNat) = none →
      s.map.find? (fun e => e.dev = controller) = none →
      Inits tree dev s { s with
        pairs := s.pairs ++ [⟨controller, dev⟩]
        map := s.map ++ [⟨(tree dev).id.toNat, controller⟩]
        probed := s.probed ++ [dev] }

/-- The mapping that a control node asks for. -/
def controlCall (tree : Tree) (dev controller : DevRef) (reallocOk : Bool) : MapCall where
  cport := (tree dev).id.toNat
  dev := some controller
  reallocOk := reallocOk
  cport_le := by
    have := (tree dev).id.toNat_lt
    unfold intMax
    omega

theorem greybusSpiControlInit_inits {env : InitEnv} {dev : DevRef} {r : Int}
    (h : greybusSpiControlInit tree env dev s = some (r, s')) : Inits tree dev s s' := by
  rw [greybusSpiControlInit] at h
  split at h
  next =>
    simp only [Option.some.injEq, Prod.mk.injEq] at h
    exact h.2 ▸ .nothing
  next controller hcontroller =>
    dsimp only at h
    split at h
    next => cases h
    next hret =>
      obtain ⟨hnewA, hnewB, hpairs⟩ := gbAddSpipair_cases (not_not.mp hret)
      rw [hpairs] at h
      split at h
      next =>
        simp only [Option.some.injEq, Prod.mk.injEq] at h
        exact h.2 ▸ .paired hcontroller hnewA hnewB
      next =>
        have hadds := (controlCall tree dev controller env.mapOk).exec_adds s.map
        have hnonpos := gbAddCportDeviceMapping_nonpos env.mapOk (tree dev).id.toNat
          (some controller) s.map
        rw [MapCall.exec] at hadds
        simp only [controlCall] at hadds
        generalize gbAddCportDeviceMapping env.mapOk (tree dev).id.toNat (some controller) s.map
          = res at h hadds hnonpos
        cases hadds with
        | failed hfailed =>
          rw [if_pos (by omega)] at h
          simp only [Option.some.injEq, Prod.mk.injEq] at h
          exact h.2 ▸ .paired hcontroller hnewA hnewB
        | added hdev hnodev hnocport =>
          rw [if_neg (Int.lt_irrefl 0)] at h
          simp only [Option.some.injEq, Prod.mk.injEq] at h
          obtain rfl := Option.some.inj hdev
          exact h.2 ▸ .probed hcontroller hnewA hnewB hnocport hnodev

/-! ## Every run -/

/-- Other nodes map no SPI controller. -/
def Action.LeavesSpi (tree : Tree) : Action → Prop
  | .mapping call => ∀ d, call.dev = some d → ∀ n, (tree n).greybusSpiController ≠ some d
  | _ => True

/-- The entry of `bundle->dev` is the one of this cport. -/
def HasSlot (bundles : BundleRef → Bundle) (cport : Nat) (b : BundleRef) (i : Nat) : Prop :=
  cport < 2 ^ 32 ∧ (bundles b).cportIdx cport = i

-- No two cports have one entry of a bundle.
theorem HasSlot.unique {c c' : Nat} {b : BundleRef} {i : Nat} (h : HasSlot bundles c b i)
    (h' : HasSlot bundles c' b i) : c = c' := by
  obtain ⟨hlt, hidx⟩ := h
  obtain ⟨hlt', hidx'⟩ := h'
  unfold Bundle.cportIdx at hidx hidx'
  omega

/-- The pairs and the mappings are those of the device tree, and the devices of the bundles are
those that their cports are mapped to. -/
structure Inv (tree : Tree) (bundles : BundleRef → Bundle) (s : State) : Prop where
  pairs : OneToOne DevPair.a DevPair.b s.pairs
  map : MapOk s.map
  controller : ∀ p ∈ s.pairs, (tree p.b).greybusSpiController = some p.a
  probed : ∀ n ∈ s.probed, ∃ d, ⟨d, n⟩ ∈ s.pairs ∧ ⟨(tree n).id.toNat, d⟩ ∈ s.map
  mapped : ∀ e ∈ s.map, (∃ n ∈ s.probed, (tree n).id.toNat = e.cport) ∨
    ∀ n, (tree n).greybusSpiController ≠ some e.dev
  dev : ∀ b i d, s.dev b i = some d → ∃ c, HasSlot bundles c b i ∧ ⟨c, d⟩ ∈ s.map
  served : ∀ c b, (c, b) ∈ s.served → c < 2 ^ 32 ∧
    (bundles b).cportIdx c < (bundles b).devCount ∧
      (s.dev b ((bundles b).cportIdx c)).isSome
  ids : (s.probed.map fun n => (tree n).id).Nodup

theorem initial_inv (tree : Tree) (bundles : BundleRef → Bundle) :
    Inv tree bundles State.initial where
  pairs := .nil
  map := .nil
  controller _ h := absurd h List.not_mem_nil
  probed _ h := absurd h List.not_mem_nil
  mapped _ h := absurd h List.not_mem_nil
  dev _ _ _ h := by cases h
  served _ _ h := absurd h List.not_mem_nil
  ids := List.nodup_nil

theorem Inv.inits (hs : Inv tree bundles s) {dev : DevRef} (h : Inits tree dev s s') :
    Inv tree bundles s' := by
  cases h with
  | nothing => exact hs
  | paired hcontroller hnewA hnewB =>
    refine { hs with
      pairs := hs.pairs.concat hnewA hnewB
      controller := fun p hp => ?_
      probed := fun n hn => ?_ }
    · rcases List.mem_append.mp hp with hold | hnew
      · exact hs.controller p hold
      · rw [List.mem_singleton.mp hnew]
        exact hcontroller
    · obtain ⟨d, hpair, hmap⟩ := hs.probed n hn
      exact ⟨d, List.mem_append_left _ hpair, hmap⟩
  | @probed controller hcontroller hnewA hnewB hnocport hnodev =>
    have hmap : MapOk (s.map ++ [⟨(tree dev).id.toNat, controller⟩]) :=
      hs.map.adds (@Adds.added s.map (controlCall tree dev controller true) controller rfl hnodev
        hnocport rfl)
    refine ⟨hs.pairs.concat hnewA hnewB, hmap, fun p hp => ?_, fun n hn => ?_, fun e he => ?_,
      fun b i d hdev => ?_, hs.served, ?_⟩
    · rcases List.mem_append.mp hp with hold | hnew
      · exact hs.controller p hold
      · rw [List.mem_singleton.mp hnew]
        exact hcontroller
    · rcases List.mem_append.mp hn with hold | hnew
      · obtain ⟨d, hpair, hentry⟩ := hs.probed n hold
        exact ⟨d, List.mem_append_left _ hpair, List.mem_append_left _ hentry⟩
      · rw [List.mem_singleton.mp hnew]
        exact ⟨controller, List.mem_append_right _ List.mem_cons_self,
          List.mem_append_right _ List.mem_cons_self⟩
    · rcases List.mem_append.mp he with hold | hnew
      · rcases hs.mapped e hold with ⟨n, hn, hid⟩ | hother
        · exact .inl ⟨n, List.mem_append_left _ hn, hid⟩
        · exact .inr hother
      · rw [List.mem_singleton.mp hnew]
        exact .inl ⟨dev, List.mem_append_right _ List.mem_cons_self, rfl⟩
    · obtain ⟨c, hslot, hentry⟩ := hs.dev b i d hdev
      exact ⟨c, hslot, List.mem_append_left _ hentry⟩
    · -- a probed node of the same cport would have mapped it before
      rw [List.map_append, List.map_singleton]
      refine List.nodup_append.mpr ⟨hs.ids, List.nodup_singleton _, fun id hold id' hnew heq => ?_⟩
      obtain ⟨n, hn, rfl⟩ := List.mem_map.mp hold
      obtain ⟨d, -, hentry⟩ := hs.probed n hn
      have hid : (tree n).id = (tree dev).id := heq.trans (List.mem_singleton.mp hnew)
      have hne := List.find?_eq_none.mp hnocport _ hentry
      simp [hid] at hne

theorem Inv.mapping (hs : Inv tree bundles s) {call : MapCall}
    (hcall : (Action.mapping call).LeavesSpi tree) :
    Inv tree bundles { s with map := (call.exec s.map).2 } := by
  have hadds := call.exec_adds s.map
  have hmap := hs.map.adds hadds
  generalize call.exec s.map = res at hadds hmap
  cases hadds with
  | failed => exact hs
  | @added d hdev hnodev hnocport hmemory =>
    refine { hs with
      map := hmap
      probed := fun n hn => ?_
      mapped := fun e he => ?_
      dev := fun b i d hdev => ?_ }
    · obtain ⟨d, hpair, hentry⟩ := hs.probed n hn
      exact ⟨d, hpair, List.mem_append_left _ hentry⟩
    · rcases List.mem_append.mp he with hold | hnew
      · exact hs.mapped e hold
      · rw [List.mem_singleton.mp hnew]
        exact .inr (hcall d hdev)
    · obtain ⟨c, hslot, hentry⟩ := hs.dev b i d hdev
      exact ⟨c, hslot, List.mem_append_left _ hentry⟩

theorem gbCportToDevice_eq_some_iff {map : List MapEntry} (h : MapOk map) {c : Nat} {d : DevRef} :
    gbCportToDevice map c = some d ↔ ⟨c, d⟩ ∈ map := by
  rw [gbCportToDevice, lookup_eq_some_iff h.oneToOne.fst]
  constructor
  · rintro ⟨e, he, rfl, rfl⟩
    exact he
  · exact fun he => ⟨_, he, rfl, rfl⟩

-- What is stored for a cport is the device that it is mapped to, and stays that.
theorem Inv.setDev (hs : Inv tree bundles s) {c : Nat} {b : BundleRef} {i : Nat}
    (hslot : HasSlot bundles c b i) :
    Inv tree bundles (s.setDev b i (gbCportToDevice s.map c)) := by
  refine { hs with
    dev := fun b' i' d hdev => ?_
    served := fun c' b' hserved => ?_ }
  · by_cases hsame : b' = b ∧ i' = i
    · obtain ⟨rfl, rfl⟩ := hsame
      simp only [State.setDev, Function.update_self] at hdev
      exact ⟨c, hslot, (gbCportToDevice_eq_some_iff hs.map).mp hdev⟩
    · refine hs.dev b' i' d ?_
      by_cases hb : b' = b
      · subst hb
        have hi : i' ≠ i := fun hi => hsame ⟨rfl, hi⟩
        simpa only [State.setDev, Function.update_self, Function.update_of_ne hi] using hdev
      · simpa only [State.setDev, Function.update_of_ne hb] using hdev
  · obtain ⟨hlt, hinside, hsome⟩ := hs.served c' b' hserved
    refine ⟨hlt, hinside, ?_⟩
    by_cases hb : b' = b
    · subst hb
      by_cases hi : (bundles b').cportIdx c' = i
      · -- the entry is that of `c'`, which is mapped since then
        obtain ⟨d, hdev⟩ := Option.isSome_iff_exists.mp hsome
        obtain ⟨c₀, hslot₀, hentry⟩ := hs.dev b' _ d hdev
        obtain rfl := hslot₀.unique ⟨hlt, rfl⟩
        obtain rfl := hslot.unique ⟨hlt, hi⟩
        simp [State.setDev, hi, (gbCportToDevice_eq_some_iff hs.map).mpr hentry]
      · simpa only [State.setDev, Function.update_self, Function.update_of_ne hi] using hsome
    · simpa only [State.setDev, Function.update_of_ne hb] using hsome

-- When it succeeds, the entry of the cport is inside the array and holds a device.
theorem Inv.initDev (hs : Inv tree bundles s) {cport : Nat} (hcport : cport < 2 ^ 32)
    {b : BundleRef} {r : Int} (h : initDev bundles cport b s = some (r, s')) :
    Inv tree bundles s' ∧ (r = 0 → (bundles b).cportIdx cport < (bundles b).devCount ∧
      (s'.dev b ((bundles b).cportIdx cport)).isSome) := by
  rw [SpiDevices.initDev] at h
  dsimp only at h
  split at h
  next => cases h
  next hinside =>
    obtain ⟨rfl, rfl⟩ := Prod.mk.inj (Option.some.inj h)
    refine ⟨hs.setDev (b := b) ⟨hcport, rfl⟩, fun hret => ⟨Nat.not_le.mp hinside, ?_⟩⟩
    split at hret
    next => exact absurd hret (show ¬ - EIO = 0 by decide)
    next hdev => simpa [State.setDev, Option.isSome_iff_ne_none] using hdev

theorem Inv.driver (hs : Inv tree bundles s) {cport : Nat} (hcport : cport < 2 ^ 32)
    {b : BundleRef} {r : Int} (h : bindSpiDriver bundles cport b s = some (r, s')) :
    Inv tree bundles s' := by
  have hbound : Inv tree bundles { s with driverBundle := some b } := { hs with }
  obtain ⟨⟨r', t⟩, hinit, h⟩ := Option.map_eq_some_iff.mp h
  obtain ⟨rfl, rfl⟩ := Prod.mk.inj h
  obtain ⟨ht, hstored⟩ := hbound.initDev hcport hinit
  split
  next hret =>
    obtain ⟨hinside, hdev⟩ := hstored hret
    refine { ht with served := fun c' b' hserved => ?_ }
    rcases List.mem_append.mp hserved with hold | hnew
    · exact ht.served c' b' hold
    · obtain ⟨rfl, rfl⟩ := Prod.mk.inj (List.mem_singleton.mp hnew)
      exact ⟨hcport, hinside, hdev⟩
  next => exact ht

theorem step_inv {a : Action} (hs : Inv tree bundles s) (h : step tree bundles s a = some s')
    (ha : a.LeavesSpi tree) : Inv tree bundles s' := by
  cases a with
  | control dev env =>
    obtain ⟨⟨r, t⟩, hinit, rfl⟩ := Option.map_eq_some_iff.mp h
    exact hs.inits (greybusSpiControlInit_inits hinit)
  | mapping call => exact Option.some.inj h ▸ hs.mapping ha
  | driver cport b =>
    obtain ⟨⟨r, t⟩, hbind, rfl⟩ := Option.map_eq_some_iff.mp h
    exact hs.driver cport.toNat_lt hbind
  | otherDriver cport b =>
    obtain ⟨⟨r, t⟩, hinit, rfl⟩ := Option.map_eq_some_iff.mp h
    exact (hs.initDev cport.toNat_lt hinit).1

/-! ## What the requests meet -/

/-- A transfer has the chip select control of the node, if the node has one for the chip. -/
def OwnTransfer (tree : Tree) (n : DevRef) (cs : UInt8) (res : Int × Option ZephyrSpiConfig) :
    Prop :=
  ∃ config, res = (0, some config) ∧
    config.cs = if cs < (tree n).numPeripherals ∧ ((tree n).csControl cs).gpioPort.isSome then
      some ((tree n).csControl cs) else none

/-- The requests on the cport are answered by the configuration of the node. -/
structure OwnConfig (tree : Tree) (bundles : BundleRef → Bundle) (s : State) (n : DevRef)
    (cport : Nat) : Prop where
  master : ∀ operation : Operation, operation.cport = cport →
    gbSpiProtocolMasterConfig tree s true operation = some ⟨.success, some (tree n).ctrlRsp.bytes⟩
  device : ∀ operation : Operation, operation.cport = cport →
    1 ≤ operation.requestBuffer.payloadSize →
    gbSpiProtocolDeviceConfig tree s true operation =
      let cs := operation.requestBuffer.payload.getD 0 0
      if cs < (tree n).numPeripherals then
        some ⟨.success, some ((tree n).periphRsp cs).bytes⟩
      else none
  -- A transfer is, too, when the driver has been registered last for the bundle of the cport.
  transfer : ∀ b, (cport, b) ∈ s.served → s.driverBundle = some b →
    ∀ operation : Operation, operation.cport = cport → ∀ cs mode freq bpw, ∃ res,
      transferConfig tree bundles s operation cs mode freq bpw = some res ∧
        OwnTransfer tree n cs res
  -- With another bundle it may find no device, but it does not find one of another node.
  handed : ∀ operation : Operation, operation.cport = cport → ∀ cs mode freq bpw res,
    transferConfig tree bundles s operation cs mode freq bpw = some res →
      OwnTransfer tree n cs res ∨ res = (-ENODEV, none)

/-- The requests on the cport find no control node: they are refused, or fall over it. -/
structure NoConfig (tree : Tree) (bundles : BundleRef → Bundle) (s : State) (cport : Nat) :
    Prop where
  master : ∀ operation : Operation, operation.cport = cport →
    ∃ zeros, gbSpiProtocolMasterConfig tree s true operation = some ⟨.nonexistent, some zeros⟩
  device : ∀ operation : Operation, operation.cport = cport →
    1 ≤ operation.requestBuffer.payloadSize → gbSpiProtocolDeviceConfig tree s true operation = none
  transfer : ∀ operation : Operation, operation.cport = cport → ∀ cs mode freq bpw res,
    transferConfig tree bundles s operation cs mode freq bpw = some res → res = (-ENODEV, none)

theorem gbPlatApiGetCsControl_snd (n : DevRef) (cs : UInt8) :
    (gbPlatApiGetCsControl tree n cs).2 =
      if cs < (tree n).numPeripherals ∧ ((tree n).csControl cs).gpioPort.isSome then
        some ((tree n).csControl cs) else none := by
  unfold gbPlatApiGetCsControl
  by_cases hcs : cs < (tree n).numPeripherals
  · rw [if_neg (UInt8.not_le.mpr hcs)]
    cases hport : ((tree n).csControl cs).gpioPort with
    | none => simp
    | some port => simp [hcs]
  · rw [if_pos (UInt8.not_lt.mp hcs), if_neg fun h => hcs h.1]

theorem deviceSpiGetDeviceConfig_paired {pairs : List DevPair} {dev : Option DevRef} {n : DevRef}
    {cs : UInt8} (hlookup : gbSpidevFromZephyrSpidev pairs dev = some n) :
    deviceSpiGetDeviceConfig tree pairs dev cs =
      if cs < (tree n).numPeripherals then some (0, some ((tree n).periphRsp cs)) else none := by
  simp only [deviceSpiGetDeviceConfig, hlookup, gbPlatApiPeripheralConfigResponse]
  by_cases hcs : cs < (tree n).numPeripherals
  · simp [UInt8.not_le.mpr hcs, hcs]
  · simp [UInt8.not_lt.mp hcs, hcs, EINVAL]

theorem requestToSpiConfig_paired {pairs : List DevPair} {dev : Option DevRef} {n : DevRef}
    (hlookup : gbSpidevFromZephyrSpidev pairs dev = some n) (cs mode : UInt8) (freq : UInt32)
    (bpw : UInt8) : OwnTransfer tree n cs (requestToSpiConfig tree pairs cs mode freq bpw dev) := by
  rw [requestToSpiConfig, hlookup]
  exact ⟨_, rfl, gbPlatApiGetCsControl_snd n cs⟩

theorem gbSpidevFromZephyrSpidev_null (hs : Inv tree bundles s) :
    gbSpidevFromZephyrSpidev s.pairs none = none := by
  rw [Option.eq_none_iff_forall_ne_some]
  intro n hpaired
  obtain ⟨_, hcontra, -⟩ := (gbSpidevFromZephyrSpidev_eq_some_iff hs.pairs).mp hpaired
  cases hcontra

-- The device that a transfer finds in the bundle that it is handed, if any, is that of its cport.
theorem transferDev_mapped (hs : Inv tree bundles s) {operation : Operation}
    (hcport : operation.cport < 2 ^ 32) {d : DevRef}
    (h : transferDev bundles s operation = some (some d)) :
    gbCportToDevice s.map operation.cport = some d := by
  obtain ⟨b, -, h⟩ := Option.bind_eq_some_iff.mp h
  dsimp only at h
  split at h
  next => cases h
  next =>
    obtain ⟨c, hslot, hentry⟩ := hs.dev b _ d (Option.some.inj h)
    obtain rfl := hslot.unique ⟨hcport, rfl⟩
    exact (gbCportToDevice_eq_some_iff hs.map).mpr hentry

-- In the bundle of its cport it finds one.
theorem transferDev_served (hs : Inv tree bundles s) {operation : Operation} {b : BundleRef}
    (hserved : (operation.cport, b) ∈ s.served) (hbundle : s.driverBundle = some b) :
    ∃ d, transferDev bundles s operation = some (some d) := by
  obtain ⟨-, hinside, hsome⟩ := hs.served _ b hserved
  obtain ⟨d, hdev⟩ := Option.isSome_iff_exists.mp hsome
  refine ⟨d, ?_⟩
  rw [transferDev, hbundle, Option.bind_some]
  dsimp only
  rw [if_neg (Nat.not_le.mpr hinside), hdev]

theorem ownConfig_of_lookup (hs : Inv tree bundles s) {n : DevRef} {cport : Nat}
    (hcport : cport < 2 ^ 32)
    (hlookup : gbSpidevFromZephyrSpidev s.pairs (gbCportToDevice s.map cport) = some n) :
    OwnConfig tree bundles s n cport where
  master operation hop := by
    rw [gbSpiProtocolMasterConfig, deviceSpiGetMasterConfig, hop, hlookup]
    rfl
  device operation hop hsize := by
    rw [gbSpiProtocolDeviceConfig, if_neg (Nat.not_lt.mpr hsize)]
    simp only [Bool.not_true, Bool.false_eq_true, if_false, hop,
      deviceSpiGetDeviceConfig_paired hlookup]
    split <;> rfl
  transfer b hserved hbundle operation hop cs mode freq bpw := by
    subst hop
    obtain ⟨d, hdev⟩ := transferDev_served hs hserved hbundle
    rw [transferDev_mapped hs hcport hdev] at hlookup
    rw [transferConfig, hdev]
    exact ⟨_, rfl, requestToSpiConfig_paired hlookup cs mode freq bpw⟩
  handed operation hop cs mode freq bpw res hres := by
    subst hop
    obtain ⟨dev, hdev, rfl⟩ := Option.map_eq_some_iff.mp hres
    cases dev with
    | none =>
      right
      rw [requestToSpiConfig, gbSpidevFromZephyrSpidev_null hs]
    | some d =>
      rw [transferDev_mapped hs hcport hdev] at hlookup
      exact .inl (requestToSpiConfig_paired hlookup cs mode freq bpw)

theorem noConfig_of_lookup (hs : Inv tree bundles s) {cport : Nat} (hcport : cport < 2 ^ 32)
    (hlookup : gbSpidevFromZephyrSpidev s.pairs (gbCportToDevice s.map cport) = none) :
    NoConfig tree bundles s cport where
  master operation hop := by
    rw [gbSpiProtocolMasterConfig, deviceSpiGetMasterConfig, hop, hlookup]
    exact ⟨_, rfl⟩
  device operation hop hsize := by
    rw [gbSpiProtocolDeviceConfig, if_neg (Nat.not_lt.mpr hsize)]
    simp only [Bool.not_true, Bool.false_eq_true, if_false, deviceSpiGetDeviceConfig, hop,
      hlookup, Option.map_none]
  transfer operation hop cs mode freq bpw res hres := by
    subst hop
    obtain ⟨dev, hdev, rfl⟩ := Option.map_eq_some_iff.mp hres
    cases dev with
    | none => rw [requestToSpiConfig, gbSpidevFromZephyrSpidev_null hs]
    | some d =>
      rw [transferDev_mapped hs hcport hdev] at hlookup
      rw [requestToSpiConfig, hlookup]

/-- However the nodes are initialised and the drivers are registered, a cport is answered by the
configuration of the one control node that has been probed for it, and by none when there is no such
node.  A transfer may miss its device in the bundle that it is handed. -/
theorem run_ownConfig {as : List Action} (has : ∀ a ∈ as, a.LeavesSpi tree)
    (hrun : run (step tree bundles) State.initial as = some s) :
    (∀ n ∈ s.probed, OwnConfig tree bundles s n (tree n).id.toNat) ∧
      (s.probed.map fun n => (tree n).id).Nodup ∧
      ∀ cport < 2 ^ 32, (∀ n ∈ s.probed, (tree n).id.toNat ≠ cport) →
        NoConfig tree bundles s cport := by
  have hs : Inv tree bundles s := run_induct_of_eachStep (Q := fun _ a _ => a.LeavesSpi tree)
    (fun _ _ _ hs hstep ha => step_inv hs hstep ha) (initial_inv tree bundles)
    (eachStep_of_forall (fun a ha _ _ => has a ha) _) hrun
  refine ⟨fun n hn => ?_, hs.ids, fun cport hcport hnone => ?_⟩
  · obtain ⟨d, hpair, hentry⟩ := hs.probed n hn
    have hlt := (tree n).id.toNat_lt
    refine ownConfig_of_lookup hs (by omega) ?_
    rw [(gbCportToDevice_eq_some_iff hs.map).mpr hentry]
    exact (gbSpidevFromZephyrSpidev_eq_some_iff hs.pairs).mpr ⟨d, rfl, hpair⟩
  · refine noConfig_of_lookup hs hcport ?_
    cases hdevice : gbCportToDevice s.map cport with
    | none => exact gbSpidevFromZephyrSpidev_null hs
    | some d =>
      -- the device of the cport is no SPI controller, so that it is in no pair
      rw [Option.eq_none_iff_forall_ne_some]
      intro n hpaired
      obtain ⟨d', heq, hpair⟩ := (gbSpidevFromZephyrSpidev_eq_some_iff hs.pairs).mp hpaired
      obtain rfl := Option.some.inj heq
      rcases hs.mapped _ ((gbCportToDevice_eq_some_iff hs.map).mp hdevice) with
        ⟨m, hm, hid⟩ | hother
      · exact hnone m hm hid
      · exact hother n (hs.controller _ hpair)

/-- A bus of the cport 1 with two chips, a bus of the cport 2 without any, and no other. -/
def twoBuses : Tree := fun dev => {
  id := if dev = 5 then 1 else 2
  greybusSpiController := if dev = 5 then some 10 else if dev = 6 then some 11 else none
  ctrlRsp := ⟨0x80, 400000, 10000000, 0x3, 0, if dev = 5 then 2 else 0⟩
  numPeripherals := if dev = 5 then 2 else 0
  periphRsp cs := ⟨0x3, 8, 1000000, cs, ⟨List.replicate 32 0, by decide⟩⟩
  csControl cs := ⟨if cs = 0 then some 20 else none, cs, 0, 0⟩ }

/-- The bundle 1 has the cports 1 and 2, the bundle 2 has the cport 3. -/
def bundlesOfTwo (b : BundleRef) : Bundle := if b = 1 then ⟨1, 1, 2⟩ else ⟨2, 3, 1⟩

/-- A GPIO controller is mapped in between; a node without a controller is not probed. -/
def booted : List Action :=
  [.control 6 ⟨true, true, true⟩, .mapping ⟨3, some 30, true, by decide⟩,
   .control 5 ⟨true, true, true⟩, .control 7 ⟨true, true, true⟩, .driver 1 1, .otherDriver 3 2,
   .driver 2 1]

theorem run_ownConfig_twoBuses :
    ∃ s, run (step twoBuses bundlesOfTwo) State.initial booted = some s ∧
      s.probed = [6, 5] ∧ s.served = [(1, 1), (2, 1)] ∧ s.driverBundle = some 1 ∧
      OwnConfig twoBuses bundlesOfTwo s 5 1 ∧ NoConfig twoBuses bundlesOfTwo s 3 := by
  have hleaves : ∀ a ∈ booted, a.LeavesSpi twoBuses := by
    intro a ha
    simp only [booted, List.mem_cons, List.not_mem_nil, or_false] at ha
    rcases ha with rfl | rfl | rfl | rfl | rfl | rfl | rfl
    any_goals exact trivial
    rintro d hd n hn
    obtain rfl := Option.some.inj hd
    simp only [twoBuses] at hn
    split at hn
    next => exact absurd hn (by decide)
    split at hn
    next => exact absurd hn (by decide)
    next => cases hn
  have hsome : (run (step twoBuses bundlesOfTwo) State.initial booted).map
      (fun s => (s.probed, s.served, s.driverBundle))
        = some ([6, 5], [(1, 1), (2, 1)], some 1) := by decide
  obtain ⟨s, hrun, hseen⟩ := Option.map_eq_some_iff.mp hsome
  simp only [Prod.mk.injEq] at hseen
  obtain ⟨hprobed, hserved, hbundle⟩ := hseen
  obtain ⟨hown, -, hnone⟩ := run_ownConfig hleaves hrun
  refine ⟨s, hrun, hprobed, hserved, hbundle, hown 5 (by simp [hprobed]),
    hnone 3 (by decide) fun n hn => ?_⟩
  rw [hprobed] at hn
  rcases List.mem_pair.mp hn with rfl | rfl <;> decide

end Greybus.SpiDevices
