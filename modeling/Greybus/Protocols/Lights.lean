import Greybus.Protocols.DeviceCalls

/-!
# The lights protocol

Its handlers read the arguments of a call of the lights device from the request, and write what the
device answers into the response.
-/

namespace Greybus.Lights

open Reasoning.Packed Codec

/-! ## The device -/

/-- A name with its null character, `NAME_LENGTH` bytes long. -/
abbrev Name := { l : List UInt8 // l.length = 32 }

/-- `struct light_config`. -/
structure LightConfig where
  channelCount : UInt8
  name : Name
  deriving DecidableEq, Repr

/-- `struct channel_config`. -/
structure ChannelConfig where
  maxBrightness : UInt8
  flags : UInt32
  color : UInt32
  colorName : Name
  mode : UInt32
  modeName : Name
  deriving DecidableEq, Repr

/-- `struct channel_flash_config`. -/
structure ChannelFlashConfig where
  intensityMinUA : UInt32
  intensityMaxUA : UInt32
  intensityStepUA : UInt32
  timeoutMinUs : UInt32
  timeoutMaxUs : UInt32
  timeoutStepUs : UInt32
  deriving DecidableEq, Repr

/-- The functions of the device, with their arguments. -/
inductive LightsCall where
  | getLights
  | getLightConfig (id : UInt8)
  | getChannelConfig (lightId channelId : UInt8)
  | getChannelFlashConfig (lightId channelId : UInt8)
  | setBrightness (lightId channelId brightness : UInt8)
  | setBlink (lightId channelId : UInt8) (timeOnMs timeOffMs : UInt16)
  | setColor (lightId channelId : UInt8) (color : UInt32)
  | setFade (lightId channelId fadeIn fadeOut : UInt8)
  | setFlashIntensity (lightId channelId : UInt8) (intensityUA : UInt32)
  | setFlashStrobe (lightId channelId state : UInt8)
  | setFlashTimeout (lightId channelId : UInt8) (timeoutUs : UInt32)
  | getFlashFault (lightId channelId : UInt8)
  deriving DecidableEq, Repr

/-- What a function stores besides what it returns. -/
abbrev LightsCall.Value : LightsCall → Type
  | .getLights => UInt8
  | .getLightConfig _ => LightConfig
  | .getChannelConfig .. => ChannelConfig
  | .getChannelFlashConfig .. => ChannelFlashConfig
  | .getFlashFault .. => UInt32
  | _ => Unit

/-! ## Payloads -/

/-- The light and the channel, with which most requests start. -/
def ofChannel {α : Type} (fields : Codec α) : Codec (UInt8 × UInt8 × α) := byte.pair (byte.pair fields)

/-- `struct gb_lights_get_channel_config_request`, and the other requests of these fields. -/
def channelRequest : Codec (UInt8 × UInt8) := byte.pair byte

/-- `struct gb_lights_get_light_config_response`. -/
def getLightConfigResponse : Codec (UInt8 × Name) := byte.pair (bytes 32)

/-- `struct gb_lights_get_channel_config_response`. -/
def getChannelConfigResponse : Codec (UInt8 × UInt32 × UInt32 × Name × UInt32 × Name) :=
  byte.pair (le32.pair (le32.pair ((bytes 32).pair (le32.pair (bytes 32)))))

/-- `struct gb_lights_get_channel_flash_config_response`. -/
def getChannelFlashConfigResponse :
    Codec (UInt32 × UInt32 × UInt32 × UInt32 × UInt32 × UInt32) :=
  le32.pair (le32.pair (le32.pair (le32.pair (le32.pair le32))))

/-! ## Handlers -/

abbrev Handler := Operation → DeviceProg LightsCall LightsCall.Value

/-- `gb_lights_protocol_version`. -/
def gbLightsProtocolVersion : Handler := fun _ =>
  .allocResponse 2 fun ok =>
    if !ok then .done OperationResult.noMemory.code
    else .fillResponse [0, 1] (.done OperationResult.success.code)

/-- `gb_lights_get_lights`; the request has no payload to check. -/
def gbLightsGetLights : Handler := queryInPlace empty byte (fun _ => .getLights) fun _ count => count

/-- `gb_lights_get_light_config`. -/
def gbLightsGetLightConfig : Handler :=
  query byte getLightConfigResponse .getLightConfig fun _ cfg => (cfg.channelCount, cfg.name)

/-- `gb_lights_get_channel_config`. -/
def gbLightsGetChannelConfig : Handler :=
  query channelRequest getChannelConfigResponse (fun a => .getChannelConfig a.1 a.2) fun _ cfg =>
    (cfg.maxBrightness, cfg.flags, cfg.color, cfg.colorName, cfg.mode, cfg.modeName)

/-- `gb_lights_get_channel_flash_config`. -/
def gbLightsGetChannelFlashConfig : Handler :=
  query channelRequest getChannelFlashConfigResponse (fun a => .getChannelFlashConfig a.1 a.2)
    fun _ fcfg => (fcfg.intensityMinUA, fcfg.intensityMaxUA, fcfg.intensityStepUA,
      fcfg.timeoutMinUs, fcfg.timeoutMaxUs, fcfg.timeoutStepUs)

/-- `gb_lights_set_brightness`. -/
def gbLightsSetBrightness : Handler :=
  passOn (ofChannel byte) fun a => .setBrightness a.1 a.2.1 a.2.2

/-- `gb_lights_set_blink`. -/
def gbLightsSetBlink : Handler :=
  passOn (ofChannel (le16.pair le16)) fun a => .setBlink a.1 a.2.1 a.2.2.1 a.2.2.2

/-- `gb_lights_set_color`. -/
def gbLightsSetColor : Handler := passOn (ofChannel le32) fun a => .setColor a.1 a.2.1 a.2.2

/-- `gb_lights_set_fade`. -/
def gbLightsSetFade : Handler :=
  passOn (ofChannel (byte.pair byte)) fun a => .setFade a.1 a.2.1 a.2.2.1 a.2.2.2

/-- `gb_lights_set_flash_intensity`. -/
def gbLightsSetFlashIntensity : Handler :=
  passOn (ofChannel le32) fun a => .setFlashIntensity a.1 a.2.1 a.2.2

/-- `gb_lights_set_flash_strobe`. -/
def gbLightsSetFlashStrobe : Handler :=
  passOn (ofChannel byte) fun a => .setFlashStrobe a.1 a.2.1 a.2.2

/-- `gb_lights_set_flash_timeout`. -/
def gbLightsSetFlashTimeout : Handler :=
  passOn (ofChannel le32) fun a => .setFlashTimeout a.1 a.2.1 a.2.2

/-- `gb_lights_get_flash_fault`; the device stores the fault into the response. -/
def gbLightsGetFlashFault : Handler :=
  queryInPlace channelRequest le32 (fun a => .getFlashFault a.1 a.2) fun _ fault => fault

/-- `gb_lights_handlers`. -/
def gbLightsHandlers : DeviceTable LightsCall LightsCall.Value :=
  [(0x01, gbLightsProtocolVersion), (0x02, gbLightsGetLights), (0x03, gbLightsGetLightConfig),
   (0x04, gbLightsGetChannelConfig), (0x05, gbLightsGetChannelFlashConfig),
   (0x06, gbLightsSetBrightness), (0x07, gbLightsSetBlink), (0x08, gbLightsSetColor),
   (0x09, gbLightsSetFade), (0x0b, gbLightsSetFlashIntensity), (0x0c, gbLightsSetFlashStrobe),
   (0x0d, gbLightsSetFlashTimeout), (0x0e, gbLightsGetFlashFault)]

/-! ## What the requests stand for -/

/-- The requests of the protocol, each with its call. -/
def lightsEntries : List (CallEntry LightsCall LightsCall.Value) :=
  [.getterInPlace 0x02 empty byte (fun _ => .getLights) fun _ count => count,
   .getter 0x03 byte getLightConfigResponse .getLightConfig fun _ cfg =>
     (cfg.channelCount, cfg.name),
   .getter 0x04 channelRequest getChannelConfigResponse (fun a => .getChannelConfig a.1 a.2)
     fun _ cfg =>
       (cfg.maxBrightness, cfg.flags, cfg.color, cfg.colorName, cfg.mode, cfg.modeName),
   .getter 0x05 channelRequest getChannelFlashConfigResponse
     (fun a => .getChannelFlashConfig a.1 a.2) fun _ fcfg =>
       (fcfg.intensityMinUA, fcfg.intensityMaxUA, fcfg.intensityStepUA, fcfg.timeoutMinUs,
        fcfg.timeoutMaxUs, fcfg.timeoutStepUs),
   .setter 0x06 (ofChannel byte) fun a => .setBrightness a.1 a.2.1 a.2.2,
   .setter 0x07 (ofChannel (le16.pair le16)) fun a => .setBlink a.1 a.2.1 a.2.2.1 a.2.2.2,
   .setter 0x08 (ofChannel le32) fun a => .setColor a.1 a.2.1 a.2.2,
   .setter 0x09 (ofChannel (byte.pair byte)) fun a => .setFade a.1 a.2.1 a.2.2.1 a.2.2.2,
   .setter 0x0b (ofChannel le32) fun a => .setFlashIntensity a.1 a.2.1 a.2.2,
   .setter 0x0c (ofChannel byte) fun a => .setFlashStrobe a.1 a.2.1 a.2.2,
   .setter 0x0d (ofChannel le32) fun a => .setFlashTimeout a.1 a.2.1 a.2.2,
   .getterInPlace 0x0e channelRequest le32 (fun a => .getFlashFault a.1 a.2) fun _ fault => fault]

theorem gbLightsHandlers_tabulates :
    Tabulates lightsEntries 0x01 gbLightsProtocolVersion gbLightsHandlers where
  table_eq := rfl
  nodup := by decide
  quiet _ _ memory _ := by cases memory <;> exact ⟨rfl, rfl⟩

/-- After any requests, the lights device has got the calls that they ask for, in their order and
with their arguments, and a request that is too short has called nothing; the next request returns
what the device answers, or how it fails. -/
theorem gbLights_calledAsAsked {δ : Type} (dev : Device LightsCall LightsCall.Value δ) (device : δ)
    (rs : List Arrival) :
    CalledAsAsked lightsEntries gbLightsHandlers dev device rs
      (serveAll gbLightsHandlers dev ⟨device, [], none⟩ rs) :=
  serveAll_calledAsAsked gbLightsHandlers_tabulates dev device rs

end Greybus.Lights
