import Greybus.Protocols.Transfers
import Greybus.Reasoning.BitFlags
import Greybus.Reasoning.Transition

/-!
# Audio

The requests for a DAI of the audio protocol: the management requests that name one, the audio data
of its data connection, and the transmitter's callback.  The ring buffers and the I2S driver are
not part of the repository: a request meets what they return.  The requests for the topology, the
controls and the widgets of the codec name no DAI and are left out.
-/

namespace Greybus.Audio

open Reasoning Reasoning.Transition

/-! ## The record of a DAI -/

/-- The `GB_AUDIO_FLAG_*`. -/
inductive Flag where
  | pcmSet
  | txDataSizeSet
  | txActive
  | txStarted
  | txStopping
  | rxDataSizeSet
  | rxActive
  | rxStarted
  deriving DecidableEq, Repr

/-- The bit of a flag. -/
def Flag.bit : Flag → Nat
  | .pcmSet => 0
  | .txDataSizeSet => 1
  | .txActive => 2
  | .txStarted => 3
  | .txStopping => 4
  | .rxDataSizeSet => 5
  | .rxActive => 6
  | .rxStarted => 7

/-- The address of a `struct ring_buf`. -/
abbrev RingBuf := Nat

/-- `struct gb_audio_dai_info`.  The device, the index, the semaphore and the parent are only passed
on; `none` is a NULL pointer. -/
structure DaiInfo where
  flags : BitVec 32
  dataCport : UInt16
  format : Nat
  rate : Nat
  channels : UInt8
  sigBits : UInt8
  sampleSize : UInt32
  sampleFreq : UInt32
  txRbCount : UInt32
  txRb : Option RingBuf
  txDataSize : UInt32
  txSamplesPerMsg : UInt32
  txDummyData : Option (List UInt8)
  rxRb : Option RingBuf
  rxDataSize : UInt32
  rxSamplesPerMsg : UInt32
  deriving DecidableEq, Repr

namespace DaiInfo

variable (dai : DaiInfo) (f g : Flag)

def has : Bool := BitFlags.has dai.flags f.bit

def set : DaiInfo := { dai with flags := BitFlags.set dai.flags f.bit }

def clear : DaiInfo := { dai with flags := BitFlags.clear dai.flags f.bit }

/-- `GB_AUDIO_IS_CONFIGURED`; the flag is that of the direction's data size. -/
def isConfigured : Bool := dai.has .pcmSet && dai.has f

end DaiInfo

/-- `struct gb_audio_info`, with the addresses of its DAI records. -/
structure AudioInfo where
  mgmtCport : UInt16
  daiList : List Nat
  deriving DecidableEq, Repr

/-- The DAI records by their addresses. -/
abbrev Dais := Nat → DaiInfo

/-- `gb_audio_find_info`. -/
def gbAudioFindInfo (infos : List AudioInfo) (mgmtCport : UInt16) : Option AudioInfo :=
  infos.find? fun info => info.mgmtCport = mgmtCport

/-- `gb_audio_get_dai`. -/
def gbAudioGetDai (dais : Dais) (info : AudioInfo) (dataCport : UInt16) : Option Nat :=
  info.daiList.find? fun p => (dais p).dataCport = dataCport

/-- `gb_audio_find_dai`. -/
def gbAudioFindDai (infos : List AudioInfo) (dais : Dais) (dataCport : UInt16) : Option Nat :=
  infos.findSome? fun info => gbAudioGetDai dais info dataCport

/-! ## Events -/

/-- The `GB_AUDIO_STREAMING_EVENT_*` that are reported. -/
inductive StreamingEvent where
  | unspecified
  | halt
  | internalError
  | failure
  | underrun
  | overrun
  | clocking
  | dataLen
  deriving DecidableEq, Repr

/-- `enum device_i2s_event`. -/
inductive I2sEvent where
  | none
  | rxComplete
  | txComplete
  | underrun
  | overrun
  | clocking
  | dataLen
  | unspecified
  deriving DecidableEq, Repr

/-- The event that `gb_audio_i2s_tx_cb` reports. -/
def I2sEvent.reported : I2sEvent → Option StreamingEvent
  | .txComplete => Option.none
  | .underrun => some .underrun
  | .overrun => some .overrun
  | .clocking => some .clocking
  | .dataLen => some .dataLen
  | .unspecified => some .unspecified
  | .none => some .internalError
  | .rxComplete => some .internalError

/-! ## What a request meets -/

/-- What the calls of a handler return. -/
structure Env where
  allocResponse : Bool
  -- The delays of the codec and of the I2S device, each with a return value.
  codecDelay : Int × Nat
  i2sDelay : Int × Nat
  -- `ring_buf_alloc_ring` and `zalloc`.
  allocRing : Option RingBuf
  zalloc : Bool
  -- `device_i2s_prepare_*` and `device_i2s_start_*`.
  prepare : Int
  start : Int
  isProducers : Bool
  -- `ring_buf_get_next`: the rings have no end.
  nextRb : RingBuf
  -- Whether a wait for `tx_stop_sem` ends.
  txStopped : Bool

/-- A call of the ring buffers or the I2S driver, or an event that is reported. -/
inductive Call where
  | allocRing (entries dataLen : UInt32)
  | freeRing (rb : Option RingBuf)
  -- Data that is copied into a ring buffer, which is then passed on.
  | transmit (rb : RingBuf) (data : List UInt8)
  | prepareTransmitter (rb : RingBuf)
  | startTransmitter
  | stopTransmitter
  | shutdownTransmitter
  | prepareReceiver (rb : RingBuf)
  | startReceiver
  | stopReceiver
  | shutdownReceiver
  | reportEvent (event : StreamingEvent)
  | postStop
  deriving DecidableEq, Repr

/-- What a handler makes of a DAI record, and the bytes it stores in the response if it allocates
one. -/
structure DaiHandled where
  result : OperationResult
  dai : DaiInfo
  calls : List Call
  payload : Option (List UInt8)
  deriving DecidableEq, Repr

/-- The handler returns early. -/
def DaiInfo.refuse (dai : DaiInfo) (result : OperationResult) : DaiHandled :=
  ⟨result, dai, [], none⟩

/-- `GB_AUDIO_SAMPLE_BUFFER_MIN_US`. -/
def sampleBufferMinUs : UInt32 := 10000

/-- `GB_AUDIO_TX_RING_BUF_PAD` and `GB_AUDIO_RX_RING_BUF_PAD`. -/
def ringBufPad : UInt32 := 2

/-- The entries of a ring; `none` is a division by zero. -/
def ringEntries (sampleFreq samplesPerMsg : UInt32) : Option UInt32 :=
  if samplesPerMsg * 1000000 = 0 then none
  else some (sampleFreq * sampleBufferMinUs / (samplesPerMsg * 1000000) + ringBufPad)

/-! ## The handlers -/

/-- `gb_audio_config_connection`, whose body is commented out. -/
def gbAudioConfigConnection (_ : DaiInfo) (_format _rate : Nat) (_channels _sigBits : UInt8) :
    Int := 0

section Handlers

variable (env : Env) (request : Nat → UInt8) (dai : DaiInfo)

/-- `gb_audio_get_pcm_handler`, with the DAI found. -/
def gbAudioGetPcm : DaiHandled :=
  if !dai.has .pcmSet then dai.refuse .protocolBad
  else if !env.allocResponse then dai.refuse .noMemory
  else
    ⟨.success, dai, [],
      some (bytes32 dai.format ++ bytes32 dai.rate ++ [dai.channels, dai.sigBits])⟩

/-- `gb_audio_set_pcm_handler`. -/
def gbAudioSetPcm : DaiHandled :=
  if dai.has .txActive || dai.has .rxActive then dai.refuse .protocolBad
  else
    let format := u32At request 2
    let rate := u32At request 6
    let channels := request 10
    let sigBits := request 11
    let ret := gbAudioConfigConnection dai format rate channels sigBits
    if ret ≠ 0 then (dai.clear .pcmSet).refuse (gbErrnoToOpResult ret)
    else
      let dai :=
        { dai with format := format, rate := rate, channels := channels, sigBits := sigBits }
      (dai.set .pcmSet).refuse .success

/-- `gb_audio_set_tx_data_size_handler`; `none` is a division by zero. -/
def gbAudioSetTxDataSize : Option DaiHandled :=
  if !dai.has .pcmSet || dai.has .txActive then some (dai.refuse .protocolBad)
  else
    let dai := { dai with txDataSize := UInt32.ofNat (u16At request 2) }
    if dai.sampleSize = 0 then none
    else if dai.txDataSize % dai.sampleSize ≠ 0 then some (dai.refuse .invalid)
    else
      let dai := { dai with txSamplesPerMsg := dai.txDataSize / dai.sampleSize }
      some ((dai.set .txDataSizeSet).refuse .success)

/-- `gb_audio_set_rx_data_size_handler`; `none` is a division by zero. -/
def gbAudioSetRxDataSize : Option DaiHandled :=
  if !dai.has .pcmSet || dai.has .rxActive then some (dai.refuse .protocolBad)
  else
    let dai := { dai with rxDataSize := UInt32.ofNat (u16At request 2) }
    if dai.sampleSize = 0 then none
    else if dai.rxDataSize % dai.sampleSize ≠ 0 then some (dai.refuse .invalid)
    else
      let dai := { dai with rxSamplesPerMsg := dai.rxDataSize / dai.sampleSize }
      some ((dai.set .rxDataSizeSet).refuse .success)

/-- The delay of the codec and of the I2S device together. -/
def getDelay (f : Flag) : DaiHandled :=
  if !dai.isConfigured f then dai.refuse .protocolBad
  else if !env.allocResponse then dai.refuse .noMemory
  else if env.codecDelay.1 ≠ 0 then ⟨gbErrnoToOpResult env.codecDelay.1, dai, [], some []⟩
  else if env.i2sDelay.1 ≠ 0 then ⟨gbErrnoToOpResult env.i2sDelay.1, dai, [], some []⟩
  else ⟨.success, dai, [], some (bytes32 (env.codecDelay.2 + env.i2sDelay.2))⟩

/-- `gb_audio_get_tx_delay_handler`. -/
def gbAudioGetTxDelay : DaiHandled := getDelay env dai .txDataSizeSet

/-- `gb_audio_get_rx_delay_handler`. -/
def gbAudioGetRxDelay : DaiHandled := getDelay env dai .rxDataSizeSet

/-- `gb_audio_activate_tx_handler`; `none` is a division by zero. -/
def gbAudioActivateTx : Option DaiHandled :=
  if !dai.isConfigured .txDataSizeSet || dai.has .txActive then some (dai.refuse .protocolBad)
  else
    (ringEntries dai.sampleFreq dai.txSamplesPerMsg).map fun entries =>
      let alloc := Call.allocRing entries dai.txDataSize
      match env.allocRing with
      | none => ⟨.noMemory, { dai with txRb := none }, [alloc], none⟩
      | some rb =>
        let dummy : List UInt8 := List.replicate dai.txDataSize.toNat 0
        if !env.zalloc then
          ⟨gbErrnoToOpResult (-ENOMEM), { dai with txRb := none, txDummyData := none },
            [alloc, .freeRing (some rb)], none⟩
        else if env.prepare ≠ 0 then
          ⟨gbErrnoToOpResult env.prepare, { dai with txRb := none, txDummyData := none },
            [alloc, .prepareTransmitter rb, .freeRing (some rb)], none⟩
        else
          let dai := { dai with txRb := some rb, txDummyData := some dummy }
          ⟨.success, dai.set .txActive, [alloc, .prepareTransmitter rb], none⟩

/-- What `gb_audio_deactivate_tx_handler` stores once the transmitter is shut down. -/
def DaiInfo.shutTx : DaiInfo :=
  ({ dai with txRb := none, txDummyData := none, txRbCount := 0 }.clear .txStopping).clear .txActive

/-- `gb_audio_deactivate_tx_handler`; `none` is a wait that does not end.  While it waits the
callback, which finds TX_STOPPING set, only counts `tx_rb_count` down. -/
def gbAudioDeactivateTx : Option DaiHandled :=
  if !dai.has .txActive then some (dai.refuse .protocolBad)
  else
    let dai := dai.set .txStopping
    let calls := [Call.shutdownTransmitter, .freeRing dai.txRb]
    if dai.has .txStarted then
      if !env.txStopped then none
      else some ⟨.success, (dai.clear .txStarted).shutTx, .stopTransmitter :: calls, none⟩
    else some ⟨.success, dai.shutTx, calls, none⟩

/-- `gb_audio_activate_rx_handler`; `none` is a division by zero. -/
def gbAudioActivateRx : Option DaiHandled :=
  if !dai.isConfigured .rxDataSizeSet || dai.has .rxActive then some (dai.refuse .protocolBad)
  else
    (ringEntries dai.sampleFreq dai.rxSamplesPerMsg).map fun entries =>
      let alloc := Call.allocRing entries 0
      match env.allocRing with
      | none => ⟨gbErrnoToOpResult ENOMEM, { dai with rxRb := none }, [alloc], none⟩
      | some rb =>
        if env.prepare ≠ 0 then
          ⟨gbErrnoToOpResult env.prepare, { dai with rxRb := none },
            [alloc, .prepareReceiver rb, .freeRing (some rb)], none⟩
        else
          let dai := ({ dai with rxRb := some rb }.set .rxActive).set .rxStarted
          let started := [alloc, .prepareReceiver rb, .startReceiver]
          if env.start ≠ 0 then
            ⟨gbErrnoToOpResult env.start, { dai with rxRb := none },
              started ++ [.shutdownReceiver, .freeRing (some rb)], none⟩
          else ⟨.success, dai, started, none⟩

/-- `gb_audio_deactivate_rx_handler`. -/
def gbAudioDeactivateRx : DaiHandled :=
  if !dai.has .rxActive then dai.refuse .protocolBad
  else
    let calls := [Call.stopReceiver, .shutdownReceiver, .freeRing dai.rxRb]
    let dai := { dai with rxRb := none }
    ⟨.success, (dai.clear .rxActive).clear .rxStarted, calls, none⟩

/-- `gb_audio_i2s_tx`; `none` is an access through NULL. -/
def gbAudioI2sTx (data : List UInt8) : Option (DaiInfo × List Call) :=
  dai.txRb.map fun rb =>
    ({ dai with txRb := some env.nextRb, txRbCount := dai.txRbCount + 1 }, [.transmit rb data])

/-- `gb_audio_send_data_handler`, with the DAI found; `none` is an access through NULL. -/
def gbAudioSendData : Option DaiHandled :=
  if !dai.has .txActive then some (dai.refuse .protocolBad)
  else if dai.has .txStopping then some (dai.refuse .success)
  else if dai.txRb = none then none
  else if !env.isProducers then some ⟨.success, dai, [.reportEvent .overrun], none⟩
  else
    let data := (List.range dai.txDataSize.toNat).map fun i => request (8 + i)
    (gbAudioI2sTx env dai data).map fun (dai, calls) =>
      let dai := dai.set .txStarted
      if env.start ≠ 0 then
        ⟨.success, dai.clear .txStarted,
          calls ++ [.startTransmitter, .reportEvent .failure, .reportEvent .halt], none⟩
      else ⟨.success, dai, calls ++ [.startTransmitter], none⟩

/-- `gb_audio_i2s_tx_cb`; `none` is an access through NULL. -/
def gbAudioI2sTxCb (event : I2sEvent) : Option (DaiInfo × List Call) :=
  match event.reported with
  | none =>
    let dai := { dai with txRbCount := dai.txRbCount - 1 }
    if dai.txRbCount < 2 then
      if !dai.has .txStopping then dai.txDummyData.bind fun data => gbAudioI2sTx env dai data
      else if dai.txRbCount = 0 then some (dai, [.postStop])
      else some (dai, [])
    else some (dai, [])
  | some reported => some (dai, [.reportEvent reported, .reportEvent .halt])

end Handlers

/-! ## Requests -/

/-- What a handler leaves behind. -/
structure Handled where
  result : OperationResult
  dais : Dais
  calls : List Call
  payload : Option (List UInt8)

/-- A request, and what it meets. -/
structure Request where
  type : UInt8
  after : Nat → UInt8
  operation : Operation
  env : Env

/-- A byte of the payload. -/
def Request.byte (r : Request) (i : Nat) : UInt8 := r.operation.requestBuffer.payloadByte r.after i

section Requests

-- `gb_audio_info_list`.
variable (infos : List AudioInfo)

/-- The DAI record that a management request names. -/
def Request.named (r : Request) (dais : Dais) : Option Nat :=
  (gbAudioFindInfo infos (UInt16.ofNat r.operation.cport)).bind fun info =>
    gbAudioGetDai dais info (UInt16.ofNat (u16At r.byte 0))

/-- A handler for a DAI: the size check, the search and the work on the record found. -/
def withDai (size : Nat) (find : Request → Dais → Option Nat)
    (body : Request → DaiInfo → Option DaiHandled) (r : Request) (dais : Dais) : Option Handled :=
  if r.operation.requestBuffer.payloadSize < size then some ⟨.invalid, dais, [], none⟩
  else
    match find r dais with
    | none => some ⟨.invalid, dais, [], none⟩
    | some p =>
      (body r (dais p)).map fun h => ⟨h.result, Function.update dais p h.dai, h.calls, h.payload⟩

/-- The entries of `gb_audio_mgmt_handlers` for a DAI: the size of the request and the work on the
record. -/
def gbAudioMgmtHandlers : List (UInt8 × Nat × (Request → DaiInfo → Option DaiHandled)) :=
  [(0x08, 2, fun r dai => some (gbAudioGetPcm r.env dai)),
   (0x09, 12, fun r dai => some (gbAudioSetPcm r.byte dai)),
   (0x0a, 4, fun r dai => gbAudioSetTxDataSize r.byte dai),
   (0x0b, 2, fun r dai => some (gbAudioGetTxDelay r.env dai)),
   (0x0c, 2, fun r dai => gbAudioActivateTx r.env dai),
   (0x0d, 2, fun r dai => gbAudioDeactivateTx r.env dai),
   (0x0e, 4, fun r dai => gbAudioSetRxDataSize r.byte dai),
   (0x0f, 2, fun r dai => some (gbAudioGetRxDelay r.env dai)),
   (0x10, 2, fun r dai => gbAudioActivateRx r.env dai),
   (0x11, 2, fun _ dai => some (gbAudioDeactivateRx dai))]

/-- A request on the management connection that names a DAI.  The handlers of the other types change
no record and are left out. -/
def serveMgmt (dais : Dais) (r : Request) : Option Handled :=
  (gbAudioMgmtHandlers.find? fun h => h.1 = r.type).bind fun h =>
    withDai h.2.1 (fun r dais => r.named infos dais) h.2.2 r dais

/-- A SEND_DATA request on a data connection. -/
def serveData (dais : Dais) (r : Request) : Option Handled :=
  withDai 8 (fun r dais => gbAudioFindDai infos dais (UInt16.ofNat r.operation.cport))
    (fun r dai => gbAudioSendData r.env r.byte dai) r dais

/-- What happens to the DAI records. -/
inductive Action where
  | mgmt (r : Request)
  | sendData (r : Request)
  -- The transmitter of a DAI calls back.
  | txCallback (p : Nat) (event : I2sEvent) (env : Env)

def step (dais : Dais) : Action → Option Dais
  | .mgmt r => (serveMgmt infos dais r).map (·.dais)
  | .sendData r => (serveData infos dais r).map (·.dais)
  | .txCallback p event env =>
    (gbAudioI2sTxCb env (dais p) event).map fun h => Function.update dais p h.1

end Requests

/-! ## The two streams of a DAI -/

/-- What a record says of its streams. -/
structure Streams where
  txActive : Bool
  txStarted : Bool
  txRb : Option RingBuf
  rxActive : Bool
  rxStarted : Bool
  rxRb : Option RingBuf
  deriving DecidableEq, Repr

def DaiInfo.streams (dai : DaiInfo) : Streams where
  txActive := dai.has .txActive
  txStarted := dai.has .txStarted
  txRb := dai.txRb
  rxActive := dai.has .rxActive
  rxStarted := dai.has .rxStarted
  rxRb := dai.rxRb

/-- A stream is active exactly while it has a ring, and is started only while it is active. -/
structure Streams.Consistent (s : Streams) : Prop where
  txRb : s.txActive = true ↔ s.txRb ≠ none
  txStarted : s.txStarted = true → s.txActive = true
  rxRb : s.rxActive = true ↔ s.rxRb ≠ none
  rxStarted : s.rxStarted = true → s.rxActive = true

/-- What a request or a callback can do to the streams. -/
inductive Streams.Moves (s : Streams) : Streams → Prop
  | same : Moves s s
  | txFailed (hinactive : s.txActive = false) : Moves s { s with txRb := none }
  | txActivated (rb : RingBuf) (hinactive : s.txActive = false) :
      Moves s { s with txActive := true, txRb := some rb }
  | txPassed (rb : RingBuf) (hrb : s.txRb ≠ none) : Moves s { s with txRb := some rb }
  | txPlayed (rb : RingBuf) (started : Bool) (hactive : s.txActive = true) :
      Moves s { s with txStarted := started, txRb := some rb }
  | txDeactivated : Moves s { s with txActive := false, txStarted := false, txRb := none }
  | rxFailed (hinactive : s.rxActive = false) : Moves s { s with rxRb := none }
  | rxActivated (rb : RingBuf) :
      Moves s { s with rxActive := true, rxStarted := true, rxRb := some rb }
  | rxDeactivated : Moves s { s with rxActive := false, rxStarted := false, rxRb := none }

theorem Streams.Moves.consistent {s s' : Streams} (h : s.Moves s') (hs : s.Consistent) :
    s'.Consistent := by
  cases h with
  | same => exact hs
  | txFailed hinactive =>
    refine ⟨?_, hs.txStarted, hs.rxRb, hs.rxStarted⟩
    simp [hinactive]
  | txActivated rb hinactive => exact ⟨by simp, fun _ => rfl, hs.rxRb, hs.rxStarted⟩
  | txPassed rb hrb =>
    refine ⟨?_, hs.txStarted, hs.rxRb, hs.rxStarted⟩
    simp [hs.txRb.mpr hrb]
  | txPlayed rb started hactive =>
    refine ⟨?_, fun _ => hactive, hs.rxRb, hs.rxStarted⟩
    simp [hactive]
  | txDeactivated => exact ⟨by simp, fun h => h, hs.rxRb, hs.rxStarted⟩
  | rxFailed hinactive =>
    refine ⟨hs.txRb, hs.txStarted, ?_, hs.rxStarted⟩
    simp [hinactive]
  | rxActivated rb => exact ⟨hs.txRb, hs.txStarted, by simp, fun _ => rfl⟩
  | rxDeactivated => exact ⟨hs.txRb, hs.txStarted, by simp, fun h => h⟩

section Moves

variable {env : Env} {request : Nat → UInt8} {dai : DaiInfo} {h : DaiHandled}

theorem Flag.bit_lt (f : Flag) : f.bit < 32 := by cases f <;> decide

theorem Flag.bit_inj {f g : Flag} : f.bit = g.bit ↔ f = g := by
  cases f <;> cases g <;> decide

@[simp] theorem DaiInfo.has_set (f g : Flag) :
    (dai.set f).has g = (decide (f = g) || dai.has g) := by
  show BitFlags.has (BitFlags.set dai.flags f.bit) g.bit = _
  rw [BitFlags.has_set dai.flags g.bit_lt, decide_eq_decide.mpr Flag.bit_inj]
  rfl

@[simp] theorem DaiInfo.has_clear (f g : Flag) :
    (dai.clear f).has g = (!decide (f = g) && dai.has g) := by
  show BitFlags.has (BitFlags.clear dai.flags f.bit) g.bit = _
  rw [BitFlags.has_clear dai.flags g.bit_lt, decide_eq_decide.mpr Flag.bit_inj]
  rfl

/-- The flags of the streams. -/
def Flag.OfStream (f : Flag) : Prop :=
  f = .txActive ∨ f = .txStarted ∨ f = .rxActive ∨ f = .rxStarted

instance (f : Flag) : Decidable f.OfStream := inferInstanceAs (Decidable (_ ∨ _ ∨ _ ∨ _))

theorem DaiInfo.streams_set {f : Flag} (hf : ¬ f.OfStream) : (dai.set f).streams = dai.streams := by
  simp only [Flag.OfStream, not_or] at hf
  obtain ⟨htx, htxs, hrx, hrxs⟩ := hf
  unfold DaiInfo.streams
  simp only [has_set, htx, htxs, hrx, hrxs, decide_false, Bool.false_or]
  rfl

theorem DaiInfo.streams_clear {f : Flag} (hf : ¬ f.OfStream) :
    (dai.clear f).streams = dai.streams := by
  simp only [Flag.OfStream, not_or] at hf
  obtain ⟨htx, htxs, hrx, hrxs⟩ := hf
  unfold DaiInfo.streams
  simp only [has_clear, htx, htxs, hrx, hrxs, decide_false, Bool.not_false, Bool.true_and]
  rfl

theorem DaiInfo.streams_clear_txStarted :
    (dai.clear .txStarted).streams = { dai.streams with txStarted := false } := by
  unfold DaiInfo.streams
  simp only [has_clear, reduceCtorEq, decide_false, decide_true, Bool.not_false, Bool.not_true,
    Bool.true_and, Bool.false_and]
  rfl

theorem DaiInfo.streams_set_txStarted :
    (dai.set .txStarted).streams = { dai.streams with txStarted := true } := by
  unfold DaiInfo.streams
  simp only [has_set, reduceCtorEq, decide_false, decide_true, Bool.false_or, Bool.true_or]
  rfl

theorem DaiInfo.streams_clear_txActive :
    (dai.clear .txActive).streams = { dai.streams with txActive := false } := by
  unfold DaiInfo.streams
  simp only [has_clear, reduceCtorEq, decide_false, decide_true, Bool.not_false, Bool.not_true,
    Bool.true_and, Bool.false_and]
  rfl

theorem DaiInfo.streams_shutTx :
    dai.shutTx.streams = { dai.streams with txActive := false, txRb := none } := by
  unfold shutTx
  rw [streams_clear_txActive, streams_clear (by decide)]
  rfl

theorem DaiInfo.streams_set_rx :
    ((dai.set .rxActive).set .rxStarted).streams
      = { dai.streams with rxActive := true, rxStarted := true } := by
  unfold DaiInfo.streams
  simp only [has_set, reduceCtorEq, decide_false, decide_true, Bool.false_or, Bool.true_or,
    Bool.or_true]
  rfl

theorem DaiInfo.streams_clear_rx :
    ((dai.clear .rxActive).clear .rxStarted).streams
      = { dai.streams with rxActive := false, rxStarted := false } := by
  unfold DaiInfo.streams
  simp only [has_clear, reduceCtorEq, decide_false, decide_true, Bool.not_false, Bool.not_true,
    Bool.true_and, Bool.false_and, Bool.and_false]
  rfl

theorem gbAudioGetPcm_moves : dai.streams.Moves (gbAudioGetPcm env dai).dai.streams := by
  unfold gbAudioGetPcm
  split
  next => exact .same
  split
  next => exact .same
  next => exact .same

theorem gbAudioSetPcm_moves : dai.streams.Moves (gbAudioSetPcm request dai).dai.streams := by
  unfold gbAudioSetPcm
  split
  next => exact .same
  dsimp only
  split
  next =>
    show dai.streams.Moves (dai.clear .pcmSet).streams
    rw [DaiInfo.streams_clear (by decide)]
    exact .same
  next =>
    show dai.streams.Moves (DaiInfo.set _ .pcmSet).streams
    rw [DaiInfo.streams_set (by decide)]
    exact .same

theorem gbAudioSetTxDataSize_moves (hh : gbAudioSetTxDataSize request dai = some h) :
    dai.streams.Moves h.dai.streams := by
  unfold gbAudioSetTxDataSize at hh
  split at hh
  next =>
    obtain rfl := Option.some.inj hh
    exact .same
  dsimp only at hh
  split at hh
  next => cases hh
  split at hh
  next =>
    obtain rfl := Option.some.inj hh
    exact .same
  next =>
    obtain rfl := Option.some.inj hh
    show dai.streams.Moves (DaiInfo.set _ .txDataSizeSet).streams
    rw [DaiInfo.streams_set (by decide)]
    exact .same

theorem gbAudioSetRxDataSize_moves (hh : gbAudioSetRxDataSize request dai = some h) :
    dai.streams.Moves h.dai.streams := by
  unfold gbAudioSetRxDataSize at hh
  split at hh
  next =>
    obtain rfl := Option.some.inj hh
    exact .same
  dsimp only at hh
  split at hh
  next => cases hh
  split at hh
  next =>
    obtain rfl := Option.some.inj hh
    exact .same
  next =>
    obtain rfl := Option.some.inj hh
    show dai.streams.Moves (DaiInfo.set _ .rxDataSizeSet).streams
    rw [DaiInfo.streams_set (by decide)]
    exact .same

theorem getDelay_moves {f : Flag} : dai.streams.Moves (getDelay env dai f).dai.streams := by
  unfold getDelay
  split
  next => exact .same
  split
  next => exact .same
  split
  next => exact .same
  split
  next => exact .same
  next => exact .same

theorem gbErrnoToOpResult_ne_success {err : Int} (herr : err ≠ 0) :
    gbErrnoToOpResult err ≠ .success := by
  intro h
  exact herr ((gbErrnoToOpResult_eq_success err).mp (congrArg OperationResult.code h))

-- An activation that fails has changed nothing but the ring of an inactive stream.
theorem gbAudioActivateTx_cases (hh : gbAudioActivateTx env dai = some h) :
    (h.result ≠ .success ∧ h.dai.streams = dai.streams) ∨
      dai.has .txActive = false ∧
        (h.result ≠ .success ∧ h.dai.streams = { dai.streams with txRb := none } ∨
          h.result = .success ∧
            ∃ rb, h.dai.streams = { dai.streams with txActive := true, txRb := some rb }) := by
  unfold gbAudioActivateTx at hh
  split at hh
  next =>
    obtain rfl := Option.some.inj hh
    exact .inl ⟨OperationResult.noConfusion, rfl⟩
  next hguard =>
    have hinactive : dai.has .txActive = false := by
      simp only [Bool.or_eq_true, not_or, Bool.not_eq_true] at hguard
      exact hguard.2
    right
    refine ⟨hinactive, ?_⟩
    obtain ⟨entries, -, rfl⟩ := Option.map_eq_some_iff.mp hh
    dsimp only
    split
    next => exact .inl ⟨OperationResult.noConfusion, rfl⟩
    next rb _ =>
      split
      next =>
        have herr : (-ENOMEM : Int) ≠ 0 := by decide
        exact .inl ⟨gbErrnoToOpResult_ne_success herr, rfl⟩
      split
      next hprepare => exact .inl ⟨gbErrnoToOpResult_ne_success hprepare, rfl⟩
      next =>
        right
        refine ⟨rfl, rb, ?_⟩
        unfold DaiInfo.streams
        simp only [DaiInfo.has_set, reduceCtorEq, decide_false, decide_true, Bool.false_or,
          Bool.true_or]
        rfl

theorem gbAudioActivateTx_moves (hh : gbAudioActivateTx env dai = some h) :
    dai.streams.Moves h.dai.streams := by
  rcases gbAudioActivateTx_cases hh with ⟨-, hsame⟩ | ⟨hinactive, ⟨-, hfailed⟩ | ⟨-, rb, hactive⟩⟩
  · rw [hsame]
    exact .same
  · rw [hfailed]
    exact .txFailed hinactive
  · rw [hactive]
    exact .txActivated rb hinactive

theorem gbAudioDeactivateTx_moves (hh : gbAudioDeactivateTx env dai = some h) :
    dai.streams.Moves h.dai.streams := by
  unfold gbAudioDeactivateTx at hh
  split at hh
  next =>
    obtain rfl := Option.some.inj hh
    exact .same
  dsimp only at hh
  split at hh
  next =>
    split at hh
    next => cases hh
    next =>
      obtain rfl := Option.some.inj hh
      show dai.streams.Moves ((dai.set .txStopping).clear .txStarted).shutTx.streams
      rw [DaiInfo.streams_shutTx, DaiInfo.streams_clear_txStarted, DaiInfo.streams_set (by decide)]
      exact .txDeactivated
  next hstarted =>
    obtain rfl := Option.some.inj hh
    have hnot : dai.streams.txStarted = false := by
      rw [DaiInfo.has_set] at hstarted
      exact Bool.eq_false_iff.mpr hstarted
    show dai.streams.Moves (dai.set .txStopping).shutTx.streams
    have hstreams : ({ dai.streams with txActive := false, txRb := none } : Streams) =
        { dai.streams with txActive := false, txStarted := false, txRb := none } := by
      simp only [hnot]
    rw [DaiInfo.streams_shutTx, DaiInfo.streams_set (by decide), hstreams]
    exact .txDeactivated

/-- The I2S device prepares its receiver for an inactive, configured stream, and does not start
it. -/
def DaiInfo.StartFails (dai : DaiInfo) (env : Env) : Prop :=
  dai.isConfigured .rxDataSizeSet = true ∧ dai.has .rxActive = false ∧ env.allocRing ≠ none ∧
    env.prepare = 0 ∧ env.start ≠ 0

theorem gbAudioActivateRx_cases (hh : gbAudioActivateRx env dai = some h) :
    (¬ dai.StartFails env ∧
      (h.result ≠ .success ∧ h.dai.streams = dai.streams ∨
        h.result ≠ .success ∧ dai.has .rxActive = false ∧
          h.dai.streams = { dai.streams with rxRb := none } ∨
        h.result = .success ∧ ∃ rb, h.dai.streams =
          { dai.streams with rxActive := true, rxStarted := true, rxRb := some rb })) ∨
      dai.StartFails env ∧ h.result ≠ .success ∧
        h.dai.streams = { dai.streams with rxActive := true, rxStarted := true, rxRb := none } := by
  unfold gbAudioActivateRx at hh
  unfold DaiInfo.StartFails
  split at hh
  next hguard =>
    obtain rfl := Option.some.inj hh
    left
    refine ⟨fun hfails => ?_, .inl ⟨OperationResult.noConfusion, rfl⟩⟩
    rw [hfails.1, hfails.2.1] at hguard
    exact absurd hguard (by decide)
  next hguard =>
    simp only [Bool.or_eq_true, not_or, Bool.not_eq_true, Bool.not_eq_false'] at hguard
    obtain ⟨hconfigured, hinactive⟩ := hguard
    obtain ⟨entries, -, rfl⟩ := Option.map_eq_some_iff.mp hh
    dsimp only
    split
    next hring =>
      left
      have herr : (ENOMEM : Int) ≠ 0 := by decide
      exact ⟨fun hfails => hfails.2.2.1 hring,
        .inr (.inl ⟨gbErrnoToOpResult_ne_success herr, hinactive, rfl⟩)⟩
    next rb hring =>
      split
      next hprepare =>
        left
        exact ⟨fun hfails => hprepare hfails.2.2.2.1,
          .inr (.inl ⟨gbErrnoToOpResult_ne_success hprepare, hinactive, rfl⟩)⟩
      next hprepare =>
        split
        next hstart =>
          right
          have hring' : env.allocRing ≠ none := by simp [hring]
          refine ⟨⟨hconfigured, hinactive, hring', Decidable.not_not.mp hprepare, hstart⟩,
            gbErrnoToOpResult_ne_success hstart, ?_⟩
          exact congrArg (fun s : Streams => { s with rxRb := none })
            (@DaiInfo.streams_set_rx { dai with rxRb := some rb })
        next hstart =>
          left
          refine ⟨fun hfails => hstart hfails.2.2.2.2, .inr (.inr ⟨rfl, rb, ?_⟩)⟩
          exact @DaiInfo.streams_set_rx { dai with rxRb := some rb }

theorem gbAudioDeactivateRx_moves : dai.streams.Moves (gbAudioDeactivateRx dai).dai.streams := by
  unfold gbAudioDeactivateRx
  split
  next => exact .same
  next =>
    have hcleared := @DaiInfo.streams_clear_rx { dai with rxRb := none }
    exact hcleared ▸ .rxDeactivated

theorem gbAudioI2sTx_streams {data : List UInt8} {dai' : DaiInfo} {calls : List Call}
    (hh : gbAudioI2sTx env dai data = some (dai', calls)) :
    dai.txRb ≠ none ∧ dai'.streams = { dai.streams with txRb := some env.nextRb } := by
  unfold gbAudioI2sTx at hh
  obtain ⟨rb, hrb, hout⟩ := Option.map_eq_some_iff.mp hh
  obtain ⟨rfl, -⟩ := Prod.mk.inj hout
  exact ⟨by simp [hrb], rfl⟩

-- An active DAI takes every message with success, whether or not it is played.
theorem gbAudioSendData_cases (hh : gbAudioSendData env request dai = some h) :
    (dai.has .txActive = false ∧ h = dai.refuse .protocolBad) ∨
      dai.has .txActive = true ∧
        (h = dai.refuse .success ∨ h = ⟨.success, dai, [.reportEvent .overrun], none⟩ ∨
          ∃ dai' calls,
            gbAudioI2sTx env dai ((List.range dai.txDataSize.toNat).map fun i => request (8 + i))
              = some (dai', calls) ∧
            (h = ⟨.success, (dai'.set .txStarted).clear .txStarted,
                calls ++ [.startTransmitter, .reportEvent .failure, .reportEvent .halt], none⟩ ∨
              h = ⟨.success, dai'.set .txStarted, calls ++ [.startTransmitter], none⟩)) := by
  unfold gbAudioSendData at hh
  split at hh
  next hinactive =>
    obtain rfl := Option.some.inj hh
    exact .inl ⟨by simpa using hinactive, rfl⟩
  next hactive =>
    right
    refine ⟨by simpa using hactive, ?_⟩
    split at hh
    next =>
      obtain rfl := Option.some.inj hh
      exact .inl rfl
    split at hh
    next => cases hh
    split at hh
    next =>
      obtain rfl := Option.some.inj hh
      exact .inr (.inl rfl)
    next =>
      obtain ⟨⟨dai', calls⟩, htx, rfl⟩ := Option.map_eq_some_iff.mp hh
      refine .inr (.inr ⟨dai', calls, htx, ?_⟩)
      dsimp only
      split
      next => exact .inl rfl
      next => exact .inr rfl

theorem gbAudioSendData_moves (hh : gbAudioSendData env request dai = some h) :
    dai.streams.Moves h.dai.streams := by
  rcases gbAudioSendData_cases hh with ⟨-, rfl⟩ | ⟨hactive, rfl | rfl | ⟨dai', calls, htx, hout⟩⟩
  · exact .same
  · exact .same
  · exact .same
  obtain ⟨-, hstreams⟩ := gbAudioI2sTx_streams htx
  rcases hout with rfl | rfl
  · show dai.streams.Moves ((dai'.set .txStarted).clear .txStarted).streams
    rw [DaiInfo.streams_clear_txStarted, DaiInfo.streams_set_txStarted, hstreams]
    exact .txPlayed env.nextRb false hactive
  · show dai.streams.Moves (dai'.set .txStarted).streams
    rw [DaiInfo.streams_set_txStarted, hstreams]
    exact .txPlayed env.nextRb true hactive

-- The callback counts a ring buffer that has been played, and may pass on another one.
theorem gbAudioI2sTxCb_cases {event : I2sEvent} {dai' : DaiInfo} {calls : List Call}
    (hh : gbAudioI2sTxCb env dai event = some (dai', calls)) :
    dai' = dai ∨ dai' = { dai with txRbCount := dai.txRbCount - 1 } ∨
      ∃ data, gbAudioI2sTx env { dai with txRbCount := dai.txRbCount - 1 } data
        = some (dai', calls) := by
  unfold gbAudioI2sTxCb at hh
  split at hh
  next =>
    right
    dsimp only at hh
    split at hh
    next =>
      split at hh
      next =>
        obtain ⟨data, -, htx⟩ := Option.bind_eq_some_iff.mp hh
        exact .inr ⟨data, htx⟩
      split at hh
      next =>
        obtain ⟨rfl, -⟩ := Prod.mk.inj (Option.some.inj hh)
        exact .inl rfl
      next =>
        obtain ⟨rfl, -⟩ := Prod.mk.inj (Option.some.inj hh)
        exact .inl rfl
    next =>
      obtain ⟨rfl, -⟩ := Prod.mk.inj (Option.some.inj hh)
      exact .inl rfl
  next =>
    obtain ⟨rfl, -⟩ := Prod.mk.inj (Option.some.inj hh)
    exact .inl rfl

theorem gbAudioI2sTxCb_moves {event : I2sEvent} {dai' : DaiInfo} {calls : List Call}
    (hh : gbAudioI2sTxCb env dai event = some (dai', calls)) : dai.streams.Moves dai'.streams := by
  rcases gbAudioI2sTxCb_cases hh with rfl | rfl | ⟨data, htx⟩
  · exact .same
  · exact .same
  · obtain ⟨hrb, hstreams⟩ := gbAudioI2sTx_streams htx
    rw [hstreams]
    exact .txPassed env.nextRb hrb

end Moves

/-! ## Runs -/

section Runs

variable {infos : List AudioInfo} {dais dais' : Dais} {r : Request} {out : Handled} {p : Nat}

/-- An address of the audio list. -/
def Listed (infos : List AudioInfo) (p : Nat) : Prop := ∃ info ∈ infos, p ∈ info.daiList

/-- The flags and the rings of every record in the audio list agree. -/
def Consistent (infos : List AudioInfo) (dais : Dais) : Prop :=
  ∀ p, Listed infos p → (dais p).streams.Consistent

/-- An activation that fails leaves an inactive stream inactive. -/
def FailedInactive (infos : List AudioInfo) (dais : Dais) (a : Action) (_ : Dais) : Prop :=
  ∀ r out p, a = .mgmt r → serveMgmt infos dais r = some out → out.result ≠ .success →
    r.named infos dais = some p →
    (r.type = 0x0c → (dais p).has .txActive = false → (out.dais p).has .txActive = false) ∧
      (r.type = 0x10 → (dais p).has .rxActive = false → (out.dais p).has .rxActive = false)

/-- An activation request of the receiver for an inactive, configured stream, whose receiver is
prepared and then does not start. -/
def StartFails (infos : List AudioInfo) (dais : Dais) (a : Action) : Prop :=
  ∃ r p, a = .mgmt r ∧ r.type = 0x10 ∧ 2 ≤ r.operation.requestBuffer.payloadSize ∧
    r.named infos dais = some p ∧ (dais p).StartFails r.env

theorem listed_of_named (h : r.named infos dais = some p) : Listed infos p := by
  obtain ⟨info, hinfo, hdai⟩ := Option.bind_eq_some_iff.mp h
  exact ⟨info, List.mem_of_find?_eq_some hinfo, List.mem_of_find?_eq_some hdai⟩

-- A handler works on the record that it finds, and on no other.
theorem withDai_eq_some {size : Nat} {find : Request → Dais → Option Nat}
    {body : Request → DaiInfo → Option DaiHandled} (h : withDai size find body r dais = some out) :
    (out.result ≠ .success ∧ out.dais = dais ∧
        (r.operation.requestBuffer.payloadSize < size ∨ find r dais = none)) ∨
      ∃ p hd, size ≤ r.operation.requestBuffer.payloadSize ∧ find r dais = some p ∧
        body r (dais p) = some hd ∧ out.result = hd.result ∧
        out.dais = Function.update dais p hd.dai := by
  unfold withDai at h
  split at h
  next hshort =>
    obtain rfl := Option.some.inj h
    exact .inl ⟨OperationResult.noConfusion, rfl, .inl hshort⟩
  next hsize =>
    split at h
    next hfind =>
      obtain rfl := Option.some.inj h
      exact .inl ⟨OperationResult.noConfusion, rfl, .inr hfind⟩
    next p hfind =>
      obtain ⟨hd, hbody, rfl⟩ := Option.map_eq_some_iff.mp h
      exact .inr ⟨p, hd, by omega, hfind, hbody, rfl, rfl⟩

-- Every management request but RX activation moves the streams of the record that it names.
theorem gbAudioMgmtHandlers_moves {type : UInt8} {size : Nat}
    {body : Request → DaiInfo → Option DaiHandled} {dai : DaiInfo} {h : DaiHandled}
    (hmem : (type, size, body) ∈ gbAudioMgmtHandlers) (htype : type ≠ 0x10)
    (hbody : body r dai = some h) : dai.streams.Moves h.dai.streams := by
  simp only [gbAudioMgmtHandlers, List.mem_cons, List.not_mem_nil, or_false, Prod.mk.injEq] at hmem
  rcases hmem with ⟨-, -, rfl⟩ | ⟨-, -, rfl⟩ | ⟨-, -, rfl⟩ | ⟨-, -, rfl⟩ | ⟨-, -, rfl⟩ |
    ⟨-, -, rfl⟩ | ⟨-, -, rfl⟩ | ⟨-, -, rfl⟩ | ⟨rfl, -, -⟩ | ⟨-, -, rfl⟩
  · obtain rfl := Option.some.inj hbody
    exact gbAudioGetPcm_moves
  · obtain rfl := Option.some.inj hbody
    exact gbAudioSetPcm_moves
  · exact gbAudioSetTxDataSize_moves hbody
  · obtain rfl := Option.some.inj hbody
    exact getDelay_moves
  · exact gbAudioActivateTx_moves hbody
  · exact gbAudioDeactivateTx_moves hbody
  · exact gbAudioSetRxDataSize_moves hbody
  · obtain rfl := Option.some.inj hbody
    exact getDelay_moves
  · exact absurd rfl htype
  · obtain rfl := Option.some.inj hbody
    exact gbAudioDeactivateRx_moves

theorem serveMgmt_entry (h : serveMgmt infos dais r = some out) :
    ∃ size body, (r.type, size, body) ∈ gbAudioMgmtHandlers ∧
      withDai size (fun r dais => r.named infos dais) body r dais = some out := by
  unfold serveMgmt at h
  obtain ⟨⟨type, size, body⟩, hfind, hout⟩ := Option.bind_eq_some_iff.mp h
  have htype : type = r.type := by simpa using List.find?_some hfind
  subst htype
  exact ⟨size, body, List.mem_of_find?_eq_some hfind, hout⟩

theorem serveMgmt_activateTx (htype : r.type = 0x0c) :
    serveMgmt infos dais r = withDai 2 (fun r dais => r.named infos dais)
      (fun r dai => gbAudioActivateTx r.env dai) r dais := by
  unfold serveMgmt
  rw [htype]
  rfl

theorem serveMgmt_activateRx (htype : r.type = 0x10) :
    serveMgmt infos dais r = withDai 2 (fun r dais => r.named infos dais)
      (fun r dai => gbAudioActivateRx r.env dai) r dais := by
  unfold serveMgmt
  rw [htype]
  rfl

theorem moves_update {hd : DaiInfo} (h : (dais p).streams.Moves hd.streams) (q : Nat) :
    (dais q).streams.Moves (Function.update dais p hd q).streams := by
  by_cases hq : q = p
  · subst hq
    rwa [Function.update_self]
  · rw [Function.update_of_ne hq]
    exact .same

theorem withDai_moves {size : Nat} {find : Request → Dais → Option Nat}
    {body : Request → DaiInfo → Option DaiHandled} (h : withDai size find body r dais = some out)
    (hbody : ∀ dai hd, body r dai = some hd → dai.streams.Moves hd.dai.streams) (q : Nat) :
    (dais q).streams.Moves (out.dais q).streams := by
  rcases withDai_eq_some h with ⟨-, hsame, -⟩ | ⟨p, hd, -, -, hrun, -, hdais⟩
  · rw [hsame]
    exact .same
  · rw [hdais]
    exact moves_update (hbody _ hd hrun) q

-- What RX activation does to the record that it names.
theorem activateRx_cases (htype : r.type = 0x10) (h : serveMgmt infos dais r = some out) :
    (¬ StartFails infos dais (.mgmt r) ∧
      (∀ q, (dais q).streams.Moves (out.dais q).streams) ∧
      (out.result ≠ .success →
        ∀ q, (dais q).has .rxActive = false → (out.dais q).has .rxActive = false)) ∨
      StartFails infos dais (.mgmt r) ∧
        ∃ q, Listed infos q ∧ (out.dais q).has .rxActive = true ∧ (out.dais q).rxRb = none := by
  rw [serveMgmt_activateRx htype] at h
  rcases withDai_eq_some h with ⟨-, hsame, hrefused⟩ | ⟨p, hd, hsize, hnamed, hrun, hres, hdais⟩
  · left
    refine ⟨?_, fun q => hsame ▸ .same, fun _ q hq => hsame ▸ hq⟩
    rintro ⟨r', p, hr, -, hsize, hnamed, -⟩
    obtain rfl := Action.mgmt.inj hr
    rcases hrefused with hshort | hnone
    · omega
    · rw [hnone] at hnamed
      cases hnamed
  · rw [hres, hdais]
    rcases gbAudioActivateRx_cases hrun with ⟨hstarts, hcases⟩ | ⟨hfails, -, hstuck⟩
    · left
      refine ⟨?_, ?_, ?_⟩
      · rintro ⟨r', p', hr, -, -, hnamed', hfails⟩
        obtain rfl := Action.mgmt.inj hr
        obtain rfl : p = p' := Option.some.inj (hnamed.symm.trans hnamed')
        exact hstarts hfails
      · apply moves_update
        rcases hcases with ⟨-, hsame⟩ | ⟨-, hinactive, hfailed⟩ | ⟨-, rb, hactive⟩
        · rw [hsame]
          exact .same
        · rw [hfailed]
          exact .rxFailed hinactive
        · rw [hactive]
          exact .rxActivated rb
      · intro hres q hq
        by_cases hqp : q = p
        · subst hqp
          rw [Function.update_self]
          rcases hcases with ⟨-, hsame⟩ | ⟨-, -, hfailed⟩ | ⟨hsuccess, -⟩
          · exact (congrArg Streams.rxActive hsame).trans hq
          · exact (congrArg Streams.rxActive hfailed).trans hq
          · exact absurd hsuccess hres
        · rwa [Function.update_of_ne hqp]
    · right
      refine ⟨⟨r, p, rfl, htype, hsize, hnamed, hfails⟩, p, listed_of_named hnamed, ?_⟩
      rw [Function.update_self]
      exact ⟨congrArg Streams.rxActive hstuck, congrArg Streams.rxRb hstuck⟩

theorem activateTx_failed (htype : r.type = 0x0c) (h : serveMgmt infos dais r = some out)
    (hres : out.result ≠ .success) (q : Nat) (hq : (dais q).has .txActive = false) :
    (out.dais q).has .txActive = false := by
  rw [serveMgmt_activateTx htype] at h
  rcases withDai_eq_some h with ⟨-, hsame, -⟩ | ⟨p, hd, -, -, hrun, hresult, hdais⟩
  · rwa [hsame]
  · rw [hdais]
    by_cases hqp : q = p
    · subst hqp
      rw [Function.update_self]
      rcases gbAudioActivateTx_cases hrun with
        ⟨-, hsame⟩ | ⟨-, ⟨-, hfailed⟩ | ⟨hsuccess, -⟩⟩
      · exact (congrArg Streams.txActive hsame).trans hq
      · exact (congrArg Streams.txActive hfailed).trans hq
      · exact absurd (hresult.trans hsuccess) hres
    · rwa [Function.update_of_ne hqp]

theorem not_startFails_of_type (htype : r.type ≠ 0x10) : ¬ StartFails infos dais (.mgmt r) := by
  rintro ⟨r', p, hr, htype', -⟩
  obtain rfl := Action.mgmt.inj hr
  exact htype htype'

-- A step moves every record, unless a receiver does not start: its record is then active and
-- without a ring.
theorem step_cases {a : Action} (h : step infos dais a = some dais') :
    (¬ StartFails infos dais a ∧ FailedInactive infos dais a dais' ∧
      ∀ q, (dais q).streams.Moves (dais' q).streams) ∨
      StartFails infos dais a ∧
        ∃ q, Listed infos q ∧ (dais' q).has .rxActive = true ∧ (dais' q).rxRb = none := by
  cases a with
  | mgmt r =>
    obtain ⟨out, hserve, rfl⟩ := Option.map_eq_some_iff.mp h
    by_cases htype : r.type = 0x10
    · rcases activateRx_cases htype hserve with ⟨hstarts, hmoves, hfailed⟩ | hfails
      · left
        refine ⟨hstarts, ?_, hmoves⟩
        intro r' out' p hr hserve' hres _
        obtain rfl := Action.mgmt.inj hr
        obtain rfl : out = out' := Option.some.inj (hserve.symm.trans hserve')
        exact ⟨fun htx => absurd (htype.symm.trans htx) (by decide), fun _ => hfailed hres p⟩
      · exact .inr hfails
    · left
      refine ⟨not_startFails_of_type htype, ?_, ?_⟩
      · intro r' out' p hr hserve' hres _
        obtain rfl := Action.mgmt.inj hr
        exact ⟨fun htx => activateTx_failed htx hserve' hres p, fun hrx => absurd hrx htype⟩
      · obtain ⟨size, body, hmem, hrun⟩ := serveMgmt_entry hserve
        exact withDai_moves hrun fun _ _ => gbAudioMgmtHandlers_moves hmem htype
  | sendData r =>
    obtain ⟨out, hserve, rfl⟩ := Option.map_eq_some_iff.mp h
    left
    refine ⟨fun hfails => ?_, fun r out p hr => ?_, ?_⟩
    · obtain ⟨r', p, hr, -⟩ := hfails
      cases hr
    · cases hr
    · exact withDai_moves hserve fun _ _ => gbAudioSendData_moves
  | txCallback p event env =>
    obtain ⟨⟨dai, calls⟩, hcb, rfl⟩ := Option.map_eq_some_iff.mp h
    left
    refine ⟨fun hfails => ?_, fun r out p hr => ?_, ?_⟩
    · obtain ⟨r', p, hr, -⟩ := hfails
      cases hr
    · cases hr
    · exact moves_update (gbAudioI2sTxCb_moves hcb)

theorem step_consistent_iff {a : Action} (hdais : Consistent infos dais)
    (h : step infos dais a = some dais') :
    Consistent infos dais' ↔ ¬ StartFails infos dais a := by
  rcases step_cases h with ⟨hstarts, -, hmoves⟩ | ⟨hfails, q, hq, hactive, hrb⟩
  · exact iff_of_true (fun q hq => (hmoves q).consistent (hdais q hq)) hstarts
  · refine iff_of_false (fun hall => ?_) (not_not_intro hfails)
    exact (hall q hq).rxRb.mp hactive hrb

/-- A record as `gb_audio_alloc_info_list` leaves it, as far as its streams go. -/
def DaiInfo.Fresh (dai : DaiInfo) : Prop := dai.flags = 0#32 ∧ dai.txRb = none ∧ dai.rxRb = none

theorem DaiInfo.Fresh.consistent {dai : DaiInfo} (h : dai.Fresh) : dai.streams.Consistent := by
  obtain ⟨hflags, htx, hrx⟩ := h
  have hnone (f : Flag) : dai.has f = false := by
    unfold DaiInfo.has
    rw [hflags]
    exact BitFlags.has_zero f.bit
  unfold DaiInfo.streams
  rw [hnone, hnone, hnone, hnone, htx, hrx]
  exact ⟨by simp, id, by simp, id⟩

/-- The flags of every DAI agree with its rings between all requests, and a failed activation
leaves its stream inactive, exactly when no receiver that has been prepared fails to start. -/
theorem throughout_consistent_iff (infos : List AudioInfo) (dais : Dais) (as : List Action)
    (hfresh : ∀ p, Listed infos p → (dais p).Fresh) :
    Throughout (step infos) (Consistent infos) dais as ∧
        EachStep (step infos) (FailedInactive infos) dais as ↔
      EachStep (step infos) (fun dais a _ => ¬ StartFails infos dais a) dais as := by
  have hconsistent : Consistent infos dais := fun p hp => (hfresh p hp).consistent
  have hkeeps : ∀ dais a dais', Consistent infos dais → step infos dais a = some dais' →
      (Consistent infos dais' ↔ ¬ StartFails infos dais a) := fun _ _ _ => step_consistent_iff
  rw [throughout_iff_eachStep hkeeps hconsistent]
  apply and_iff_left_of_imp
  intro heach
  apply eachStep_mono _ heach
  intro s a s' hstep hstarts
  rcases step_cases hstep with ⟨-, hfailed, -⟩ | ⟨hfails, -⟩
  · exact hfailed
  · exact absurd hfails hstarts

end Runs

/-- One DAI with frames of four bytes. -/
def oneDai : Dais := fun _ =>
  { flags := 0#32, dataCport := 6, format := 0, rate := 0, channels := 0, sigBits := 0,
    sampleSize := 4, sampleFreq := 48000, txRbCount := 0, txRb := none, txDataSize := 0,
    txSamplesPerMsg := 0, txDummyData := none, rxRb := none, rxDataSize := 0,
    rxSamplesPerMsg := 0 }

/-- A management request for this DAI; a receiver is started with the result given. -/
def daiRequest (type : UInt8) (fields : List UInt8) (start : Int) : Request where
  type := type
  after := fun _ => 0
  operation := .fresh 5
    ⟨{ size := UInt16.ofNat (10 + fields.length), id := 1, type := type, result := 0, pad := 0 },
      [6, 0] ++ fields⟩
  env := ⟨true, (0, 0), (0, 0), some 1, true, 0, start, true, 2, true⟩

/-- SET_PCM, SET_RX_DATA_SIZE for four bytes and ACTIVATE_RX. -/
def activation (start : Int) : List Action :=
  [.mgmt (daiRequest 0x09 [0, 0, 0, 0, 0, 0, 0, 0, 2, 16] 0),
    .mgmt (daiRequest 0x0e [4, 0] 0), .mgmt (daiRequest 0x10 [] start)]

theorem throughout_consistent_iff_activation :
    Throughout (step [⟨5, [0]⟩]) (Consistent [⟨5, [0]⟩]) oneDai (activation 0) ∧
        EachStep (step [⟨5, [0]⟩]) (FailedInactive [⟨5, [0]⟩]) oneDai (activation 0) ↔
      EachStep (step [⟨5, [0]⟩]) (fun dais a _ => ¬ StartFails [⟨5, [0]⟩] dais a) oneDai
        (activation 0) :=
  throughout_consistent_iff [⟨5, [0]⟩] oneDai (activation 0) fun _ _ => ⟨rfl, rfl, rfl⟩

-- The receiver does not start: its stream stays active without a ring, and a second activation is
-- refused.
theorem activation_start_fails :
    (run (step [⟨5, [0]⟩]) oneDai (activation (- EIO))).map (fun dais => (dais 0).streams)
        = some ⟨false, false, none, true, true, none⟩ ∧
      ((run (step [⟨5, [0]⟩]) oneDai (activation (- EIO))).bind fun dais =>
        serveMgmt [⟨5, [0]⟩] dais (daiRequest 0x10 [] 0)).map (·.result)
          = some .protocolBad ∧
      ¬ Throughout (step [⟨5, [0]⟩]) (Consistent [⟨5, [0]⟩]) oneDai (activation (- EIO)) := by
  have hrun : (run (step [⟨5, [0]⟩]) oneDai (activation (- EIO))).map (fun dais => (dais 0).streams)
      = some ⟨false, false, none, true, true, none⟩ := by decide
  refine ⟨hrun, by decide, fun hall => ?_⟩
  obtain ⟨dais, hdais, hstreams⟩ := Option.map_eq_some_iff.mp hrun
  have hconsistent := hall _ dais (List.prefix_refl _) hdais 0 ⟨⟨5, [0]⟩, by decide, by decide⟩
  rw [hstreams] at hconsistent
  exact absurd (hconsistent.rxRb.mp rfl) (by decide)

end Greybus.Audio
