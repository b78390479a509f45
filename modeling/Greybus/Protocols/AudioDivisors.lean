import Greybus.Protocols.Audio

/-!
# The divisors of the audio protocol

The data sizes are divided by `sample_size`, and the activations divide by the samples of a message.
`gb_audio_config_connection` is where `sample_size` would be set, and its body is commented out.
-/

namespace Greybus.Audio

open Reasoning Reasoning.Transition

/-- SET_TX_DATA_SIZE, ACTIVATE_TX, SET_RX_DATA_SIZE and ACTIVATE_RX, which divide. -/
def dividingTypes : List UInt8 := [0x0a, 0x0c, 0x0e, 0x10]

/-- The handler of a request comes to a division by zero, and so to nothing. -/
def DividesByZero (infos : List AudioInfo) (dais : Dais) (r : Request) : Prop :=
  r.type ∈ dividingTypes ∧ serveMgmt infos dais r = none

/-- The request sets a data size of a DAI that has had its PCM set. -/
def SetsSizeOfPcm (infos : List AudioInfo) (dais : Dais) (r : Request) : Prop :=
  (r.type = 0x0a ∨ r.type = 0x0e) ∧ 4 ≤ r.operation.requestBuffer.payloadSize ∧
    ∃ p, r.named infos dais = some p ∧ (dais p).has .pcmSet = true

/-- A record that `zalloc` has zeroed, with its data connection. -/
def DaiInfo.zeroed (dataCport : UInt16) : DaiInfo where
  flags := 0#32
  dataCport := dataCport
  format := 0
  rate := 0
  channels := 0
  sigBits := 0
  sampleSize := 0
  sampleFreq := 0
  txRbCount := 0
  txRb := none
  txDataSize := 0
  txSamplesPerMsg := 0
  txDummyData := none
  rxRb := none
  rxDataSize := 0
  rxSamplesPerMsg := 0

/-! ## A record without a sample size -/

/-- No sample size has been set, and nothing that depends on one. -/
structure DaiInfo.Unsized (dai : DaiInfo) : Prop where
  sampleSize : dai.sampleSize = 0
  txDataSizeSet : dai.has .txDataSizeSet = false
  rxDataSizeSet : dai.has .rxDataSizeSet = false
  txActive : dai.has .txActive = false
  rxActive : dai.has .rxActive = false

theorem DaiInfo.zeroed_unsized (dataCport : UInt16) : (DaiInfo.zeroed dataCport).Unsized := by
  have hnone (f : Flag) : (DaiInfo.zeroed dataCport).has f = false := BitFlags.has_zero f.bit
  exact ⟨rfl, hnone _, hnone _, hnone _, hnone _⟩

section Unsized

variable {dai : DaiInfo} {env : Env} {request : Nat → UInt8} {h : DaiHandled}

theorem gbAudioSetPcm_unsized (hdai : dai.Unsized) : (gbAudioSetPcm request dai).dai.Unsized := by
  rw [gbAudioSetPcm, hdai.txActive, hdai.rxActive]
  refine ⟨hdai.sampleSize, ?_, ?_, ?_, ?_⟩ <;>
    show DaiInfo.has (DaiInfo.set _ .pcmSet) _ = false <;> rw [DaiInfo.has_set]
  · exact hdai.txDataSizeSet
  · exact hdai.rxDataSizeSet
  · exact hdai.txActive
  · exact hdai.rxActive

-- A data size is set only of a record with its PCM, and then divides.
theorem gbAudioSetTxDataSize_eq_none (hdai : dai.Unsized) :
    gbAudioSetTxDataSize request dai = none ↔ dai.has .pcmSet = true := by
  rw [gbAudioSetTxDataSize, hdai.txActive]
  cases dai.has .pcmSet with
  | false => exact iff_of_false (fun h => by cases h) Bool.false_ne_true
  | true => exact iff_of_true (if_pos hdai.sampleSize) rfl

theorem gbAudioSetRxDataSize_eq_none (hdai : dai.Unsized) :
    gbAudioSetRxDataSize request dai = none ↔ dai.has .pcmSet = true := by
  rw [gbAudioSetRxDataSize, hdai.rxActive]
  cases dai.has .pcmSet with
  | false => exact iff_of_false (fun h => by cases h) Bool.false_ne_true
  | true => exact iff_of_true (if_pos hdai.sampleSize) rfl

theorem gbAudioSetTxDataSize_unsized (hdai : dai.Unsized)
    (hh : gbAudioSetTxDataSize request dai = some h) : h.dai.Unsized := by
  have hpcm : dai.has .pcmSet = false := by
    rw [← Bool.not_eq_true, ← gbAudioSetTxDataSize_eq_none hdai, hh]
    exact Option.some_ne_none h
  rw [gbAudioSetTxDataSize, hpcm] at hh
  exact Option.some.inj hh ▸ hdai

theorem gbAudioSetRxDataSize_unsized (hdai : dai.Unsized)
    (hh : gbAudioSetRxDataSize request dai = some h) : h.dai.Unsized := by
  have hpcm : dai.has .pcmSet = false := by
    rw [← Bool.not_eq_true, ← gbAudioSetRxDataSize_eq_none hdai, hh]
    exact Option.some_ne_none h
  rw [gbAudioSetRxDataSize, hpcm] at hh
  exact Option.some.inj hh ▸ hdai

theorem gbAudioActivateTx_refuse (hdai : dai.Unsized) :
    gbAudioActivateTx env dai = some (dai.refuse .protocolBad) := by
  rw [gbAudioActivateTx, DaiInfo.isConfigured, hdai.txDataSizeSet, Bool.and_false]
  rfl

theorem gbAudioActivateRx_refuse (hdai : dai.Unsized) :
    gbAudioActivateRx env dai = some (dai.refuse .protocolBad) := by
  rw [gbAudioActivateRx, DaiInfo.isConfigured, hdai.rxDataSizeSet, Bool.and_false]
  rfl

theorem gbAudioGetPcm_dai : (gbAudioGetPcm env dai).dai = dai := by
  unfold gbAudioGetPcm
  split
  next => rfl
  split
  next => rfl
  next => rfl

theorem getDelay_refuse {f : Flag} (hf : dai.has f = false) :
    getDelay env dai f = dai.refuse .protocolBad := by
  rw [getDelay, DaiInfo.isConfigured, hf, Bool.and_false]
  rfl

theorem gbAudioDeactivateTx_refuse (hdai : dai.Unsized) :
    gbAudioDeactivateTx env dai = some (dai.refuse .protocolBad) := by
  rw [gbAudioDeactivateTx, hdai.txActive]
  rfl

theorem gbAudioDeactivateRx_refuse (hdai : dai.Unsized) :
    gbAudioDeactivateRx dai = dai.refuse .protocolBad := by
  rw [gbAudioDeactivateRx, hdai.rxActive]
  rfl

theorem gbAudioSendData_refuse (hdai : dai.Unsized) :
    gbAudioSendData env request dai = some (dai.refuse .protocolBad) := by
  rw [gbAudioSendData, hdai.txActive]
  rfl

theorem DaiInfo.Unsized.congr {dai' : DaiInfo} (hdai : dai.Unsized)
    (hflags : dai'.flags = dai.flags) (hsize : dai'.sampleSize = dai.sampleSize) : dai'.Unsized := by
  have hhas (f : Flag) : dai'.has f = dai.has f := by
    unfold DaiInfo.has
    rw [hflags]
  refine ⟨hsize.trans hdai.sampleSize, ?_, ?_, ?_, ?_⟩ <;> rw [hhas]
  · exact hdai.txDataSizeSet
  · exact hdai.rxDataSizeSet
  · exact hdai.txActive
  · exact hdai.rxActive

-- The callback passes data on, and leaves the flags and the sample size.
theorem gbAudioI2sTxCb_unsized {event : I2sEvent} {dai' : DaiInfo} {calls : List Call}
    (hdai : dai.Unsized) (hh : gbAudioI2sTxCb env dai event = some (dai', calls)) :
    dai'.Unsized := by
  rcases gbAudioI2sTxCb_cases hh with rfl | rfl | ⟨data, htx⟩
  · exact hdai
  · exact hdai.congr rfl rfl
  · obtain ⟨rb, -, hout⟩ := Option.map_eq_some_iff.mp htx
    obtain ⟨rfl, -⟩ := Prod.mk.inj hout
    exact hdai.congr rfl rfl

-- Only SET_PCM changes such a record.
theorem gbAudioMgmtHandlers_unsized {r : Request} {type : UInt8} {size : Nat}
    {body : Request → DaiInfo → Option DaiHandled} (hmem : (type, size, body) ∈ gbAudioMgmtHandlers)
    (hdai : dai.Unsized) (hbody : body r dai = some h) : h.dai.Unsized := by
  simp only [gbAudioMgmtHandlers, List.mem_cons, List.not_mem_nil, or_false, Prod.mk.injEq] at hmem
  rcases hmem with ⟨-, -, rfl⟩ | ⟨-, -, rfl⟩ | ⟨-, -, rfl⟩ | ⟨-, -, rfl⟩ | ⟨-, -, rfl⟩ |
    ⟨-, -, rfl⟩ | ⟨-, -, rfl⟩ | ⟨-, -, rfl⟩ | ⟨-, -, rfl⟩ | ⟨-, -, rfl⟩ <;> dsimp only at hbody
  · obtain rfl := Option.some.inj hbody
    rwa [gbAudioGetPcm_dai]
  · obtain rfl := Option.some.inj hbody
    exact gbAudioSetPcm_unsized hdai
  · exact gbAudioSetTxDataSize_unsized hdai hbody
  · rw [gbAudioGetTxDelay, getDelay_refuse hdai.txDataSizeSet] at hbody
    exact Option.some.inj hbody ▸ hdai
  · rw [gbAudioActivateTx_refuse hdai] at hbody
    exact Option.some.inj hbody ▸ hdai
  · rw [gbAudioDeactivateTx_refuse hdai] at hbody
    exact Option.some.inj hbody ▸ hdai
  · exact gbAudioSetRxDataSize_unsized hdai hbody
  · rw [gbAudioGetRxDelay, getDelay_refuse hdai.rxDataSizeSet] at hbody
    exact Option.some.inj hbody ▸ hdai
  · rw [gbAudioActivateRx_refuse hdai] at hbody
    exact Option.some.inj hbody ▸ hdai
  · rw [gbAudioDeactivateRx_refuse hdai] at hbody
    exact Option.some.inj hbody ▸ hdai

end Unsized

/-! ## Runs -/

section Runs

variable {infos : List AudioInfo} {dais dais' : Dais} {r : Request} {out : Handled}

/-- No record of the audio list has a sample size. -/
def Unsized (infos : List AudioInfo) (dais : Dais) : Prop := ∀ p, Listed infos p → (dais p).Unsized

theorem unsized_update {p : Nat} {dai : DaiInfo} (hdais : Unsized infos dais)
    (hdai : (dais p).Unsized → dai.Unsized) : Unsized infos (Function.update dais p dai) := by
  intro q hq
  by_cases hqp : q = p
  · subst hqp
    rw [Function.update_self]
    exact hdai (hdais q hq)
  · rw [Function.update_of_ne hqp]
    exact hdais q hq

theorem withDai_unsized {size : Nat} {find : Request → Dais → Option Nat}
    {body : Request → DaiInfo → Option DaiHandled} (hdais : Unsized infos dais)
    (hbody : ∀ dai hd, dai.Unsized → body r dai = some hd → hd.dai.Unsized)
    (h : withDai size find body r dais = some out) : Unsized infos out.dais := by
  rcases withDai_eq_some h with ⟨-, hsame, -⟩ | ⟨p, hd, -, -, hrun, -, hout⟩
  · rwa [hsame]
  · rw [hout]
    exact unsized_update hdais fun hdai => hbody (dais p) hd hdai hrun

theorem step_unsized {a : Action} (hdais : Unsized infos dais)
    (h : step infos dais a = some dais') : Unsized infos dais' := by
  cases a with
  | mgmt r =>
    obtain ⟨out, hserve, rfl⟩ := Option.map_eq_some_iff.mp h
    obtain ⟨size, body, hmem, hrun⟩ := serveMgmt_entry hserve
    exact withDai_unsized hdais (fun _ _ => gbAudioMgmtHandlers_unsized hmem) hrun
  | sendData r =>
    obtain ⟨out, hserve, rfl⟩ := Option.map_eq_some_iff.mp h
    refine withDai_unsized hdais (fun dai hd hdai hrun => ?_) hserve
    rw [gbAudioSendData_refuse hdai] at hrun
    exact Option.some.inj hrun ▸ hdai
  | txCallback p event env =>
    obtain ⟨⟨dai, calls⟩, hcb, rfl⟩ := Option.map_eq_some_iff.mp h
    exact unsized_update hdais fun hdai => gbAudioI2sTxCb_unsized hdai hcb

theorem withDai_eq_none {size : Nat} {find : Request → Dais → Option Nat}
    {body : Request → DaiInfo → Option DaiHandled} :
    withDai size find body r dais = none ↔
      size ≤ r.operation.requestBuffer.payloadSize ∧
        ∃ p, find r dais = some p ∧ body r (dais p) = none := by
  unfold withDai
  split
  next hshort =>
    refine iff_of_false (fun h => ?_) fun h => absurd h.1 (by omega)
    cases h
  next hsize =>
    rw [and_iff_right (by omega)]
    split
    next hfind => simp [hfind]
    next p hfind => simp [hfind]

-- A body that cannot divide by zero serves its request.
theorem withDai_ne_none {size : Nat} {body : Request → DaiInfo → Option DaiHandled}
    (hdais : Unsized infos dais) (hbody : ∀ dai, dai.Unsized → body r dai ≠ none) :
    withDai size (fun r dais => r.named infos dais) body r dais ≠ none := by
  intro h
  obtain ⟨-, p, hnamed, hnone⟩ := withDai_eq_none.mp h
  exact hbody (dais p) (hdais p (listed_of_named hnamed)) hnone

theorem serveMgmt_setTxDataSize (htype : r.type = 0x0a) :
    serveMgmt infos dais r = withDai 4 (fun r dais => r.named infos dais)
      (fun r dai => gbAudioSetTxDataSize r.byte dai) r dais := by
  unfold serveMgmt
  rw [htype]
  rfl

theorem serveMgmt_setRxDataSize (htype : r.type = 0x0e) :
    serveMgmt infos dais r = withDai 4 (fun r dais => r.named infos dais)
      (fun r dai => gbAudioSetRxDataSize r.byte dai) r dais := by
  unfold serveMgmt
  rw [htype]
  rfl

-- A handler that divides for exactly the records with their PCM.
theorem withDai_divides {body : Request → DaiInfo → Option DaiHandled} (hdais : Unsized infos dais)
    (hbody : ∀ dai, dai.Unsized → (body r dai = none ↔ dai.has .pcmSet = true)) :
    withDai 4 (fun r dais => r.named infos dais) body r dais = none ↔
      4 ≤ r.operation.requestBuffer.payloadSize ∧
        ∃ p, r.named infos dais = some p ∧ (dais p).has .pcmSet = true := by
  rw [withDai_eq_none]
  refine and_congr_right fun _ => exists_congr fun p => and_congr_right fun hnamed => ?_
  exact hbody (dais p) (hdais p (listed_of_named hnamed))

theorem dividesByZero_iff (hdais : Unsized infos dais) :
    DividesByZero infos dais r ↔ SetsSizeOfPcm infos dais r := by
  unfold DividesByZero SetsSizeOfPcm dividingTypes
  by_cases htx : r.type = 0x0a
  · rw [serveMgmt_setTxDataSize htx,
      withDai_divides hdais fun dai hdai => gbAudioSetTxDataSize_eq_none hdai]
    simp [htx]
  by_cases hrx : r.type = 0x0e
  · rw [serveMgmt_setRxDataSize hrx,
      withDai_divides hdais fun dai hdai => gbAudioSetRxDataSize_eq_none hdai]
    simp [hrx]
  refine iff_of_false ?_ fun h => h.1.elim htx hrx
  rintro ⟨hmem, hnone⟩
  simp only [List.mem_cons, htx, hrx, List.not_mem_nil, or_false, false_or] at hmem
  rcases hmem with hact | hact
  · rw [serveMgmt_activateTx hact] at hnone
    exact withDai_ne_none hdais (fun dai hdai h => by simp [gbAudioActivateTx_refuse hdai] at h)
      hnone
  · rw [serveMgmt_activateRx hact] at hnone
    exact withDai_ne_none hdais (fun dai hdai h => by simp [gbAudioActivateRx_refuse hdai] at h)
      hnone

/-- No request divides by zero exactly when none sets a data size of a DAI that has had its PCM
set. -/
theorem dividesNowhere_iff (infos : List AudioInfo) (dais : Dais) (as : List Action)
    (hzeroed : ∀ p, Listed infos p → ∃ dataCport, dais p = .zeroed dataCport) :
    BeforeEach (step infos) (fun dais a => ∀ r, a = .mgmt r → ¬ DividesByZero infos dais r) dais
        as ↔
      BeforeEach (step infos) (fun dais a => ∀ r, a = .mgmt r → ¬ SetsSizeOfPcm infos dais r) dais
        as := by
  have hdais : Unsized infos dais := by
    intro p hp
    obtain ⟨dataCport, hdai⟩ := hzeroed p hp
    rw [hdai]
    exact DaiInfo.zeroed_unsized dataCport
  refine beforeEach_congr (fun _ _ _ => step_unsized) (fun dais a hdais => ?_) hdais
  exact forall_congr' fun r => imp_congr_right fun _ => not_congr (dividesByZero_iff hdais)

end Runs

/-- SET_PCM for the one DAI. -/
def setPcm : Request := daiRequest 0x09 [0, 0, 0, 0, 0, 0, 0, 0, 2, 16] 0

theorem dividesNowhere_iff_pcm :
    BeforeEach (step [⟨5, [0]⟩])
        (fun dais a => ∀ r, a = .mgmt r → ¬ DividesByZero [⟨5, [0]⟩] dais r)
        (fun _ => .zeroed 6) [.mgmt setPcm] ↔
      BeforeEach (step [⟨5, [0]⟩])
        (fun dais a => ∀ r, a = .mgmt r → ¬ SetsSizeOfPcm [⟨5, [0]⟩] dais r)
        (fun _ => .zeroed 6) [.mgmt setPcm] :=
  dividesNowhere_iff _ _ _ fun _ _ => ⟨6, rfl⟩

-- The PCM is set with success, and the data size that follows is divided by zero.
theorem setTxDataSize_divides :
    (serveMgmt [⟨5, [0]⟩] (fun _ => .zeroed 6) setPcm).map (·.result) = some .success ∧
      ((step [⟨5, [0]⟩] (fun _ => .zeroed 6) (.mgmt setPcm)).bind fun dais =>
        serveMgmt [⟨5, [0]⟩] dais (daiRequest 0x0a [4, 0] 0)).isNone = true ∧
      ¬ BeforeEach (step [⟨5, [0]⟩])
        (fun dais a => ∀ r, a = .mgmt r → ¬ DividesByZero [⟨5, [0]⟩] dais r) (fun _ => .zeroed 6)
        [.mgmt setPcm, .mgmt (daiRequest 0x0a [4, 0] 0)] := by
  have hset : (step [⟨5, [0]⟩] (fun _ => .zeroed 6) (.mgmt setPcm)).isSome = true := by decide
  have hsize : ((step [⟨5, [0]⟩] (fun _ => .zeroed 6) (.mgmt setPcm)).bind fun dais =>
      serveMgmt [⟨5, [0]⟩] dais (daiRequest 0x0a [4, 0] 0)).isNone = true := by decide
  refine ⟨by decide, hsize, fun hnowhere => ?_⟩
  obtain ⟨dais, hdais⟩ := Option.isSome_iff_exists.mp hset
  rw [hdais, Option.bind_some, Option.isNone_iff_eq_none] at hsize
  obtain ⟨hnone, -⟩ := hnowhere.2 dais hdais
  exact hnone _ rfl ⟨by decide, hsize⟩

end Greybus.Audio
