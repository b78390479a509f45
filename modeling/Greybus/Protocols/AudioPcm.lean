import Greybus.Protocols.Audio

/-!
# The format of a DAI

SET_PCM stores the format, the rate, the channels and the significant bits of a DAI, and GET_PCM
answers with them.  No other request and no callback touches them.
-/

namespace Greybus.Audio

open Reasoning Reasoning.Transition

/-- What a record holds of the format, and which DAI it is. -/
structure Config where
  pcmSet : Bool
  format : Nat
  rate : Nat
  channels : UInt8
  sigBits : UInt8
  dataCport : UInt16
  deriving DecidableEq, Repr

def DaiInfo.config (dai : DaiInfo) : Config where
  pcmSet := dai.has .pcmSet
  format := dai.format
  rate := dai.rate
  channels := dai.channels
  sigBits := dai.sigBits
  dataCport := dai.dataCport

section Handlers

variable {env : Env} {request : Nat → UInt8} {dai : DaiInfo} {h : DaiHandled}

theorem DaiInfo.config_set {f : Flag} (hf : f ≠ .pcmSet) : (dai.set f).config = dai.config := by
  unfold DaiInfo.config
  rw [DaiInfo.has_set, decide_eq_false hf, Bool.false_or]
  rfl

theorem DaiInfo.config_clear {f : Flag} (hf : f ≠ .pcmSet) :
    (dai.clear f).config = dai.config := by
  unfold DaiInfo.config
  rw [DaiInfo.has_clear, decide_eq_false hf, Bool.not_false, Bool.true_and]
  rfl

theorem gbAudioGetPcm_config : (gbAudioGetPcm env dai).dai.config = dai.config := by
  unfold gbAudioGetPcm
  split
  next => rfl
  split <;> rfl

-- An active stream keeps its format.
theorem gbAudioSetPcm_config : (gbAudioSetPcm request dai).result ≠ .success ∧
      (gbAudioSetPcm request dai).dai.config = dai.config ∨
    (gbAudioSetPcm request dai).result = .success ∧
      (gbAudioSetPcm request dai).dai.config
        = ⟨true, u32At request 2, u32At request 6, request 10, request 11, dai.dataCport⟩ := by
  unfold gbAudioSetPcm
  split
  next => exact .inl ⟨OperationResult.noConfusion, rfl⟩
  next =>
    right
    dsimp only [gbAudioConfigConnection]
    rw [if_neg (not_not.mpr rfl)]
    refine ⟨rfl, ?_⟩
    show DaiInfo.config (DaiInfo.set _ .pcmSet) = _
    unfold DaiInfo.config
    rw [DaiInfo.has_set, decide_eq_true rfl, Bool.true_or]
    rfl

theorem gbAudioSetTxDataSize_config (hh : gbAudioSetTxDataSize request dai = some h) :
    h.dai.config = dai.config := by
  unfold gbAudioSetTxDataSize at hh
  split at hh
  next =>
    obtain rfl := Option.some.inj hh
    rfl
  dsimp only at hh
  split at hh
  next => cases hh
  split at hh
  next =>
    obtain rfl := Option.some.inj hh
    rfl
  next =>
    obtain rfl := Option.some.inj hh
    exact DaiInfo.config_set (by decide)

theorem gbAudioSetRxDataSize_config (hh : gbAudioSetRxDataSize request dai = some h) :
    h.dai.config = dai.config := by
  unfold gbAudioSetRxDataSize at hh
  split at hh
  next =>
    obtain rfl := Option.some.inj hh
    rfl
  dsimp only at hh
  split at hh
  next => cases hh
  split at hh
  next =>
    obtain rfl := Option.some.inj hh
    rfl
  next =>
    obtain rfl := Option.some.inj hh
    exact DaiInfo.config_set (by decide)

theorem getDelay_config {f : Flag} : (getDelay env dai f).dai.config = dai.config := by
  unfold getDelay
  split
  next => rfl
  split
  next => rfl
  split
  next => rfl
  split <;> rfl

theorem gbAudioActivateTx_config (hh : gbAudioActivateTx env dai = some h) :
    h.dai.config = dai.config := by
  unfold gbAudioActivateTx at hh
  split at hh
  next =>
    obtain rfl := Option.some.inj hh
    rfl
  next =>
    obtain ⟨entries, -, rfl⟩ := Option.map_eq_some_iff.mp hh
    dsimp only
    split
    next => rfl
    split
    next => rfl
    split
    next => rfl
    next => exact DaiInfo.config_set (by decide)

theorem DaiInfo.config_shutTx : dai.shutTx.config = dai.config := by
  unfold DaiInfo.shutTx
  rw [DaiInfo.config_clear (by decide), DaiInfo.config_clear (by decide)]
  rfl

theorem gbAudioDeactivateTx_config (hh : gbAudioDeactivateTx env dai = some h) :
    h.dai.config = dai.config := by
  unfold gbAudioDeactivateTx at hh
  split at hh
  next =>
    obtain rfl := Option.some.inj hh
    rfl
  dsimp only at hh
  split at hh
  next =>
    split at hh
    next => cases hh
    next =>
      obtain rfl := Option.some.inj hh
      show ((dai.set .txStopping).clear .txStarted).shutTx.config = _
      rw [DaiInfo.config_shutTx, DaiInfo.config_clear (by decide), DaiInfo.config_set (by decide)]
  next =>
    obtain rfl := Option.some.inj hh
    show (dai.set .txStopping).shutTx.config = _
    rw [DaiInfo.config_shutTx, DaiInfo.config_set (by decide)]

theorem gbAudioActivateRx_config (hh : gbAudioActivateRx env dai = some h) :
    h.dai.config = dai.config := by
  unfold gbAudioActivateRx at hh
  split at hh
  next =>
    obtain rfl := Option.some.inj hh
    rfl
  next =>
    obtain ⟨entries, -, rfl⟩ := Option.map_eq_some_iff.mp hh
    dsimp only
    split
    next => rfl
    next rb _ =>
      have hactive : (({ dai with rxRb := some rb }.set .rxActive).set .rxStarted).config
          = dai.config := by
        rw [DaiInfo.config_set (by decide), DaiInfo.config_set (by decide)]
        rfl
      split
      next => rfl
      split
      next => exact hactive
      next => exact hactive

theorem gbAudioDeactivateRx_config : (gbAudioDeactivateRx dai).dai.config = dai.config := by
  unfold gbAudioDeactivateRx
  split
  next => rfl
  next =>
    show ((DaiInfo.clear _ .rxActive).clear .rxStarted).config = _
    rw [DaiInfo.config_clear (by decide), DaiInfo.config_clear (by decide)]
    rfl

theorem gbAudioI2sTx_config {data : List UInt8} {dai' : DaiInfo} {calls : List Call}
    (hh : gbAudioI2sTx env dai data = some (dai', calls)) : dai'.config = dai.config := by
  obtain ⟨rb, -, hdai⟩ := Option.map_eq_some_iff.mp hh
  obtain ⟨rfl, -⟩ := Prod.mk.inj hdai
  rfl

theorem gbAudioSendData_config (hh : gbAudioSendData env request dai = some h) :
    h.dai.config = dai.config := by
  unfold gbAudioSendData at hh
  split at hh
  next =>
    obtain rfl := Option.some.inj hh
    rfl
  split at hh
  next =>
    obtain rfl := Option.some.inj hh
    rfl
  split at hh
  next => cases hh
  split at hh
  next =>
    obtain rfl := Option.some.inj hh
    rfl
  next =>
    obtain ⟨⟨dai', calls⟩, htx, hhandled⟩ := Option.map_eq_some_iff.mp hh
    have hconfig := gbAudioI2sTx_config htx
    dsimp only at hhandled
    split at hhandled
    next =>
      obtain rfl := hhandled
      show ((dai'.set .txStarted).clear .txStarted).config = _
      rw [DaiInfo.config_clear (by decide), DaiInfo.config_set (by decide), hconfig]
    next =>
      obtain rfl := hhandled
      show (dai'.set .txStarted).config = _
      rw [DaiInfo.config_set (by decide), hconfig]

theorem gbAudioI2sTxCb_config {event : I2sEvent} {dai' : DaiInfo} {calls : List Call}
    (hh : gbAudioI2sTxCb env dai event = some (dai', calls)) : dai'.config = dai.config := by
  rcases gbAudioI2sTxCb_cases hh with rfl | rfl | ⟨data, htx⟩
  · rfl
  · rfl
  · rw [gbAudioI2sTx_config htx]
    rfl

-- Only SET_PCM changes what GET_PCM answers.
theorem gbAudioMgmtHandlers_config {r : Request} {type : UInt8} {size : Nat}
    {body : Request → DaiInfo → Option DaiHandled}
    (hmem : (type, size, body) ∈ gbAudioMgmtHandlers) (htype : type ≠ 0x09)
    (hbody : body r dai = some h) : h.dai.config = dai.config := by
  simp only [gbAudioMgmtHandlers, List.mem_cons, List.not_mem_nil, or_false, Prod.mk.injEq] at hmem
  rcases hmem with ⟨-, -, rfl⟩ | ⟨rfl, -, -⟩ | ⟨-, -, rfl⟩ | ⟨-, -, rfl⟩ | ⟨-, -, rfl⟩ |
    ⟨-, -, rfl⟩ | ⟨-, -, rfl⟩ | ⟨-, -, rfl⟩ | ⟨-, -, rfl⟩ | ⟨-, -, rfl⟩
  · obtain rfl := Option.some.inj hbody
    exact gbAudioGetPcm_config
  · exact absurd rfl htype
  · exact gbAudioSetTxDataSize_config hbody
  · obtain rfl := Option.some.inj hbody
    exact getDelay_config
  · exact gbAudioActivateTx_config hbody
  · exact gbAudioDeactivateTx_config hbody
  · exact gbAudioSetRxDataSize_config hbody
  · obtain rfl := Option.some.inj hbody
    exact getDelay_config
  · exact gbAudioActivateRx_config hbody
  · obtain rfl := Option.some.inj hbody
    exact gbAudioDeactivateRx_config

end Handlers

/-! ## Runs -/

/-- The payload of GET_PCM's response, if there is a format. -/
def Config.pcm (c : Config) : Option (List UInt8) :=
  if c.pcmSet then some (bytes32 c.format ++ bytes32 c.rate ++ [c.channels, c.sigBits]) else none

/-- The format that a SET_PCM request carries. -/
def Request.pcm (r : Request) : List UInt8 := (List.range 10).map fun i => r.byte (2 + i)

/-- A SET_PCM request with this format succeeds for the DAI. -/
def SetsPcm (infos : List AudioInfo) (p : Nat) (pcm : List UInt8) (dais : Dais) (a : Action)
    (_ : Dais) : Prop :=
  ∃ r out, a = .mgmt r ∧ r.type = 0x09 ∧ serveMgmt infos dais r = some out ∧
    out.result = .success ∧ r.named infos dais = some p ∧ r.pcm = pcm

section Runs

variable {infos : List AudioInfo} {dais dais' : Dais} {r : Request} {out : Handled} {p : Nat}

theorem bytes32_u32At (bytes : Nat → UInt8) (i : Nat) :
    bytes32 (u32At bytes i) = [bytes i, bytes (i + 1), bytes (i + 2), bytes (i + 3)] := by
  have h0 := (bytes i).toNat_lt
  have h1 := (bytes (i + 1)).toNat_lt
  have h2 := (bytes (i + 2)).toNat_lt
  have h3 := (bytes (i + 3)).toNat_lt
  simp only [bytes32, bytes16, u32At, u16At, Memory.le16, Nat.add_assoc, Nat.reduceAdd,
    List.cons_append,
    List.nil_append, List.cons.injEq, and_true, ← UInt8.toNat_inj, UInt8.toNat_ofNat']
  omega

theorem config_update {hd : DaiInfo} (h : hd.config = (dais p).config) (q : Nat) :
    (Function.update dais p hd q).config = (dais q).config := by
  by_cases hq : q = p
  · rw [hq, Function.update_self, h]
  · rw [Function.update_of_ne hq]

theorem withDai_config {size : Nat} {find : Request → Dais → Option Nat}
    {body : Request → DaiInfo → Option DaiHandled} (h : withDai size find body r dais = some out)
    (hbody : ∀ dai hd, body r dai = some hd → hd.dai.config = dai.config) (q : Nat) :
    (out.dais q).config = (dais q).config := by
  rcases withDai_eq_some h with ⟨-, hsame, -⟩ | ⟨p, hd, -, -, hrun, -, hdais⟩
  · rw [hsame]
  · rw [hdais]
    exact config_update (hbody _ hd hrun) q

theorem serveMgmt_setPcm (htype : r.type = 0x09) :
    serveMgmt infos dais r = withDai 12 (fun r dais => r.named infos dais)
      (fun r dai => some (gbAudioSetPcm r.byte dai)) r dais := by
  unfold serveMgmt
  rw [htype]
  rfl

theorem serveMgmt_getPcm (htype : r.type = 0x08) :
    serveMgmt infos dais r = withDai 2 (fun r dais => r.named infos dais)
      (fun r dai => some (gbAudioGetPcm r.env dai)) r dais := by
  unfold serveMgmt
  rw [htype]
  rfl

-- What SET_PCM does to the record that it names.
theorem setPcm_cases (htype : r.type = 0x09) (h : serveMgmt infos dais r = some out) :
    (out.result ≠ .success ∧ ∀ q, (out.dais q).config = (dais q).config) ∨
      out.result = .success ∧ ∃ p, r.named infos dais = some p ∧
        (out.dais p).config = ⟨true, u32At r.byte 2, u32At r.byte 6, r.byte 10, r.byte 11,
          (dais p).dataCport⟩ ∧ ∀ q, q ≠ p → (out.dais q).config = (dais q).config := by
  rw [serveMgmt_setPcm htype] at h
  rcases withDai_eq_some h with ⟨hres, hsame, -⟩ | ⟨p, hd, -, hnamed, hbody, hres, hdais⟩
  · exact .inl ⟨hres, fun q => by rw [hsame]⟩
  · obtain rfl := Option.some.inj hbody
    rcases @gbAudioSetPcm_config r.byte (dais p) with
      ⟨hfail, hconfig⟩ | ⟨hsuccess, hconfig⟩
    · refine .inl ⟨hres ▸ hfail, fun q => ?_⟩
      rw [hdais]
      exact config_update hconfig q
    · refine .inr ⟨hres.trans hsuccess, p, hnamed, ?_, fun q hq => ?_⟩
      · rw [hdais, Function.update_self, hconfig]
      · rw [hdais, Function.update_of_ne hq]

-- A step sets the format of a DAI to one that it is asked for, or changes none of it.
theorem step_config {a : Action} (h : step infos dais a = some dais') (p : Nat) :
    (dais' p).dataCport = (dais p).dataCport ∧
      ((∃ pcm, SetsPcm infos p pcm dais a dais' ∧ (dais' p).config.pcm = some pcm) ∨
        (∀ pcm, ¬ SetsPcm infos p pcm dais a dais') ∧ (dais' p).config = (dais p).config) := by
  have hkept (hconfig : (dais' p).config = (dais p).config)
      (hnot : ∀ pcm, ¬ SetsPcm infos p pcm dais a dais') : (dais' p).dataCport = (dais p).dataCport ∧
      ((∃ pcm, SetsPcm infos p pcm dais a dais' ∧ (dais' p).config.pcm = some pcm) ∨
        (∀ pcm, ¬ SetsPcm infos p pcm dais a dais') ∧ (dais' p).config = (dais p).config) :=
    ⟨congrArg Config.dataCport hconfig, .inr ⟨hnot, hconfig⟩⟩
  cases a with
  | mgmt r =>
    obtain ⟨out, hserve, rfl⟩ := Option.map_eq_some_iff.mp h
    by_cases htype : r.type = 0x09
    · rcases setPcm_cases htype hserve with ⟨hfail, hsame⟩ | ⟨hsuccess, q, hnamed, hset, hother⟩
      · refine hkept (hsame p) ?_
        rintro pcm ⟨r', out', hr, -, hserve', hsuccess, -⟩
        obtain rfl := Action.mgmt.inj hr
        obtain rfl := Option.some.inj (hserve.symm.trans hserve')
        exact hfail hsuccess
      · by_cases hp : p = q
        · subst hp
          refine ⟨congrArg Config.dataCport hset, .inl
            ⟨r.pcm, ⟨r, out, rfl, htype, hserve, hsuccess, hnamed, rfl⟩, ?_⟩⟩
          rw [hset, Config.pcm, if_pos rfl, bytes32_u32At, bytes32_u32At]
          rfl
        · refine hkept (hother p hp) ?_
          rintro pcm ⟨r', out', hr, -, -, -, hnamed', -⟩
          obtain rfl := Action.mgmt.inj hr
          exact hp (Option.some.inj (hnamed'.symm.trans hnamed))
    · obtain ⟨size, body, hmem, hwith⟩ := serveMgmt_entry hserve
      refine hkept (withDai_config hwith (fun dai hd hbody =>
        gbAudioMgmtHandlers_config hmem htype hbody) p) ?_
      rintro pcm ⟨r', out', hr, htype', -⟩
      obtain rfl := Action.mgmt.inj hr
      exact htype htype'
  | sendData r =>
    obtain ⟨out, hserve, rfl⟩ := Option.map_eq_some_iff.mp h
    refine hkept (withDai_config hserve (fun dai hd hbody => gbAudioSendData_config hbody) p) ?_
    rintro pcm ⟨r', out', hr, -⟩
    cases hr
  | txCallback q event env =>
    obtain ⟨⟨dai', calls⟩, hcb, rfl⟩ := Option.map_eq_some_iff.mp h
    refine hkept (config_update (gbAudioI2sTxCb_config hcb) p) ?_
    rintro pcm ⟨r', out', hr, -⟩
    cases hr

-- A DAI without a format has never been given one.
theorem eachStep_not_setsPcm {as : List Action} (hrun : run (step infos) dais as = some dais')
    (hnone : (dais' p).config.pcm = none) :
    (dais p).config.pcm = none ∧
      EachStep (step infos) (fun d a d' => ∀ pcm, ¬ SetsPcm infos p pcm d a d') dais as := by
  induction as generalizing dais with
  | nil =>
    obtain rfl := Option.some.inj hrun
    exact ⟨hnone, trivial⟩
  | cons a as ih =>
    obtain ⟨s', hstep, hrest⟩ := run_cons_eq_some.mp hrun
    obtain ⟨hpcm, heach⟩ := ih hrest
    rcases (step_config hstep p).2 with ⟨pcm, -, hsome⟩ | ⟨hnot, hsame⟩
    · rw [hpcm] at hsome
      cases hsome
    · refine ⟨hsame ▸ hpcm, fun s'' hs'' => ?_⟩
      obtain rfl := Option.some.inj (hstep.symm.trans hs'')
      exact ⟨hnot, heach⟩

-- Requests name the same DAI throughout.
theorem named_eq (hcports : ∀ q, (dais' q).dataCport = (dais q).dataCport) (r : Request) :
    r.named infos dais' = r.named infos dais := by
  unfold Request.named gbAudioGetDai
  simp only [hcports]

theorem run_dataCport {as : List Action} (hrun : run (step infos) dais as = some dais') (q : Nat) :
    (dais' q).dataCport = (dais q).dataCport :=
  run_induct (P := fun d => (d q).dataCport = (dais q).dataCport)
    (fun _ _ _ hd hstep => ((step_config hstep q).1).trans hd) rfl hrun

/-- GET_PCM answers with the format of the last SET_PCM that has succeeded for the DAI, or with a
protocol error if none has. -/
def AnswersLastSet (infos : List AudioInfo) (dais : Dais) (as : List Action) (p : Nat)
    (out : Handled) : Prop :=
  (out.result = .success ∧ ∃ pcm, out.payload = some pcm ∧
    Since (step infos) (SetsPcm infos p pcm) (fun d a d' => ∃ pcm', SetsPcm infos p pcm' d a d')
      dais as) ∨
    out.result = .protocolBad ∧
      EachStep (step infos) (fun d a d' => ∀ pcm, ¬ SetsPcm infos p pcm d a d') dais as

/-- After any requests that name a DAI, data and callbacks, a GET_PCM request for a DAI, which is the
one that the same name has always meant, is told the format that was last set for it, when it has a
response. -/
theorem run_getPcm (hfresh : ∀ p, Listed infos p → (dais p).Fresh) {as : List Action}
    (hrun : run (step infos) dais as = some dais') (htype : r.type = 0x08)
    (hsize : 2 ≤ r.operation.requestBuffer.payloadSize) (hmemory : r.env.allocResponse = true)
    (hnamed : r.named infos dais' = some p) :
    r.named infos dais = some p ∧
      ∃ out, serveMgmt infos dais' r = some out ∧ AnswersLastSet infos dais as p out := by
  have hnamed₀ : r.named infos dais = some p := by
    rw [← named_eq (run_dataCport hrun) r, hnamed]
  have hnone : (dais p).config.pcm = none := by
    have hflags := (hfresh p (listed_of_named hnamed₀)).1
    have hnot : (dais p).has .pcmSet = false := by
      unfold DaiInfo.has
      rw [hflags]
      exact BitFlags.has_zero _
    simp [Config.pcm, DaiInfo.config, hnot]
  refine ⟨hnamed₀, ⟨(gbAudioGetPcm r.env (dais' p)).result,
    Function.update dais' p (gbAudioGetPcm r.env (dais' p)).dai,
    (gbAudioGetPcm r.env (dais' p)).calls, (gbAudioGetPcm r.env (dais' p)).payload⟩, ?_, ?_⟩
  · rw [serveMgmt_getPcm htype, withDai, if_neg (by omega), hnamed]
    rfl
  · unfold AnswersLastSet
    cases hset : (dais' p).has .pcmSet with
    | true =>
      left
      have hanswer : gbAudioGetPcm r.env (dais' p) = ⟨.success, dais' p, [],
          some (bytes32 (dais' p).format ++ bytes32 (dais' p).rate ++
            [(dais' p).channels, (dais' p).sigBits])⟩ := by
        simp [gbAudioGetPcm, hset, hmemory]
      have hlast : (dais' p).config.pcm = some (bytes32 (dais' p).format ++
          bytes32 (dais' p).rate ++ [(dais' p).channels, (dais' p).sigBits]) := by
        rw [Config.pcm, DaiInfo.config, if_pos hset]
      rw [hanswer]
      generalize bytes32 (dais' p).format ++ bytes32 (dais' p).rate ++
        [(dais' p).channels, (dais' p).sigBits] = pcm at hlast
      refine ⟨rfl, pcm, rfl, since_of_run (C := fun d => (d p).config.pcm = some pcm)
        (fun s a s' hstep hs' => ?_) (fun hs => by rw [hnone] at hs; cases hs) hrun hlast⟩
      rcases (step_config hstep p).2 with ⟨pcm', hsets, hpcm⟩ | ⟨hnot, hsame⟩
      · obtain rfl := Option.some.inj (hs'.symm.trans hpcm)
        exact .inl hsets
      · refine .inr ⟨by rw [← hsame]; exact hs', ?_⟩
        rintro ⟨pcm', hsets⟩
        exact hnot pcm' hsets
    | false =>
      right
      have hanswer : gbAudioGetPcm r.env (dais' p) = (dais' p).refuse .protocolBad := by
        simp [gbAudioGetPcm, hset]
      rw [hanswer]
      refine ⟨rfl, (eachStep_not_setsPcm hrun ?_).2⟩
      simp [Config.pcm, DaiInfo.config, hset]

end Runs

/-- A format is set, the receiver is activated, and setting another format is refused. -/
def activeReceiver : List Action :=
  activation 0 ++ [.mgmt (daiRequest 0x09 [1, 0, 0, 0, 0, 0, 0, 0, 1, 8] 0)]

theorem run_getPcm_activeReceiver :
    ∃ dais', run (step [⟨5, [0]⟩]) oneDai activeReceiver = some dais' ∧
    ∃ out, serveMgmt [⟨5, [0]⟩] dais' (daiRequest 0x08 [] 0) = some out ∧
      out.payload = some [0, 0, 0, 0, 0, 0, 0, 0, 2, 16] ∧
      AnswersLastSet [⟨5, [0]⟩] oneDai activeReceiver 0 out := by
  have hsome : ((run (step [⟨5, [0]⟩]) oneDai activeReceiver).bind fun dais =>
      serveMgmt [⟨5, [0]⟩] dais (daiRequest 0x08 [] 0)).map (·.payload)
        = some (some [0, 0, 0, 0, 0, 0, 0, 0, 2, 16]) := by decide
  obtain ⟨out, hbind, hpayload⟩ := Option.map_eq_some_iff.mp hsome
  obtain ⟨dais', hrun, hserve⟩ := Option.bind_eq_some_iff.mp hbind
  have hnamed : (daiRequest 0x08 [] 0).named [⟨5, [0]⟩] dais' = some 0 :=
    (named_eq (run_dataCport hrun) _).trans (by decide)
  obtain ⟨-, out', hserve', hlast⟩ :=
    run_getPcm (fun _ _ => ⟨rfl, rfl, rfl⟩) hrun (by decide) (by decide) rfl hnamed
  obtain rfl := Option.some.inj (hserve.symm.trans hserve')
  exact ⟨dais', hrun, out, hserve, hpayload, hlast⟩

end Greybus.Audio
