import Greybus.Protocols.Audio

/-!
# Playing audio

The messages that a DAI takes go into a ring of buffers that its transmitter plays one after the
other.  The callback for a buffer that has been played counts it, and puts in a buffer of silence
when the transmitter would soon have nothing to play.
-/

namespace Greybus.Audio

open Reasoning Reasoning.Transition

/-! ## The transmitter -/

/-- The ring of a transmitter. -/
structure Transmitter where
  entries : Nat
  -- What has been played, and what waits for it.
  played : List (List UInt8)
  queue : List (List UInt8)
  -- The messages that were taken.
  taken : List (List UInt8)
  deriving DecidableEq, Repr

namespace Transmitter

/-- There is no ring. -/
def off : Transmitter := ⟨0, [], [], []⟩

/-- What the calls of a handler put into the ring. -/
def transmitted (calls : List Call) : List (List UInt8) :=
  calls.filterMap fun
    | .transmit _ data => some data
    | _ => none

/-- What the calls of a handler do.  A ring is kept if the transmitter can be prepared for it. -/
def after (t : Transmitter) (calls : List Call) : Transmitter :=
  match calls with
  | [.allocRing entries _, .prepareTransmitter _] => ⟨entries.toNat, [], [], []⟩
  | _ =>
    if .shutdownTransmitter ∈ calls then off else { t with queue := t.queue ++ transmitted calls }

/-- A message is put into the ring. -/
def takes (t : Transmitter) (message : List UInt8) (calls : List Call) : Transmitter :=
  if transmitted calls = [] then t.after calls
  else { t.after calls with taken := t.taken ++ [message] }

/-- The first buffer has been played; there is none while nothing waits. -/
def completes (t : Transmitter) : Option Transmitter :=
  match t.queue with
  | [] => none
  | data :: queue => some { t with played := t.played ++ [data], queue := queue }

end Transmitter

/-- The audio data of a message. -/
def Request.audio (r : Request) (size : Nat) : List UInt8 :=
  (List.range size).map fun i => r.byte (8 + i)

section Steps

variable (infos : List AudioInfo) (p : Nat)

/-- The DAI record that audio data is for. -/
def Request.receiver (r : Request) (dais : Dais) : Option Nat :=
  gbAudioFindDai infos dais (UInt16.ofNat r.operation.cport)

/-- A step of the DAI records together with the transmitter of one of them.  Its ring gives a buffer
to the producer only if fewer than all wait to be played, and it calls back for a buffer only if one
has waited. -/
def playStep (s : Dais × Transmitter) : Action → Option (Dais × Transmitter)
  | .mgmt r =>
    (serveMgmt infos s.1 r).map fun out =>
      (out.dais, if r.named infos s.1 = some p then s.2.after out.calls else s.2)
  | .sendData r =>
    if r.receiver infos s.1 = some p ∧ r.env.isProducers = true
        ∧ s.2.entries ≤ s.2.queue.length then
      none
    else
      (serveData infos s.1 r).map fun out =>
        (out.dais,
          if r.receiver infos s.1 = some p then
            s.2.takes (r.audio (s.1 p).txDataSize.toNat) out.calls
          else s.2)
  | .txCallback q event env =>
    (gbAudioI2sTxCb env (s.1 q) event).bind fun (dai, calls) =>
      (if q ≠ p then some s.2
        else if event = .txComplete then s.2.completes.map fun t => t.after calls
        else some (s.2.after calls)).map
        fun t => (Function.update s.1 q dai, t)

end Steps

/-! ## What keeps it playing -/

/-- The messages in their order, with silence in between. -/
inductive Interspersed {α : Type*} (silence : α) : List α → List α → Prop where
  | nil : Interspersed silence [] []
  | message {messages all : List α} (h : Interspersed silence messages all) (m : α) :
    Interspersed silence (messages ++ [m]) (all ++ [m])
  | silence {messages all : List α} (h : Interspersed silence messages all) :
    Interspersed silence messages (all ++ [silence])

/-- The silence of a DAI. -/
def DaiInfo.silence (dai : DaiInfo) : List UInt8 := List.replicate dai.txDataSize.toNat 0

/-- The transmitter of a DAI is never overfed, and from the first message on it never starves. -/
structure KeepsPlaying (dai : DaiInfo) (t : Transmitter) : Prop where
  count : dai.txRbCount.toNat = t.queue.length
  room : t.queue.length ≤ t.entries
  supplied : t.taken ≠ [] → t.queue ≠ []
  order : Interspersed dai.silence t.taken (t.played ++ t.queue)
  callback : ∀ event env, (event = .txComplete → t.queue ≠ []) →
    (gbAudioI2sTxCb env dai event).isSome

/-! ## The transmitter's part of a record -/

/-- What a record says of its transmitter. -/
structure TxPart where
  count : UInt32
  active : Bool
  stopping : Bool
  ring : Bool
  dummy : Option (List UInt8)
  dataSize : UInt32
  deriving DecidableEq, Repr

def DaiInfo.tx (dai : DaiInfo) : TxPart where
  count := dai.txRbCount
  active := dai.has .txActive
  stopping := dai.has .txStopping
  ring := dai.txRb.isSome
  dummy := dai.txDummyData
  dataSize := dai.txDataSize

/-- What holds of an active transmitter, also while its callback works. -/
structure Feeding (x : TxPart) (t : Transmitter) : Prop where
  ring : x.ring = true
  dummy : x.dummy = some (List.replicate x.dataSize.toNat 0)
  count : x.count.toNat = t.queue.length
  entries : 2 ≤ t.entries ∧ t.entries < 2 ^ 32
  room : t.queue.length ≤ t.entries
  order : Interspersed (List.replicate x.dataSize.toNat 0) t.taken (t.played ++ t.queue)

/-- What holds of an active transmitter. -/
structure Playing (x : TxPart) (t : Transmitter) : Prop extends Feeding x t where
  supplied : t.taken ≠ [] → t.queue ≠ []

/-- The invariant of the records and the transmitter. -/
def PlayInv (x : TxPart) (t : Transmitter) : Prop :=
  x.stopping = false ∧ if x.active then Playing x t else x.count = 0 ∧ t = .off

theorem PlayInv.of_playing {x : TxPart} {t : Transmitter} (hstopping : x.stopping = false)
    (hactive : x.active = true) (hplay : Playing x t) : PlayInv x t := by
  refine ⟨hstopping, ?_⟩
  rw [if_pos hactive]
  exact hplay

/-- The transmitter's part stays as it is, or belongs to an inactive transmitter. -/
def Idles (x x' : TxPart) : Prop :=
  x' = x ∨ x.active = false ∧ x'.active = false ∧ x'.count = x.count ∧ x'.stopping = x.stopping

theorem Idles.inv {x x' : TxPart} {t : Transmitter} (h : Idles x x') (hinv : PlayInv x t) :
    PlayInv x' t := by
  rcases h with rfl | ⟨hactive, hactive', hcount, hstopping⟩
  · exact hinv
  · refine ⟨hstopping.trans hinv.1, ?_⟩
    have hidle := hinv.2
    rw [if_neg (by simp [hactive])] at hidle
    rw [if_neg (by simp [hactive']), hcount]
    exact hidle

section Handlers

variable {env : Env} {request : Nat → UInt8} {dai : DaiInfo} {h : DaiHandled}

theorem DaiInfo.tx_set {f : Flag} (hactive : f ≠ .txActive) (hstopping : f ≠ .txStopping) :
    (dai.set f).tx = dai.tx := by
  unfold DaiInfo.tx
  rw [DaiInfo.has_set, DaiInfo.has_set, decide_eq_false hactive, decide_eq_false hstopping,
    Bool.false_or, Bool.false_or]
  rfl

theorem DaiInfo.tx_clear {f : Flag} (hactive : f ≠ .txActive) (hstopping : f ≠ .txStopping) :
    (dai.clear f).tx = dai.tx := by
  unfold DaiInfo.tx
  rw [DaiInfo.has_clear, DaiInfo.has_clear, decide_eq_false hactive, decide_eq_false hstopping,
    Bool.not_false, Bool.true_and, Bool.true_and]
  rfl

theorem Transmitter.after_nil (t : Transmitter) : t.after [] = t := by
  show { t with queue := t.queue ++ [] } = t
  rw [List.append_nil]

/-- A handler that does nothing with the transmitter. -/
structure Leaves (dai : DaiInfo) (h : DaiHandled) : Prop where
  tx : Idles dai.tx h.dai.tx
  after : ∀ t : Transmitter, t.after h.calls = t

theorem leaves_refuse (result : OperationResult) : Leaves dai (dai.refuse result) :=
  ⟨.inl rfl, Transmitter.after_nil⟩

theorem gbAudioGetPcm_leaves : Leaves dai (gbAudioGetPcm env dai) := by
  unfold gbAudioGetPcm
  split
  next => exact leaves_refuse _
  split
  next => exact leaves_refuse _
  next => exact ⟨.inl rfl, Transmitter.after_nil⟩

theorem gbAudioSetPcm_leaves : Leaves dai (gbAudioSetPcm request dai) := by
  unfold gbAudioSetPcm
  split
  next => exact leaves_refuse _
  dsimp only [gbAudioConfigConnection]
  rw [if_neg (not_not.mpr rfl)]
  exact ⟨.inl (DaiInfo.tx_set (by decide) (by decide)), Transmitter.after_nil⟩

-- The data size of an active transmitter stays.
theorem gbAudioSetTxDataSize_leaves (hh : gbAudioSetTxDataSize request dai = some h) :
    Leaves dai h := by
  unfold gbAudioSetTxDataSize at hh
  split at hh
  next =>
    obtain rfl := Option.some.inj hh
    exact leaves_refuse _
  next hguard =>
    have hinactive : dai.has .txActive = false := by
      simp only [Bool.or_eq_true, not_or, Bool.not_eq_true] at hguard
      exact hguard.2
    dsimp only at hh
    split at hh
    next => cases hh
    split at hh
    next =>
      obtain rfl := Option.some.inj hh
      exact ⟨.inr ⟨hinactive, hinactive, rfl, rfl⟩, Transmitter.after_nil⟩
    next =>
      obtain rfl := Option.some.inj hh
      refine ⟨.inr ?_, Transmitter.after_nil⟩
      show dai.has .txActive = false ∧ (DaiInfo.set _ .txDataSizeSet).tx.active = false ∧
        (DaiInfo.set _ .txDataSizeSet).tx.count = _ ∧
        (DaiInfo.set _ .txDataSizeSet).tx.stopping = _
      rw [DaiInfo.tx_set (by decide) (by decide)]
      exact ⟨hinactive, hinactive, rfl, rfl⟩

theorem gbAudioSetRxDataSize_leaves (hh : gbAudioSetRxDataSize request dai = some h) :
    Leaves dai h := by
  unfold gbAudioSetRxDataSize at hh
  split at hh
  next =>
    obtain rfl := Option.some.inj hh
    exact leaves_refuse _
  dsimp only at hh
  split at hh
  next => cases hh
  split at hh
  next =>
    obtain rfl := Option.some.inj hh
    exact ⟨.inl rfl, Transmitter.after_nil⟩
  next =>
    obtain rfl := Option.some.inj hh
    exact ⟨.inl (DaiInfo.tx_set (by decide) (by decide)), Transmitter.after_nil⟩

theorem getDelay_leaves {f : Flag} : Leaves dai (getDelay env dai f) := by
  unfold getDelay
  split
  next => exact leaves_refuse _
  split
  next => exact leaves_refuse _
  split
  next => exact ⟨.inl rfl, Transmitter.after_nil⟩
  split <;> exact ⟨.inl rfl, Transmitter.after_nil⟩

-- The calls for a receiver put nothing into the ring of the transmitter.
theorem after_of_quiet {t : Transmitter} {calls : List Call}
    (hring : ∀ entries size rb, calls ≠ [.allocRing entries size, .prepareTransmitter rb])
    (hoff : .shutdownTransmitter ∉ calls) (hnone : Transmitter.transmitted calls = []) :
    t.after calls = t := by
  unfold Transmitter.after
  split
  next => exact absurd rfl (hring _ _ _)
  next =>
    rw [if_neg hoff, hnone, List.append_nil]

theorem gbAudioActivateRx_leaves (hh : gbAudioActivateRx env dai = some h) : Leaves dai h := by
  unfold gbAudioActivateRx at hh
  split at hh
  next =>
    obtain rfl := Option.some.inj hh
    exact leaves_refuse _
  next =>
    obtain ⟨entries, -, rfl⟩ := Option.map_eq_some_iff.mp hh
    dsimp only
    split
    next => exact ⟨.inl rfl, fun t => after_of_quiet (by simp) (by simp) rfl⟩
    next rb _ =>
      have hactive : (({ dai with rxRb := some rb }.set .rxActive).set .rxStarted).tx = dai.tx := by
        rw [DaiInfo.tx_set (by decide) (by decide), DaiInfo.tx_set (by decide) (by decide)]
        rfl
      split
      next => exact ⟨.inl rfl, fun t => after_of_quiet (by simp) (by simp) rfl⟩
      split
      next => exact ⟨.inl hactive, fun t => after_of_quiet (by simp) (by simp) rfl⟩
      next => exact ⟨.inl hactive, fun t => after_of_quiet (by simp) (by simp) rfl⟩

theorem gbAudioDeactivateRx_leaves : Leaves dai (gbAudioDeactivateRx dai) := by
  unfold gbAudioDeactivateRx
  split
  next => exact leaves_refuse _
  next =>
    refine ⟨.inl ?_, fun t => after_of_quiet (by simp) (by simp) rfl⟩
    show ((DaiInfo.clear _ .rxActive).clear .rxStarted).tx = dai.tx
    rw [DaiInfo.tx_clear (by decide) (by decide), DaiInfo.tx_clear (by decide) (by decide)]
    rfl

/-! ## The handlers of the transmitter -/

-- There is always room for the silence.
theorem ringEntries_bounds {sampleFreq samplesPerMsg entries : UInt32}
    (h : ringEntries sampleFreq samplesPerMsg = some entries) : 2 ≤ entries.toNat := by
  unfold ringEntries at h
  split at h
  next => cases h
  next hdivisor =>
    obtain rfl := Option.some.inj h
    have hpos : (samplesPerMsg * 1000000).toNat ≠ 0 := fun h0 => hdivisor (UInt32.toNat_inj.mp h0)
    rw [UInt32.toNat_mul] at hpos
    -- The divisor is a multiple of 64, so the quotient leaves room for the padding.
    have hdiv : (sampleFreq * sampleBufferMinUs).toNat / (samplesPerMsg * 1000000).toNat
        < 2 ^ 27 := by
      rw [UInt32.toNat_mul samplesPerMsg]
      have hlt := (sampleFreq * sampleBufferMinUs).toNat_lt
      have h64 : 64 ≤ samplesPerMsg.toNat * (1000000 : UInt32).toNat % 2 ^ 32 := by
        have hdvd : 64 ∣ samplesPerMsg.toNat * (1000000 : UInt32).toNat % 2 ^ 32 :=
          (Nat.dvd_mod_iff (by decide)).mpr (Dvd.dvd.mul_left ⟨15625, rfl⟩ _)
        exact Nat.le_of_dvd (Nat.pos_of_ne_zero hpos) hdvd
      calc _ ≤ (sampleFreq * sampleBufferMinUs).toNat / 64 := Nat.div_le_div_left h64 (by decide)
        _ < 2 ^ 27 := by omega
    rw [UInt32.toNat_add, UInt32.toNat_div, show ringBufPad.toNat = 2 from rfl]
    generalize (sampleFreq * sampleBufferMinUs).toNat / (samplesPerMsg * 1000000).toNat = quotient
      at hdiv ⊢
    omega

theorem gbAudioActivateTx_playInv {t : Transmitter} (hinv : PlayInv dai.tx t)
    (hh : gbAudioActivateTx env dai = some h) : PlayInv h.dai.tx (t.after h.calls) := by
  unfold gbAudioActivateTx at hh
  split at hh
  next =>
    obtain rfl := Option.some.inj hh
    rw [(leaves_refuse _).after]
    exact (@leaves_refuse dai _).tx.inv hinv
  next hguard =>
    have hinactive : dai.has .txActive = false := by
      simp only [Bool.or_eq_true, not_or, Bool.not_eq_true] at hguard
      exact hguard.2
    have hidles {ring : Option RingBuf} {dummy : Option (List UInt8)} {calls : List Call}
        (hcalls : t.after calls = t) :
        PlayInv { dai with txRb := ring, txDummyData := dummy }.tx (t.after calls) := by
      rw [hcalls]
      exact @Idles.inv dai.tx _ t (.inr ⟨hinactive, hinactive, rfl, rfl⟩) hinv
    obtain ⟨entries, hentries, rfl⟩ := Option.map_eq_some_iff.mp hh
    dsimp only
    split
    next => exact hidles (after_of_quiet (by simp) (by simp) rfl)
    next rb _ =>
      split
      next => exact hidles (after_of_quiet (by simp) (by simp) rfl)
      split
      next => exact hidles (after_of_quiet (by simp) (by simp) rfl)
      next =>
        have hcount : dai.txRbCount = 0 := by
          have hidle := hinv.2
          rw [if_neg (by simp [DaiInfo.tx, hinactive])] at hidle
          exact hidle.1
        refine .of_playing ?_ ?_ ⟨⟨rfl, rfl, congrArg UInt32.toNat hcount,
          ⟨ringEntries_bounds hentries, entries.toNat_lt⟩, Nat.zero_le _, .nil⟩,
          fun h => absurd rfl h⟩
        · show (DaiInfo.set _ .txActive).has .txStopping = false
          rw [DaiInfo.has_set, decide_eq_false (by decide), Bool.false_or]
          exact hinv.1
        · show (DaiInfo.set _ .txActive).has .txActive = true
          rw [DaiInfo.has_set, decide_eq_true rfl, Bool.true_or]

theorem shutTx_playInv {t : Transmitter} {calls : List Call}
    (hring : ∀ entries size rb, calls ≠ [.allocRing entries size, .prepareTransmitter rb])
    (hoff : .shutdownTransmitter ∈ calls) : PlayInv dai.shutTx.tx (t.after calls) := by
  have hafter : t.after calls = .off := by
    unfold Transmitter.after
    split
    next => exact absurd rfl (hring _ _ _)
    next => rw [if_pos hoff]
  have hactive : dai.shutTx.has .txActive = false := by
    rw [DaiInfo.shutTx, DaiInfo.has_clear, decide_eq_true rfl, Bool.not_true, Bool.false_and]
  have hstopping : dai.shutTx.has .txStopping = false := by
    rw [DaiInfo.shutTx, DaiInfo.has_clear, DaiInfo.has_clear, decide_eq_true rfl, Bool.not_true,
      Bool.false_and, Bool.and_false]
  refine ⟨hstopping, ?_⟩
  rw [if_neg (by simp [DaiInfo.tx, hactive])]
  exact ⟨rfl, hafter⟩

theorem gbAudioDeactivateTx_playInv {t : Transmitter} (hinv : PlayInv dai.tx t)
    (hh : gbAudioDeactivateTx env dai = some h) : PlayInv h.dai.tx (t.after h.calls) := by
  unfold gbAudioDeactivateTx at hh
  split at hh
  next =>
    obtain rfl := Option.some.inj hh
    rw [(leaves_refuse _).after]
    exact (@leaves_refuse dai _).tx.inv hinv
  dsimp only at hh
  split at hh
  next =>
    split at hh
    next => cases hh
    next =>
      obtain rfl := Option.some.inj hh
      exact shutTx_playInv (by simp) (by simp)
  next =>
    obtain rfl := Option.some.inj hh
    exact shutTx_playInv (by simp) (by simp)

section Playing

variable {x : TxPart} {t : Transmitter} {data : List UInt8}

-- The ring takes one more buffer.
theorem Feeding.put (hfeed : Feeding x t) (hroom : t.queue.length < t.entries)
    {taken : List (List UInt8)}
    (horder : Interspersed (List.replicate x.dataSize.toNat 0) taken
      (t.played ++ t.queue ++ [data])) :
    Playing { x with count := x.count + 1 }
      { t with queue := t.queue ++ [data], taken := taken } := by
  have hcount := hfeed.count
  have hentries := hfeed.entries
  rw [List.append_assoc] at horder
  refine ⟨⟨hfeed.ring, hfeed.dummy, ?_, hentries, ?_, horder⟩, fun _ => by simp⟩
  · show (x.count + 1).toNat = (t.queue ++ [data]).length
    rw [UInt32.toNat_add, List.length_append, List.length_singleton, ← hcount]
    have hone : (1 : UInt32).toNat = 1 := rfl
    omega
  · show (t.queue ++ [data]).length ≤ t.entries
    rw [List.length_append, List.length_singleton]
    exact hroom

-- A buffer has been played, and is no longer counted.
theorem Feeding.complete (hfeed : Feeding x t) {queue : List (List UInt8)}
    (hqueue : t.queue = data :: queue) :
    Feeding { x with count := x.count - 1 }
      { t with played := t.played ++ [data], queue := queue } := by
  have hcount := hfeed.count
  have hroom := hfeed.room
  have horder := hfeed.order
  rw [hqueue, List.length_cons] at hcount hroom
  rw [hqueue, List.append_cons] at horder
  refine ⟨hfeed.ring, hfeed.dummy, ?_, hfeed.entries, Nat.le_of_succ_le hroom, horder⟩
  show (x.count - 1).toNat = queue.length
  have hone : (1 : UInt32).toNat = 1 := rfl
  have hle : 1 ≤ x.count := by
    rw [UInt32.le_iff_toNat_le, hone]
    omega
  rw [UInt32.toNat_sub_of_le _ _ hle, hone, hcount, Nat.add_sub_cancel]

theorem gbAudioI2sTx_tx {dai' : DaiInfo} {calls : List Call}
    (hh : gbAudioI2sTx env dai data = some (dai', calls)) :
    dai'.tx = { dai.tx with count := dai.tx.count + 1 } ∧ dai.tx.ring = true ∧
      ∃ rb, calls = [.transmit rb data] := by
  obtain ⟨rb, hrb, hout⟩ := Option.map_eq_some_iff.mp hh
  obtain ⟨rfl, rfl⟩ := Prod.mk.inj hout
  have hring : dai.tx.ring = true := by
    show dai.txRb.isSome = true
    rw [hrb]
    rfl
  refine ⟨?_, hring, rb, rfl⟩
  show TxPart.mk _ _ _ true _ _ = TxPart.mk _ _ _ dai.tx.ring _ _
  rw [hring]
  rfl

-- A message that is transmitted has been taken, also when the transmitter does not start.
theorem takes_transmit (rb : RingBuf) {tail : List Call} (htail : tail = [.startTransmitter] ∨
    tail = [.startTransmitter, .reportEvent .failure, .reportEvent .halt]) :
    t.takes data ([.transmit rb data] ++ tail)
      = { t with queue := t.queue ++ [data], taken := t.taken ++ [data] } := by
  rcases htail with rfl | rfl <;> rfl

theorem playInv_active (hinv : PlayInv dai.tx t) (hactive : dai.has .txActive = true) :
    Playing dai.tx t := by
  have hplay := hinv.2
  rwa [if_pos (show dai.tx.active = true from hactive)] at hplay

end Playing

-- A message is put behind what waits, or nothing happens.
theorem gbAudioSendData_playInv {r : Request} {t : Transmitter} (hinv : PlayInv dai.tx t)
    (hroom : r.env.isProducers = true → t.queue.length < t.entries)
    (hh : gbAudioSendData r.env r.byte dai = some h) :
    PlayInv h.dai.tx (t.takes (r.audio dai.txDataSize.toNat) h.calls) := by
  have hleaves {calls : List Call} (hafter : t.after calls = t)
      (hnone : Transmitter.transmitted calls = []) :
      PlayInv dai.tx (t.takes (r.audio dai.txDataSize.toNat) calls) := by
    rw [Transmitter.takes, if_pos hnone, hafter]
    exact hinv
  unfold gbAudioSendData at hh
  split at hh
  next =>
    obtain rfl := Option.some.inj hh
    exact hleaves (Transmitter.after_nil _) rfl
  next hactive =>
    have hplay : Playing dai.tx t := playInv_active hinv (by simpa using hactive)
    split at hh
    next =>
      obtain rfl := Option.some.inj hh
      exact hleaves (Transmitter.after_nil _) rfl
    split at hh
    next => cases hh
    split at hh
    next =>
      obtain rfl := Option.some.inj hh
      exact hleaves (after_of_quiet (by simp) (by simp) rfl) rfl
    next hproducers =>
      obtain ⟨⟨dai', calls⟩, htx, hout⟩ := Option.map_eq_some_iff.mp hh
      obtain ⟨hdai', -, rb, rfl⟩ := gbAudioI2sTx_tx htx
      have hput := hplay.put (hroom (by simpa using hproducers))
        (hplay.order.message (r.audio dai.txDataSize.toNat))
      have hactive' : dai.tx.active = true := by
        show dai.has .txActive = true
        simpa using hactive
      have hnew : PlayInv dai'.tx { t with
          queue := t.queue ++ [r.audio dai.txDataSize.toNat]
          taken := t.taken ++ [r.audio dai.txDataSize.toNat] } := by
        rw [hdai']
        exact .of_playing hinv.1 hactive' hput
      dsimp only at hout
      split at hout
      next =>
        obtain rfl := hout
        show PlayInv ((dai'.set .txStarted).clear .txStarted).tx
          (t.takes (r.audio _) ([.transmit rb (r.audio dai.txDataSize.toNat)] ++ _))
        rw [takes_transmit rb (.inr rfl), DaiInfo.tx_clear (by decide) (by decide),
          DaiInfo.tx_set (by decide) (by decide)]
        exact hnew
      next =>
        obtain rfl := hout
        show PlayInv (dai'.set .txStarted).tx
          (t.takes (r.audio _) ([.transmit rb (r.audio dai.txDataSize.toNat)] ++ _))
        rw [takes_transmit rb (.inl rfl), DaiInfo.tx_set (by decide) (by decide)]
        exact hnew

theorem I2sEvent.reported_eq_none {event : I2sEvent} :
    event.reported = Option.none ↔ event = .txComplete := by
  cases event <;> simp [I2sEvent.reported]

-- Where something has waited, the transmitter is active.
theorem active_of_queue {t : Transmitter} (hinv : PlayInv dai.tx t) (hqueue : t.queue ≠ []) :
    dai.has .txActive = true := by
  by_contra hactive
  have hidle := hinv.2
  rw [if_neg (show ¬ dai.tx.active = true from hactive)] at hidle
  exact hqueue (congrArg Transmitter.queue hidle.2)

-- The buffer that has been played is replaced by silence while fewer than two wait.
theorem gbAudioI2sTxCb_complete {t t' : Transmitter} {dai' : DaiInfo} {calls : List Call}
    (hinv : PlayInv dai.tx t) (ht : t.completes = some t')
    (hh : gbAudioI2sTxCb env dai .txComplete = some (dai', calls)) :
    PlayInv dai'.tx (t'.after calls) := by
  unfold Transmitter.completes at ht
  split at ht
  next => cases ht
  next data queue hqueue =>
    obtain rfl := Option.some.inj ht
    have hactive := active_of_queue hinv (hqueue ▸ List.cons_ne_nil _ _)
    have hfeed := (playInv_active hinv hactive).complete hqueue
    have hcount := hfeed.count
    unfold gbAudioI2sTxCb at hh
    dsimp only [I2sEvent.reported] at hh
    split at hh
    next hlow =>
      have hstopping : dai.has .txStopping = false := hinv.1
      rw [if_pos (by show (!dai.has .txStopping) = true; rw [hstopping]; rfl)] at hh
      obtain ⟨silence, hsilence, htx⟩ := Option.bind_eq_some_iff.mp hh
      obtain rfl := Option.some.inj (hfeed.dummy.symm.trans hsilence)
      obtain ⟨hdai', -, rb, rfl⟩ := gbAudioI2sTx_tx htx
      have hroom : queue.length < t.entries := by
        have hlow' : (dai.txRbCount - 1).toNat < 2 := UInt32.lt_iff_toNat_lt.mp hlow
        have hentries : 2 ≤ t.entries := hfeed.entries.1
        have hcount' : (dai.txRbCount - 1).toNat = queue.length := hcount
        omega
      rw [hdai']
      exact .of_playing hinv.1 hactive (hfeed.put hroom hfeed.order.silence)
    next henough =>
      obtain ⟨rfl, rfl⟩ := Prod.mk.inj (Option.some.inj hh)
      rw [Transmitter.after_nil]
      refine .of_playing hinv.1 hactive ⟨hfeed, fun _ hnil => henough ?_⟩
      rw [UInt32.lt_iff_toNat_lt]
      have hcount' : (dai.txRbCount - 1).toNat = queue.length := hcount
      rw [hcount', show queue = [] from hnil]
      decide

theorem gbAudioI2sTxCb_reports {t : Transmitter} {event : I2sEvent} {dai' : DaiInfo}
    {calls : List Call} (hinv : PlayInv dai.tx t) (hevent : event ≠ .txComplete)
    (hh : gbAudioI2sTxCb env dai event = some (dai', calls)) :
    PlayInv dai'.tx (t.after calls) := by
  unfold gbAudioI2sTxCb at hh
  split at hh
  next hreported => exact absurd (I2sEvent.reported_eq_none.mp hreported) hevent
  next =>
    obtain ⟨rfl, rfl⟩ := Prod.mk.inj (Option.some.inj hh)
    rw [after_of_quiet (by simp) (by simp) rfl]
    exact hinv

-- The callback always finds its ring and its silence.
theorem gbAudioI2sTxCb_isSome {t : Transmitter} {event : I2sEvent} (hinv : PlayInv dai.tx t)
    (hqueue : event = .txComplete → t.queue ≠ []) :
    (gbAudioI2sTxCb env dai event).isSome = true := by
  unfold gbAudioI2sTxCb
  split
  next hreported =>
    have hplay := playInv_active hinv
      (active_of_queue hinv (hqueue (I2sEvent.reported_eq_none.mp hreported)))
    have hdummy : dai.txDummyData = some _ := hplay.dummy
    have hring : dai.txRb.isSome = true := hplay.ring
    dsimp only
    split
    next =>
      split
      next =>
        rw [hdummy, Option.bind_some, gbAudioI2sTx, Option.isSome_map]
        exact hring
      split <;> rfl
    next => rfl
  next => rfl

theorem gbAudioMgmtHandlers_playInv {r : Request} {type : UInt8} {size : Nat}
    {body : Request → DaiInfo → Option DaiHandled} {t : Transmitter}
    (hmem : (type, size, body) ∈ gbAudioMgmtHandlers) (hinv : PlayInv dai.tx t)
    (hbody : body r dai = some h) : PlayInv h.dai.tx (t.after h.calls) := by
  have hkeeps (hleaves : Leaves dai h) : PlayInv h.dai.tx (t.after h.calls) := by
    rw [hleaves.after t]
    exact hleaves.tx.inv hinv
  simp only [gbAudioMgmtHandlers, List.mem_cons, List.not_mem_nil, or_false, Prod.mk.injEq] at hmem
  rcases hmem with ⟨-, -, rfl⟩ | ⟨-, -, rfl⟩ | ⟨-, -, rfl⟩ | ⟨-, -, rfl⟩ | ⟨-, -, rfl⟩ |
    ⟨-, -, rfl⟩ | ⟨-, -, rfl⟩ | ⟨-, -, rfl⟩ | ⟨-, -, rfl⟩ | ⟨-, -, rfl⟩
  · exact hkeeps (Option.some.inj hbody ▸ gbAudioGetPcm_leaves)
  · exact hkeeps (Option.some.inj hbody ▸ gbAudioSetPcm_leaves)
  · exact hkeeps (gbAudioSetTxDataSize_leaves hbody)
  · exact hkeeps (Option.some.inj hbody ▸ getDelay_leaves)
  · exact gbAudioActivateTx_playInv hinv hbody
  · exact gbAudioDeactivateTx_playInv hinv hbody
  · exact hkeeps (gbAudioSetRxDataSize_leaves hbody)
  · exact hkeeps (Option.some.inj hbody ▸ getDelay_leaves)
  · exact hkeeps (gbAudioActivateRx_leaves hbody)
  · exact hkeeps (Option.some.inj hbody ▸ gbAudioDeactivateRx_leaves)

end Handlers

/-! ## Every run -/

section Runs

variable {infos : List AudioInfo} {p : Nat} {dais dais' : Dais} {r : Request} {out : Handled}
  {s s' : Dais × Transmitter} {a : Action} {t : Transmitter}

-- A request is handled with the record `p`, or leaves it alone.
theorem withDai_at {size : Nat} {find : Request → Dais → Option Nat}
    {body : Request → DaiInfo → Option DaiHandled} (h : withDai size find body r dais = some out)
    (p : Nat) :
    (∃ hd, find r dais = some p ∧ body r (dais p) = some hd ∧ out.dais p = hd.dai ∧
        out.calls = hd.calls) ∨
      out.dais p = dais p ∧ (find r dais = some p → out.calls = []) := by
  unfold withDai at h
  split at h
  next =>
    obtain rfl := Option.some.inj h
    exact .inr ⟨rfl, fun _ => rfl⟩
  split at h
  next =>
    obtain rfl := Option.some.inj h
    exact .inr ⟨rfl, fun _ => rfl⟩
  next q hfind =>
    obtain ⟨hd, hbody, rfl⟩ := Option.map_eq_some_iff.mp h
    by_cases hq : q = p
    · subst hq
      exact .inl ⟨hd, hfind, hbody, Function.update_self .., rfl⟩
    · refine .inr ⟨Function.update_of_ne (Ne.symm hq) .., fun hp => ?_⟩
      exact absurd (Option.some.inj (hfind.symm.trans hp)) hq

theorem playStep_playInv (hinv : PlayInv (s.1 p).tx s.2) (h : playStep infos p s a = some s') :
    PlayInv (s'.1 p).tx s'.2 := by
  cases a with
  | mgmt r =>
    obtain ⟨out, hserve, rfl⟩ := Option.map_eq_some_iff.mp h
    obtain ⟨size, body, hmem, hrun⟩ := serveMgmt_entry hserve
    dsimp only
    rcases withDai_at hrun p with ⟨hd, hnamed, hbody, hdai, hcalls⟩ | ⟨hsame, hcalls⟩
    · rw [if_pos hnamed, hdai, hcalls]
      exact gbAudioMgmtHandlers_playInv hmem hinv hbody
    · rw [hsame]
      split
      next hnamed =>
        rw [hcalls hnamed, Transmitter.after_nil]
        exact hinv
      next => exact hinv
  | sendData r =>
    simp only [playStep, Option.ite_none_left_eq_some] at h
    obtain ⟨hfull, h⟩ := h
    obtain ⟨out, hserve, rfl⟩ := Option.map_eq_some_iff.mp h
    dsimp only
    rcases withDai_at hserve p with ⟨hd, hreceiver, hbody, hdai, hcalls⟩ | ⟨hsame, hcalls⟩
    · rw [if_pos (show r.receiver infos s.1 = some p from hreceiver), hdai, hcalls]
      exact gbAudioSendData_playInv hinv
        (fun hproducers => Nat.not_le.mp fun hle => hfull ⟨hreceiver, hproducers, hle⟩) hbody
    · rw [hsame]
      split
      next hreceiver =>
        rw [hcalls hreceiver, Transmitter.takes,
          if_pos (show Transmitter.transmitted [] = [] from rfl), Transmitter.after_nil]
        exact hinv
      next => exact hinv
  | txCallback q event env =>
    obtain ⟨⟨dai, calls⟩, hcallback, h⟩ := Option.bind_eq_some_iff.mp h
    obtain ⟨t, ht, rfl⟩ := Option.map_eq_some_iff.mp h
    dsimp only
    by_cases hq : q = p
    · subst hq
      rw [if_neg (not_not.mpr rfl)] at ht
      rw [Function.update_self]
      split at ht
      next hevent =>
        subst hevent
        obtain ⟨t', hcompletes, rfl⟩ := Option.map_eq_some_iff.mp ht
        exact gbAudioI2sTxCb_complete hinv hcompletes hcallback
      next hevent =>
        obtain rfl := Option.some.inj ht
        exact gbAudioI2sTxCb_reports hinv hevent hcallback
    · rw [if_pos hq] at ht
      obtain rfl := Option.some.inj ht
      rw [Function.update_of_ne (Ne.symm hq)]
      exact hinv

-- The transmitter only watches the records.
theorem playStep_step (h : playStep infos p s a = some s') : step infos s.1 a = some s'.1 := by
  cases a with
  | mgmt r =>
    obtain ⟨out, hserve, rfl⟩ := Option.map_eq_some_iff.mp h
    exact Option.map_eq_some_iff.mpr ⟨out, hserve, rfl⟩
  | sendData r =>
    simp only [playStep, Option.ite_none_left_eq_some] at h
    obtain ⟨out, hserve, rfl⟩ := Option.map_eq_some_iff.mp h.2
    exact Option.map_eq_some_iff.mpr ⟨out, hserve, rfl⟩
  | txCallback q event env =>
    obtain ⟨⟨dai, calls⟩, hcallback, h⟩ := Option.bind_eq_some_iff.mp h
    obtain ⟨t, -, rfl⟩ := Option.map_eq_some_iff.mp h
    exact Option.map_eq_some_iff.mpr ⟨(dai, calls), hcallback, rfl⟩

theorem run_playStep {as : List Action} (hrun : run (playStep infos p) s as = some s') :
    run (step infos) s.1 as = some s'.1 := by
  induction as generalizing s with
  | nil =>
    obtain rfl := Option.some.inj hrun
    rfl
  | cons a as ih =>
    obtain ⟨s₁, hstep, hrest⟩ := run_cons_eq_some.mp hrun
    exact run_cons_eq_some.mpr ⟨s₁.1, playStep_step hstep, ih hrest⟩

theorem PlayInv.keepsPlaying {dai : DaiInfo} (hinv : PlayInv dai.tx t) : KeepsPlaying dai t := by
  have hcallback (event : I2sEvent) (env : Env) (hqueue : event = .txComplete → t.queue ≠ []) :
      (gbAudioI2sTxCb env dai event).isSome = true := gbAudioI2sTxCb_isSome hinv hqueue
  have hpart := hinv.2
  by_cases hactive : dai.tx.active = true
  · rw [if_pos hactive] at hpart
    exact ⟨hpart.count, hpart.room, hpart.supplied, hpart.order, hcallback⟩
  · rw [if_neg hactive] at hpart
    obtain ⟨hcount, rfl⟩ := hpart
    exact ⟨congrArg UInt32.toNat hcount, Nat.le_refl 0, fun h => absurd rfl h, .nil, hcallback⟩

theorem DaiInfo.Fresh.playInv {dai : DaiInfo} (hfresh : dai.Fresh) (hcount : dai.txRbCount = 0) :
    PlayInv dai.tx .off := by
  have hclear (f : Flag) : dai.has f = false := by
    unfold DaiInfo.has
    rw [hfresh.1]
    exact BitFlags.has_zero _
  refine ⟨hclear .txStopping, ?_⟩
  rw [if_neg (by simp [DaiInfo.tx, hclear .txActive])]
  exact ⟨hcount, rfl⟩

/-- In every run, the transmitter of a DAI has as many buffers to play as are counted, never more
than its ring has, and from the first message on at least one.  It plays the messages in their order
with silence in between, and its callback never uses NULL. -/
theorem run_keepsPlaying (hfresh : (dais p).Fresh) (hcount : (dais p).txRbCount = 0)
    {as : List Action} (hrun : run (playStep infos p) (dais, .off) as = some (dais', t)) :
    run (step infos) dais as = some dais' ∧ KeepsPlaying (dais' p) t :=
  ⟨run_playStep hrun, (run_induct (P := fun s => PlayInv (s.1 p).tx s.2)
    (fun _ _ _ hinv hstep => playStep_playInv hinv hstep) (hfresh.playInv hcount)
    hrun).keepsPlaying⟩

end Runs

/-- A message of audio data for the DAI. -/
def audioMessage (data : List UInt8) : Request where
  type := 0x15
  after := fun _ => 0
  operation := .fresh 6
    ⟨{ size := UInt16.ofNat (16 + data.length), id := 0, type := 0x15, result := 0, pad := 0 },
      List.replicate 8 0 ++ data⟩
  env := (daiRequest 0x0c [] 0).env

/-- SET_PCM, SET_TX_DATA_SIZE for four bytes and ACTIVATE_TX; then two messages come, the second one
late. -/
def playback : List Action :=
  [.mgmt (daiRequest 0x09 [0, 0, 0, 0, 0, 0, 0, 0, 2, 16] 0),
    .mgmt (daiRequest 0x0a [4, 0] 0), .mgmt (daiRequest 0x0c [] 0),
    .sendData (audioMessage [1, 2, 3, 4]), .txCallback 0 .txComplete (daiRequest 0x0c [] 0).env,
    .sendData (audioMessage [5, 6, 7, 8]), .txCallback 0 .txComplete (daiRequest 0x0c [] 0).env]

theorem run_keepsPlaying_lateMessage :
    ∃ dais' t, run (playStep [⟨5, [0]⟩] 0) (oneDai, .off) playback = some (dais', t) ∧
      t.played = [[1, 2, 3, 4], [0, 0, 0, 0]] ∧ t.queue = [[5, 6, 7, 8], [0, 0, 0, 0]] ∧
      t.entries = 482 ∧ KeepsPlaying (dais' 0) t := by
  have hsome : (run (playStep [⟨5, [0]⟩] 0) (oneDai, .off) playback).map
      (fun s => (s.2.played, s.2.queue, s.2.entries))
        = some ([[1, 2, 3, 4], [0, 0, 0, 0]], [[5, 6, 7, 8], [0, 0, 0, 0]], 482) := by decide
  obtain ⟨⟨dais', t⟩, hrun, hseen⟩ := Option.map_eq_some_iff.mp hsome
  simp only [Prod.mk.injEq] at hseen
  obtain ⟨hplayed, hqueue, hentries⟩ := hseen
  exact ⟨dais', t, hrun, hplayed, hqueue, hentries,
    (run_keepsPlaying ⟨rfl, rfl, rfl⟩ rfl hrun).2⟩

end Greybus.Audio
