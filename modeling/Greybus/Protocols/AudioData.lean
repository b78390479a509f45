import Greybus.Protocols.Audio

/-!
# The data of an audio message

`gb_audio_send_data_handler` copies as many bytes behind the timestamp as the DAI has for its data
size.  The size of the request is compared with the timestamp only.
-/

namespace Greybus.Audio

section SendData

variable {env : Env} {request : Nat → UInt8} {dai : DaiInfo} {h : DaiHandled} {rb : RingBuf}
  {data : List UInt8}

-- What is played are the bytes behind the timestamp, as many as the data size.
theorem gbAudioSendData_transmit (hh : gbAudioSendData env request dai = some h)
    (hcall : .transmit rb data ∈ h.calls) :
    data = (List.range dai.txDataSize.toNat).map fun i => request (8 + i) := by
  rcases gbAudioSendData_cases hh with ⟨-, rfl⟩ | ⟨-, rfl | rfl | ⟨dai', calls, htx, hout⟩⟩
  · cases hcall
  · cases hcall
  · rcases List.mem_singleton.mp hcall with ⟨⟩
  obtain ⟨rb', -, htx⟩ := Option.map_eq_some_iff.mp htx
  obtain ⟨-, rfl⟩ := Prod.mk.inj htx
  have hdata : rb = rb' ∧
      data = (List.range dai.txDataSize.toNat).map fun i => request (8 + i) := by
    rcases hout with rfl | rfl
    · simpa using hcall
    · simpa using hcall
  exact hdata.2

theorem gbAudioSendData_success (hactive : dai.has .txActive = true)
    (hh : gbAudioSendData env request dai = some h) : h.result = .success := by
  rcases gbAudioSendData_cases hh with ⟨hinactive, -⟩ | ⟨-, rfl | rfl | ⟨-, -, -, rfl | rfl⟩⟩
  · rw [hactive] at hinactive
    cases hinactive
  · rfl
  · rfl
  · rfl
  · rfl

end SendData

/-- What is played lies in the request behind the timestamp, and a request with fewer data bytes
than `size` is answered with an error and not played. -/
structure PlaysPayload (infos : List AudioInfo) (dais : Dais) (r : Request) (size : Nat) :
    Prop where
  inside : ∀ out rb data, serveData infos dais r = some out → .transmit rb data ∈ out.calls →
    (data = (List.range data.length).map fun i => r.byte (8 + i)) ∧
      8 + data.length ≤ r.operation.requestBuffer.payloadSize
  refused : r.operation.requestBuffer.payloadSize < 8 + size →
    ∃ out, serveData infos dais r = some out ∧ out.result ≠ .success ∧
      ∀ rb data, .transmit rb data ∉ out.calls

/-- An active DAI plays only what its messages carry, and refuses those that carry less than its
data size, exactly if a message has no room for the timestamp or carries the data size. -/
theorem playsPayload_iff {infos : List AudioInfo} {dais : Dais} {r : Request} {p : Nat}
    (hfind : gbAudioFindDai infos dais (UInt16.ofNat r.operation.cport) = some p)
    (hactive : (dais p).has .txActive = true) :
    PlaysPayload infos dais r (dais p).txDataSize.toNat ↔
      r.operation.requestBuffer.payloadSize < 8 ∨
        8 + (dais p).txDataSize.toNat ≤ r.operation.requestBuffer.payloadSize := by
  by_cases hhdr : r.operation.requestBuffer.payloadSize < 8
  · have hserve : serveData infos dais r = some ⟨.invalid, dais, [], none⟩ := if_pos hhdr
    refine iff_of_true ⟨fun out rb data hout hcall => ?_, fun _ => ?_⟩ (.inl hhdr)
    · rw [hserve] at hout
      cases hout
      cases hcall
    · exact ⟨_, hserve, OperationResult.noConfusion, fun _ _ => List.not_mem_nil⟩
  have hserve : serveData infos dais r = (gbAudioSendData r.env r.byte (dais p)).map fun h =>
      ⟨h.result, Function.update dais p h.dai, h.calls, h.payload⟩ := by
    rw [serveData, withDai, if_neg hhdr, hfind]
  rw [or_iff_right hhdr]
  constructor
  · intro h
    -- A message that is too short would be taken with success.
    refine Nat.not_lt.mp fun hshort => ?_
    obtain ⟨out, hout, hresult, -⟩ := h.refused hshort
    rw [hserve] at hout
    obtain ⟨hd, hrun, rfl⟩ := Option.map_eq_some_iff.mp hout
    exact hresult (gbAudioSendData_success hactive hrun)
  · intro hfits
    refine ⟨fun out rb data hout hcall => ?_, fun hshort => absurd hfits (Nat.not_le.mpr hshort)⟩
    rw [hserve] at hout
    obtain ⟨hd, hrun, rfl⟩ := Option.map_eq_some_iff.mp hout
    have hdata := gbAudioSendData_transmit hrun hcall
    have hlength : data.length = (dais p).txDataSize.toNat := by
      rw [hdata, List.length_map, List.length_range]
    rw [hlength]
    exact ⟨hdata, hfits⟩

/-- One DAI that is active and has this data size. -/
def activeDai (txDataSize : UInt32) : Dais := fun p =>
  { oneDai p with flags := 0b111#32, txDataSize := txDataSize, txRb := some 1 }

/-- A message for this DAI with a timestamp of zeros, before bytes that are not its own. -/
def dataRequest (data : List UInt8) : Request where
  type := 0x15
  after := fun _ => 0xee
  operation := .fresh 6
    ⟨{ size := UInt16.ofNat (16 + data.length), id := 1, type := 0x15, result := 0, pad := 0 },
      List.replicate 8 0 ++ data⟩
  env := ⟨true, (0, 0), (0, 0), some 1, true, 0, 0, true, 2, true⟩

theorem playsPayload_iff_four :
    gbAudioFindDai [⟨5, [0]⟩] (activeDai 4) 6 = some 0 ∧
      PlaysPayload [⟨5, [0]⟩] (activeDai 4) (dataRequest [1, 2, 3, 4]) 4 := by
  have hfind : gbAudioFindDai [⟨5, [0]⟩] (activeDai 4) 6 = some 0 := by decide
  have hactive : (activeDai 4 0).has .txActive = true := by decide
  have hfits : 8 + (activeDai 4 0).txDataSize.toNat
      ≤ (dataRequest [1, 2, 3, 4]).operation.requestBuffer.payloadSize := by decide
  exact ⟨hfind, (playsPayload_iff (r := dataRequest [1, 2, 3, 4]) hfind hactive).mpr (.inr hfits)⟩

-- A message without data is played as far as the data size goes.
theorem sendData_playsBeyond :
    (dataRequest []).operation.requestBuffer.payloadSize = 8 ∧
      (serveData [⟨5, [0]⟩] (activeDai 4) (dataRequest [])).map (fun out => (out.result, out.calls))
        = some (.success, [.transmit 1 [0xee, 0xee, 0xee, 0xee], .startTransmitter]) ∧
      ¬ PlaysPayload [⟨5, [0]⟩] (activeDai 4) (dataRequest []) 4 := by
  have hrun : (serveData [⟨5, [0]⟩] (activeDai 4) (dataRequest [])).map
      (fun out => (out.result, out.calls))
        = some (.success, [.transmit 1 [0xee, 0xee, 0xee, 0xee], .startTransmitter]) := by decide
  refine ⟨by decide, hrun, fun h => ?_⟩
  obtain ⟨out, hout, hresult, -⟩ := h.refused (by decide)
  rw [hout, Option.map_some, Option.some.injEq] at hrun
  exact hresult (congrArg Prod.fst hrun)

end Greybus.Audio
