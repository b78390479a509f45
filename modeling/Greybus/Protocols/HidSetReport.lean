import Greybus.Protocols.Transfers

/-!
# Reports for a HID device

`gb_hid_set_report` hands a report to the HID device, as long as the device says that it is.  The
length is narrowed to 16 bits before its sign is tested, and is not compared with the request.
-/

namespace Greybus

/-- The arguments of `device_hid_set_report`, with the bytes that `request->report` and the length
stand for. -/
structure SetReportCall where
  reportType : UInt8
  reportId : UInt8
  report : List UInt8
  deriving DecidableEq, Repr

/-- What `device_hid_get_report_length` returns for a report type and a report id, and
`device_hid_set_report` for a report. -/
structure HidDevice where
  getReportLength : UInt8 → UInt8 → Int
  setReport : SetReportCall → Int

/-- The call for a report of this length. -/
def setReportCall (request : Nat → UInt8) (reportLen : UInt16) : SetReportCall where
  reportType := request 0
  reportId := request 1
  report := (List.range reportLen.toNat).map fun i => request (2 + i)

/-- `gb_hid_set_report`, with the call that it makes. -/
def gbHidSetReport (device : HidDevice) (after : Nat → UInt8) (operation : Operation) :
    OperationResult × Option SetReportCall :=
  let request := operation.requestBuffer.payloadByte after
  if operation.requestBuffer.payloadSize < 2 then (.invalid, none)
  else
    let reportLen := UInt16.ofInt (device.getReportLength (request 0) (request 1))
    if reportLen ≤ 0 then (.unknownError, none)
    else
      let call := setReportCall request reportLen
      if device.setReport call ≠ 0 then (.unknownError, some call) else (.success, some call)

/-- The device is handed only a report of the positive length that it has given, all of it in the
payload, and an error is returned if it is handed none. -/
structure ReportWithin (device : HidDevice) (payloadSize : Nat)
    (handled : OperationResult × Option SetReportCall) : Prop where
  positive : ∀ call ∈ handled.2, 0 < device.getReportLength call.reportType call.reportId
  length : ∀ call ∈ handled.2,
    (call.report.length : Int) = device.getReportLength call.reportType call.reportId
  covered : ∀ call ∈ handled.2, 2 + call.report.length ≤ payloadSize
  refused : handled.2 = none → handled.1 ≠ .success

theorem toNat_ofInt (n : Int) : ((UInt16.ofInt n).toNat : Int) = n % 2 ^ 16 := by
  have hnonneg : 0 ≤ n % 2 ^ 16 := Int.emod_nonneg n (by decide)
  have hlt : n % 2 ^ 16 < 2 ^ 16 := Int.emod_lt_of_pos n (by decide)
  rw [UInt16.ofInt, UInt16.toNat_ofNat', Nat.mod_eq_of_lt (by omega), Int.toNat_of_nonneg hnonneg]

-- Narrowing keeps a length exactly if it has 16 bits and no sign.
theorem toNat_ofInt_eq_iff (n : Int) :
    ((UInt16.ofInt n).toNat : Int) = n ↔ 0 ≤ n ∧ n < 2 ^ 16 := by
  rw [toNat_ofInt]
  omega

-- The narrowed length is below or equal to 0 only where it is 0.
theorem ofInt_le_zero_iff (n : Int) : UInt16.ofInt n ≤ 0 ↔ n % 2 ^ 16 = 0 := by
  rw [UInt16.le_iff_toNat_le, ← toNat_ofInt]
  exact Nat.le_zero.trans Int.natCast_eq_zero.symm

section Within

variable {device : HidDevice} {payloadSize : Nat} {result : OperationResult}

theorem reportWithin_none (hresult : result ≠ .success) :
    ReportWithin device payloadSize (result, none) := by
  refine ⟨?_, ?_, ?_, fun _ => hresult⟩ <;> intro call hcall <;> cases hcall

theorem reportWithin_some {call : SetReportCall} :
    ReportWithin device payloadSize (result, some call) ↔
      0 < device.getReportLength call.reportType call.reportId ∧
      (call.report.length : Int) = device.getReportLength call.reportType call.reportId ∧
      2 + call.report.length ≤ payloadSize := by
  constructor
  · intro h
    exact ⟨h.positive call rfl, h.length call rfl, h.covered call rfl⟩
  · rintro ⟨hpositive, hlength, hcovered⟩
    refine ⟨?_, ?_, ?_, fun hnone => by cases hnone⟩ <;> rintro _ ⟨⟩
    · exact hpositive
    · exact hlength
    · exact hcovered

end Within

theorem length_setReportCall (request : Nat → UInt8) (reportLen : UInt16) :
    (setReportCall request reportLen).report.length = reportLen.toNat := by
  rw [setReportCall, List.length_map, List.length_range]

/-- `gb_hid_set_report` hands the device only reports of the length that it has given, within the
request, and otherwise returns an error, exactly if the request is too short for a type and an id,
or the low 16 bits of the length are 0, or the length is positive, has no other bits and is that of
bytes that the request has. -/
theorem reportWithin_iff (device : HidDevice) (after : Nat → UInt8) (operation : Operation) :
    let request := operation.requestBuffer.payloadByte after
    let payloadSize := operation.requestBuffer.payloadSize
    let length := device.getReportLength (request 0) (request 1)
    ReportWithin device payloadSize (gbHidSetReport device after operation) ↔
      payloadSize < 2 ∨ length % 2 ^ 16 = 0 ∨
        0 < length ∧ length < 2 ^ 16 ∧ 2 + length ≤ payloadSize := by
  intro request payloadSize length
  rw [gbHidSetReport]
  split
  next hshort => exact iff_of_true (reportWithin_none OperationResult.noConfusion) (.inl hshort)
  next hsize =>
    rw [or_iff_right hsize]
    dsimp only
    split
    next hzero =>
      have hlow : length % 2 ^ 16 = 0 := (ofInt_le_zero_iff length).mp hzero
      exact iff_of_true (reportWithin_none OperationResult.noConfusion) (.inl hlow)
    next hpos =>
      have hlow : length % 2 ^ 16 ≠ 0 := fun h => hpos ((ofInt_le_zero_iff length).mpr h)
      have hnarrow := toNat_ofInt_eq_iff length
      rw [or_iff_right hlow, ← apply_ite fun result => (result, some _), reportWithin_some,
        length_setReportCall]
      show 0 < length ∧ ((UInt16.ofInt length).toNat : Int) = length ∧
        2 + (UInt16.ofInt length).toNat ≤ payloadSize ↔ _
      constructor
      · rintro ⟨hpositive, hlength, hcovered⟩
        exact ⟨hpositive, (hnarrow.mp hlength).2, by omega⟩
      · rintro ⟨hpositive, hlt, hcovered⟩
        have hlength := hnarrow.mpr ⟨Int.le_of_lt hpositive, hlt⟩
        exact ⟨hpositive, hlength, by omega⟩

/-- A device that gives every report this length, and takes every report. -/
def hidDevice (reportLength : Int) : HidDevice := ⟨fun _ _ => reportLength, fun _ => 0⟩

/-- SET_REPORT for the first output report, with its bytes. -/
def setReportRequest (report : List UInt8) : Operation :=
  .fresh 0 (requestOf 0x07 ([1, 0] ++ report))

-- An error of the device is taken for a length of 65531 bytes, and a length that the device gives
-- is not looked for in the request; the device is handed what lies behind it.
theorem hidSetReport_uncovered :
    ((gbHidSetReport (hidDevice (- EIO)) (fun _ => 0) (setReportRequest [])).2.map
        (·.report.length)) = some 65531 ∧
      ((gbHidSetReport (hidDevice 4) (fun _ => 0xee) (setReportRequest [7])).2.map (·.report))
        = some [7, 0xee, 0xee, 0xee] ∧
      ¬ ReportWithin (hidDevice (- EIO)) 2
        (gbHidSetReport (hidDevice (- EIO)) (fun _ => 0) (setReportRequest [])) ∧
      ¬ ReportWithin (hidDevice 4) 3
        (gbHidSetReport (hidDevice 4) (fun _ => 0xee) (setReportRequest [7])) := by
  have herror : gbHidSetReport (hidDevice (- EIO)) (fun _ => 0) (setReportRequest [])
      = (.success, some (setReportCall
          ((setReportRequest []).requestBuffer.payloadByte fun _ => 0) 65531)) := rfl
  have hshort : gbHidSetReport (hidDevice 4) (fun _ => 0xee) (setReportRequest [7])
      = (.success, some ⟨1, 0, [7, 0xee, 0xee, 0xee]⟩) := by decide
  rw [herror, hshort]
  refine ⟨?_, rfl, fun h => ?_, fun h => ?_⟩
  · exact congrArg some (length_setReportCall _ 65531)
  · exact absurd (h.positive _ rfl) (by decide)
  · exact absurd (h.covered _ rfl) (by decide)

end Greybus
