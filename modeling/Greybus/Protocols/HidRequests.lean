import Greybus.Protocols.HidSetReport
import Greybus.Reasoning.Packed

/-!
# The requests of the HID protocol

The device stores its reports and its report descriptor into the response itself.  The response for
the report descriptor is as long as the last answer to GET_DESC has announced, and empty before the
first one.

A response is its payload here: the size in its header wraps from 65528 bytes on.  `gb_hid_init`
sets `bundle->dev` with `bundle->priv`, so that the requests test one for both.  The device keeps to
the length that `device_hid_get_report` is given; nothing tells it a length for its report
descriptor.
-/

namespace Greybus.HidRequests

open Reasoning.Packed

/-! ## The code -/

/-- `struct hid_descriptor`. -/
structure HidDescriptor where
  length : UInt8
  reportDescLength : UInt16
  hidVersion : UInt16
  productId : UInt16
  vendorId : UInt16
  countryCode : UInt8
  deriving DecidableEq, Repr

/-- What a request meets: whether there is a buffer for its response, and what the functions of the
device return and store.  A report is as long as its buffer at most. -/
structure Env where
  memory : Bool
  getDescriptor : Int × HidDescriptor
  getReportDescriptor : Int × List UInt8
  power : Int
  reports : HidDevice
  getReport : (len : Nat) → Int × { l : List UInt8 // l.length ≤ len }

/-- `struct gb_hid_info`, as far as the requests use it. -/
structure HidInfo where
  reportDescLen : UInt16
  deriving DecidableEq, Repr

/-- What a request comes to: its result, `bundle->priv`, the payload of its response, and what the
device has stored behind the payload. -/
structure Handled where
  result : OperationResult
  info : Option HidInfo
  response : Option (List UInt8)
  overrun : List UInt8
  deriving DecidableEq, Repr

def refuse (result : OperationResult) (info : Option HidInfo) : Handled := ⟨result, info, none, []⟩

/-- The device stores `bytes` into a response of `size` bytes, and returns `ret`. -/
def stores (size : Nat) (ret : Int) (bytes : List UInt8) (info : Option HidInfo) : Handled where
  result := if ret ≠ 0 then .unknownError else .success
  info := info
  response := some (bytes.take size ++ List.replicate (size - bytes.length) 0)
  overrun := bytes.drop size

section Handlers

variable (env : Env) (operation : Operation) (info : Option HidInfo)

/-- `gb_hid_protocol_version`. -/
def gbHidProtocolVersion : Handled :=
  if !env.memory then refuse .noMemory info else ⟨.success, info, some [0, 1], []⟩

/-- The packed `struct gb_hid_desc_response`. -/
def descResponse : Codec (UInt8 × UInt16 × UInt16 × UInt16 × UInt16 × UInt8) :=
  .pair .byte (.pair .le16 (.pair .le16 (.pair .le16 (.pair .le16 .byte))))

def HidDescriptor.bytes (d : HidDescriptor) : List UInt8 :=
  descResponse.encode
    (d.length, d.reportDescLength, d.hidVersion, d.productId, d.vendorId, d.countryCode)

/-- `gb_hid_get_descriptor`. -/
def gbHidGetDescriptor : Handled :=
  match info with
  | none => refuse .unknownError none
  | some hidInfo =>
    if !env.memory then refuse .noMemory (some hidInfo)
    else
      let (ret, hidDesc) := env.getDescriptor
      if ret ≠ 0 then ⟨.unknownError, some hidInfo, some (List.replicate descResponse.size 0), []⟩
      else ⟨.success, some ⟨hidDesc.reportDescLength⟩, some hidDesc.bytes, []⟩

/-- `gb_hid_get_report_descriptor`. -/
def gbHidGetReportDescriptor : Handled :=
  match info with
  | none => refuse .unknownError none
  | some hidInfo =>
    if !env.memory then refuse .noMemory (some hidInfo)
    else
      stores hidInfo.reportDescLen.toNat env.getReportDescriptor.1 env.getReportDescriptor.2
        (some hidInfo)

/-- `gb_hid_power_on` and `gb_hid_power_off`, which differ in the function of the device. -/
def setPower : Handled :=
  match info with
  | none => refuse .unknownError none
  | some hidInfo =>
    refuse (if env.power ≠ 0 then .unknownError else .success) (some hidInfo)

/-- `gb_hid_power_on`. -/
def gbHidPowerOn : Handled := setPower env info

/-- `gb_hid_power_off`. -/
def gbHidPowerOff : Handled := setPower env info

/-- `gb_hid_get_report`. -/
def gbHidGetReport (after : Nat → UInt8) : Handled :=
  let request := operation.requestBuffer.payloadByte after
  if operation.requestBuffer.payloadSize < 2 then refuse .invalid info
  else
    let ret := env.reports.getReportLength (request 0) (request 1)
    if ret ≤ 0 then refuse .unknownError info
    else
      let reportLen := UInt16.ofInt ret
      let reportLen := if request 1 > 0 then reportLen + 1 else reportLen
      if !env.memory then refuse .noMemory info
      else
        stores reportLen.toNat (env.getReport reportLen.toNat).1
          (env.getReport reportLen.toNat).2 info

/-- `gb_hid_set_report`, which has no response. -/
def setReport (after : Nat → UInt8) : Handled :=
  refuse (gbHidSetReport env.reports after operation).1 info

end Handlers

/-- A request with what it meets, and the bytes in memory behind it. -/
structure Request where
  operation : Operation
  after : Nat → UInt8
  env : Env

def Request.type (r : Request) : UInt8 := r.operation.requestBuffer.hdr.type

/-- `gb_hid_handlers`. -/
def gbHidHandlers : List (UInt8 × (Request → Option HidInfo → Handled)) :=
  [(0x01, fun r => gbHidProtocolVersion r.env),
   (0x02, fun r => gbHidGetDescriptor r.env),
   (0x03, fun r => gbHidGetReportDescriptor r.env),
   (0x04, fun r => gbHidPowerOn r.env),
   (0x05, fun r => gbHidPowerOff r.env),
   (0x06, fun r info => gbHidGetReport r.env r.operation info r.after),
   (0x07, fun r info => setReport r.env r.operation info r.after)]

/-- A request is handled; a ping and a request without a handler are answered by the core. -/
def serve (info : Option HidInfo) (r : Request) : Handled :=
  match gbHidHandlers.find? fun h => h.1 = r.type with
  | some h => h.2 r info
  | none => refuse (if r.type = pingType then .success else .invalid) info

/-- `bundle->priv` after the requests. -/
def servedAll (info : Option HidInfo) (rs : List Request) : Option HidInfo :=
  rs.foldl (fun info r => (serve info r).info) info

/-- `gb_hid_init` leaves `hid_info` zeroed. -/
def initialized : Option HidInfo := some ⟨0⟩

/-! ## What the requests leave -/

/-- The request is told the descriptor. -/
def Request.Announced (r : Request) : Prop :=
  r.type = 0x02 ∧ r.env.memory = true ∧ r.env.getDescriptor.1 = 0

/-- The request has the device store its report descriptor. -/
def Request.Describes (r : Request) : Prop := r.type = 0x03 ∧ r.env.memory = true

instance (r : Request) : Decidable r.Announced := by
  unfold Request.Announced
  infer_instance

/-- The device has the report descriptor `desc`, and announces its length. -/
structure Request.Meets (r : Request) (desc : List UInt8) : Prop where
  length : r.env.getDescriptor.1 = 0 →
    r.env.getDescriptor.2.reportDescLength.toNat = desc.length
  desc : r.env.getReportDescriptor.2 = desc

variable {r : Request} {hidInfo : HidInfo}

theorem stores_overrun {size : Nat} {ret : Int} {bytes : List UInt8} {info : Option HidInfo}
    (h : bytes.length ≤ size) : (stores size ret bytes info).overrun = [] :=
  List.drop_eq_nil_of_le h

theorem gbHidProtocolVersion_overrun (env : Env) (info : Option HidInfo) :
    (gbHidProtocolVersion env info).info = info ∧ (gbHidProtocolVersion env info).overrun = [] := by
  unfold gbHidProtocolVersion
  split <;> exact ⟨rfl, rfl⟩

theorem gbHidGetReport_overrun (env : Env) (operation : Operation) (info : Option HidInfo)
    (after : Nat → UInt8) : (gbHidGetReport env operation info after).info = info ∧
      (gbHidGetReport env operation info after).overrun = [] := by
  unfold gbHidGetReport
  split
  next => exact ⟨rfl, rfl⟩
  dsimp only
  split
  next => exact ⟨rfl, rfl⟩
  split
  next => exact ⟨rfl, rfl⟩
  next => exact ⟨rfl, stores_overrun (env.getReport _).2.2⟩

-- Only GET_DESC changes the length, and only GET_REPORT_DESC lets the device overrun.
theorem serve_other (hdesc : r.type ≠ 0x02) (hreport : r.type ≠ 0x03) :
    (serve (some hidInfo) r).info = some hidInfo ∧ (serve (some hidInfo) r).overrun = [] := by
  rw [serve]
  split
  next h hfind =>
    have htype : h.1 = r.type := by simpa using List.find?_some hfind
    have hmem := List.mem_of_find?_eq_some hfind
    simp only [gbHidHandlers, List.mem_cons, List.not_mem_nil, or_false] at hmem
    rcases hmem with rfl | rfl | rfl | rfl | rfl | rfl | rfl
    · exact gbHidProtocolVersion_overrun r.env (some hidInfo)
    · exact absurd htype.symm hdesc
    · exact absurd htype.symm hreport
    · exact ⟨rfl, rfl⟩
    · exact ⟨rfl, rfl⟩
    · exact gbHidGetReport_overrun r.env r.operation (some hidInfo) r.after
    · exact ⟨rfl, rfl⟩
  next => exact ⟨rfl, rfl⟩

theorem serve_getDescriptor (htype : r.type = 0x02) :
    (serve (some hidInfo) r).info
      = (if r.Announced then some ⟨r.env.getDescriptor.2.reportDescLength⟩ else some hidInfo) ∧
      (serve (some hidInfo) r).overrun = [] := by
  have hserve : serve (some hidInfo) r = gbHidGetDescriptor r.env (some hidInfo) := by
    rw [serve, htype]
    rfl
  rw [hserve, gbHidGetDescriptor]
  simp only [Request.Announced, htype, true_and]
  cases r.env.memory with
  | false => exact ⟨rfl, rfl⟩
  | true =>
    by_cases hret : r.env.getDescriptor.1 = 0
    · simp [hret]
    · simp [hret]

theorem serve_getReportDescriptor (htype : r.type = 0x03) :
    serve (some hidInfo) r = gbHidGetReportDescriptor r.env (some hidInfo) := by
  rw [serve, htype]
  rfl

theorem serve_info (info : HidInfo) (r : Request) : (serve (some info) r).info =
    if r.Announced then some ⟨r.env.getDescriptor.2.reportDescLength⟩ else some info := by
  by_cases hdesc : r.type = 0x02
  · exact (serve_getDescriptor hdesc).1
  have hnot : ¬ r.Announced := fun h => hdesc h.1
  rw [if_neg hnot]
  by_cases hreport : r.type = 0x03
  · rw [serve_getReportDescriptor hreport, gbHidGetReportDescriptor]
    split <;> rfl
  · exact (serve_other hdesc hreport).1

/-- The length that the response for the report descriptor has after the requests. -/
def announcedLength (desc : List UInt8) (rs : List Request) : Nat :=
  if ∃ r ∈ rs, r.Announced then desc.length else 0

theorem servedAll_concat (info : Option HidInfo) (rs : List Request) (r : Request) :
    servedAll info (rs ++ [r]) = (serve (servedAll info rs) r).info := by
  rw [servedAll, List.foldl_append]
  rfl

theorem servedAll_length {desc : List UInt8} {rs : List Request}
    (hrs : ∀ r ∈ rs, r.Meets desc) :
    ∃ info, servedAll initialized rs = some info ∧
      info.reportDescLen.toNat = announcedLength desc rs := by
  induction rs using List.reverseRecOn with
  | nil => exact ⟨⟨0⟩, rfl, by simp [announcedLength]⟩
  | append_singleton rs r ih =>
    obtain ⟨info, hinfo, hlength⟩ := ih fun r' hr' => hrs r' (List.mem_append_left _ hr')
    have hmeets := hrs r (List.mem_append_right _ List.mem_cons_self)
    rw [servedAll_concat, hinfo, serve_info]
    by_cases hr : r.Announced
    · have hany : ∃ r' ∈ rs ++ [r], r'.Announced :=
        ⟨r, List.mem_append_right _ List.mem_cons_self, hr⟩
      rw [if_pos hr, announcedLength, if_pos hany]
      exact ⟨_, rfl, hmeets.length hr.2.2⟩
    · have hany : (∃ r' ∈ rs ++ [r], r'.Announced) ↔ ∃ r' ∈ rs, r'.Announced := by
        simp only [List.mem_append, List.mem_singleton]
        constructor
        · rintro ⟨r', hr' | rfl, hannounced⟩
          · exact ⟨r', hr', hannounced⟩
          · exact absurd hannounced hr
        · rintro ⟨r', hr', hannounced⟩
          exact ⟨r', .inl hr', hannounced⟩
      rw [if_neg hr, announcedLength]
      simp only [hany]
      exact ⟨info, rfl, hlength⟩

/-- After any requests, the device stores behind a response exactly if it is asked for its report
descriptor, has one, and has never told its length; and if it has told it, it is answered whole. -/
structure DescribedAfter (desc : List UInt8) (rs : List Request) (r : Request) (handled : Handled) :
    Prop where
  overrun_iff : handled.overrun ≠ [] ↔ r.Describes ∧ desc ≠ [] ∧ ¬ ∃ r' ∈ rs, r'.Announced
  whole : r.Describes → (∃ r' ∈ rs, r'.Announced) → handled.response = some desc

theorem servedAll_describedAfter {desc : List UInt8} {rs : List Request} {r : Request}
    (hrs : ∀ r' ∈ rs, r'.Meets desc) (hr : r.Meets desc) :
    DescribedAfter desc rs r (serve (servedAll initialized rs) r) := by
  obtain ⟨info, hinfo, hlength⟩ := servedAll_length hrs
  rw [hinfo]
  by_cases hreport : r.type = 0x03
  · rw [serve_getReportDescriptor hreport, gbHidGetReportDescriptor]
    cases hmemory : r.env.memory with
    | false =>
      have hnot : ¬ r.Describes := fun h => by simp [h.2] at hmemory
      exact ⟨iff_of_false (fun h => h rfl) fun h => hnot h.1, fun h => absurd h hnot⟩
    | true =>
      simp only [Bool.not_true, Bool.false_eq_true, if_false, hlength, hr.desc]
      by_cases hannounced : ∃ r' ∈ rs, r'.Announced
      · rw [announcedLength, if_pos hannounced]
        refine ⟨iff_of_false (fun h => h (stores_overrun (Nat.le_refl _))) fun h =>
          h.2.2 hannounced, fun _ _ => ?_⟩
        simp [stores]
      · rw [announcedLength, if_neg hannounced]
        refine ⟨?_, fun _ h => absurd h hannounced⟩
        rw [stores, List.drop_zero]
        exact ⟨fun h => ⟨⟨hreport, hmemory⟩, h, hannounced⟩, fun h => h.2.1⟩
  · have hnot : ¬ r.Describes := fun h => hreport h.1
    refine ⟨iff_of_false (fun h => h ?_) fun h => hnot h.1, fun h => absurd h hnot⟩
    by_cases hdesc : r.type = 0x02
    · exact (serve_getDescriptor hdesc).2
    · exact (serve_other hdesc hreport).2

/-- A request without a payload to a device whose report descriptor is two bytes long. -/
def mouseRequest (type : UInt8) : Request where
  operation := .fresh 1 (requestOf type [])
  after _ := 0
  env := {
    memory := true
    getDescriptor := (0, ⟨9, 2, 0x111, 1, 1, 0⟩)
    getReportDescriptor := (0, [0x05, 0x01])
    power := 0
    reports := ⟨fun _ _ => 4, fun _ => 0⟩
    getReport := fun len => (0, ⟨List.replicate len 0, by simp⟩) }

theorem mouseRequest_meets (type : UInt8) : (mouseRequest type).Meets [0x05, 0x01] :=
  ⟨fun _ => rfl, rfl⟩

theorem servedAll_describedAfter_mouse :
    DescribedAfter [0x05, 0x01] [mouseRequest 0x02] (mouseRequest 0x03)
        (serve (servedAll initialized [mouseRequest 0x02]) (mouseRequest 0x03)) ∧
      (serve initialized (mouseRequest 0x03)).overrun = [0x05, 0x01] := by
  refine ⟨servedAll_describedAfter (fun r hr => ?_) (mouseRequest_meets 0x03), by decide⟩
  rw [List.mem_singleton.mp hr]
  exact mouseRequest_meets 0x02

end Greybus.HidRequests
