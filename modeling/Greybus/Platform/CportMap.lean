import Greybus.Basic
import Greybus.Reasoning.Transition
import Greybus.Reasoning.TwoKeys
import Mathlib.Algebra.Ring.Nat

/-!
# The map between cports and devices

`gb_add_cport_device_mapping`, `gb_device_to_cport` and `gb_cport_to_device`.  All three search the
same array, which only grows; the map is a partial bijection.
-/

namespace Greybus.Platform

open Reasoning.Transition Reasoning.TwoKeys

/-! ## The code -/

def ENOENT : Int := 2
def EALREADY : Int := 120

/-- A `const struct device *` that is not NULL. -/
abbrev DevRef := Nat

/-- `INT_MAX`. -/
def intMax : Nat := 2 ^ 31 - 1

/-- `struct map_entry`. -/
structure MapEntry where
  cport : Nat
  dev : DevRef
  deriving DecidableEq, Repr

/-- `gb_add_cport_device_mapping` on the array `map`: the return value and the array afterwards;
`reallocOk` says whether `realloc` gives memory. -/
def gbAddCportDeviceMapping (reallocOk : Bool) (cport : Nat) (dev : Option DevRef)
    (map : List MapEntry) : Int × List MapEntry :=
  match dev with
  | none => (-EINVAL, map)
  | some d =>
    if map.any fun e => e.cport = cport ∨ e.dev = d then (-EALREADY, map)
    else if !reallocOk then (-ENOMEM, map)
    else (0, map ++ [⟨cport, d⟩])

/-- `gb_device_to_cport`; the cport is converted from `unsigned int` to `int`. -/
def gbDeviceToCport (map : List MapEntry) (dev : Option DevRef) : Int :=
  match map.find? fun e => some e.dev = dev with
  | some e => Int.bmod e.cport (2 ^ 32)
  | none => -ENOENT

/-- `gb_cport_to_device`. -/
def gbCportToDevice (map : List MapEntry) (cport : Nat) : Option DevRef :=
  (map.find? fun e => e.cport = cport).map (·.dev)

/-- One call of `gb_add_cport_device_mapping`. -/
structure MapCall where
  cport : Nat
  dev : Option DevRef
  reallocOk : Bool
  cport_le : cport ≤ intMax

def MapCall.exec (map : List MapEntry) (call : MapCall) : Int × List MapEntry :=
  gbAddCportDeviceMapping call.reallocOk call.cport call.dev map

def step (map : List MapEntry) (call : MapCall) : Option (List MapEntry) := some (call.exec map).2

/-! ## What the map is -/

/-- No cport and no device occurs twice, and every cport is an `int`. -/
structure MapOk (map : List MapEntry) : Prop where
  oneToOne : OneToOne MapEntry.cport MapEntry.dev map
  cport_le : ∀ e ∈ map, e.cport ≤ intMax

theorem MapOk.nil : MapOk [] := ⟨.nil, by simp⟩

theorem bmod_of_le {cport : Nat} (h : cport ≤ intMax) : Int.bmod cport (2 ^ 32) = cport := by
  unfold intMax at h
  exact Int.bmod_eq_of_le (by omega) (by omega)

theorem gbDeviceToCport_null (map : List MapEntry) : gbDeviceToCport map none = -ENOENT := by
  have hnone : map.find? (fun e => some e.dev = none) = none :=
    List.find?_eq_none.mpr fun e _ => by simp
  rw [gbDeviceToCport, hnone]

-- A device is looked up to what the array has for it.
theorem MapOk.gbDeviceToCport_eq {map : List MapEntry} (h : MapOk map) (d : DevRef) :
    gbDeviceToCport map (some d) =
      ((map.find? fun e => e.dev = d).map fun e => (e.cport : Int)).getD (-ENOENT) := by
  simp only [gbDeviceToCport, Option.some.injEq]
  cases hfind : map.find? fun e => e.dev = d with
  | none => rfl
  | some e => exact bmod_of_le (h.cport_le e (List.mem_of_find?_eq_some hfind))

theorem MapOk.gbDeviceToCport_eq_iff {map : List MapEntry} (h : MapOk map) {d : DevRef} {c : Nat} :
    gbDeviceToCport map (some d) = c ↔ (map.find? fun e => e.dev = d).map (·.cport) = some c := by
  rw [h.gbDeviceToCport_eq]
  cases map.find? fun e => e.dev = d with
  | none => simp [ENOENT]
  | some e =>
    show (e.cport : Int) = c ↔ some e.cport = some c
    rw [Int.natCast_inj, Option.some.injEq]

theorem MapOk.gbDeviceToCport_eq_enoent_iff {map : List MapEntry} (h : MapOk map) {d : DevRef} :
    gbDeviceToCport map (some d) = -ENOENT ↔ map.find? (fun e => e.dev = d) = none := by
  rw [h.gbDeviceToCport_eq]
  cases map.find? fun e => e.dev = d with
  | none => simp
  | some e => simp [ENOENT]

/-- The two lookups are a partial bijection and its inverse. -/
def Bijective (map : List MapEntry) : Prop :=
  ∀ c d, gbCportToDevice map c = some d ↔ gbDeviceToCport map (some d) = c

theorem MapOk.bijective {map : List MapEntry} (h : MapOk map) : Bijective map := by
  intro c d
  rw [h.gbDeviceToCport_eq_iff]
  exact (h.oneToOne.toPEquiv.inv c d).symm

/-! ## One call -/

/-- A call succeeds exactly when there is a device, neither it nor the cport is mapped and there is
memory.  Then it adds exactly the one pair; otherwise it leaves the map alone. -/
structure AddsOne (map : List MapEntry) (call : MapCall) (ret : Int) (map' : List MapEntry) :
    Prop where
  success_iff : ret = 0 ↔ (∃ d, call.dev = some d ∧ gbDeviceToCport map (some d) = -ENOENT) ∧
    gbCportToDevice map call.cport = none ∧ call.reallocOk = true
  cports : ret = 0 → ∀ c, gbCportToDevice map' c
    = if c = call.cport then call.dev else gbCportToDevice map c
  devices : ret = 0 → ∀ dev, gbDeviceToCport map' dev
    = if dev = call.dev then (call.cport : Int) else gbDeviceToCport map dev
  unchanged : ret ≠ 0 → map' = map

/-- What a call does: it fails, or it adds a pair whose cport and device are new. -/
inductive Adds (map : List MapEntry) (call : MapCall) : Int × List MapEntry → Prop
  | failed {ret : Int} : ret ≠ 0 →
      ¬ ((∃ d, call.dev = some d ∧ map.find? (fun e => e.dev = d) = none) ∧
        map.find? (fun e => e.cport = call.cport) = none ∧ call.reallocOk = true) →
      Adds map call (ret, map)
  | added {d : DevRef} : call.dev = some d → map.find? (fun e => e.dev = d) = none →
      map.find? (fun e => e.cport = call.cport) = none → call.reallocOk = true →
      Adds map call (0, map ++ [⟨call.cport, d⟩])

theorem MapCall.exec_adds (map : List MapEntry) (call : MapCall) :
    Adds map call (call.exec map) := by
  unfold MapCall.exec gbAddCportDeviceMapping
  cases hdev : call.dev with
  | none => exact .failed (by decide) (by simp [hdev])
  | some d =>
    by_cases hany : map.any fun e => e.cport = call.cport ∨ e.dev = d
    · simp only [if_pos hany]
      refine .failed (by decide) ?_
      rintro ⟨⟨d', hd', hnodev⟩, hnocport, -⟩
      obtain rfl : d = d' := Option.some.inj (hdev.symm.trans hd')
      obtain ⟨e, hmem, he⟩ := List.any_eq_true.mp hany
      have hcport := List.find?_eq_none.mp hnocport e hmem
      have hdevice := List.find?_eq_none.mp hnodev e hmem
      simp_all
    · simp only [if_neg hany]
      have hnone : ∀ e ∈ map, e.cport ≠ call.cport ∧ e.dev ≠ d := by simpa using hany
      have hnodev : map.find? (fun e => e.dev = d) = none :=
        List.find?_eq_none.mpr fun e he => by simpa using (hnone e he).2
      have hnocport : map.find? (fun e => e.cport = call.cport) = none :=
        List.find?_eq_none.mpr fun e he => by simpa using (hnone e he).1
      cases hrealloc : call.reallocOk with
      | false => exact .failed (by decide) (by simp [hrealloc])
      | true => exact .added hdev hnodev hnocport hrealloc

theorem MapOk.adds {map : List MapEntry} {call : MapCall} {res : Int × List MapEntry}
    (h : MapOk map) (hadds : Adds map call res) : MapOk res.2 := by
  cases hadds with
  | failed => exact h
  | added _ hnodev hnocport _ =>
    refine ⟨h.oneToOne.concat hnocport hnodev, fun e he => ?_⟩
    rcases List.mem_append.mp he with he | he
    · exact h.cport_le e he
    · rw [List.mem_singleton.mp he]
      exact call.cport_le

theorem MapOk.addsOne {map : List MapEntry} {call : MapCall} {res : Int × List MapEntry}
    (h : MapOk map) (hadds : Adds map call res) : AddsOne map call res.1 res.2 := by
  have hok := h.adds hadds
  have hnew : ((∃ d, call.dev = some d ∧ gbDeviceToCport map (some d) = -ENOENT) ∧
      gbCportToDevice map call.cport = none ∧ call.reallocOk = true) ↔
      (∃ d, call.dev = some d ∧ map.find? (fun e => e.dev = d) = none) ∧
        map.find? (fun e => e.cport = call.cport) = none ∧ call.reallocOk = true := by
    simp only [h.gbDeviceToCport_eq_enoent_iff, gbCportToDevice, Option.map_eq_none_iff]
  cases hadds with
  | failed hret hno =>
    exact ⟨by rw [hnew]; exact iff_of_false hret hno, fun h0 => absurd h0 hret,
      fun h0 => absurd h0 hret, fun _ => rfl⟩
  | @added d hdev hnodev hnocport hrealloc =>
    refine ⟨?_, fun _ c => ?_, fun _ dev => ?_, fun h0 => absurd rfl h0⟩
    · rw [hnew]
      exact iff_of_true rfl ⟨⟨d, hdev, hnodev⟩, hnocport, hrealloc⟩
    · simp only [gbCportToDevice, hdev]
      rw [find_concat MapEntry.cport hnocport c]
      split <;> rfl
    · cases dev with
      | none => simp [gbDeviceToCport_null, hdev]
      | some d' =>
        rw [hok.gbDeviceToCport_eq, h.gbDeviceToCport_eq, hdev,
          find_concat MapEntry.dev hnodev d']
        simp only [Option.some.injEq]
        split <;> rfl

/-! ## Any sequence of calls -/

theorem run_mapOk {calls : List MapCall} {map : List MapEntry}
    (hrun : run step [] calls = some map) : MapOk map :=
  run_induct (fun m call _ hm hstep => Option.some.inj hstep ▸ hm.adds (call.exec_adds m)) .nil hrun

/-- After any calls the map is a partial bijection, and the next call adds one pair to it or leaves
it alone. -/
theorem run_bijective {calls : List MapCall} {map : List MapEntry}
    (hrun : run step [] calls = some map) :
    Bijective map ∧ ∀ call : MapCall, AddsOne map call (call.exec map).1 (call.exec map).2 :=
  ⟨(run_mapOk hrun).bijective, fun call => (run_mapOk hrun).addsOne (call.exec_adds map)⟩

/-- Two cports with a device each, the second after a failed `realloc`. -/
def twoDevices : List MapCall :=
  [⟨1, some 10, true, by decide⟩, ⟨2, some 20, false, by decide⟩, ⟨2, some 20, true, by decide⟩]

theorem run_bijective_twoDevices :
    run step [] twoDevices = some [⟨1, 10⟩, ⟨2, 20⟩] ∧ Bijective [⟨1, 10⟩, ⟨2, 20⟩] :=
  have hrun : run step [] twoDevices = some [⟨1, 10⟩, ⟨2, 20⟩] := by decide
  ⟨hrun, (run_bijective hrun).1⟩

end Greybus.Platform
