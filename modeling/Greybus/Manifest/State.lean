import Mathlib.Algebra.Ring.Nat

/-!
# The parsed manifest

`struct greybus`, the record that the manifest parser fills and the core reads.
-/

namespace Greybus

/-- `struct gb_cport` without its list node. -/
structure GbCport where
  id : Nat
  bundle : Nat
  protocol : Nat
  deriving DecidableEq, Repr

/-- `struct greybus`; the unused `drv` is left out. -/
structure ManifestState where
  cports : List GbCport
  maxBundleId : Nat
  maxPropertyId : Nat
  maxDeviceId : Nat
  maxStringId : Nat
  maxPatchPropertyId : Nat
  maxPatchDeviceId : Nat
  maxPatchStringId : Nat
  deriving DecidableEq, Repr

/-- The static initialiser of `g_greybus`. -/
def ManifestState.initial : ManifestState where
  cports := []
  maxBundleId := 0
  maxPropertyId := 0
  maxDeviceId := 0
  maxStringId := 0
  maxPatchPropertyId := 0
  maxPatchDeviceId := 0
  maxPatchStringId := 0

/-- `UINT_MAX` with a 32-bit `unsigned int`. -/
def uintMax : Nat := 2 ^ 32 - 1

/-- `manifest_get_num_cports_bundle`. -/
def ManifestState.getNumCportsBundle (g : ManifestState) (bundleId : Int) : Nat :=
  g.cports.countP fun c => (c.bundle : Int) = bundleId

/-- `manifest_get_start_cport_bundle`. -/
def ManifestState.getStartCportBundle (g : ManifestState) (bundleId : Int) : Nat :=
  g.cports.foldl
    (fun cportId c => if (c.bundle : Int) = bundleId ∧ c.id < cportId then c.id else cportId) uintMax

end Greybus
