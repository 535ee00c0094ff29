import Mathlib.Order.Defs.LinearOrder
import TimedCache.Time.Moment

/-!
# The order of moments

Moments are ordered as their distances from the origin are.
-/
namespace TimedCache.Moment

instance : LinearOrder Moment where
  le_refl a := Int.le_refl a.nanos
  le_trans _ _ _ h g := Int.le_trans (le_iff.mp h) (le_iff.mp g)
  le_antisymm _ _ h g := Moment.ext (Int.le_antisymm (le_iff.mp h) (le_iff.mp g))
  le_total a b := Int.le_total a.nanos b.nanos
  lt_iff_le_not_ge _ _ := Int.lt_iff_le_and_not_ge
  toDecidableLE := inferInstance
  toDecidableLT := inferInstance
  toDecidableEq := inferInstance

end TimedCache.Moment
