/-!
# Ranges of characters

A class of characters is given by the ranges of its code points.
-/
namespace TimedCache

/-- The code points from the first to the last, both included. -/
structure CodeRange where
  first : Nat
  last : Nat

/-- Whether a character lies in one of the ranges. -/
def CodeRange.covers (ranges : List CodeRange) (c : Char) : Bool :=
  ranges.any fun r => r.first ≤ c.toNat && c.toNat ≤ r.last

end TimedCache
