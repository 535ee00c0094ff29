/-!
# Decimal words

The decimal notation of unsigned 64-bit words: at least one digit, of which any number may be zeros
in front, and a plus sign in front of them if one likes.
-/
namespace TimedCache.Decimal

/-- The number that digits stand for, if there are only digits and at least one. -/
def ofDigits? (s : List Char) : Option Nat :=
  if s ≠ [] ∧ s.all Char.isDigit then some (Nat.ofDigitChars 10 s 0) else none

/-- What follows a plus sign in front, or all if there is none. -/
def unsigned : List Char → List Char
  | '+' :: s => s
  | s => s

def ofChars? (s : List Char) : Option UInt64 := do
  let n ← ofDigits? (unsigned s)
  if n < UInt64.size then some (.ofNat n) else none

end TimedCache.Decimal
