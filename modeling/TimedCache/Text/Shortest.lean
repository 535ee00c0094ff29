/-!
# Shortest decimals

A float is written with the fewest digits that read back as the same float, and of these with the
digits nearest to it. All is done in whole numbers: a float is a mantissa times a power of two, and
the numbers that round to it reach half way to its neighbours, where an even mantissa wins.

The point stands among the digits where the power of ten is small, with at least one digit on each
side of it; elsewhere it stands behind the first digit and an exponent follows.
-/
namespace TimedCache.Shortest

/-- A positive float: the mantissa times a power of two. -/
structure Binary where
  mantissa : Nat
  exponent : Int

def Binary.ofFloat (f : Float) : Binary :=
  let bits := f.toBits.toNat
  let exponent : Nat := (bits >>> 52) % 2048
  let mantissa : Nat := bits % (1 <<< 52)
  if exponent = 0 then ⟨mantissa, -1074⟩ else ⟨(1 <<< 52) + mantissa, (exponent : Int) - 1075⟩

namespace Binary

/-- On the grid of the multiples of `10 ^ p`: how many whole units a grid step counts, and how many
of them a quarter of the last place of the mantissa does. -/
def units (b : Binary) (p : Int) : Nat × Nat :=
  let q := b.exponent - 2
  (Nat.pow 10 p.toNat * Nat.pow 2 (-q).toNat, Nat.pow 2 q.toNat * Nat.pow 10 (-p).toNat)

/-- Whether a multiple of `10 ^ p` reads back as the float. Below a power of two the floats are
twice as close as above it. -/
def readsBack (b : Binary) (p : Int) (c : Nat) : Bool :=
  let (step, quarter) := b.units p
  let below := if b.mantissa = 1 <<< 52 then 1 else 2
  let low := (4 * b.mantissa - below) * quarter
  let high := (4 * b.mantissa + 2) * quarter
  if b.mantissa % 2 = 0 then low ≤ c * step && c * step ≤ high
  else low < c * step && c * step < high

/-- The multiple of `10 ^ p` nearest to the float, if one of its two neighbours reads back. -/
def nearest? (b : Binary) (p : Int) : Option Nat :=
  let (step, quarter) := b.units p
  let value := 4 * b.mantissa * quarter
  let c := value / step
  match b.readsBack p c, b.readsBack p (c + 1) with
  | true, true => some (if 2 * (value - c * step) ≤ step then c else c + 1)
  | true, false => some c
  | false, true => some (c + 1)
  | false, false => none

/-- The power of ten of the first digit. -/
def magnitude (b : Binary) : Int :=
  let powers := (List.range 633).map fun (i : Nat) => 308 - (i : Int)
  let reached (p : Int) : Bool :=
    let (step, quarter) := b.units p
    step ≤ 4 * b.mantissa * quarter
  (powers.find? reached).getD (-324)

/-- The digits, and the power of ten of the last one. -/
def digits (b : Binary) : List Char × Int :=
  let grids := (List.range 17).map fun (i : Nat) => b.magnitude - (i : Int)
  match grids.findSome? fun p => (b.nearest? p).map fun c => (c, p) with
  | some (c, p) =>
    let all := Nat.toDigits 10 c
    let kept := (all.reverse.dropWhile (· == '0')).reverse
    (kept, p + (all.length - kept.length : Nat))
  | none => ([], 0)

end Binary

/-- Digits with the point in its place: `point` of them stand before it, and zeros where it lies
outside the digits. -/
def positional (digits : List Char) (point : Int) : List Char :=
  if point ≤ 0 then '0' :: '.' :: (List.replicate (-point).toNat '0' ++ digits)
  else
    let whole := digits.take point.toNat
    let part := digits.drop point.toNat
    let zeros := List.replicate (point.toNat - whole.length) '0'
    whole ++ zeros ++ '.' :: (if part = [] then ['0'] else part)

def scientific (digits : List Char) (exponent : Int) : List Char :=
  let mantissa := match digits with
    | d :: e :: rest => d :: '.' :: e :: rest
    | ds => ds
  mantissa ++ 'e' :: (toString exponent).toList

/-- A float that is not negative and is a number. -/
def text (f : Float) : String :=
  if f == 0 then "0.0" else
    let (digits, last) := (Binary.ofFloat f).digits
    let point := last + (digits.length : Int)
    String.ofList <|
      if -5 < point ∧ point ≤ 16 then positional digits point else scientific digits (point - 1)

end TimedCache.Shortest
