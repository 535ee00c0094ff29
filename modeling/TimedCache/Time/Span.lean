/-!
# Spans of time

A span is a whole number of nanoseconds whose seconds fit an unsigned 64-bit word. Its text counts
in the largest unit that has a nonzero whole part.
-/
namespace TimedCache

/-- A length of time, counted in nanoseconds. -/
@[ext] structure Span where
  nanos : Nat
  /-- Fewer than `2 ^ 64` seconds. -/
  bounded : nanos < 18446744073709551616000000000
  deriving DecidableEq

namespace Span

instance : LE Span := ⟨fun a b => a.nanos ≤ b.nanos⟩
instance : LT Span := ⟨fun a b => a.nanos < b.nanos⟩
instance (a b : Span) : Decidable (a ≤ b) := inferInstanceAs (Decidable (a.nanos ≤ b.nanos))
instance (a b : Span) : Decidable (a < b) := inferInstanceAs (Decidable (a.nanos < b.nanos))

theorem le_iff {a b : Span} : a ≤ b ↔ a.nanos ≤ b.nanos := Iff.rfl
theorem lt_iff {a b : Span} : a < b ↔ a.nanos < b.nanos := Iff.rfl

def zero : Span := ⟨0, by decide⟩

instance : Inhabited Span := ⟨zero⟩

/-- The span of a number of seconds and a part of a second, if both are in range. -/
def ofParts? (seconds nanos : Nat) : Option Span :=
  if h : seconds < 18446744073709551616 ∧ nanos < 1000000000 then
    some ⟨seconds * 1000000000 + nanos, by omega⟩
  else none

def ofNanos (n : UInt64) : Span := ⟨n.toNat, by have := n.toNat_lt; omega⟩
def ofMillis (n : UInt64) : Span := ⟨n.toNat * 1000000, by have := n.toNat_lt; omega⟩
def ofSeconds (n : UInt64) : Span := ⟨n.toNat * 1000000000, by have := n.toNat_lt; omega⟩

/-- The whole seconds of a span. -/
def seconds (s : Span) : Nat := s.nanos / 1000000000

/-- The nanoseconds of a span beyond its whole seconds. -/
def subsecond (s : Span) : Nat := s.nanos % 1000000000

theorem ofParts?_seconds_subsecond (s : Span) : ofParts? s.seconds s.subsecond = some s := by
  have := s.bounded
  have h : s.seconds < 18446744073709551616 ∧ s.subsecond < 1000000000 := by
    unfold seconds subsecond
    omega
  rw [ofParts?, dif_pos h, Option.some_inj]
  ext
  show s.nanos / 1000000000 * 1000000000 + s.nanos % 1000000000 = s.nanos
  omega

/-- A unit of time: its symbol, and the number of decimal places of a nanosecond in it. -/
structure Scale where
  symbol : String
  places : Nat

/-- The units in which a span is written, the largest first. -/
def scales : List Scale := [⟨"s", 9⟩, ⟨"ms", 6⟩, ⟨"µs", 3⟩, ⟨"ns", 0⟩]

/-- The decimal places of a part of a unit, without zeros at the end and with the point in front. -/
def fraction (places part : Nat) : List Char :=
  let digits := (Nat.toDigits 10 part).leftpad places '0'
  match (digits.reverse.dropWhile (· == '0')).reverse with
  | [] => []
  | kept => '.' :: kept

/-- A span in the unit given, exactly. -/
def textIn (s : Span) (u : Scale) : String :=
  toString (s.nanos / Nat.pow 10 u.places)
    ++ String.ofList (fraction u.places (s.nanos % Nat.pow 10 u.places)) ++ u.symbol

/-- A span in the largest unit of which it holds at least one; the empty span is in nanoseconds. -/
def text (s : Span) : String :=
  match scales.find? fun u => Nat.pow 10 u.places ≤ s.nanos with
  | some u => s.textIn u
  | none => "0ns"

end Span
end TimedCache
