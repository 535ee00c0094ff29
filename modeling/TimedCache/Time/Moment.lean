import TimedCache.Time.Span

/-!
# Moments

A moment is a point on a line of nanoseconds, measured from a fixed but arbitrary origin, whose
whole seconds fit a signed 64-bit word. Adding a span can therefore lead past the last moment;
`deadline` says which moment stands for the end of a lifetime then.
-/
namespace TimedCache

/-- A point in time, counted in nanoseconds from the origin. -/
@[ext] structure Moment where
  nanos : Int
  /-- At least `-2 ^ 63` seconds. -/
  lower : -9223372036854775808000000000 ≤ nanos
  /-- Less than `2 ^ 63` seconds. -/
  upper : nanos < 9223372036854775808000000000
  deriving DecidableEq

namespace Moment

instance : LE Moment := ⟨fun a b => a.nanos ≤ b.nanos⟩
instance : LT Moment := ⟨fun a b => a.nanos < b.nanos⟩
instance (a b : Moment) : Decidable (a ≤ b) := inferInstanceAs (Decidable (a.nanos ≤ b.nanos))
instance (a b : Moment) : Decidable (a < b) := inferInstanceAs (Decidable (a.nanos < b.nanos))

theorem le_iff {a b : Moment} : a ≤ b ↔ a.nanos ≤ b.nanos := Iff.rfl
theorem lt_iff {a b : Moment} : a < b ↔ a.nanos < b.nanos := Iff.rfl

/-- The moment from which all others are measured. -/
def origin : Moment := ⟨0, by decide, by decide⟩

instance : Inhabited Moment := ⟨origin⟩

/-- The moment at a number of nanoseconds from the origin, if there is one. -/
def ofNanos? (n : Int) : Option Moment :=
  if h : -9223372036854775808000000000 ≤ n ∧ n < 9223372036854775808000000000 then
    some ⟨n, h.1, h.2⟩
  else none

/-- The moment a span after another, if there is one. -/
def add? (m : Moment) (s : Span) : Option Moment := ofNanos? (m.nanos + s.nanos)

/-- The last moment of the line. -/
def last : Moment := ⟨9223372036854775807999999999, by decide, by decide⟩

/-- The moment a span after another, or the last one if the span leads past it. -/
def plus (m : Moment) (s : Span) : Moment := (m.add? s).getD last

/-- The span from an earlier moment to a later one, if it fits a span. -/
def since? (later earlier : Moment) : Option Span :=
  if h : earlier ≤ later ∧ (later.nanos - earlier.nanos).toNat < 18446744073709551616000000000 then
    some ⟨(later.nanos - earlier.nanos).toNat, h.2⟩
  else none

theorem ofNanos?_eq_some_iff {n : Int} {m : Moment} : ofNanos? n = some m ↔ m.nanos = n := by
  have := m.lower
  have := m.upper
  simp only [ofNanos?]
  split
  · simp [Moment.ext_iff, eq_comm]
  · simp only [reduceCtorEq, false_iff]
    omega

theorem add?_eq_some_iff {m r : Moment} {s : Span} :
    m.add? s = some r ↔ r.nanos = m.nanos + s.nanos := ofNanos?_eq_some_iff

theorem add?_eq_none_iff {m : Moment} {s : Span} :
    m.add? s = none ↔ 9223372036854775808000000000 ≤ m.nanos + s.nanos := by
  have := m.lower
  simp only [add?, ofNanos?, dite_eq_right_iff, reduceCtorEq, imp_false]
  omega

/-- A hundred years of 365 days. -/
def horizon : Span := .ofSeconds 3153600000

/-- The end of a lifetime that begins at a moment: the exact sum, else the horizon, else the moment
itself. -/
def deadline (now : Moment) (lifetime : Span) : Moment :=
  (now.add? lifetime <|> now.add? horizon).getD now

end Moment
end TimedCache
