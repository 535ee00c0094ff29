import TimedCache.Text.Record
import TimedCache.Time.Moment

/-!
# Virtual clocks

A virtual clock moves only when it is told to. Its reading is a 64-bit word of nanoseconds, so one
advance moves it by no more than that word holds, and a reading past the last one wraps to the
first. A shared clock is one such clock with several holders, all of whom see the same reading.
-/
namespace TimedCache

@[ext] structure VirtualClock where
  offset : UInt64
  deriving DecidableEq

namespace VirtualClock

/-- A clock that has not been moved. -/
def start : VirtualClock := ⟨0⟩

instance : Inhabited VirtualClock := ⟨start⟩

/-- The nanoseconds of a span, or the largest 64-bit word if there are more. -/
def stride (step : Span) : UInt64 := .ofNat (min step.nanos (UInt64.size - 1))

def advance (c : VirtualClock) (step : Span) : VirtualClock := ⟨c.offset + stride step⟩

/-- How far the clock stands from where it started. -/
def elapsed (c : VirtualClock) : Span := .ofNanos c.offset

/-- The reading of the clock; the clock starts at the origin. -/
def now (c : VirtualClock) : Moment :=
  ⟨c.offset.toNat, by omega, by have := c.offset.toNat_lt; omega⟩

def toRecord (c : VirtualClock) : Record where
  title := "ManualClock"
  fields := [("elapsed", c.elapsed.text)]
  more := false

end VirtualClock

/-- One clock held through several handles, which are numbered from zero. -/
structure SharedClock where
  clock : VirtualClock
  handles : Nat
  deriving DecidableEq

namespace SharedClock

/-- A clock that has not been moved, with one holder. -/
def start : SharedClock := ⟨.start, 1⟩

/-- Moves the clock through one of its handles; a number that is no handle moves nothing. -/
def advance (c : SharedClock) (handle : Nat) (step : Span) : SharedClock :=
  if handle < c.handles then { c with clock := c.clock.advance step } else c

/-- A further handle on the same clock, and its number. -/
def share (c : SharedClock) : Nat × SharedClock := (c.handles, { c with handles := c.handles + 1 })

/-- The clock as seen through a handle. -/
def through? (c : SharedClock) (handle : Nat) : Option VirtualClock :=
  if handle < c.handles then some c.clock else none

/-- What each holder sees, in the order of the handles. -/
def readings (c : SharedClock) : List Span := List.replicate c.handles c.clock.elapsed

end SharedClock
end TimedCache
