import TimedCache.Time.VirtualClock

/-!
# Moves of a shared clock

What the holders of a shared clock do with it as data: one moves it through a handle, or it gets a
further handle.
-/
namespace TimedCache.SharedClock

inductive Move where
  | advance (handle : Nat) (step : Span)
  | share
  deriving DecidableEq

def move (c : SharedClock) : Move → SharedClock
  | .advance handle step => c.advance handle step
  | .share => c.share.2

/-- The clock after moves in order. -/
def moveAll (c : SharedClock) (ms : List Move) : SharedClock := ms.foldl move c

end TimedCache.SharedClock
