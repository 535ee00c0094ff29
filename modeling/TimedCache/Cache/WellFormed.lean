import TimedCache.Cache
import TimedCache.Timeline.Circle

/-!
# Well-formed caches

The invariant of a cache: its timeline is in order, every entry that it holds is on the circle, and
the index leads from the key of each entry to its slot and from no other key to any.
-/
namespace TimedCache.Cache

variable {κ ν : Type} [DecidableEq κ] [Hashable κ]

structure WellFormedAlong (c : Cache κ ν) (is : List SlotId) : Prop where
  accounted : c.timeline.Accounted
  circle : c.timeline.Circle is
  sorted : c.timeline.Sorted is
  onCircle : ∀ i, (c.timeline.entry? i).isSome → i ∈ is
  indexed : ∀ k i, c.index[k]? = some i ↔ i ∈ is ∧ (c.timeline.entry? i).map Entry.key = some k

def WellFormed (c : Cache κ ν) : Prop := ∃ is, c.WellFormedAlong is

end TimedCache.Cache
