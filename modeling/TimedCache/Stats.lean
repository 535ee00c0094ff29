import TimedCache.Text.Record

/-!
# Statistics

A tally counts what happens to a cache; statistics are a tally with a number of entries. The counters
are natural numbers: it is assumed that fewer than `2 ^ 64` events of each kind are counted, so that
a counter of 64 bits would not overflow. The hit rate is a quotient of two numbers that are each
rounded to a float first.
-/
namespace TimedCache

/-- What a cache counts. -/
inductive Event where
  | hit
  | miss
  | eviction
  | overwrite
  deriving DecidableEq, Repr

@[ext] structure Tally where
  hits : Nat
  misses : Nat
  evictions : Nat
  overwrites : Nat
  deriving DecidableEq, Repr

namespace Tally

def zero : Tally := ⟨0, 0, 0, 0⟩

def record (t : Tally) : Event → Tally
  | .hit => { t with hits := t.hits + 1 }
  | .miss => { t with misses := t.misses + 1 }
  | .eviction => { t with evictions := t.evictions + 1 }
  | .overwrite => { t with overwrites := t.overwrites + 1 }

def reads (t : Tally) : Nat := t.hits + t.misses

/-- The share of hits among the reads; zero before the first read. -/
def hitRate (t : Tally) : Float :=
  if t.reads = 0 then 0 else Float.ofNat t.hits / Float.ofNat t.reads

end Tally

@[ext] structure Stats extends Tally where
  /-- A number of entries, expired ones not yet swept included. -/
  entries : Nat
  deriving DecidableEq, Repr

namespace Stats

def zero : Stats := ⟨.zero, 0⟩

instance : Inhabited Stats := ⟨zero⟩

def record (s : Stats) (e : Event) : Stats := { s with toTally := s.toTally.record e }
def withEntries (s : Stats) (n : Nat) : Stats := { s with entries := n }

def toRecord (s : Stats) : Record where
  title := "CacheStats"
  fields := [("hits", toString s.hits), ("misses", toString s.misses),
    ("evictions", toString s.evictions), ("overwrites", toString s.overwrites),
    ("total_entries", toString s.entries)]
  more := false

end Stats
end TimedCache
