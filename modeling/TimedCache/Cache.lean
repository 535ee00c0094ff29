import Std.Data.ExtHashMap
import TimedCache.Listener
import TimedCache.Stats
import TimedCache.Timeline

/-!
# Caches with lifetimes

A cache is an index of keys over a timeline of entries. Nothing runs in the background: a read
first sweeps the entries that have expired from the front of the timeline and only then looks for
its key, and a write never sweeps. Time is an argument of each operation, and may go backwards from
one to the next.

The listener is told each pair that a sweep evicts. If that fails, the read ends there; the pair is
evicted and counted all the same, and the rest of the cache is as before. The number of entries that
is kept with the counts is then out of date, until a write or a sweep notes it anew; whoever asks
for statistics is given the number present.
-/
namespace TimedCache

structure Cache (κ ν : Type) [DecidableEq κ] [Hashable κ] where
  /-- The slot of each key on the timeline. -/
  index : Std.ExtHashMap κ SlotId
  timeline : Timeline κ ν
  tally : Tally
  /-- The number of entries as it was last noted. -/
  noted : Nat
  listener : Option (Listener κ ν)
  /-- Whether a hit lets the lifetime of its entry begin anew. -/
  refreshOnRead : Bool

/-- The outcome of a sweep: the pairs evicted, in order, and whether the listener failed on the
last one. -/
structure Sweep (κ ν : Type) [DecidableEq κ] [Hashable κ] where
  cache : Cache κ ν
  evicted : List (κ × ν)
  interrupted : Bool

/-- What a read finds. -/
inductive Outcome (ν : Type) where
  | hit (value : ν)
  | miss
  /-- The listener failed during the sweep, so that the key was not looked for. -/
  | interrupted
  deriving DecidableEq

/-- The value that a read answers, if it answers: on a miss, the default value. -/
def Outcome.answer? {ν : Type} [Inhabited ν] : Outcome ν → Option ν
  | hit v => some v
  | miss => some default
  | interrupted => none

/-- The outcome of a read and the pairs that its sweep evicted. -/
structure Reading (κ ν : Type) [DecidableEq κ] [Hashable κ] where
  cache : Cache κ ν
  evicted : List (κ × ν)
  outcome : Outcome ν

namespace Cache

variable {κ ν : Type} [DecidableEq κ] [Hashable κ]

def empty (refreshOnRead : Bool) : Cache κ ν := ⟨∅, .empty, .zero, 0, none, refreshOnRead⟩

/-- The number of entries present, expired ones not yet swept included. -/
def size (c : Cache κ ν) : Nat := c.index.size

def isEmpty (c : Cache κ ν) : Bool := c.timeline.isEmpty

/-- The statistics as they are kept. -/
def kept (c : Cache κ ν) : Stats := ⟨c.tally, c.noted⟩

/-- The statistics that are given out: with the number of entries present, whatever was noted. -/
def stats (c : Cache κ ν) : Stats := c.kept.withEntries c.size

def record (c : Cache κ ν) (e : Event) : Cache κ ν := { c with tally := c.tally.record e }

/-- Notes the number of entries present. -/
def note (c : Cache κ ν) : Cache κ ν := { c with noted := c.size }

/-! ### Sweeping -/

/-- Registers a listener in place of the one before. -/
def listen (c : Cache κ ν) (l : Listener κ ν) : Cache κ ν := { c with listener := some l }

/-- Tells the listener a pair, and says whether that failed. -/
def tell (c : Cache κ ν) (p : κ × ν) : Cache κ ν × Bool :=
  match c.listener with
  | none => (c, false)
  | some l => ({ c with listener := some (l.hear p) }, l.fails l.heard p)

/-- Takes out the entry with the earliest deadline if it has expired. -/
def evictFirst? (c : Cache κ ν) (now : Moment) : Option ((κ × ν) × Cache κ ν) := do
  let i ← c.timeline.first?
  let e ← c.timeline.entry? i
  if e.ExpiredAt now then
    let (e, timeline) ← (c.timeline.detach i).vacate? i
    some (e.pair, { c with index := c.index.erase e.key, timeline }.record .eviction)
  else none

/-- Evicts expired entries, at most as many as given, up to a call of the listener that fails. -/
def evictUpTo (now : Moment) : Nat → Cache κ ν → Sweep κ ν
  | 0, c => ⟨c, [], false⟩
  | n + 1, c =>
    match c.evictFirst? now with
    | none => ⟨c, [], false⟩
    | some (p, c) =>
      match c.tell p with
      | (c, true) => ⟨c, [p], true⟩
      | (c, false) => let s := evictUpTo now n c; { s with evicted := p :: s.evicted }

/-- A sweep with at most as many evictions as given. The number of entries left is noted if some
were evicted, but not after a call of the listener that fails. -/
def sweepUpTo (now : Moment) (n : Nat) (c : Cache κ ν) : Sweep κ ν :=
  let s := evictUpTo now n c
  if s.interrupted || s.evicted.isEmpty then s else { s with cache := s.cache.note }

/-- Evicts the expired entries, the earliest deadline first, up to a call of the listener that
fails. There are no more entries than slots. -/
def sweep (c : Cache κ ν) (now : Moment) : Sweep κ ν := sweepUpTo now c.timeline.slots.size c

/-! ### Reading and writing -/

/-- The entry of a key, live or not. -/
def lookup? (c : Cache κ ν) (key : κ) : Option (Entry κ ν) :=
  c.index[key]?.bind c.timeline.entry?

/-- The live entry of a key, with its slot. -/
def live? (c : Cache κ ν) (key : κ) (now : Moment) : Option (SlotId × Entry κ ν) := do
  let i ← c.index[key]?
  let e ← c.timeline.entry? i
  if e.LiveAt now then some (i, e) else none

/-- Lets the lifetime of the entry in a slot begin anew and moves it to its new place. -/
def renew (c : Cache κ ν) (i : SlotId) (now : Moment) : Cache κ ν :=
  { c with timeline := (c.timeline.update i (·.renew now)).relocate i }

/-- Sweeps, then looks for the live entry of a key. -/
def get (c : Cache κ ν) (key : κ) (now : Moment) : Reading κ ν :=
  let s := c.sweep now
  if s.interrupted then ⟨s.cache, s.evicted, .interrupted⟩ else
    match s.cache.live? key now with
    | none => ⟨s.cache.record .miss, s.evicted, .miss⟩
    | some (i, e) =>
      let c := if s.cache.refreshOnRead then s.cache.renew i now else s.cache
      ⟨c.record .hit, s.evicted, .hit e.value⟩

/-- Stores a value for a lifetime. A key that is present keeps its slot; its value and lifetime are
replaced, also when it has expired. -/
def put (c : Cache κ ν) (key : κ) (value : ν) (lifetime : Span) (now : Moment) : Cache κ ν :=
  note <|
    match c.index[key]? with
    | some i =>
      let timeline := c.timeline.update i fun e => { e with value, lifetime }.renew now
      { c with timeline := timeline.relocate i }.record .overwrite
    | none =>
      let (i, timeline) := c.timeline.store (.start key value lifetime now)
      { c with index := c.index.insert key i, timeline := timeline.place i }

/-! ### Description -/

def toRecord (c : Cache κ ν) : Record where
  title := "TtlCache"
  fields := [("entries", toString c.size), ("refresh_on_read", toString c.refreshOnRead),
    ("has_eviction_callback", toString c.listener.isSome)]
  more := false

end Cache
end TimedCache
