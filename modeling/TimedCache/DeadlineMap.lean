import TimedCache.Cache.Request

/-!
# Deadline maps

A deadline map answers the requests to a cache by its rules alone. Its entries lie in no order, but
each has a stamp, drawn anew whenever its lifetime begins, so that of two entries with the same
deadline the one whose lifetime began first leaves first. Nothing of the operations of a cache is
used: what is counted, compared, told and answered is written out.
-/
namespace TimedCache

structure Stamped (κ ν : Type) extends Entry κ ν where
  stamp : Nat
  deriving DecidableEq

/-- What is seen of a request: the reply, the value that a read answers, and the pairs evicted on
the way. -/
structure Seen (κ ν : Type) where
  reply : Reply ν
  answered : Option ν
  evicted : List (κ × ν)
  deriving DecidableEq

structure DeadlineMap (κ ν : Type) where
  residents : List (Stamped κ ν)
  /-- The next stamp, greater than all that were drawn. -/
  fresh : Nat
  tally : Tally
  listener : Option (Listener κ ν)
  refreshOnRead : Bool

namespace DeadlineMap

variable {κ ν : Type} [DecidableEq κ]

def empty (refreshOnRead : Bool) : DeadlineMap κ ν := ⟨[], 0, ⟨0, 0, 0, 0⟩, none, refreshOnRead⟩

def find? (m : DeadlineMap κ ν) (key : κ) : Option (Stamped κ ν) :=
  m.residents.find? fun e => e.key = key

/-- Stores an entry under its key with a fresh stamp. -/
def insert (m : DeadlineMap κ ν) (e : Entry κ ν) : DeadlineMap κ ν :=
  { m with
    residents := { e with stamp := m.fresh } :: m.residents.filter fun f => f.key ≠ e.key
    fresh := m.fresh + 1 }

def stats (m : DeadlineMap κ ν) : Stats := ⟨m.tally, m.residents.length⟩

/-- The order in which entries leave. -/
def leavesBefore (a b : Stamped κ ν) : Bool :=
  a.deadline < b.deadline || (a.deadline = b.deadline && a.stamp ≤ b.stamp)

/-- The entries that have expired, in the order in which they leave. -/
def due (m : DeadlineMap κ ν) (now : Moment) : List (Stamped κ ν) :=
  (m.residents.filter fun e => e.deadline < now).mergeSort leavesBefore

/-- Of the entries that are due, those that leave: all, or those up to the first with which the
listener fails. Also whether it failed, and the listener afterwards. -/
def handOut : Option (Listener κ ν) → List (Stamped κ ν) →
    List (Stamped κ ν) × Bool × Option (Listener κ ν)
  | none, es => (es, false, none)
  | some l, [] => ([], false, some l)
  | some l, e :: es =>
    let told := { l with heard := l.heard ++ [(e.key, e.value)] }
    if l.fails l.heard (e.key, e.value) then ([e], true, some told)
    else
      let (gone, failed, l) := handOut (some told) es
      (e :: gone, failed, l)

/-- Removes what leaves now; also the pairs removed, in order, and whether the listener failed. -/
def sweep (m : DeadlineMap κ ν) (now : Moment) : DeadlineMap κ ν × List (κ × ν) × Bool :=
  let (gone, failed, listener) := handOut m.listener (m.due now)
  let kept := m.residents.filter fun e => ∀ g ∈ gone, g.key ≠ e.key
  let tally := { m.tally with evictions := m.tally.evictions + gone.length }
  ({ m with residents := kept, tally, listener }, gone.map fun e => (e.key, e.value), failed)

def put (m : DeadlineMap κ ν) (key : κ) (value : ν) (lifetime : Span) (now : Moment) :
    DeadlineMap κ ν :=
  let m := if (m.find? key).isSome then
      { m with tally := { m.tally with overwrites := m.tally.overwrites + 1 } }
    else m
  m.insert ⟨key, value, lifetime, now.deadline lifetime⟩

/-- Sweeps, then answers the value of the key if its deadline is to come, and else the default. -/
def get [Inhabited ν] (m : DeadlineMap κ ν) (key : κ) (now : Moment) :
    Seen κ ν × DeadlineMap κ ν :=
  match m.sweep now with
  | (m, evicted, true) => (⟨.read .interrupted, none, evicted⟩, m)
  | (m, evicted, false) =>
    match (m.find? key).filter fun e => now < e.deadline with
    | none =>
      let tally := { m.tally with misses := m.tally.misses + 1 }
      (⟨.read .miss, some default, evicted⟩, { m with tally })
    | some e =>
      let m := if m.refreshOnRead then
          m.insert { e.toEntry with deadline := now.deadline e.lifetime }
        else m
      let tally := { m.tally with hits := m.tally.hits + 1 }
      (⟨.read (.hit e.value), some e.value, evicted⟩, { m with tally })

def toRecord (m : DeadlineMap κ ν) : Record where
  title := "TtlCache"
  fields := [("entries", toString m.residents.length),
    ("refresh_on_read", toString m.refreshOnRead),
    ("has_eviction_callback", toString m.listener.isSome)]
  more := false

/-- Answers a request: what is seen of it, and the map afterwards. -/
def perform [Inhabited ν] (m : DeadlineMap κ ν) (now : Moment) :
    Request κ ν → Seen κ ν × DeadlineMap κ ν
  | .put key value lifetime => (⟨.done, none, []⟩, m.put key value lifetime now)
  | .get key => m.get key now
  | .listen l => (⟨.done, none, []⟩, { m with listener := some l })
  | .size => (⟨.number m.residents.length, none, []⟩, m)
  | .isEmpty => (⟨.truth m.residents.isEmpty, none, []⟩, m)
  | .stats => (⟨.stats m.stats, none, []⟩, m)
  | .refreshOnRead => (⟨.truth m.refreshOnRead, none, []⟩, m)
  | .describe => (⟨.record m.toRecord, none, []⟩, m)

/-- Answers timed requests in order: what is seen of each, and the map at the end. -/
def run [Inhabited ν] (m : DeadlineMap κ ν) :
    List (Moment × Request κ ν) → List (Seen κ ν) × DeadlineMap κ ν
  | [] => ([], m)
  | (now, r) :: rest =>
    let (seen, m) := m.perform now r
    let (others, m) := m.run rest
    (seen :: others, m)

end DeadlineMap
end TimedCache
