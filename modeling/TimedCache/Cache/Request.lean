import TimedCache.Cache

/-!
# Requests

The operations of a cache as data: a request is answered at a moment by a reply, the pairs evicted
on the way and the cache afterwards. A run answers timed requests one after the other.
-/
namespace TimedCache

inductive Request (κ ν : Type) where
  | put (key : κ) (value : ν) (lifetime : Span)
  | get (key : κ)
  | listen (listener : Listener κ ν)
  | size
  | isEmpty
  | stats
  | refreshOnRead
  | describe

inductive Reply (ν : Type) where
  | done
  | read (outcome : Outcome ν)
  | number (n : Nat)
  | truth (b : Bool)
  | stats (s : Stats)
  | record (r : Record)
  deriving DecidableEq

/-- The value that a request answers, if it is a read that answers. -/
def Reply.answer? {ν : Type} [Inhabited ν] : Reply ν → Option ν
  | read o => o.answer?
  | _ => none

structure Answer (κ ν : Type) [DecidableEq κ] [Hashable κ] where
  reply : Reply ν
  evicted : List (κ × ν)
  cache : Cache κ ν

namespace Cache

variable {κ ν : Type} [DecidableEq κ] [Hashable κ]

def perform (c : Cache κ ν) (now : Moment) : Request κ ν → Answer κ ν
  | .put key value lifetime => ⟨.done, [], c.put key value lifetime now⟩
  | .get key => let r := c.get key now; ⟨.read r.outcome, r.evicted, r.cache⟩
  | .listen l => ⟨.done, [], c.listen l⟩
  | .size => ⟨.number c.size, [], c⟩
  | .isEmpty => ⟨.truth c.isEmpty, [], c⟩
  | .stats => ⟨.stats c.stats, [], c⟩
  | .refreshOnRead => ⟨.truth c.refreshOnRead, [], c⟩
  | .describe => ⟨.record c.toRecord, [], c⟩

/-- Answers timed requests in order: the replies, each with what was evicted on the way, and the
cache at the end. -/
def run (c : Cache κ ν) : List (Moment × Request κ ν) → List (Reply ν × List (κ × ν)) × Cache κ ν
  | [] => ([], c)
  | (now, r) :: rest =>
    let a := c.perform now r
    let (replies, c) := a.cache.run rest
    ((a.reply, a.evicted) :: replies, c)

end Cache
end TimedCache
