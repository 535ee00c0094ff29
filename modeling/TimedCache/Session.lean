import TimedCache.Cache.Request
import TimedCache.Time.VirtualClock

/-!
# Sessions

A session is a cache with a virtual clock beside it. The cache reads that clock, or stands still at
the moment at which the session began. Each step tells, besides the reply, the calls that the
listener received.
-/
namespace TimedCache

/-- What a session is asked to do. -/
inductive Command (κ ν : Type) where
  | request (r : Request κ ν)
  | advance (step : Span)

/-- What a session replies: the reply of the cache, or where the clock stands. -/
inductive Response (ν : Type) where
  | reply (r : Reply ν)
  | elapsed (s : Span)
  deriving DecidableEq

structure Session (κ ν : Type) [DecidableEq κ] [Hashable κ] where
  cache : Cache κ ν
  clock : VirtualClock
  /-- Whether the cache reads the clock. -/
  attached : Bool

/-- The response to a command, the calls of the listener on the way, and the session afterwards. -/
structure Turn (κ ν : Type) [DecidableEq κ] [Hashable κ] where
  response : Response ν
  notices : List (Notice κ ν)
  session : Session κ ν

namespace Session

variable {κ ν : Type} [DecidableEq κ] [Hashable κ]

def start (refreshOnRead attached : Bool) : Session κ ν := ⟨.empty refreshOnRead, .start, attached⟩

/-- The moment at which the cache believes to be. -/
def now (s : Session κ ν) : Moment := if s.attached then s.clock.now else .origin

/-- The calls in which the listener of a cache is told the pairs given. -/
def notices (s : Session κ ν) (evicted : List (κ × ν)) : List (Notice κ ν) :=
  (s.cache.listener.map (·.notices evicted)).getD []

def step (s : Session κ ν) : Command κ ν → Turn κ ν
  | .request r =>
    let a := s.cache.perform s.now r
    ⟨.reply a.reply, s.notices a.evicted, { s with cache := a.cache }⟩
  | .advance step =>
    let clock := s.clock.advance step
    ⟨.elapsed clock.elapsed, [], { s with clock }⟩

end Session
end TimedCache
