import TimedCache.Cache.Request
import TimedCache.Settings.Workload

/-!
# Operations of a soak run

Each worker of a soak run walks over the keys by a linear congruential generator that starts from
the number of the worker. Every third operation writes the state of the generator, from the first
on; the others read.
-/
namespace TimedCache.Soak

/-- A step of the generator, which wraps at 64 bits. -/
def advance (cursor : UInt64) : UInt64 := cursor * 6364136223846793005 + 1442695040888963407

/-- The key to which a state of the generator leads. -/
def keyAt (w : Workload) (cursor : UInt64) : String := "key-" ++ toString ((cursor >>> 33) % w.keys)

inductive Operation where
  | write (key : String) (value : UInt64)
  | read (key : String)
  deriving DecidableEq, Repr

namespace Operation

/-- The operation with a given number, at a state of the generator. -/
def ofCursor (w : Workload) (number : Nat) (cursor : UInt64) : Operation :=
  if number % 3 = 0 then write (keyAt w cursor) cursor else read (keyAt w cursor)

def request (w : Workload) : Operation → Request String UInt64
  | write key value => .put key value w.lifetime
  | read key => .get key

end Operation

/-- The operations of a worker from one with a given number on, `n` of them. -/
def operationsFrom (w : Workload) : (n number : Nat) → (cursor : UInt64) → List Operation
  | 0, _, _ => []
  | n + 1, number, cursor =>
    .ofCursor w number (advance cursor) :: operationsFrom w n (number + 1) (advance cursor)

/-- The operations of a worker. -/
def operations (w : Workload) (worker : UInt64) : List Operation :=
  operationsFrom w w.operations.toNat 0 worker

end TimedCache.Soak
