/-!
# Eviction listeners

A listener is told each pair that is evicted. Being told may fail, depending on the pair and on
what the listener was told before; a call that fails counts as one that was made.
-/
namespace TimedCache

structure Listener (κ ν : Type) where
  name : String
  /-- Whether the call with a pair fails, after calls with the pairs listed. -/
  fails : List (κ × ν) → κ × ν → Bool
  /-- The pairs told so far, in order. -/
  heard : List (κ × ν)

/-- A call of a listener: who was told what, and the number of the call. -/
structure Notice (κ ν : Type) where
  listener : String
  number : Nat
  key : κ
  value : ν
  deriving DecidableEq

namespace Listener

variable {κ ν : Type}

/-- A listener that was told nothing yet. -/
def fresh (name : String) (fails : List (κ × ν) → κ × ν → Bool) : Listener κ ν := ⟨name, fails, []⟩

/-- A listener for which no call fails. -/
def silent (name : String) : Listener κ ν := fresh name fun _ _ => false

/-- A listener that fails whenever it is told a pair with the key given. -/
def refusing [DecidableEq κ] (name : String) (key : κ) : Listener κ ν :=
  fresh name fun _ p => p.1 = key

/-- The listener after a call. -/
def hear (l : Listener κ ν) (p : κ × ν) : Listener κ ν := { l with heard := l.heard ++ [p] }

/-- The next calls of a listener, given the pairs that it is told. -/
def notices (l : Listener κ ν) (ps : List (κ × ν)) : List (Notice κ ν) :=
  ps.mapIdx fun i p => ⟨l.name, l.heard.length + i + 1, p.1, p.2⟩

end Listener
end TimedCache
