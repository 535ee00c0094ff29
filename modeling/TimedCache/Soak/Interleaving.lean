import TimedCache.Soak.Report

/-!
# Interleavings

The schedules that workers sharing a cache can give rise to: each worker carries out its operations
in order, the workers take turns in any way, and time does not go backwards.
-/
namespace TimedCache.Soak

/-- A list is an interleaving of others if it takes all their elements, each time the head of any
one of them. -/
inductive Interleaving {α : Type} : List (List α) → List α → Prop
  | done {ls : List (List α)} : (∀ l ∈ ls, l = []) → Interleaving ls []
  | turn {ls : List (List α)} {i : Nat} {a : α} {rest out : List α} :
      ls[i]? = some (a :: rest) → Interleaving (ls.set i rest) out → Interleaving ls (a :: out)

/-- The operations of all workers, one list for each. -/
def allOperations (w : Workload) : List (List Operation) :=
  (List.range w.workers.toNat).map fun worker => operations w (.ofNat worker)

/-- A schedule that the workers of a workload can give rise to. -/
structure Schedule.Admissible (w : Workload) (s : Schedule) : Prop where
  interleaved : Interleaving (allOperations w) (s.map Prod.snd)
  ordered : (s.map Prod.fst).Pairwise (· ≤ ·)

end TimedCache.Soak
