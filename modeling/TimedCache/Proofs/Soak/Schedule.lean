import Mathlib.Algebra.BigOperators.Group.List.Basic
import TimedCache.Soak.Interleaving

/-!
# What is on a schedule

Taking turns does not change what is done in all: a schedule has the operations of each worker, and
of these every third is a write, from the first on.
-/
namespace TimedCache.Soak

/-! ### Interleavings -/

section Interleavings

variable {α : Type} {ls : List (List α)} {l out rest : List α} {i : Nat} {a : α}

theorem cons_flatten_set_perm (h : ls[i]? = some (a :: rest)) :
    (a :: (ls.set i rest).flatten).Perm ls.flatten := by
  induction ls generalizing i with
  | nil => simp at h
  | cons l ls ih =>
    cases i with
    | zero =>
      obtain rfl : l = a :: rest := by simpa using h
      exact .refl _
    | succ i =>
      have step := (ih (by simpa using h)).append_left l
      exact List.perm_middle.symm.trans step

theorem Interleaving.perm (h : Interleaving ls out) : out.Perm ls.flatten := by
  induction h with
  | done none => rw [List.flatten_eq_nil_iff.mpr none]
  | turn head _ ih => exact (ih.cons _).trans (cons_flatten_set_perm head)

/-- One list more, all of which comes first. -/
theorem Interleaving.cons (h : Interleaving ls out) (l : List α) :
    Interleaving (l :: ls) (l ++ out) := by
  induction l with
  | cons a l ih => exact .turn (i := 0) rfl ih
  | nil =>
    induction h with
    | done none => exact .done (by simpa using none)
    | @turn ls i a rest out head _ ih => exact .turn (i := i + 1) head ih

/-- Each list may wait until those before it are done. -/
theorem interleaving_flatten (ls : List (List α)) : Interleaving ls ls.flatten := by
  induction ls with
  | nil => exact .done (by simp)
  | cons l ls ih => exact ih.cons l

end Interleavings

/-! ### Operations -/

def Operation.isWrite : Operation → Bool
  | write .. => true
  | read _ => false

variable {w : Workload} {s : Schedule}

theorem length_operationsFrom (w : Workload) (n number : Nat) (cursor : UInt64) :
    (operationsFrom w n number cursor).length = n := by
  induction n generalizing number cursor with
  | zero => rfl
  | succ n ih => rw [operationsFrom, List.length_cons, ih]

theorem isWrite_ofCursor (w : Workload) (number : Nat) (cursor : UInt64) :
    (Operation.ofCursor w number cursor).isWrite = decide (number % 3 = 0) := by
  unfold Operation.ofCursor
  split <;> simp [Operation.isWrite, *]

/-- The writes with numbers from one on are those below the last, less those below the first. -/
theorem countP_isWrite_operationsFrom (w : Workload) (n number : Nat) (cursor : UInt64) :
    (operationsFrom w n number cursor).countP Operation.isWrite + (number + 2) / 3 =
      (number + n + 2) / 3 := by
  induction n generalizing number cursor with
  | zero => simp [operationsFrom]
  | succ n ih =>
    have rest := ih (number + 1) (advance cursor)
    rw [operationsFrom, List.countP_cons, isWrite_ofCursor]
    by_cases third : number % 3 = 0
    · simp only [third, decide_true, if_true]
      omega
    · simp only [third, decide_false, Bool.false_eq_true, if_false]
      omega

/-- A third of the operations are writes, rounded up. -/
theorem countP_isWrite_operations (w : Workload) (worker : UInt64) :
    (operations w worker).countP Operation.isWrite = (w.operations.toNat + 2) / 3 := by
  simpa [operations] using countP_isWrite_operationsFrom w w.operations.toNat 0 worker

namespace Schedule.Admissible

theorem length_eq (h : s.Admissible w) :
    s.length = w.workers.toNat * w.operations.toNat := by
  have length := h.interleaved.perm.length_eq
  rw [List.length_map, List.length_flatten, allOperations, List.map_map] at length
  simpa [Function.comp_def, operations, length_operationsFrom] using length

theorem countP_isWrite (h : s.Admissible w) :
    s.countP (·.2.isWrite) = w.workers.toNat * ((w.operations.toNat + 2) / 3) := by
  have count := h.interleaved.perm.countP_eq Operation.isWrite
  rw [List.countP_map, List.countP_flatten, allOperations, List.map_map] at count
  simpa [Function.comp_def, countP_isWrite_operations] using count

/-- No operation comes before the first one. -/
theorem exists_head? (h : s.Admissible w) :
    ∀ o ∈ s, ∃ first ∈ s.head?, first.1.nanos ≤ o.1.nanos := by
  intro o ho
  have ordered := h.ordered
  cases s with
  | nil => cases ho
  | cons first s =>
    refine ⟨first, rfl, ?_⟩
    rw [List.map_cons, List.pairwise_cons] at ordered
    obtain rfl | ho := List.mem_cons.mp ho
    · exact Int.le_refl _
    · exact ordered.1 o.1 (List.mem_map_of_mem ho)

/-- No operation comes after the last one. -/
theorem exists_getLast? (h : s.Admissible w) :
    ∀ o ∈ s, ∃ last ∈ s.getLast?, o.1.nanos ≤ last.1.nanos := by
  intro o ho
  have ordered := h.ordered
  obtain rfl | ⟨front, last, rfl⟩ := List.eq_nil_or_concat s
  · cases ho
  · rw [List.concat_eq_append] at ho ordered ⊢
    refine ⟨last, by simp, ?_⟩
    rw [List.map_append, List.pairwise_append] at ordered
    rcases List.mem_append.mp ho with ho | ho
    · exact ordered.2.2 o.1 (List.mem_map_of_mem ho) last.1 (by simp)
    · obtain rfl := List.mem_singleton.mp ho
      exact Int.le_refl _

end Schedule.Admissible

/-- The workers may come one after the other, and all at one moment. -/
theorem admissible_flatten (w : Workload) (now : Moment) :
    Schedule.Admissible w ((allOperations w).flatten.map fun o => (now, o)) where
  interleaved := by
    rw [List.map_map]
    exact (List.map_id _).symm ▸ interleaving_flatten (allOperations w)
  ordered := by
    rw [List.map_map, List.pairwise_map]
    exact List.pairwise_of_forall fun _ _ => Int.le_refl now.nanos

end TimedCache.Soak
