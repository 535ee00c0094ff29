import TimedCache.Soak.Report

/-!
# Lockstep runs

In a lockstep run all workers carry out their operations with the same number at the same moment,
one worker after the other, and the next round follows after the pause and a millisecond. The run
closes when the lifetime has passed after the last pause.
-/
namespace TimedCache.Soak

/-- From one round to the next: the pause, and a millisecond for the operation itself. -/
def round (w : Workload) : Span :=
  ⟨(w.pauseMillis.toNat + 1) * 1000000, by have := w.pauseMillis.toNat_lt; omega⟩

/-- The rounds from one with a given number on, `n` of them, and the moment after the last. -/
def rounds (w : Workload) :
    (n number : Nat) → (now : Moment) → (cursors : List UInt64) → Schedule × Moment
  | 0, _, now, _ => ([], now)
  | n + 1, number, now, cursors =>
    let cursors := cursors.map advance
    let (rest, closing) := rounds w n (number + 1) (now.plus (round w)) cursors
    (cursors.map (fun cursor => (now, .ofCursor w number cursor)) ++ rest, closing)

/-- The lockstep schedule of a workload, and the moment after its last round. -/
def lockstep (w : Workload) : Schedule × Moment :=
  rounds w w.operations.toNat 0 .origin ((List.range w.workers.toNat).map UInt64.ofNat)

/-- The report of a lockstep run. -/
def simulate (s : Settings) : Report :=
  let (schedule, after) := lockstep s.workload
  run s schedule (after.plus s.workload.lifetime)

end TimedCache.Soak
