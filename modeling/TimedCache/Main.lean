import TimedCache.Soak.Report

/-!
# The soak command

Reads the settings from the environment, has the workers share one cache in real time, round after
round, and prints the report.
-/
namespace TimedCache.Soak

/-- The present moment on the clock of the machine, which never goes backwards. -/
def present : IO Moment := do
  return (Moment.ofNanos? (← IO.monoNanosNow)).getD .last

/-- Sleeps for a number of milliseconds, in as many parts as needed. -/
def sleepMillis (n : UInt64) : IO Unit := do
  let longest : Nat := 4294967295
  for _ in [0 : n.toNat / longest] do
    IO.sleep (.ofNat longest)
  IO.sleep (.ofNat (n.toNat % longest))

/-- One round: each worker in turn moves on and carries out the operation with the given number. -/
def playRound (w : Workload) (number : Nat) :
    List UInt64 → Cache String UInt64 → IO (List UInt64 × Cache String UInt64)
  | [], c => return ([], c)
  | cursor :: rest, c => do
    let cursor := advance cursor
    let c := (c.perform (← present) ((Operation.ofCursor w number cursor).request w)).cache
    let (rest, c) ← playRound w number rest c
    return (cursor :: rest, c)

/-- The rounds from one with a given number on, `n` of them, with a pause after each. -/
def playRounds (w : Workload) :
    (n number : Nat) → List UInt64 → Cache String UInt64 → IO (Cache String UInt64)
  | 0, _, _, c => return c
  | n + 1, number, cursors, c => do
    let (cursors, c) ← playRound w number cursors c
    sleepMillis w.pauseMillis
    playRounds w n (number + 1) cursors c

def play (s : Settings) : IO Report := do
  let w := s.workload
  let cursors := (List.range w.workers.toNat).map UInt64.ofNat
  let c ← playRounds w w.operations.toNat 0 cursors (start s)
  sleepMillis w.lifetimeMillis
  return report s (c.get "" (← present)).cache

end TimedCache.Soak

open TimedCache Soak in
def main : IO UInt32 := do
  match ← (Settings.load (m := IO) fun name => IO.getEnv name).run with
  | .error failure =>
    IO.eprint failure.text
    return 1
  | .ok settings =>
    IO.println settings.announcement
    IO.println (← play settings).json
    IO.println Report.announcement
    return 0
