import TimedCache.Settings.Source
import TimedCache.Text.Record
import TimedCache.Time.Span

/-!
# Workloads

A workload says how many workers share a cache, from how many keys they draw, how many operations
each carries out, the lifetime of what they write and their pause between two operations.

All variables are read before any of them is judged, so that a malformed one is reported rather
than a lack of workers or keys.
-/
namespace TimedCache

structure Workload where
  workers : UInt64
  keys : UInt64
  operations : UInt64
  lifetimeMillis : UInt64
  pauseMillis : UInt64
  deriving DecidableEq, Repr

namespace Workload

def standard : Workload where
  workers := 4
  keys := 64
  operations := 1000
  lifetimeMillis := 50
  pauseMillis := 1

instance : Inhabited Workload := ⟨standard⟩

/-- The workload as the variables set it. -/
def read {m : Type → Type} [Monad m] (source : Source m) : ExceptT SettingError m Workload := do
  return {
    workers := ← source.word Need.workers.variable standard.workers
    keys := ← source.word Need.keys.variable standard.keys
    operations := ← source.word "SOAK_OPS_PER_WORKER" standard.operations
    lifetimeMillis := ← source.word "SOAK_TTL_MS" standard.lifetimeMillis
    pauseMillis := ← source.word "SOAK_OP_INTERVAL_MS" standard.pauseMillis }

/-- A workload needs workers in the first place and keys in the second. -/
def check (w : Workload) : Except SettingError Workload :=
  if w.workers = 0 then .error (.lacking .workers)
  else if w.keys = 0 then .error (.lacking .keys)
  else .ok w

def load {m : Type → Type} [Monad m] (source : Source m) : ExceptT SettingError m Workload := do
  let w ← read source
  ExceptT.mk (pure w.check)

def lifetime (w : Workload) : Span := .ofMillis w.lifetimeMillis
def pause (w : Workload) : Span := .ofMillis w.pauseMillis

def toRecord (w : Workload) : Record where
  title := "SoakConfig"
  fields := [("workers", toString w.workers), ("keys", toString w.keys),
    ("ops_per_worker", toString w.operations), ("ttl_ms", toString w.lifetimeMillis),
    ("op_interval_ms", toString w.pauseMillis)]
  more := false

end Workload
end TimedCache
