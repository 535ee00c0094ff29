import TimedCache.Settings.CacheSettings
import TimedCache.Settings.Workload

/-!
# Settings of a soak run

A soak run is set by the settings of its cache and by a workload, which are read in this order.
-/
namespace TimedCache.Soak

structure Settings where
  cache : CacheSettings
  workload : Workload
  deriving DecidableEq, Repr

/-- Which settings could not be read, and why. -/
inductive Failure where
  | cache (cause : SettingError)
  | workload (cause : SettingError)
  deriving DecidableEq, Repr

namespace Failure

def context : Failure → String
  | cache _ => "loading cache configuration"
  | workload _ => "loading soak workload"

def cause : Failure → SettingError
  | cache e => e
  | workload e => e

/-- The report of a failure: what was tried, and below it the cause. -/
def text (f : Failure) : String :=
  "Error: " ++ f.context ++ "\n\nCaused by:\n    " ++ f.cause.message ++ "\n"

end Failure

namespace Settings

def load {m : Type → Type} [Monad m] (source : Source m) : ExceptT Failure m Settings := do
  let cache ← (CacheSettings.load source).adapt Failure.cache
  let workload ← (Workload.load source).adapt Failure.workload
  return { cache, workload }

/-- What is announced before the run. -/
def announcement (s : Settings) : String :=
  "Configuration loaded: refresh_on_read=" ++ toString s.cache.refreshOnRead
    ++ ", workers=" ++ toString s.workload.workers ++ ", keys=" ++ toString s.workload.keys
    ++ ", ops_per_worker=" ++ toString s.workload.operations
    ++ ", ttl=" ++ toString s.workload.lifetimeMillis ++ "ms"

end Settings
end TimedCache.Soak
