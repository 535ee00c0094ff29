import TimedCache.Settings.Source
import TimedCache.Text.Record

/-!
# Settings of a cache

A cache has one setting that can come from a variable: whether a hit lets the lifetime of its entry
begin anew. The text of the settings leaves out what else belongs to them.
-/
namespace TimedCache

structure CacheSettings where
  refreshOnRead : Bool
  deriving DecidableEq, Repr

namespace CacheSettings

def standard : CacheSettings := ⟨true⟩

instance : Inhabited CacheSettings := ⟨standard⟩

def load {m : Type → Type} [Monad m] (source : Source m) :
    ExceptT SettingError m CacheSettings := do
  return ⟨← source.flag "TTL_CACHE_REFRESH_ON_READ" standard.refreshOnRead⟩

def toRecord (s : CacheSettings) : Record where
  title := "CacheConfig"
  fields := [("refresh_on_read", toString s.refreshOnRead)]
  more := true

end CacheSettings
end TimedCache
