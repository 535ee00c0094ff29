import TimedCache.Soak.Operation
import TimedCache.Soak.Settings
import TimedCache.Text.Shortest

/-!
# Reports of soak runs

A soak run answers a schedule of timed operations on one cache and then reads the empty key, which
no operation writes, so that this last read sweeps what has expired by then. The report is the same
for every way in which the schedule came about.
-/
namespace TimedCache.Soak

abbrev Schedule := List (Moment × Operation)

structure Report where
  refreshOnRead : Bool
  workload : Workload
  /-- The keys of which the listener was told, in order. -/
  expired : List String
  stats : Stats
  deriving DecidableEq

/-- The cache of a soak run at its beginning. -/
def start (s : Settings) : Cache String UInt64 :=
  (Cache.empty s.cache.refreshOnRead).listen (.silent "soak")

/-- The requests of a schedule, followed by the closing read. -/
def requests (w : Workload) (schedule : Schedule) (closing : Moment) :
    List (Moment × Request String UInt64) :=
  schedule.map (fun p => (p.1, p.2.request w)) ++ [(closing, .get "")]

def report (s : Settings) (c : Cache String UInt64) : Report where
  refreshOnRead := c.refreshOnRead
  workload := s.workload
  expired := ((c.listener.map Listener.heard).getD []).map Prod.fst
  stats := c.stats

/-- The report of a run by a schedule that closes at a given moment. -/
def run (s : Settings) (schedule : Schedule) (closing : Moment) : Report :=
  report s ((start s).run (requests s.workload schedule closing)).2

namespace Report

/-- How many entries the listener was told about. -/
def callbackEvictions (r : Report) : Nat := r.expired.length

/-- The report as indented JSON. -/
def json (r : Report) : String :=
  let fields := [("refresh_on_read", toString r.refreshOnRead),
    ("workload", r.workload.toRecord.indentedJson 1),
    ("callback_evictions", toString r.callbackEvictions),
    ("hit_rate", Shortest.text r.stats.hitRate), ("stats", r.stats.toRecord.indentedJson 1)]
  Record.indentedJson ⟨"SoakReport", fields, false⟩ 0

/-- What is announced after the run. -/
def announcement : String := "Soak run complete"

end Report
end TimedCache.Soak
