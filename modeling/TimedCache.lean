import TimedCache.Main
import TimedCache.Session
import TimedCache.Soak.Lockstep
import TimedCache.Proofs.Cache.Refinement
import TimedCache.Proofs.Cache.Representation
import TimedCache.Proofs.Cache.History
import TimedCache.Proofs.Cache.Interruption
import TimedCache.Proofs.Cache.TouchQueue
import TimedCache.Proofs.Soak.Report
import TimedCache.Proofs.Timeline.Edits
import TimedCache.Proofs.Timeline.Insertion
import TimedCache.Proofs.Timeline.Relocation
import TimedCache.Proofs.Cache.Overwriting
import TimedCache.Proofs.Cache.Retiming
import TimedCache.Proofs.Cache.Expiry
import TimedCache.Proofs.Cache.Commuting
import TimedCache.Proofs.Cache.SameMoment
import TimedCache.Proofs.Time.VirtualClock
import TimedCache.Proofs.Timeline.Detachment
import TimedCache.Proofs.Session
import TimedCache.Proofs.Text.Blank
import TimedCache.Proofs.Text.Decimal
import TimedCache.Proofs.Text.Flag
import TimedCache.Proofs.Settings.Source
import TimedCache.Proofs.Settings.Workload
import TimedCache.Proofs.Cache.Spaced
import TimedCache.Proofs.Cache.Unexpired
import TimedCache.Proofs.Soak.SingleWorker
import TimedCache.Proofs.Settings.CacheSettings
