import TimedCache.Proofs.Cache.OneLifetime
import TimedCache.Proofs.Cache.OneListener
import TimedCache.Proofs.Settings.Workload
import TimedCache.Proofs.Soak.Schedule

/-!
# What a report adds up to

How many reads hit and how many entries expire depends on the schedule; the sums do not. Each read
is a hit or a miss, and once the last lifetime is over before the closing read, each write has been
replaced or evicted.
-/
namespace TimedCache.Soak

variable {w : Workload} {s : Settings} {schedule : Schedule} {closing : Moment}

/-! ### The requests of a run -/

/-- The requests of a schedule before the closing read. -/
def asked (w : Workload) (schedule : Schedule) : List (Moment × Request String UInt64) :=
  schedule.map fun p => (p.1, p.2.request w)

theorem requests_eq (w : Workload) (schedule : Schedule) (closing : Moment) :
    requests w schedule closing = asked w schedule ++ [(closing, .get "")] := rfl

theorem forall_mem_requests {p : Moment × Request String UInt64 → Prop} :
    (∀ r ∈ requests w schedule closing, p r) ↔
      (∀ o ∈ schedule, p (o.1, o.2.request w)) ∧ p (closing, .get "") := by
  rw [requests, List.forall_mem_append, List.forall_mem_map, List.forall_mem_singleton]

theorem keepsListener_request (w : Workload) (o : Operation) : (o.request w).KeepsListener := by
  cases o <;> trivial

theorem writesFor_request (w : Workload) (o : Operation) :
    (o.request w).WritesFor w.lifetime := by
  cases o with
  | write key value => rfl
  | read key => trivial

theorem isRead_request (w : Workload) (o : Operation) : (o.request w).isRead = !o.isWrite := by
  cases o <;> rfl

theorem length_written (w : Workload) (schedule : Schedule) (closing : Moment) :
    (written (requests w schedule closing)).length = schedule.countP (·.2.isWrite) := by
  induction schedule with
  | nil => rfl
  | cons o schedule ih =>
    show (written ((o.1, o.2.request w) :: requests w schedule closing)).length = _
    rw [written_cons, List.length_append, ih, List.countP_cons]
    cases o.2 <;> simp [Operation.request, Request.written?, Operation.isWrite, Nat.add_comm]

/-- The operations that do not write read, and the run closes with one more read. -/
theorem countP_isRead_requests (w : Workload) (schedule : Schedule) (closing : Moment) :
    (requests w schedule closing).countP (·.2.isRead) + schedule.countP (·.2.isWrite) =
      schedule.length + 1 := by
  induction schedule with
  | nil => rfl
  | cons o schedule ih =>
    show List.countP _ ((o.1, o.2.request w) :: requests w schedule closing) + _ = _
    rw [List.countP_cons, List.countP_cons, isRead_request, List.length_cons]
    cases o.2.isWrite <;> simp <;> omega

/-! ### The cache of a run -/

theorem wellFormed_start (s : Settings) : (start s).WellFormed :=
  (Cache.wellFormed_empty s.cache.refreshOnRead).perform .origin (.listen (.silent "soak"))

theorem unfailing_start (s : Settings) : ∀ l ∈ (start s).listener, l.Unfailing := by
  intro l hl
  obtain rfl := Option.some.inj hl
  exact fun _ _ => rfl

theorem unfailing_asked (s : Settings) (schedule : Schedule) :
    ∀ l ∈ ((start s).run (asked s.workload schedule)).2.listener, l.Unfailing :=
  (wellFormed_start s).unfailing_run (unfailing_start s)
    (List.forall_mem_map.mpr fun o _ => (keepsListener_request s.workload o.2).unfailing)

theorem keepsListener_requests (w : Workload) (schedule : Schedule) (closing : Moment) :
    ∀ r ∈ requests w schedule closing, r.2.KeepsListener :=
  forall_mem_requests.mpr ⟨fun o _ => keepsListener_request w o.2, trivial⟩

/-! ### The report of a run -/

theorem tally_run (s : Settings) (rs : List (Moment × Request String UInt64)) :
    ((start s).run rs).2.tally =
      { hits := ((start s).run rs).1.countP (·.1.isHit)
        misses := ((start s).run rs).1.countP (·.1.isMiss)
        evictions := ((start s).evicted rs).length
        overwrites := ((start s).replaced rs).length } := by
  have zero : (start s).tally = .zero := rfl
  have tally := (wellFormed_start s).tally_run rs
  simpa only [zero, Tally.zero, Nat.zero_add] using tally

/-- Each operation that does not write is counted as a hit or as a miss, and the closing read. -/
theorem hits_add_misses_run (s : Settings) (schedule : Schedule) (closing : Moment) :
    (run s schedule closing).stats.hits + (run s schedule closing).stats.misses +
      schedule.countP (·.2.isWrite) = schedule.length + 1 := by
  let rs := requests s.workload schedule closing
  have answered := (wellFormed_start s).countP_isAnswer_run (unfailing_start s) fun r hr =>
    (keepsListener_requests s.workload schedule closing r hr).unfailing
  show ((start s).run rs).2.tally.hits + ((start s).run rs).2.tally.misses + _ = _
  rw [tally_run, ← Reply.countP_isAnswer, answered]
  exact countP_isRead_requests s.workload schedule closing

/-- The listener is told each eviction. -/
theorem callbackEvictions_run (s : Settings) (schedule : Schedule) (closing : Moment) :
    (run s schedule closing).callbackEvictions = (run s schedule closing).stats.evictions := by
  let rs := requests s.workload schedule closing
  have heard := (wellFormed_start s).listener_run
    (keepsListener_requests s.workload schedule closing)
  show (List.map _ ((((start s).run rs).2.listener.map Listener.heard).getD [])).length =
    ((start s).run rs).2.tally.evictions
  rw [heard, tally_run, List.length_map]
  rfl

section Late

variable (late : ∀ o ∈ schedule, o.1.nanos + s.workload.lifetime.nanos < closing.nanos)
include late

theorem uniform_asked :
    ((start s).run (asked s.workload schedule)).2.Uniform s.workload.lifetime (· < closing) := by
  have first : (start s).Uniform s.workload.lifetime (· < closing) :=
    ⟨wellFormed_start s, fun e he => absurd he List.not_mem_nil⟩
  refine first.run (List.forall_mem_map.mpr fun o _ => writesFor_request _ o.2) fun now hn => ?_
  obtain ⟨r, hr, rfl⟩ := List.mem_map.mp hn
  obtain ⟨o, ho, rfl⟩ := List.mem_map.mp (List.mem_of_mem_filter hr)
  exact Moment.deadline_lt (late o ho)

/-- When all lifetimes are over before the closing read, that leaves no entries. -/
theorem contents_run : ((start s).run (requests s.workload schedule closing)).2.contents = [] := by
  have before := uniform_asked late
  rw [requests_eq, Cache.run_append]
  exact before.wellFormed.contents_get_eq_nil (unfailing_asked s schedule)
    (fun e he => (before.entries e he).2) ""

theorem entries_run : (run s schedule closing).stats.entries = 0 :=
  ((wellFormed_start s).run _).size_eq.trans (congrArg List.length (contents_run late))

/-- Then each write has been replaced or evicted. -/
theorem overwrites_add_evictions_run :
    (run s schedule closing).stats.overwrites + (run s schedule closing).stats.evictions =
      schedule.countP (·.2.isWrite) := by
  have fresh : (start s).contents = [] := rfl
  have balance := ((wellFormed_start s).balance_run (requests s.workload schedule closing)).length_eq
  simp only [List.length_append, List.length_map, fresh, contents_run late, List.length_nil,
    length_written] at balance
  show ((start s).run _).2.tally.overwrites + ((start s).run _).2.tally.evictions = _
  simp only [tally_run]
  omega

end Late

/-- Whatever turns the workers take, the report of a run of a workload that is accepted counts each
read as a hit or as a miss, the closing read among them, and each write as replaced or as evicted;
the listener was told each eviction; and nothing is left, if the lifetime of the last write would be
over before the closing read. -/
theorem report_accounts {source : Source Id}
    (accepted : (Workload.load source).run = Except.ok s.workload)
    (admissible : schedule.Admissible s.workload)
    (late : ∀ last ∈ schedule.getLast?,
      last.1.nanos + s.workload.lifetime.nanos < closing.nanos) :
    let workers := s.workload.workers.toNat
    let operations := s.workload.operations.toNat
    let report := run s schedule closing
    s.workload.keys ≠ 0 ∧
      report.stats.hits + report.stats.misses = workers * (operations - (operations + 2) / 3) + 1 ∧
      report.stats.overwrites + report.stats.evictions = workers * ((operations + 2) / 3) ∧
      report.callbackEvictions = report.stats.evictions ∧ report.stats.entries = 0 := by
  intro workers operations report
  have ended : ∀ o ∈ schedule, o.1.nanos + s.workload.lifetime.nanos < closing.nanos := by
    intro o ho
    obtain ⟨last, hl, le⟩ := admissible.exists_getLast? o ho
    have := late last hl
    omega
  have length : schedule.length = workers * operations := admissible.length_eq
  have writes : schedule.countP (·.2.isWrite) = workers * ((operations + 2) / 3) :=
    admissible.countP_isWrite
  refine ⟨(Workload.check_eq_ok_iff.mp (Workload.check_of_load accepted)).2.2, ?_,
    (overwrites_add_evictions_run ended).trans writes, callbackEvictions_run s schedule closing,
    entries_run ended⟩
  have reads : report.stats.hits + report.stats.misses + _ = _ :=
    hits_add_misses_run s schedule closing
  rw [length, writes] at reads
  have fewer := Nat.mul_le_mul_left workers (show (operations + 2) / 3 ≤ operations by omega)
  rw [Nat.mul_sub]
  omega

/-- Two workers with four operations each, one after the other. -/
def twoWorkers : Workload := { Workload.standard with workers := 2, operations := 4 }

theorem report_of_twoWorkers :
    let environment : Source Id := fun name =>
      if name = "SOAK_WORKERS" then some "2"
      else if name = "SOAK_OPS_PER_WORKER" then some " 4 " else none
    let schedule := (allOperations twoWorkers).flatten.map fun o => (Moment.origin, o)
    let closing := Moment.origin.plus (.ofSeconds 1)
    let report := run ⟨.standard, twoWorkers⟩ schedule closing
    (Workload.load environment).run = Except.ok twoWorkers ∧
      report.stats.hits + report.stats.misses = 5 ∧
      report.stats.overwrites + report.stats.evictions = 4 ∧
      report.callbackEvictions = report.stats.evictions ∧ report.stats.entries = 0 := by
  intro environment schedule closing report
  have accepted : (Workload.load environment).run = Except.ok twoWorkers := by
    rfl
  have admissible : Schedule.Admissible twoWorkers schedule := admissible_flatten twoWorkers .origin
  have late : ∀ last ∈ schedule.getLast?,
      last.1.nanos + twoWorkers.lifetime.nanos < closing.nanos := by
    intro last hl
    obtain ⟨o, -, rfl⟩ := List.mem_map.mp (List.mem_of_getLast? hl)
    have ended : Moment.origin.nanos + twoWorkers.lifetime.nanos < closing.nanos := by decide
    exact ended
  obtain ⟨-, reads, writes, told, none⟩ :=
    report_accounts (s := ⟨.standard, twoWorkers⟩) accepted admissible late
  exact ⟨accepted, reads, writes, told, none⟩

end TimedCache.Soak
