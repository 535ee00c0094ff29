import TimedCache.Proofs.Cache.Interruption

/-!
# What a sweep takes

A sweep that no listener interrupts takes the expired entries and leaves the others as they were. So
it makes no difference whether one sweep takes them or two do, one after the other.
-/
namespace TimedCache.Cache

variable {κ ν : Type} [DecidableEq κ] [Hashable κ]
variable {c d : Cache κ ν} {now later : Moment}

/-- A sweep that is not interrupted evicts the expired entries, which are in front. -/
theorem WellFormed.take_evicted (h : c.WellFormed) (completed : (c.sweep now).interrupted = false) :
    c.contents.take (c.sweep now).evicted.length = c.contents.filter (·.ExpiredAt now) := by
  have parts := h.ordered.filter_expired_append now
  rw [(h.swept now).evicted_of_completed completed, due, List.length_map]
  nth_rewrite 2 [← parts]
  exact List.take_left

/-! ### One sweep after another -/

/-- What has expired at a later moment is what has expired before, followed by what was left then
and has expired since. -/
theorem WellFormed.due_append (h : c.WellFormed) (earlier : now ≤ later) :
    c.due now ++ ((c.contents.filter (¬·.ExpiredAt now)).filter (·.ExpiredAt later)).map Entry.pair =
      c.due later := by
  have front : (c.contents.filter (·.ExpiredAt now)).filter (·.ExpiredAt later) =
      c.contents.filter (·.ExpiredAt now) := by
    refine List.filter_eq_self.mpr fun e he => decide_eq_true ?_
    exact lt_of_lt_of_le (of_decide_eq_true (List.mem_filter.mp he).2) earlier
  have parts := h.ordered.filter_expired_append now
  rw [due, due]
  nth_rewrite 3 [← parts]
  rw [List.filter_append, List.map_append, front]

/-- A listener that takes all that has expired interrupts neither a sweep at an earlier moment nor the
next one. -/
theorem WellFormed.completed_of_le (h : c.WellFormed)
    (takes : refuses c.listener (c.due later) = false) (earlier : now ≤ later) :
    (c.sweep now).interrupted = false ∧ ((c.sweep now).cache.sweep later).interrupted = false := by
  rw [← h.due_append earlier, refuses_append, Bool.or_eq_false_iff] at takes
  obtain ⟨first, second⟩ := takes
  have swept := h.swept now
  have completed := swept.interrupted.trans first
  refine ⟨completed, (swept.wellFormed.swept later).interrupted.trans ?_⟩
  rw [swept.listener, swept.evicted_of_completed completed]
  rwa [← swept.contents_of_completed h completed] at second

theorem eq_of_core (state : c.core = d.core) (noted : c.noted = d.noted)
    (listener : c.listener = d.listener) : c = d :=
  calc c = { c.core with noted := c.noted, listener := c.listener } := rfl
    _ = { d.core with noted := d.noted, listener := d.listener } := by rw [state, noted, listener]
    _ = d := rfl

/-- Two sweeps that are not interrupted note the number of entries left, if one of them evicts any. -/
theorem WellFormed.noted_sweep_sweep (h : c.WellFormed) (completed : (c.sweep now).interrupted = false)
    (completed' : ((c.sweep now).cache.sweep later).interrupted = false) :
    ((c.sweep now).cache.sweep later).cache.noted =
      if (c.sweep now).evicted ++ ((c.sweep now).cache.sweep later).evicted = [] then c.noted
      else ((c.sweep now).cache.sweep later).cache.size := by
  have first := (h.swept now).wellFormed
  rw [noted_sweep, noted_sweep, completed, completed']
  cases last : ((c.sweep now).cache.sweep later).evicted with
  | cons p ps => simp
  | nil => simp [(first.swept later).size_eq_of_evicted_eq_nil first last]

/-- A sweep leads to the same cache whether or not there was one at an earlier moment, and both
together evict what it would evict alone. -/
theorem WellFormed.sweep_sweep_of_le (h : c.WellFormed)
    (takes : refuses c.listener (c.due later) = false) (earlier : now ≤ later) :
    ((c.sweep now).cache.sweep later).cache = (c.sweep later).cache ∧
      (c.sweep now).evicted ++ ((c.sweep now).cache.sweep later).evicted =
        (c.sweep later).evicted := by
  obtain ⟨completed, completed'⟩ := h.completed_of_le takes earlier
  have whole := h.swept later
  have first := h.swept now
  have second := first.wellFormed.swept later
  have alone := whole.interrupted.trans takes
  obtain ⟨state, evicted⟩ :=
    sweep_resumed c earlier h first.wellFormed rfl rfl alone completed'
  refine ⟨eq_of_core state ?_ ?_, evicted⟩
  · have size : ((c.sweep now).cache.sweep later).cache.size = (c.sweep later).cache.size := by
      rw [← size_core, state, size_core]
    rw [h.noted_sweep_sweep completed completed', evicted, size, noted_sweep c later, alone]
    simp
  · rw [second.listener, first.listener, ← map_hearAll_append, evicted, whole.listener]

/-- Sweeping at an earlier moment afterwards does nothing. -/
theorem WellFormed.sweep_again (h : c.WellFormed) (completed : (c.sweep later).interrupted = false)
    (earlier : now ≤ later) :
    (c.sweep later).cache.sweep now = ⟨(c.sweep later).cache, [], false⟩ :=
  sweepUpTo_of_none ((h.swept later).evictFirst?_eq_none h completed earlier) _

/-- In a well-formed cache whose listener takes them, a sweep takes the entries whose deadlines have
passed, and no others: it comes to an end, however many steps more it is allowed; of the entries on
the timeline those are left, in order, whose deadlines are not before the moment; the index forgets
the keys of the others, and their pairs are told in order, each counted once. A sweep at one moment
and another one at a second moment, before or after it, lead to the cache to which one sweep at the
later of the two leads, and tell the same pairs. -/
theorem sweep_takes_expired (h : c.WellFormed) :
    (∀ now, refuses c.listener (c.due now) = false →
      let s := c.sweep now
      let expired := c.timeline.toList.filter (·.deadline < now)
      s.interrupted = false ∧ s.cache.evictFirst? now = none ∧
        (∀ n, expired.length ≤ n → sweepUpTo now n c = s) ∧
        s.cache.timeline.toList = c.timeline.toList.filter (now ≤ ·.deadline) ∧
        c.Curtailed s.cache expired ∧ s.evicted = expired.map Entry.pair ∧
        s.cache.listener = c.listener.map (·.hearAll (expired.map Entry.pair))) ∧
    ∀ t₁ t₂, refuses c.listener (c.due (max t₁ t₂)) = false →
      let first := c.sweep t₁
      let second := first.cache.sweep t₂
      let once := c.sweep (max t₁ t₂)
      first.interrupted = false ∧ second.interrupted = false ∧ second.cache = once.cache ∧
        first.evicted ++ second.evicted = once.evicted := by
  refine ⟨fun now takes => ?_, fun t₁ t₂ takes => ?_⟩
  · intro s expired
    have swept : c.Swept now s := h.swept now
    have completed : s.interrupted = false := swept.interrupted.trans takes
    have evicted : s.evicted = expired.map Entry.pair := swept.evicted_of_completed completed
    refine ⟨completed, swept.evictFirst?_eq_none h completed (le_refl now), fun n enough => ?_, ?_, ?_,
      evicted, evicted ▸ swept.listener⟩
    · refine h.sweepUpTo_eq completed ?_
      show s.evicted.length ≤ n
      rwa [evicted, List.length_map]
    · refine (swept.contents_of_completed h completed).trans (List.filter_congr fun e _ => ?_)
      simp only [Entry.ExpiredAt, not_lt]
    · have gone : c.contents.take s.evicted.length = expired := h.take_evicted completed
      exact gone ▸ h.curtailed_sweep now
  · intro first second once
    rcases le_total t₁ t₂ with earlier | earlier
    · rw [max_eq_right earlier] at takes
      obtain ⟨one, two⟩ := h.completed_of_le takes earlier
      obtain ⟨cache, evicted⟩ := h.sweep_sweep_of_le takes earlier
      have last : once = c.sweep t₂ := congrArg c.sweep (max_eq_right earlier)
      exact ⟨one, two, last ▸ cache, last ▸ evicted⟩
    · -- the second sweep comes too late to find anything
      rw [max_eq_left earlier] at takes
      have completed := (h.swept t₁).interrupted.trans takes
      have idle : second = ⟨first.cache, [], false⟩ := h.sweep_again completed earlier
      have last : once = first := congrArg c.sweep (max_eq_left earlier)
      rw [idle, last]
      exact ⟨completed, rfl, rfl, List.append_nil _⟩

/-- Of four entries, the first is taken at the deadline of the second, two more a little later. -/
theorem sweep_takes_expired_of_listening :
    let early := Moment.origin.plus (.ofSeconds 2)
    let late := Moment.origin.plus (.ofSeconds 5)
    let c : Cache Nat Nat :=
      { ((empty true : Cache Nat Nat).run failing).2 with listener := some (.silent "log") }
    let first := c.sweep early
    let second := first.cache.sweep late
    first.evicted = [(1, 10)] ∧ second.evicted = [(2, 20), (3, 30)] ∧
      second.cache = (c.sweep late).cache ∧
      second.cache.timeline.toList = [.start 4 40 (.ofSeconds 9) .origin] ∧
      second.cache.tally.evictions = c.tally.evictions + 3 := by
  intro early late c first second
  have formed : c.WellFormed := ((wellFormed_empty true).run failing).with_listener _
  have contents : c.timeline.toList = _ := contents_failing
  have takes : ∀ now, refuses c.listener (c.due now) = false := fun now =>
    refuses_eq_false (fun l hl => by cases hl; exact fun _ _ => rfl) _
  obtain ⟨once, twice⟩ := sweep_takes_expired formed
  obtain ⟨-, -, -, -, -, told, -⟩ := once early (takes early)
  obtain ⟨-, -, -, left, rest, all, -⟩ := once late (takes late)
  obtain ⟨-, -, cache, both⟩ := twice early late (takes _)
  have last : max early late = late := by decide
  rw [last] at cache both
  rw [contents] at told left all
  have told : first.evicted = [(1, 10)] := told.trans (by decide)
  have all : (c.sweep late).evicted = [(1, 10), (2, 20), (3, 30)] := all.trans (by decide)
  refine ⟨told, ?_, cache, cache ▸ left.trans (by decide), ?_⟩
  · have both : first.evicted ++ second.evicted = (c.sweep late).evicted := both
    rw [told, all] at both
    exact List.append_cancel_left both
  · rw [cache, rest.tally, contents]
    rfl

end TimedCache.Cache
