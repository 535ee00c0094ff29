import TimedCache.Proofs.Cache.OneListener
import TimedCache.Proofs.Cache.Residents
import TimedCache.Proofs.Timeline.Relocation

/-!
# Reads at a moment of another request

A read leaves nothing that has expired at its moment, and an entry that it renews is where a second
renewal at that moment puts it. So a second read finds what the first has found and only counts it.
A write has not expired at its own moment, so a read then leaves it; whether it is a hit depends on
the lifetime alone.
-/
namespace TimedCache.Cache

variable {κ ν : Type} [DecidableEq κ] [Hashable κ]
variable {c : Cache κ ν} {key : κ} {now : Moment} {i : SlotId} {e : Entry κ ν}

/-! ### Reads with nothing to sweep -/

theorem WellFormed.sweep_eq_self (h : c.WellFormed) (fresh : ∀ e ∈ c.contents, ¬e.ExpiredAt now) :
    c.sweep now = ⟨c, [], false⟩ :=
  sweepUpTo_of_none (h.evictFirst?_eq_none fun e he => fresh e (List.mem_of_mem_head? he)) _

theorem get_of_live (swept : c.sweep now = ⟨c, [], false⟩) (live : c.live? key now = some (i, e)) :
    c.get key now = ⟨(c.touch i now).record .hit, [], .hit e.value⟩ := by
  simp only [get, swept, Bool.false_eq_true, if_false, live]
  rfl

theorem get_of_not_live (swept : c.sweep now = ⟨c, [], false⟩) (gone : c.live? key now = none) :
    c.get key now = ⟨c.record .miss, [], .miss⟩ := by
  simp only [get, swept, Bool.false_eq_true, if_false, gone]

/-! ### Two hits at one moment -/

theorem touch_record (c : Cache κ ν) (event : Event) (i : SlotId) (now : Moment) :
    (c.record event).touch i now = (c.touch i now).record event :=
  (apply_ite (Cache.record · event) (c.refreshOnRead = true) (c.renew i now) c).symm

/-- A hit leaves the slot of its key where the key leads, with the same value, and live if renewing
the entry keeps it so. -/
theorem live?_touch (live : c.live? key now = some (i, e)) (renews : (e.renew now).LiveAt now) :
    ∃ f, (c.touch i now).live? key now = some (i, f) ∧ f.value = e.value := by
  unfold touch
  split
  · obtain ⟨hi, he, -⟩ := live?_eq_some_iff.mp live
    refine ⟨e.renew now, live?_eq_some_iff.mpr ⟨hi, ?_, renews⟩, rfl⟩
    simp [renew, Timeline.relocate, Timeline.entry?_update, he]
  · exact ⟨e, live, rfl⟩

/-- A renewed entry stays where it is when it is renewed again at the same moment. -/
theorem WellFormed.touch_touch (h : c.WellFormed) (live : c.live? key now = some (i, e)) :
    (c.touch i now).touch i now = c.touch i now := by
  obtain ⟨is, along⟩ := h
  have on : i ∈ is := ((along.indexed key i).mp (live?_eq_some_iff.mp live).1).1
  have moved := along.circle.relocate_relocate on (·.renew now) (·.renew now)
  by_cases refresh : c.refreshOnRead
  · have again : (c.renew i now).refreshOnRead := refresh
    rw [touch, touch, if_pos refresh, if_pos again]
    exact congrArg (fun timeline => { c with timeline }) moved
  · rw [touch, touch, if_neg refresh, if_neg refresh]

/-- Nothing that a hit leaves has expired, if nothing had before. -/
theorem WellFormed.fresh_touch (h : c.WellFormed) (live : c.live? key now = some (i, e))
    (fresh : ∀ f ∈ c.contents, ¬f.ExpiredAt now) :
    ∀ f ∈ (c.touch i now).contents, ¬f.ExpiredAt now := by
  rw [(h.touch_spec live).2]
  split
  · intro f hf
    rw [Entry.mem_insertInto, List.mem_filter] at hf
    obtain rfl | ⟨present, -⟩ := hf
    · exact not_lt.mpr (Moment.le_deadline now e.lifetime)
    · exact fresh f present
  · exact fresh

/-- What is counted of a read that is not interrupted. -/
theorem record_read (c : Cache κ ν) (hit : Bool) :
    c.record (if hit then .hit else .miss) =
      { c with
        tally := if hit then { c.tally with hits := c.tally.hits + 1 }
          else { c.tally with misses := c.tally.misses + 1 } } := by
  cases hit <;> rfl

/-- A second read at the moment of the first only counts, if entries that are live then stay so when
they are renewed. -/
theorem WellFormed.get_get (h : c.WellFormed) (completed : (c.sweep now).interrupted = false)
    (renews : ∀ e ∈ c.contents, e.LiveAt now → (e.renew now).LiveAt now) (key : κ) :
    let first := c.get key now
    first.cache.get key now =
      ⟨first.cache.record (if first.outcome.isHit then .hit else .miss), [], first.outcome⟩ := by
  have swept := h.swept now
  have formed := swept.wellFormed
  have left := swept.contents_of_completed h completed
  have fresh : ∀ f ∈ (c.sweep now).cache.contents, ¬f.ExpiredAt now := by simp [left]
  obtain ⟨gone, hc⟩ | ⟨i, e, live, hc⟩ := get_cases_of_completed key completed
  · rw [hc]
    exact get_of_not_live ((formed.record .miss).sweep_eq_self fresh) gone
  · have present : e ∈ c.contents := by
      have found := (formed.lookup?_eq_some_iff.mp (lookup?_of_live? live)).1
      rw [left] at found
      exact (List.mem_filter.mp found).1
    obtain ⟨f, again, value⟩ :=
      live?_touch live (renews e present (live?_eq_some_iff.mp live).2.2)
    have touched := (formed.touch_spec live).1.record .hit
    rw [hc]
    refine (get_of_live (touched.sweep_eq_self (formed.fresh_touch live fresh)) again).trans ?_
    rw [touch_record, formed.touch_touch live, value]
    rfl

/-- After any run in which no listener fails, a read at a moment that is not before a reading of the
clock so far, and from which the horizon can be reached, is answered; a second read of the same key
at that moment is answered the same, evicts nothing, and leaves all as the first has left it, but
for one more hit if that was a hit, and one more miss if not. -/
theorem second_read_only_counts (refreshOnRead : Bool) (rs : List (Moment × Request κ ν))
    (unfailing : ∀ r ∈ rs, r.2.Unfailing) (key : κ) (now : Moment)
    (forward : ∀ start ∈ readings rs, start ≤ now) (far : (now.add? Moment.horizon).isSome) :
    let c := ((empty refreshOnRead : Cache κ ν).run rs).2
    let first := c.get key now
    let second := first.cache.get key now
    first.outcome ≠ .interrupted ∧ second.outcome = first.outcome ∧ second.evicted = [] ∧
      second.cache = { first.cache with
        tally := if first.outcome.isHit
          then { first.cache.tally with hits := first.cache.tally.hits + 1 }
          else { first.cache.tally with misses := first.cache.tally.misses + 1 } } := by
  intro c first second
  have formed : c.WellFormed := (wellFormed_empty refreshOnRead).run rs
  have completed : (c.sweep now).interrupted = false :=
    formed.completed (unfailing_run_empty refreshOnRead unfailing) now
  have renews : ∀ e ∈ c.contents, e.LiveAt now → (e.renew now).LiveAt now := by
    intro e present live
    obtain ⟨start, read, deadline⟩ := exists_reading refreshOnRead rs e present
    exact Moment.lt_deadline_of_lt (forward start read) (deadline ▸ live) far
  have again : second = _ := formed.get_get completed renews key
  have found : first.outcome = .ofValue? _ := formed.outcome_get key completed
  rw [again]
  exact ⟨found ▸ Outcome.ofValue?_ne_interrupted _, rfl, rfl, record_read ..⟩

/-- Of two entries, the first expires after two seconds. -/
def lapsing : List (Moment × Request Nat Nat) :=
  [(.origin, .listen (.silent "log")), (.origin, .put 1 10 (.ofSeconds 2)),
    (.origin, .put 2 20 (.ofSeconds 5))]

theorem unfailing_lapsing : ∀ r ∈ lapsing, r.2.Unfailing := by
  simp [lapsing, Request.Unfailing, Listener.Unfailing, Listener.silent, Listener.fresh]

/-- A read that evicts one entry and renews the other, and the same read again. -/
theorem second_read_of_lapsing :
    let now := Moment.origin.plus (.ofSeconds 3)
    let c := ((empty true : Cache Nat Nat).run lapsing).2
    let first := c.get 2 now
    let second := first.cache.get 2 now
    first.outcome = .hit 20 ∧ second.outcome = .hit 20 ∧ second.evicted = [] ∧
      second.cache = { first.cache with
        tally := { first.cache.tally with hits := first.cache.tally.hits + 1 } } := by
  intro now c first second
  have formed : c.WellFormed := (wellFormed_empty true).run lapsing
  have completed := formed.completed (unfailing_run_empty true unfailing_lapsing) now
  have written : c.lookup? 2 = some (.start 2 20 (.ofSeconds 5) .origin) :=
    (((wellFormed_empty true).run (lapsing.take 2)).lookup?_put ..).trans (if_pos rfl)
  have hit : first.outcome = .hit 20 := by
    rw [formed.outcome_get 2 completed, written]
    decide
  have isHit : first.outcome.isHit = true := by
    rw [hit]
    rfl
  obtain ⟨-, outcome, evicted, state⟩ :=
    second_read_only_counts true lapsing unfailing_lapsing 2 now (by decide) (by decide)
  refine ⟨hit, outcome.trans hit, evicted, state.trans ?_⟩
  rw [if_pos isHit]

/-! ### A read of what was just written -/

/-- A read that is not interrupted leaves what its key leads to, renewed on a hit. -/
theorem WellFormed.lookup?_get (h : c.WellFormed) (completed : (c.sweep now).interrupted = false)
    (found : c.lookup? key = some e) (fresh : ¬e.ExpiredAt now) :
    (c.get key now).cache.lookup? key = some e ∨
      (c.get key now).cache.lookup? key = some (e.renew now) := by
  have swept := h.swept now
  have stays : (c.sweep now).cache.lookup? key = some e := by
    rw [swept.lookup?_of_completed h completed, found]
    simp [Option.filter, fresh]
  obtain ⟨-, hc⟩ | ⟨i, f, live, hc⟩ := get_cases_of_completed key completed
  · rw [hc]
    exact .inl stays
  · obtain rfl : f = e := Option.some.inj ((lookup?_of_live? live).symm.trans stays)
    have touched := swept.wellFormed.lookup?_touch live key
    rw [hc]
    split at touched
    · exact .inr touched
    · exact .inl (touched.trans stays)

/-- A read that is not interrupted evicts no entry of a key whose entry has not expired. -/
theorem WellFormed.key_ne_of_evicted (h : c.WellFormed)
    (completed : (c.sweep now).interrupted = false) (found : c.lookup? key = some e)
    (fresh : ¬e.ExpiredAt now) : ∀ p ∈ (c.sweep now).evicted, p.1 ≠ key := by
  rw [(h.swept now).evicted_of_completed completed]
  rintro p due rfl
  obtain ⟨f, hf, rfl⟩ := List.mem_map.mp due
  obtain ⟨present, expired⟩ := List.mem_filter.mp hf
  have same := h.lookup?_eq_some_iff.mpr ⟨present, rfl⟩
  obtain rfl : f = e := Option.some.inj (same.symm.trans found)
  exact fresh (of_decide_eq_true expired)

/-- A read at the moment of a write leaves what was written, and hits it if it is live. -/
theorem WellFormed.get_put (h : c.WellFormed) (unfailing : ∀ l ∈ c.listener, l.Unfailing) (key : κ)
    (value : ν) (lifetime : Span) (now : Moment) :
    let r := (c.put key value lifetime now).get key now
    r.outcome = (if now < now.deadline lifetime then .hit value else .miss) ∧
      r.cache.lookup? key = some (.start key value lifetime now) ∧ ∀ p ∈ r.evicted, p.1 ≠ key := by
  let e : Entry κ ν := .start key value lifetime now
  have written := h.put key value lifetime now
  have completed := written.completed (listener_put c key value lifetime now ▸ unfailing) now
  have found : (c.put key value lifetime now).lookup? key = some e := by
    rw [h.lookup?_put, if_pos rfl]
  have fresh : ¬e.ExpiredAt now := not_lt.mpr (now.le_deadline lifetime)
  refine ⟨?_, (written.lookup?_get completed found fresh).elim id id, ?_⟩
  · rw [written.outcome_get key completed, found, Option.filter_some]
    simp only [decide_eq_true_eq]
    show _ = if e.LiveAt now then _ else _
    split <;> rfl
  · rw [evicted_get]
    exact written.key_ne_of_evicted completed found fresh

/-- A deadline is not before the beginning of the lifetime and not after the exact sum, which it is if
that is on the line; it is after the beginning if the lifetime is not zero and either the sum or the
horizon is on the line. So after any run in which no listener fails, a read at the moment of a write
of its key, from which the horizon can be reached, hits what was written if the lifetime is not zero,
and misses it if it is; either way what was written is there afterwards and was not evicted. -/
theorem fresh_write_is_read :
    (∀ (now : Moment) (lifetime : Span),
      let ends := now.deadline lifetime
      now ≤ ends ∧ ends.nanos ≤ now.nanos + lifetime.nanos ∧
        (ends.nanos = now.nanos + lifetime.nanos ↔ (now.add? lifetime).isSome) ∧
        (now < ends ↔
          .zero < lifetime ∧ ((now.add? lifetime).isSome ∨ (now.add? Moment.horizon).isSome))) ∧
    ∀ (refreshOnRead : Bool) (rs : List (Moment × Request κ ν)), (∀ r ∈ rs, r.2.Unfailing) →
      ∀ (key : κ) (value : ν) (lifetime : Span) (now : Moment), (now.add? Moment.horizon).isSome →
        let c := ((empty refreshOnRead : Cache κ ν).run rs).2
        let r := (c.put key value lifetime now).get key now
        r.outcome = (if .zero < lifetime then .hit value else .miss) ∧
          r.cache.lookup? key = some (.start key value lifetime now) ∧
          ∀ p ∈ r.evicted, p.1 ≠ key := by
  refine ⟨fun now lifetime => ⟨now.le_deadline lifetime, now.nanos_deadline_le lifetime,
    Moment.nanos_deadline_eq_iff, Moment.lt_deadline_iff⟩, ?_⟩
  intro refreshOnRead rs unfailing key value lifetime now far c r
  have formed : c.WellFormed := (wellFormed_empty refreshOnRead).run rs
  have mild : ∀ l ∈ c.listener, l.Unfailing := unfailing_run_empty refreshOnRead unfailing
  have live : now < now.deadline lifetime ↔ .zero < lifetime :=
    Moment.lt_deadline_iff.trans (and_iff_left (.inr far))
  obtain ⟨outcome, found, evicted⟩ := formed.get_put mild key value lifetime now
  exact ⟨outcome.trans (by simp only [live]), found, evicted⟩

/-- The entry of the first key has expired and is written again, for no time and for ever. -/
theorem fresh_write_of_lapsing :
    let now := Moment.origin.plus (.ofSeconds 3)
    let longest := Span.ofSeconds 18446744073709551615
    let c := ((empty true : Cache Nat Nat).run lapsing).2
    let none := (c.put 1 30 .zero now).get 1 now
    let ever := (c.put 1 30 longest now).get 1 now
    none.outcome = .miss ∧ none.cache.lookup? 1 = some (.start 1 30 .zero now) ∧
      ever.outcome = .hit 30 ∧ ever.cache.lookup? 1 = some (.start 1 30 longest now) ∧
      now < now.deadline longest := by
  intro now longest c none ever
  obtain ⟨bounds, reads⟩ := fresh_write_is_read (κ := Nat) (ν := Nat)
  obtain ⟨-, -, -, live⟩ := bounds now longest
  obtain ⟨missed, kept, -⟩ := reads true lapsing unfailing_lapsing 1 30 .zero now (by decide)
  obtain ⟨hit, stored, -⟩ := reads true lapsing unfailing_lapsing 1 30 longest now (by decide)
  exact ⟨missed, kept, hit, stored, live.mpr (by decide)⟩

end TimedCache.Cache
