import TimedCache.Proofs.Cache.Requests
import TimedCache.Proofs.Time.VirtualClock
import TimedCache.Session

/-!
# Sessions whose clock does not go back

An entry whose deadline has passed is renewed by no read, and it stays as it is until a sweep evicts it
or a write replaces it. So it becomes live again only if the clock goes back, which takes a whole turn
of its word.
-/
namespace TimedCache

variable {κ ν : Type}

/-- The span by which a command advances the clock, if it does. -/
def Command.step? : Command κ ν → Option Span
  | request _ => none
  | advance step => some step

variable [DecidableEq κ] [Hashable κ]

namespace Cache

/-- A key leads nowhere but to an entry whose deadline has passed. -/
structure Lapsed (c : Cache κ ν) (key : κ) (e : Entry κ ν) (now : Moment) : Prop where
  wellFormed : c.WellFormed
  only : ∀ f ∈ c.lookup? key, f = e
  past : ¬e.LiveAt now

namespace Lapsed

variable {c : Cache κ ν} {key : κ} {e : Entry κ ν} {now later : Moment}

theorem of_le (h : c.Lapsed key e now) (forward : now ≤ later) : c.Lapsed key e later :=
  ⟨h.wellFormed, h.only, fun live => h.past (lt_of_le_of_lt forward live)⟩

/-- Whether or not a sweep is interrupted, what a key leads to afterwards was there before. -/
theorem sweep (h : c.Lapsed key e now) : (c.sweep now).cache.Lapsed key e now := by
  have swept := h.wellFormed.swept now
  refine ⟨swept.wellFormed, fun f hf => h.only f ?_, h.past⟩
  obtain ⟨present, rfl⟩ := swept.wellFormed.lookup?_eq_some_iff.mp hf
  rw [swept.contents] at present
  exact h.wellFormed.lookup?_eq_some_iff.mpr ⟨List.mem_of_mem_drop present, rfl⟩

theorem live?_eq_none (h : c.Lapsed key e now) : c.live? key now = none := by
  refine Option.eq_none_iff_forall_ne_some.mpr fun ⟨i, f⟩ live => ?_
  obtain rfl := h.only f (lookup?_of_live? live)
  exact h.past (live?_eq_some_iff.mp live).2.2

/-- A read of the key is no hit. -/
theorem isHit_get (h : c.Lapsed key e now) : (c.get key now).outcome.isHit = false := by
  obtain ⟨-, hc⟩ | ⟨-, -, hc⟩ | ⟨i, f, -, live, -⟩ := c.get_cases key now
  · rw [hc]
    rfl
  · rw [hc]
    rfl
  · simp [h.sweep.live?_eq_none] at live

theorem record (h : c.Lapsed key e now) (event : Event) : (c.record event).Lapsed key e now :=
  ⟨h.wellFormed.record event, h.only, h.past⟩

/-- A hit renews the entry of another key. -/
theorem touch (h : c.Lapsed key e now) {k : κ} {i : SlotId} {f : Entry κ ν}
    (live : c.live? k now = some (i, f)) : (c.touch i now).Lapsed key e now := by
  have other : key ≠ k := by
    rintro rfl
    simp [h.live?_eq_none] at live
  refine ⟨(h.wellFormed.touch_spec live).1, ?_, h.past⟩
  rw [h.wellFormed.lookup?_touch live, if_neg fun both => other both.2]
  exact h.only

/-- A request that does not write the key leaves it so. -/
theorem perform (h : c.Lapsed key e now) {r : Request κ ν}
    (keeps : ∀ value lifetime, r ≠ .put key value lifetime) :
    (c.perform now r).cache.Lapsed key e now := by
  cases r with
  | put k value lifetime =>
    have other : key ≠ k := by
      rintro rfl
      exact keeps value lifetime rfl
    refine ⟨h.wellFormed.put k value lifetime now, ?_, h.past⟩
    rw [Cache.perform, h.wellFormed.lookup?_put, if_neg other]
    exact h.only
  | get k =>
    show (c.get k now).cache.Lapsed key e now
    obtain ⟨-, hc⟩ | ⟨-, -, hc⟩ | ⟨i, f, -, live, hc⟩ := c.get_cases k now <;> rw [hc]
    · exact h.sweep
    · exact h.sweep.record .miss
    · exact (h.sweep.touch live).record .hit
  | listen l => exact ⟨h.wellFormed.perform now (.listen l), h.only, h.past⟩
  | size | isEmpty | stats | refreshOnRead | describe => exact h

end Lapsed
end Cache

namespace Session

open VirtualClock

variable {s : Session κ ν} {key : κ} {e : Entry κ ν} {cs : List (Command κ ν)}

/-- The session after commands in order. -/
def carryOut (s : Session κ ν) (cs : List (Command κ ν)) : Session κ ν :=
  cs.foldl (fun s c => (s.step c).session) s

theorem attached_carryOut (s : Session κ ν) (cs : List (Command κ ν)) :
    (s.carryOut cs).attached = s.attached := by
  induction cs generalizing s with
  | nil => rfl
  | cons c cs ih =>
    refine (ih (s.step c).session).trans ?_
    cases c <;> rfl

theorem clock_carryOut (s : Session κ ν) (cs : List (Command κ ν)) :
    (s.carryOut cs).clock = s.clock.advanceAll (cs.filterMap Command.step?) := by
  induction cs generalizing s with
  | nil => rfl
  | cons c cs ih =>
    refine (ih (s.step c).session).trans ?_
    cases c <;> rfl

theorem wellFormed_carryOut (h : s.cache.WellFormed) (cs : List (Command κ ν)) :
    (s.carryOut cs).cache.WellFormed := by
  induction cs generalizing s with
  | nil => exact h
  | cons c cs ih =>
    refine ih ?_
    cases c with
    | request r => exact h.perform s.now r
    | advance step => exact h

theorem now_eq (attached : s.attached = true) : s.now = s.clock.now := if_pos attached

theorem cache_advance (s : Session κ ν) (step : Span) :
    (s.carryOut [.advance step]).cache = s.cache := rfl

/-- While the clock has not been moved a whole turn, commands that do not write the key leave it
lapsed. -/
theorem lapsed_carryOut (attached : s.attached = true) (h : s.cache.Lapsed key e s.now)
    (short : s.clock.offset.toNat + distance (cs.filterMap Command.step?) < UInt64.size)
    (keeps : ∀ value lifetime, .request (.put key value lifetime) ∉ cs) :
    (s.carryOut cs).cache.Lapsed key e (s.carryOut cs).now := by
  induction cs generalizing s with
  | nil => exact h
  | cons c cs ih =>
    have keeps' := fun value lifetime => List.not_mem_of_not_mem_cons (keeps value lifetime)
    cases c with
    | request r =>
      refine ih attached (h.perform fun value lifetime same => ?_) short keeps'
      exact keeps value lifetime (same ▸ List.mem_cons_self)
    | advance step =>
      simp only [List.filterMap_cons, Command.step?, distance_cons] at short
      have turn : s.clock.offset.toNat + distance [step] < UInt64.size := by
        rw [distance_cons, distance_nil]
        omega
      have forward : s.now ≤ (s.step (.advance step)).session.now := by
        rw [now_eq attached, now_eq (s := (s.step (.advance step)).session) attached]
        exact (le_iff_offset.mpr ((offset_le_advanceAll_iff (by omega)).mpr turn)).2
      refine ih attached (h.of_le forward) ?_ keeps'
      have moved : (s.clock.advance step).offset.toNat = _ := toNat_offset_advance s.clock step
      show (s.clock.advance step).offset.toNat + _ < _
      rw [moved, Nat.mod_eq_of_lt (by omega)]
      omega

/-- A shared clock shows through each of its handles the distance that it has been moved, less whole
turns, and no handle ever sees it go back exactly if that distance is less than one turn. So long, an
entry whose deadline has passed on such a clock does not become live again: whatever a cache that reads
the clock is asked meanwhile, if the key is not written, it leads to that entry as it is or nowhere, and
a read of it is no hit. -/
theorem forward_within_turn (ms : List SharedClock.Move) (refreshOnRead : Bool)
    (before after : List (Command κ ν)) (key : κ) :
    (∀ handle, ∀ u ∈ (SharedClock.start.moveAll ms).through? handle,
      u.elapsed.nanos = distance (SharedClock.start.steps ms) % UInt64.size ∧
        u.now.nanos = u.elapsed.nanos) ∧
    (SharedClock.start.Forward ms ↔ distance (SharedClock.start.steps ms) < UInt64.size) ∧
    ((before ++ after).filterMap Command.step? = SharedClock.start.steps ms →
      (∀ value lifetime, .request (.put key value lifetime) ∉ after) →
      let s := (start refreshOnRead true : Session κ ν).carryOut before
      let u := s.carryOut after
      u.clock = (SharedClock.start.moveAll ms).clock ∧
        (SharedClock.start.Forward ms → ∀ e ∈ s.cache.lookup? key, ¬e.LiveAt s.now →
          (∀ f ∈ u.cache.lookup? key, f = e) ∧ ¬e.LiveAt u.now ∧
            (u.cache.get key u.now).outcome.isHit = false)) := by
  refine ⟨fun handle u hu => ?_, SharedClock.forward_start_iff ms, fun moved keeps => ⟨?_, ?_⟩⟩
  · obtain ⟨-, rfl⟩ := SharedClock.mem_through?_iff.mp hu
    exact ⟨SharedClock.toNat_offset_moveAll_start ms, rfl⟩
  · rw [SharedClock.clock_moveAll, ← moved, List.filterMap_append, advanceAll_append,
      clock_carryOut, clock_carryOut]
    rfl
  · intro forward e he past
    let s := (start refreshOnRead true : Session κ ν).carryOut before
    have attached : s.attached = true := attached_carryOut _ before
    have formed : s.cache.WellFormed :=
      wellFormed_carryOut (Cache.wellFormed_empty refreshOnRead) before
    have lapsed : s.cache.Lapsed key e s.now :=
      ⟨formed, fun f hf => Option.some.inj (hf.symm.trans he), past⟩
    have short := (SharedClock.forward_start_iff ms).mp forward
    rw [← moved, List.filterMap_append, distance_append] at short
    have offset : s.clock.offset.toNat = distance (before.filterMap Command.step?) := by
      rw [clock_carryOut, toNat_offset_advanceAll]
      show (0 + _) % _ = _
      rw [Nat.zero_add, Nat.mod_eq_of_lt (by omega)]
    have still := lapsed_carryOut attached lapsed (offset ▸ short) keeps
    exact ⟨still.only, still.past, still.isHit_get⟩

/-- One key is written for five nanoseconds, after which the clock is moved. -/
def lapsing (step : Span) : List (Command Nat Nat) :=
  [.request (.put 1 10 (.ofNanos 5)), .advance step]

theorem wellFormed_lapsing (step : Span) :
    ((start true true : Session Nat Nat).carryOut (lapsing step)).cache.WellFormed :=
  wellFormed_carryOut (Cache.wellFormed_empty true) _

theorem lookup?_lapsing (step : Span) :
    ((start true true : Session Nat Nat).carryOut (lapsing step)).cache.lookup? 1 =
      some (.start 1 10 (.ofNanos 5) .origin) :=
  ((Cache.wellFormed_empty true).lookup?_put 1 10 (.ofNanos 5) .origin 1).trans (if_pos rfl)

/-- The entry has lapsed after ten nanoseconds, and has not come back when the clock is moved on to
the end of its first turn. -/
theorem forward_within_turn_of_lapsing :
    let ms : List SharedClock.Move :=
      [.advance 0 (.ofNanos 10), .share, .advance 1 (.ofNanos 18446744073709551605)]
    let s := (start true true : Session Nat Nat).carryOut (lapsing (.ofNanos 10))
    let u := s.carryOut [.advance (.ofNanos 18446744073709551605)]
    SharedClock.start.Forward ms ∧ ¬(Entry.start 1 10 (.ofNanos 5) .origin).LiveAt s.now ∧
      u.now.nanos = 18446744073709551615 ∧ (u.cache.get 1 u.now).outcome.isHit = false := by
  intro ms s u
  have past : ¬(Entry.start 1 10 (.ofNanos 5) .origin).LiveAt s.now := by decide
  obtain ⟨-, forward, lapsed⟩ := forward_within_turn ms true (lapsing (.ofNanos 10))
    [.advance (.ofNanos 18446744073709551605)] 1
  have turn : SharedClock.start.Forward ms := forward.mpr (by decide)
  obtain ⟨-, stays⟩ := lapsed (by decide) (by simp)
  obtain ⟨-, -, missed⟩ := stays turn _ (lookup?_lapsing _) past
  exact ⟨turn, past, by decide, missed⟩

/-- A clock can go back: after one advance by the largest number of nanoseconds that counts, one more
nanosecond through another handle sets it back to where it started. An entry that had lapsed is live
again then, and a read hits it. -/
theorem clock_goes_back :
    let longest := Span.ofNanos 18446744073709551615
    let ms : List SharedClock.Move := [.advance 0 longest, .share, .advance 1 (.ofNanos 1)]
    let s := (start true true : Session Nat Nat).carryOut (lapsing longest)
    let u := s.carryOut [.advance (.ofNanos 1)]
    ¬SharedClock.start.Forward ms ∧
      s.cache.lookup? 1 = some (.start 1 10 (.ofNanos 5) .origin) ∧
      (Entry.start 1 10 (.ofNanos 5) .origin).ExpiredAt s.now ∧
      u.now = .origin ∧ (u.cache.get 1 u.now).outcome = .hit 10 := by
  intro longest ms s u
  have expired : (Entry.start 1 10 (.ofNanos 5) .origin).ExpiredAt s.now := by decide
  have unheard : ∀ l ∈ s.cache.listener, l.Unfailing := by
    simp [s, carryOut, lapsing, step, start, Cache.perform, Cache.empty]
  have hit : (u.cache.get 1 u.now).outcome = .hit 10 := by
    rw [cache_advance, (wellFormed_lapsing longest).outcome_get 1
      ((wellFormed_lapsing longest).completed unheard _), lookup?_lapsing]
    decide
  refine ⟨fun forward => ?_, lookup?_lapsing longest, expired, by decide, hit⟩
  exact absurd ((SharedClock.forward_start_iff ms).mp forward) (by decide)

end Session
end TimedCache
