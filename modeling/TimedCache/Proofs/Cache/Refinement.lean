import TimedCache.Proofs.Cache.Requests
import TimedCache.Proofs.DeadlineMap

/-!
# Caches and deadline maps

A cache answers every run of requests as a deadline map does. What ties the two together is that
the timeline holds the residents of the map in the order in which they leave.
-/
namespace TimedCache.Cache

variable {κ ν : Type} [DecidableEq κ] [Hashable κ]

/-- A cache and a map that are in the same state. -/
structure Mirrors (c : Cache κ ν) (m : DeadlineMap κ ν) : Prop where
  wellFormed : c.WellFormed
  wellStamped : m.WellStamped
  contents : c.contents = m.inOrder.map Stamped.toEntry
  tally : c.tally = m.tally
  listener : c.listener = m.listener
  refreshOnRead : c.refreshOnRead = m.refreshOnRead

namespace Mirrors

variable {c : Cache κ ν} {m : DeadlineMap κ ν}

theorem empty (refreshOnRead : Bool) :
    (Cache.empty refreshOnRead : Cache κ ν).Mirrors (.empty refreshOnRead) where
  wellFormed := wellFormed_empty refreshOnRead
  wellStamped := ⟨List.nodup_nil, fun _ he => absurd he List.not_mem_nil, List.nodup_nil⟩
  contents := by simp [DeadlineMap.inOrder, DeadlineMap.empty]
  tally := rfl
  listener := rfl
  refreshOnRead := rfl

/-- Counting an event on both sides. -/
theorem record (h : c.Mirrors m) (event : Event) {tally : Tally}
    (counts : m.tally.record event = tally) :
    (c.record event).Mirrors { m with tally } where
  wellFormed := h.wellFormed.record event
  wellStamped := ⟨h.wellStamped.stamps, h.wellStamped.below, h.wellStamped.keys⟩
  contents := h.contents
  tally := (congrArg (·.record event) h.tally).trans counts
  listener := h.listener
  refreshOnRead := h.refreshOnRead

/-! ### What is seen of a state -/

theorem lookup?_eq (h : c.Mirrors m) (key : κ) :
    c.lookup? key = (m.find? key).map Stamped.toEntry := by
  cases found : m.find? key with
  | none =>
    rw [Option.map_none, h.wellFormed.lookup?_eq_none_iff, h.contents]
    intro e he
    obtain ⟨f, hf, rfl⟩ := List.mem_map.mp he
    simpa using List.find?_eq_none.mp found f (DeadlineMap.mem_inOrder.mp hf)
  | some f =>
    rw [Option.map_some, h.wellFormed.lookup?_eq_some_iff, h.contents]
    refine ⟨List.mem_map_of_mem ?_, by simpa using List.find?_some found⟩
    exact DeadlineMap.mem_inOrder.mpr (List.mem_of_find?_eq_some found)

theorem size_eq (h : c.Mirrors m) : c.size = m.residents.length := by
  rw [h.wellFormed.size_eq, h.contents, List.length_map, m.inOrder_perm.length_eq]

theorem isEmpty_eq (h : c.Mirrors m) : c.isEmpty = m.residents.isEmpty := by
  rw [Bool.eq_iff_iff, h.wellFormed.isEmpty_iff, List.isEmpty_iff, ← List.length_eq_zero_iff,
    ← List.length_eq_zero_iff, ← h.wellFormed.size_eq, h.size_eq]

theorem stats_eq (h : c.Mirrors m) : c.stats = m.stats := by
  rw [Cache.stats_eq, h.tally, h.size_eq, DeadlineMap.stats]

theorem toRecord_eq (h : c.Mirrors m) : c.toRecord = m.toRecord := by
  rw [toRecord, h.size_eq, h.refreshOnRead, h.listener, DeadlineMap.toRecord]

/-! ### Steps -/

/-- Storing an entry under its key on both sides. -/
theorem insert (h : c.Mirrors m) (e : Entry κ ν) {d : Cache κ ν} (formed : d.WellFormed)
    (contents : d.contents = e.insertInto (c.contents.filter (·.key ≠ e.key)))
    (tally : d.tally = c.tally) (listener : d.listener = c.listener)
    (refreshOnRead : d.refreshOnRead = c.refreshOnRead) : d.Mirrors (m.insert e) where
  wellFormed := formed
  wellStamped := h.wellStamped.insert e
  contents := by rw [contents, h.contents, h.wellStamped.map_inOrder_insert]
  tally := tally.trans h.tally
  listener := listener.trans h.listener
  refreshOnRead := refreshOnRead.trans h.refreshOnRead

theorem put (h : c.Mirrors m) (key : κ) (value : ν) (lifetime : Span) (now : Moment) :
    (c.put key value lifetime now).Mirrors (m.put key value lifetime now) := by
  have formed := h.wellFormed.put key value lifetime now
  have contents := h.wellFormed.contents_put key value lifetime now
  have tally := h.wellFormed.tally_put key value lifetime now
  rw [h.lookup?_eq, Option.isSome_map] at tally
  unfold DeadlineMap.put
  by_cases present : (m.find? key).isSome
  · rw [if_pos present] at tally ⊢
    exact (h.record .overwrite rfl).insert _ formed contents tally (listener_put ..)
      (refreshOnRead_put ..)
  · rw [if_neg present] at tally ⊢
    exact h.insert _ formed contents tally (listener_put ..) (refreshOnRead_put ..)

theorem sweep (h : c.Mirrors m) (now : Moment) :
    (c.sweep now).cache.Mirrors (m.sweep now).1 ∧
      (m.sweep now).2 = ((c.sweep now).evicted, (c.sweep now).interrupted) := by
  have swept := h.wellFormed.swept now
  have due : c.due now = (m.due now).map (·.pair) := by
    rw [Cache.due, h.contents, h.wellStamped.due_eq, List.filter_map, List.map_map]
    rfl
  have gone : (c.sweep now).evicted = delivered m.listener ((m.due now).map (·.pair)) := by
    rw [swept.evicted, due, h.listener]
  rw [h.wellStamped.sweep_eq, ← gone]
  refine ⟨⟨swept.wellFormed, h.wellStamped.swept _, ?_, ?_, ?_, ?_⟩, ?_⟩
  · rw [swept.contents, h.contents, h.wellStamped.inOrder_swept, List.map_drop]
  · rw [swept.tally, h.tally]
    rfl
  · rw [swept.listener, h.listener]
    rfl
  · exact swept.refreshOnRead.trans h.refreshOnRead
  · rw [swept.interrupted, due, h.listener]

theorem live?_eq (h : c.Mirrors m) (key : κ) (now : Moment) :
    (c.live? key now).map Prod.snd =
      ((m.find? key).filter fun e => now < e.deadline).map Stamped.toEntry := by
  rw [map_snd_live?, h.lookup?_eq]
  cases m.find? key with
  | none => rfl
  | some e => by_cases live : now < e.deadline <;> simp [Option.filter, Entry.LiveAt, live]

theorem touch (h : c.Mirrors m) {key : κ} {now : Moment} {i : SlotId} {e : Entry κ ν}
    (live : c.live? key now = some (i, e)) :
    (c.touch i now).Mirrors (if m.refreshOnRead then m.insert (e.renew now) else m) := by
  obtain ⟨formed, contents⟩ := h.wellFormed.touch_spec live
  rw [← h.refreshOnRead]
  split
  next refresh =>
    rw [if_pos refresh, ← h.wellFormed.key_of_live? live] at contents
    exact h.insert _ formed contents (tally_touch ..) (listener_touch ..) (refreshOnRead_touch ..)
  next keep =>
    rw [Cache.touch, if_neg keep]
    exact h

variable [Inhabited ν]

theorem get (h : c.Mirrors m) (key : κ) (now : Moment) :
    (c.get key now).cache.Mirrors (m.get key now).2 ∧
      (m.get key now).1 =
        ⟨.read (c.get key now).outcome, (c.get key now).outcome.answer?, (c.get key now).evicted⟩ := by
  obtain ⟨mirrors, same⟩ := h.sweep now
  have evicted : (m.sweep now).2.1 = (c.sweep now).evicted := congrArg Prod.fst same
  have interrupted : (m.sweep now).2.2 = (c.sweep now).interrupted := congrArg Prod.snd same
  have found := mirrors.live?_eq key now
  obtain ⟨stop, hc⟩ | ⟨go, absent, hc⟩ | ⟨i, e, go, live, hc⟩ := c.get_cases key now
  · rw [hc, DeadlineMap.get_of_interrupted (interrupted.trans stop), evicted]
    exact ⟨mirrors, rfl⟩
  · rw [absent, Option.map_none, eq_comm, Option.map_eq_none_iff] at found
    rw [hc, DeadlineMap.get_of_absent (interrupted.trans go) found, evicted]
    exact ⟨mirrors.record .miss rfl, rfl⟩
  · rw [live, Option.map_some, eq_comm, Option.map_eq_some_iff] at found
    obtain ⟨f, hf, rfl⟩ := found
    rw [hc, DeadlineMap.get_of_found (interrupted.trans go) hf, evicted]
    exact ⟨(mirrors.touch live).record .hit rfl, rfl⟩

/-! ### Runs -/

theorem perform (h : c.Mirrors m) (now : Moment) (r : Request κ ν) :
    (c.perform now r).cache.Mirrors (m.perform now r).2 ∧
      (m.perform now r).1 =
        ⟨(c.perform now r).reply, (c.perform now r).reply.answer?, (c.perform now r).evicted⟩ := by
  cases r with
  | put key value lifetime => exact ⟨h.put key value lifetime now, rfl⟩
  | get key => exact h.get key now
  | listen l =>
    refine ⟨⟨h.wellFormed.perform now (.listen l), ?_, h.contents, h.tally, rfl, h.refreshOnRead⟩,
      rfl⟩
    exact ⟨h.wellStamped.stamps, h.wellStamped.below, h.wellStamped.keys⟩
  | size => exact ⟨h, congrArg (fun n => Seen.mk (.number n) none []) h.size_eq.symm⟩
  | isEmpty => exact ⟨h, congrArg (fun b => Seen.mk (.truth b) none []) h.isEmpty_eq.symm⟩
  | stats => exact ⟨h, congrArg (fun s => Seen.mk (.stats s) none []) h.stats_eq.symm⟩
  | refreshOnRead => exact ⟨h, congrArg (fun b => Seen.mk (.truth b) none []) h.refreshOnRead.symm⟩
  | describe => exact ⟨h, congrArg (fun r => Seen.mk (.record r) none []) h.toRecord_eq.symm⟩

theorem run (h : c.Mirrors m) (rs : List (Moment × Request κ ν)) :
    (c.run rs).2.Mirrors (m.run rs).2 ∧
      (m.run rs).1 = (c.run rs).1.map fun a => ⟨a.1, a.1.answer?, a.2⟩ := by
  induction rs generalizing c m with
  | nil => exact ⟨h, rfl⟩
  | cons r rs ih =>
    obtain ⟨mirrors, first⟩ := h.perform r.1 r.2
    obtain ⟨rest, others⟩ := ih mirrors
    refine ⟨rest, ?_⟩
    rw [DeadlineMap.run_cons, Cache.run_cons, first, others]
    rfl

end Mirrors

/-- A cache replies, answers and evicts as a deadline map does, whatever the requests and their
moments, and ends in the same state: the counts, the listener with all that it heard, and the entries
present in the order in which they leave. -/
theorem run_eq_deadlineMap_run [Inhabited ν] (refreshOnRead : Bool)
    (rs : List (Moment × Request κ ν)) :
    let (replies, c) := (empty refreshOnRead : Cache κ ν).run rs
    let (seen, m) := (DeadlineMap.empty refreshOnRead : DeadlineMap κ ν).run rs
    (replies.map fun a => ⟨a.1, a.1.answer?, a.2⟩) = seen ∧ c.tally = m.tally ∧
      c.listener = m.listener ∧ c.refreshOnRead = m.refreshOnRead ∧ c.size = m.residents.length ∧
      c.timeline.toList = (m.residents.mergeSort DeadlineMap.leavesBefore).map Stamped.toEntry := by
  obtain ⟨mirrors, seen⟩ := (Mirrors.empty refreshOnRead).run rs
  exact ⟨seen.symm, mirrors.tally, mirrors.listener, mirrors.refreshOnRead, mirrors.size_eq,
    mirrors.contents⟩

end TimedCache.Cache
