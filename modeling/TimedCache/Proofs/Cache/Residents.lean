import TimedCache.Proofs.Cache.Requests
import TimedCache.Proofs.Time.Deadline

/-!
# What holds of all entries present

An entry is present because a write has started it, and changes only when a hit renews it; what
leaves takes nothing else with it. So what holds of entries when they start, and is kept when they
are renewed, holds of all entries present. In particular the deadline of each is the one that its
lifetime has at some reading of the clock.
-/
namespace TimedCache

variable {κ ν : Type}

/-- The entries that a request makes at a moment are of a kind, if those that it makes them from
are. -/
def Request.Makes (kind : Entry κ ν → Prop) (now : Moment) : Request κ ν → Prop
  | put key value lifetime => kind (.start key value lifetime now)
  | get _ => ∀ e, kind e → kind (e.renew now)
  | _ => True

/-- Whether a request looks at the clock. -/
def Request.readsClock : Request κ ν → Bool
  | put .. | get _ => true
  | _ => false

/-- The moments at which requests look at the clock. -/
def readings (rs : List (Moment × Request κ ν)) : List Moment :=
  (rs.filter (·.2.readsClock)).map Prod.fst

theorem mem_readings {rs : List (Moment × Request κ ν)} {now : Moment} {r : Request κ ν}
    (h : (now, r) ∈ rs) (timed : r.readsClock = true) : now ∈ readings rs :=
  List.mem_map_of_mem (f := Prod.fst) (List.mem_filter.mpr ⟨h, timed⟩)

theorem readings_append (rs ss : List (Moment × Request κ ν)) :
    readings (rs ++ ss) = readings rs ++ readings ss := by
  rw [readings, List.filter_append, List.map_append, readings, readings]

namespace Cache

variable [DecidableEq κ] [Hashable κ]

/-- All entries present are of a kind. -/
structure HoldsOnly (c : Cache κ ν) (kind : Entry κ ν → Prop) : Prop where
  wellFormed : c.WellFormed
  entries : ∀ e ∈ c.contents, kind e

namespace HoldsOnly

variable {c d : Cache κ ν} {kind : Entry κ ν → Prop} {now : Moment} {e : Entry κ ν}

theorem empty (refreshOnRead : Bool) : (empty refreshOnRead : Cache κ ν).HoldsOnly kind :=
  ⟨wellFormed_empty refreshOnRead, by simp⟩

theorem sweep (h : c.HoldsOnly kind) (now : Moment) : (c.sweep now).cache.HoldsOnly kind := by
  have swept := h.wellFormed.swept now
  refine ⟨swept.wellFormed, fun e he => h.entries e ?_⟩
  rw [swept.contents] at he
  exact List.mem_of_mem_drop he

/-- An entry goes to its place among others that were present. -/
theorem insertInto (h : c.HoldsOnly kind) {p : Entry κ ν → Bool} (formed : d.WellFormed)
    (contents : d.contents = e.insertInto (c.contents.filter p)) (he : kind e) :
    d.HoldsOnly kind := by
  refine ⟨formed, fun f hf => ?_⟩
  rw [contents, Entry.mem_insertInto, List.mem_filter] at hf
  obtain rfl | ⟨hf, -⟩ := hf
  · exact he
  · exact h.entries f hf

theorem touch (h : c.HoldsOnly kind) (renews : ∀ e, kind e → kind (e.renew now)) {key : κ}
    {i : SlotId} (live : c.live? key now = some (i, e)) : (c.touch i now).HoldsOnly kind := by
  obtain ⟨formed, contents⟩ := h.wellFormed.touch_spec live
  have present := (h.wellFormed.lookup?_eq_some_iff.mp (lookup?_of_live? live)).1
  split at contents
  · exact h.insertInto formed contents (renews e (h.entries e present))
  · exact ⟨formed, contents ▸ h.entries⟩

theorem record (h : c.HoldsOnly kind) (event : Event) : (c.record event).HoldsOnly kind :=
  ⟨h.wellFormed.record event, h.entries⟩

theorem perform (h : c.HoldsOnly kind) {r : Request κ ν} (hr : r.Makes kind now) :
    (c.perform now r).cache.HoldsOnly kind := by
  cases r with
  | put key value lifetime =>
    exact h.insertInto (h.wellFormed.put ..) (h.wellFormed.contents_put ..) hr
  | get key =>
    have swept := h.sweep now
    show (c.get key now).cache.HoldsOnly kind
    obtain ⟨-, hc⟩ | ⟨-, -, hc⟩ | ⟨i, e, -, live, hc⟩ := c.get_cases key now <;> rw [hc]
    · exact swept
    · exact swept.record .miss
    · exact (swept.touch hr live).record .hit
  | listen l => exact ⟨h.wellFormed.perform now (.listen l), h.entries⟩
  | size | isEmpty | stats | refreshOnRead | describe => exact h

theorem run {rs : List (Moment × Request κ ν)} (h : c.HoldsOnly kind)
    (hr : ∀ r ∈ rs, r.2.Makes kind r.1) : (c.run rs).2.HoldsOnly kind := by
  induction rs generalizing c with
  | nil => exact h
  | cons r rs ih =>
    obtain ⟨first, rest⟩ := List.forall_mem_cons.mp hr
    exact ih (h.perform first) rest

end HoldsOnly

/-- The deadline of an entry that is present is the one of its lifetime at a reading of the clock. -/
theorem exists_reading (refreshOnRead : Bool) (rs : List (Moment × Request κ ν)) :
    ∀ e ∈ ((empty refreshOnRead : Cache κ ν).run rs).2.contents,
      ∃ now ∈ readings rs, e.deadline = now.deadline e.lifetime := by
  refine ((HoldsOnly.empty refreshOnRead).run fun r hr => ?_).entries
  obtain ⟨now, r⟩ := r
  cases r with
  | put key value lifetime => exact ⟨now, mem_readings hr rfl, rfl⟩
  | get key => exact fun e _ => ⟨now, mem_readings hr rfl, rfl⟩
  | _ => trivial

end Cache
end TimedCache
