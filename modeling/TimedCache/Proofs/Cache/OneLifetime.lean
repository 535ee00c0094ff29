import TimedCache.Proofs.Cache.Residents

/-!
# Caches with one lifetime

When all writes are for the same lifetime, all entries present have it, also after they have been
renewed. So the deadlines present are those of this lifetime at readings of the clock; and while the
clock does not go back, a lifetime that begins later ends later.
-/
namespace TimedCache

variable {κ ν : Type}

/-- A request writes for no other lifetime. -/
def Request.WritesFor (lifetime : Span) : Request κ ν → Prop
  | put _ _ l => l = lifetime
  | _ => True

namespace Cache

variable [DecidableEq κ] [Hashable κ]

/-- All entries present have a given lifetime and a deadline of a given kind. -/
structure Uniform (c : Cache κ ν) (lifetime : Span) (due : Moment → Prop) : Prop where
  wellFormed : c.WellFormed
  entries : ∀ e ∈ c.contents, e.lifetime = lifetime ∧ due e.deadline

namespace Uniform

variable {c : Cache κ ν} {lifetime : Span} {due : Moment → Prop}

theorem iff_holdsOnly :
    c.Uniform lifetime due ↔ c.HoldsOnly fun e => e.lifetime = lifetime ∧ due e.deadline :=
  ⟨fun h => ⟨h.wellFormed, h.entries⟩, fun h => ⟨h.wellFormed, h.entries⟩⟩

theorem empty (refreshOnRead : Bool) : (empty refreshOnRead : Cache κ ν).Uniform lifetime due :=
  iff_holdsOnly.mpr (.empty refreshOnRead)

theorem sweep (h : c.Uniform lifetime due) (now : Moment) :
    (c.sweep now).cache.Uniform lifetime due :=
  iff_holdsOnly.mpr ((iff_holdsOnly.mp h).sweep now)

theorem run {rs : List (Moment × Request κ ν)} (h : c.Uniform lifetime due)
    (hr : ∀ r ∈ rs, r.2.WritesFor lifetime)
    (hd : ∀ now ∈ readings rs, due (now.deadline lifetime)) :
    (c.run rs).2.Uniform lifetime due := by
  refine iff_holdsOnly.mpr ((iff_holdsOnly.mp h).run fun r present => ?_)
  have writes := hr r present
  obtain ⟨now, r⟩ := r
  cases r with
  | put key value l =>
    obtain rfl : l = lifetime := writes
    exact ⟨rfl, hd now (mem_readings present rfl)⟩
  | get key =>
    rintro e ⟨rfl, -⟩
    exact ⟨rfl, hd now (mem_readings present rfl)⟩
  | _ => trivial

end Uniform
end Cache

/-- Requests that write for one lifetime, at readings of the clock that do not go back and after
each of which this lifetime comes to an end. -/
structure OneLifetime (lifetime : Span) (rs : List (Moment × Request κ ν)) : Prop where
  common : ∀ r ∈ rs, r.2.WritesFor lifetime
  forward : (readings rs).Pairwise (· ≤ ·)
  fits : ∀ now ∈ readings rs, (now.add? lifetime).isSome

namespace OneLifetime

variable {lifetime : Span} {now : Moment} {r : Request κ ν}
  {before after : List (Moment × Request κ ν)}

theorem front (h : OneLifetime lifetime (before ++ after)) : OneLifetime lifetime before where
  common := fun r hr => h.common r (List.mem_append_left _ hr)
  forward := by
    have forward := h.forward
    rw [readings_append] at forward
    exact (List.pairwise_append.mp forward).1
  fits := fun t ht => h.fits t (readings_append before after ▸ List.mem_append_left _ ht)

theorem writesFor (h : OneLifetime lifetime (before ++ (now, r) :: after)) :
    r.WritesFor lifetime := h.common (now, r) (by simp)

/-- When a request looks at the clock, a lifetime that begins then ends after all others. -/
theorem uniform [DecidableEq κ] [Hashable κ]
    (h : OneLifetime lifetime (before ++ (now, r) :: after)) (refreshOnRead : Bool)
    (timed : r.readsClock = true) :
    ((Cache.empty refreshOnRead).run before).2.Uniform lifetime (· ≤ now.deadline lifetime) := by
  have present : now ∈ readings ((now, r) :: after) := mem_readings List.mem_cons_self timed
  have fits := h.fits
  have forward := h.forward
  rw [readings_append] at fits forward
  refine (Cache.Uniform.empty refreshOnRead).run h.front.common fun t ht => ?_
  exact Moment.deadline_le_deadline ((List.pairwise_append.mp forward).2.2 t ht now present)
    (le_refl lifetime.nanos) (fits now (List.mem_append_right _ present))

end OneLifetime
end TimedCache
