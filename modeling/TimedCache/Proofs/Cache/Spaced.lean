import TimedCache.Proofs.Cache.OneLifetime
import TimedCache.Proofs.Cache.OneListener

/-!
# Requests that are far apart

When each request comes after the lifetimes that began with the one before have ended, a read finds
all entries expired and leaves none. If besides no write follows a write, a cache never holds more
than one entry: no read is a hit, nothing is replaced, and the pairs are evicted in the order in which
they were written.
-/
namespace TimedCache

variable {κ ν : Type}

/-- A request comes after the lifetimes that begin with another have ended, and one of the two is a
read. -/
def Request.Apart (lifetime : Span) (r s : Moment × Request κ ν) : Prop :=
  r.1.nanos + lifetime.nanos < s.1.nanos ∧ (r.2.isRead ∨ s.2.isRead)

theorem Request.unfailing_of_readsClock {r : Request κ ν} (timed : r.readsClock) : r.Unfailing := by
  cases r with
  | listen l => simp [readsClock] at timed
  | _ => trivial

namespace Cache

variable [DecidableEq κ] [Hashable κ]
variable {c : Cache κ ν} {now : Moment} {lifetime : Span} {r s : Moment × Request κ ν}
  {rs : List (Moment × Request κ ν)}

/-- All entries have expired when a request comes, and there are none if it is a write. -/
structure ReadyFor (c : Cache κ ν) (r : Moment × Request κ ν) : Prop where
  expired : ∀ e ∈ c.contents, e.ExpiredAt r.1
  vacant : r.2.isRead ∨ c.contents = []

theorem ReadyFor.of_vacant (h : c.contents = []) : c.ReadyFor r where
  expired := by simp [h]
  vacant := .inr h

theorem WellFormed.get_of_expired (h : c.WellFormed) (unfailing : ∀ l ∈ c.listener, l.Unfailing)
    (expired : ∀ e ∈ c.contents, e.ExpiredAt now) (key : κ) :
    (c.get key now).evicted = c.contents.map Entry.pair ∧ (c.get key now).outcome = .miss ∧
      (c.get key now).cache.contents = [] := by
  have completed := h.completed unfailing now
  have all : c.contents.filter (·.ExpiredAt now) = c.contents :=
    List.filter_eq_self.mpr (by simpa using expired)
  refine ⟨?_, ?_, h.contents_get_eq_nil unfailing expired key⟩
  · rw [evicted_get, (h.swept now).evicted_of_completed completed, due, all]
  · have gone : (c.lookup? key).filter (fun e => e.LiveAt now) = none := by
      refine Option.filter_eq_none_iff.mpr fun e found live => ?_
      have present := (h.lookup?_eq_some_iff.mp found).1
      exact lt_asymm (expired e present) (of_decide_eq_true live)
    rw [h.outcome_get key completed, gone]
    rfl

theorem WellFormed.contents_put_of_vacant (h : c.WellFormed) (vacant : c.contents = []) (key : κ)
    (value : ν) (lifetime : Span) (now : Moment) :
    (c.put key value lifetime now).contents = [.start key value lifetime now] := by
  simp [h.contents_put, vacant, Entry.insertInto]

/-- After a request for which all is ready, it is so for one that is apart from it. -/
theorem WellFormed.readyFor_perform (h : c.WellFormed) (unfailing : ∀ l ∈ c.listener, l.Unfailing)
    (ready : c.ReadyFor r) (timed : r.2.readsClock) (common : r.2.WritesFor lifetime)
    (apart : Request.Apart lifetime r s) : (c.perform r.1 r.2).cache.ReadyFor s := by
  obtain ⟨now, r⟩ := r
  obtain ⟨expired, vacant⟩ := ready
  cases r with
  | put key value l =>
    obtain rfl : l = lifetime := common
    have none : c.contents = [] := by simpa [Request.isRead] using vacant
    refine ⟨?_, .inl (by simpa [Request.isRead] using apart.2)⟩
    show ∀ e ∈ (c.put key value l now).contents, _
    rw [h.contents_put_of_vacant none, List.forall_mem_singleton]
    exact Moment.deadline_lt apart.1
  | get key => exact .of_vacant (h.contents_get_eq_nil unfailing expired key)
  | _ => simp [Request.readsClock] at timed

/-- What such a request evicts and leaves is what was there and what it writes. It is no hit and
replaces nothing. -/
theorem WellFormed.perform_of_ready (h : c.WellFormed) (unfailing : ∀ l ∈ c.listener, l.Unfailing)
    (ready : c.ReadyFor r) (timed : r.2.readsClock) :
    (c.perform r.1 r.2).evicted ++ (c.perform r.1 r.2).cache.contents.map Entry.pair =
        c.contents.map Entry.pair ++ r.2.written?.toList ∧
      c.replaced? r.2 = none ∧ (c.perform r.1 r.2).reply.isHit = false := by
  obtain ⟨now, r⟩ := r
  obtain ⟨expired, vacant⟩ := ready
  cases r with
  | put key value l =>
    have none : c.contents = [] := by simpa [Request.isRead] using vacant
    have absent : c.lookup? key = Option.none := h.lookup?_eq_none_iff.mpr (by simp [none])
    refine ⟨?_, by rw [replaced?, absent, Option.map_none], rfl⟩
    show [] ++ (c.put key value l now).contents.map Entry.pair = _
    rw [h.contents_put_of_vacant none, none]
    rfl
  | get key =>
    obtain ⟨evicted, missed, left⟩ := h.get_of_expired unfailing expired key
    refine ⟨?_, rfl, ?_⟩
    · show (c.get key now).evicted ++ (c.get key now).cache.contents.map Entry.pair = _
      rw [evicted, left]
      rfl
    · show (c.get key now).outcome.isHit = false
      rw [missed]
      rfl
  | _ => simp [Request.readsClock] at timed

/-- The pairs that are evicted, and then those that are left, are those that were there and those that
are written, in order. -/
theorem WellFormed.run_of_apart (h : c.WellFormed) (unfailing : ∀ l ∈ c.listener, l.Unfailing)
    (timed : ∀ r ∈ rs, r.2.readsClock) (common : ∀ r ∈ rs, r.2.WritesFor lifetime)
    (apart : rs.IsChain (Request.Apart lifetime)) (ready : ∀ r ∈ rs.head?, c.ReadyFor r) :
    c.evicted rs ++ (c.run rs).2.contents.map Entry.pair = c.contents.map Entry.pair ++ written rs ∧
      c.replaced rs = [] ∧ ∀ a ∈ (c.run rs).1, a.1.isHit = false := by
  induction rs generalizing c with
  | nil => simp [evicted, replaced, written, Cache.run]
  | cons r rs ih =>
    obtain ⟨clock, timed⟩ := List.forall_mem_cons.mp timed
    obtain ⟨writes, common⟩ := List.forall_mem_cons.mp common
    obtain ⟨next, apart⟩ := List.isChain_cons.mp apart
    have ready := ready r rfl
    have mild := Request.unfailing_of_readsClock clock
    obtain ⟨pairs, unreplaced, missed⟩ := h.perform_of_ready unfailing ready clock
    obtain ⟨rest, kept, misses⟩ := ih (h.perform r.1 r.2) (h.unfailing_perform unfailing r.1 mild)
      timed common apart fun s hs => h.readyFor_perform unfailing ready clock writes (next s hs)
    refine ⟨?_, ?_, ?_⟩
    · rw [evicted_cons, run_cons, written_cons, List.append_assoc, rest, ← List.append_assoc, pairs,
        List.append_assoc]
    · rw [replaced, unreplaced, kept]
      rfl
    · rw [run_cons]
      exact List.forall_mem_cons.mpr ⟨missed, misses⟩

end Cache
end TimedCache
