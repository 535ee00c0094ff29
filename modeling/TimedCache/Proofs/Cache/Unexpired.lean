import TimedCache.Proofs.Cache.OneListener
import TimedCache.Proofs.Cache.SameMoment
import TimedCache.Proofs.Cache.TouchQueue

/-!
# Requests before any lifetime ends

When all requests come before any lifetime has ended that begins with one of them, nothing expires
among them. So nothing is evicted, each key leads to what was last written to it, a read is a hit
exactly if its key has been written, and all keys that have been touched stand on the timeline.
-/
namespace TimedCache

variable {κ ν : Type}

/-- Requests that write for one lifetime and come before any such lifetime ends that begins with one
of them. -/
structure Brief (lifetime : Span) (rs : List (Moment × Request κ ν)) : Prop where
  common : ∀ r ∈ rs, r.2.WritesFor lifetime
  early : ∀ begins ∈ readings rs, ∀ now ∈ readings rs, now < begins.deadline lifetime

variable {lifetime : Span} {now : Moment} {r : Request κ ν}
  {rs before after : List (Moment × Request κ ν)}

theorem Brief.front (h : Brief lifetime (before ++ after)) : Brief lifetime before where
  common r hr := h.common r (List.mem_append_left _ hr)
  early := by
    have early := h.early
    simp only [readings_append, List.mem_append] at early
    exact fun begins hb now hn => early begins (.inl hb) now (.inl hn)

/-- A key is touched by a write or by a hit. -/
theorem Request.touched?_eq_some {refreshOnRead : Bool} {reply : Reply ν} {key : κ}
    (h : r.touched? refreshOnRead reply = some key) :
    (∃ value l, r = .put key value l) ∨ r = .get key ∧ reply.isHit := by
  unfold touched? at h
  split at h
  · exact .inl ⟨_, _, congrArg (put · _ _) (Option.some.inj h)⟩
  · obtain ⟨-, rfl⟩ := by simpa using h
    exact .inr ⟨rfl, rfl⟩
  · cases h

/-! ### The last pair of a key -/

section Last

variable [DecidableEq κ] {ps : List (κ × ν)} {key : κ}

/-- The last of some pairs whose key is the one given. -/
def lastPair? (ps : List (κ × ν)) (key : κ) : Option (κ × ν) := (ps.filter (·.1 = key)).getLast?

theorem lastPair?_append (ps qs : List (κ × ν)) (key : κ) :
    lastPair? (ps ++ qs) key = (lastPair? qs key).or (lastPair? ps key) := by
  rw [lastPair?, List.filter_append, List.getLast?_append, lastPair?, lastPair?]

theorem isSome_lastPair?_iff : (lastPair? ps key).isSome ↔ key ∈ ps.map Prod.fst := by
  simp [lastPair?]

end Last

namespace Cache

variable [DecidableEq κ] [Hashable κ]
variable {c : Cache κ ν} {key : κ}

/-! ### One request -/

/-- While the entries present are live, a read evicts none of them, and each key leads to the pair
that it led to. -/
theorem WellFormed.get_of_fresh (h : c.WellFormed) (fresh : ∀ e ∈ c.contents, e.LiveAt now)
    (key : κ) :
    (c.get key now).evicted = [] ∧
      (c.get key now).outcome = .ofValue? ((c.lookup? key).map Entry.value) ∧
      ∀ k, ((c.get key now).cache.lookup? k).map Entry.pair = (c.lookup? k).map Entry.pair := by
  have swept := h.sweep_eq_self fun e he => lt_asymm (fresh e he)
  cases live : c.live? key now with
  | none =>
    have absent : c.lookup? key = none := by
      have none := map_snd_live? c key now
      rw [live] at none
      refine Option.eq_none_iff_forall_ne_some.mpr fun e found => ?_
      have present := fresh e (h.lookup?_eq_some_iff.mp found).1
      simp [found, Option.filter, present] at none
    rw [get_of_not_live swept live, absent]
    exact ⟨rfl, rfl, fun _ => rfl⟩
  | some found =>
    obtain ⟨i, e⟩ := found
    have leads := lookup?_of_live? live
    rw [get_of_live swept live, leads]
    refine ⟨rfl, rfl, fun k => ?_⟩
    show ((c.touch i now).lookup? k).map Entry.pair = _
    rw [h.lookup?_touch live]
    split
    next renewed =>
      rw [renewed.2, leads]
      rfl
    next => rfl

theorem WellFormed.perform_of_fresh (h : c.WellFormed)
    (fresh : r.readsClock = true → ∀ e ∈ c.contents, e.LiveAt now) :
    (c.perform now r).evicted = [] ∧
      ∀ key, ((c.perform now r).cache.lookup? key).map Entry.pair =
        (lastPair? r.written?.toList key).or ((c.lookup? key).map Entry.pair) := by
  cases r with
  | put k value l =>
    refine ⟨rfl, fun key => ?_⟩
    show ((c.put k value l now).lookup? key).map Entry.pair = (lastPair? [(k, value)] key).or _
    rw [h.lookup?_put]
    obtain rfl | other := eq_or_ne key k
    · simp [lastPair?, Entry.start, Entry.pair]
    · simp [lastPair?, other, other.symm]
  | get k =>
    obtain ⟨evicted, -, leads⟩ := h.get_of_fresh (fresh rfl) k
    exact ⟨evicted, leads⟩
  | _ => exact ⟨rfl, fun _ => rfl⟩

end Cache

/-! ### Runs -/

namespace Brief

open Cache

variable [DecidableEq κ] [Hashable κ]
variable {c : Cache κ ν} {key : κ} (formed : c.WellFormed) (vacant : c.contents = [])
include formed vacant

/-- When a request looks at the clock, all entries present are live. -/
theorem fresh (h : Brief lifetime (before ++ (now, r) :: after)) (timed : r.readsClock = true) :
    ∀ e ∈ (c.run before).2.contents, e.LiveAt now := by
  have first : c.Uniform lifetime (now < ·) := ⟨formed, by simp [vacant]⟩
  have early := h.early
  simp only [readings_append, List.mem_append] at early
  have ends := first.run h.front.common fun begins hb =>
    early begins (.inl hb) now (.inr (mem_readings List.mem_cons_self timed))
  exact fun e he => (ends.entries e he).2

/-- Nothing is evicted, and a key leads to what was last written to it. -/
theorem run (h : Brief lifetime rs) :
    c.evicted rs = [] ∧
      ∀ key, ((c.run rs).2.lookup? key).map Entry.pair = lastPair? (written rs) key := by
  induction rs using List.reverseRecOn with
  | nil =>
    refine ⟨rfl, fun key => ?_⟩
    have absent : c.lookup? key = none := formed.lookup?_eq_none_iff.mpr (by simp [vacant])
    show (c.lookup? key).map Entry.pair = none
    rw [absent, Option.map_none]
  | append_singleton rs r ih =>
    obtain ⟨now, r⟩ := r
    obtain ⟨evicted, leads⟩ := ih h.front
    obtain ⟨stays, step⟩ := (formed.run rs).perform_of_fresh (h.fresh formed vacant)
    refine ⟨?_, fun key => ?_⟩
    · rw [evicted_append, evicted, evicted_cons, stays]
      rfl
    · rw [written_append, lastPair?_append, ← leads, run_append]
      exact (step key).trans (by rw [written_cons, written, List.filterMap_nil, List.append_nil])

theorem evicted_perform (h : Brief lifetime (before ++ (now, r) :: after)) :
    ((c.run before).2.perform now r).evicted = [] :=
  ((formed.run before).perform_of_fresh (h.fresh formed vacant)).1

/-- A read answers what was last written to its key. -/
theorem reply_get (h : Brief lifetime (before ++ (now, .get key) :: after)) :
    ((c.run before).2.perform now (.get key)).reply =
      .read (.ofValue? ((lastPair? (written before) key).map Prod.snd)) := by
  obtain ⟨-, outcome, -⟩ :=
    (formed.run before).get_of_fresh (h.fresh formed vacant rfl) key
  obtain ⟨-, leads⟩ := h.front.run formed vacant
  show Reply.read ((c.run before).2.get key now).outcome = _
  rw [outcome, ← leads, Option.map_map]
  rfl

theorem isHit_get_iff (h : Brief lifetime (before ++ (now, .get key) :: after)) :
    ((c.run before).2.perform now (.get key)).reply.isHit ↔ key ∈ (written before).map Prod.fst := by
  rw [h.reply_get formed vacant, Reply.isHit, Outcome.isHit_ofValue?, Option.isSome_map,
    isSome_lastPair?_iff]

/-- The keys on the timeline are those that have been written. -/
theorem mem_keys_iff (h : Brief lifetime rs) :
    key ∈ (c.run rs).2.keys ↔ key ∈ (written rs).map Prod.fst := by
  obtain ⟨-, leads⟩ := h.run formed vacant
  have run := formed.run rs
  rw [← isSome_lastPair?_iff, ← leads, Option.isSome_map, Option.isSome_iff_exists]
  simp only [run.lookup?_eq_some_iff]
  exact List.mem_map

/-- The pairs on the timeline are the last ones of their keys. -/
theorem lastPair?_of_mem (h : Brief lifetime rs) {e : Entry κ ν} (present : e ∈ (c.run rs).2.contents) :
    lastPair? (written rs) e.key = some e.pair := by
  obtain ⟨-, leads⟩ := h.run formed vacant
  rw [← leads, (formed.run rs).lookup?_eq_some_iff.mpr ⟨present, rfl⟩, Option.map_some]

/-- Of the writes, those are replaced that are not the first to their key. -/
theorem length_replaced (h : Brief lifetime rs) :
    (c.replaced rs).length + ((written rs).map Prod.fst).dedup.length = (written rs).length := by
  obtain ⟨evicted, -⟩ := h.run formed vacant
  have balance := (formed.balance_run rs).length_eq
  have keys : (c.run rs).2.keys.Perm ((written rs).map Prod.fst).dedup :=
    (List.perm_ext_iff_of_nodup (formed.run rs).distinctKeys (List.nodup_dedup _)).mpr fun key =>
      (h.mem_keys_iff formed vacant).trans List.mem_dedup.symm
  have length : (c.run rs).2.contents.length = (c.run rs).2.keys.length := (List.length_map _).symm
  rw [keys.length_eq] at length
  simp only [vacant, evicted, List.length_append, List.length_map, List.length_nil, length] at balance
  omega

/-- Keys that are touched have been written. -/
theorem mem_written_of_touched (h : Brief lifetime rs) (refreshOnRead : Bool) :
    ∀ key ∈ touched refreshOnRead (rs.zip (c.run rs).1), key ∈ (written rs).map Prod.fst := by
  induction rs using List.reverseRecOn with
  | nil => simp [touched]
  | append_singleton rs r ih =>
    obtain ⟨now, r⟩ := r
    intro key hk
    rw [zip_run_concat, touched_concat, List.mem_append] at hk
    rw [written_append, List.map_append, List.mem_append]
    obtain earlier | last := hk
    · exact .inl (ih h.front key earlier)
    · obtain ⟨value, l, rfl⟩ | ⟨rfl, hit⟩ := Request.touched?_eq_some (Option.mem_toList.mp last)
      · exact .inr (by simp [written, Request.written?])
      · exact .inl ((h.isHit_get_iff formed vacant).mp hit)

omit formed vacant in
/-- All keys that have been touched stand on the timeline, in the order of their last touches. -/
theorem keys_eq (h : Brief lifetime rs) (one : OneLifetime lifetime rs) (refreshOnRead : Bool)
    (l : Listener κ ν) :
    let start : Cache κ ν := (empty refreshOnRead).listen l
    (start.run rs).2.keys = (touched refreshOnRead (rs.zip (start.run rs).1)).dedup := by
  intro start
  have formed : start.WellFormed := (wellFormed_empty refreshOnRead).perform .origin (.listen l)
  have registered : OneLifetime lifetime ((.origin, .listen l) :: rs) :=
    ⟨List.forall_mem_cons.mpr ⟨trivial, one.common⟩, one.forward, one.fits⟩
  obtain ⟨-, queue⟩ := touchQueue_run refreshOnRead registered
  have order : (start.run rs).2.keys =
      (touched refreshOnRead (rs.zip (start.run rs).1)).dedup.filter (· ∈ (start.run rs).2.keys) :=
    queue.order
  refine order.trans (List.filter_eq_self.mpr fun key hk => decide_eq_true ?_)
  refine (h.mem_keys_iff formed rfl).mpr ?_
  exact h.mem_written_of_touched formed rfl refreshOnRead key (List.mem_dedup.mp hk)

end Brief
end TimedCache
