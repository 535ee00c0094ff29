import TimedCache.Proofs.Cache.Requests
import TimedCache.Proofs.Timeline.Insertion

/-!
# Writing two keys

At one moment it makes no difference in which order two keys are written, except that of two entries
that are due at the same moment the one written first stands first.
-/
namespace TimedCache

variable {κ ν : Type}

/-! ### Two entries that go to their places -/

namespace Entry

variable {e f : Entry κ ν} {es : List (Entry κ ν)}

/-- What is left out of a list may be left out before an entry goes to its place or afterwards. -/
theorem filter_insertInto_of_pos {p : Entry κ ν → Bool} (stays : p e) :
    (e.insertInto es).filter p = e.insertInto (es.filter p) := by
  rw [insertInto, insertInto, List.filter_append, List.filter_cons_of_pos stays,
    List.filter_filter, List.filter_filter, List.filter_filter, List.filter_filter]
  simp only [Bool.and_comm]

/-- Entries that are due at different moments may go to their places in either order. -/
theorem insertInto_comm (h : Ordered es) (apart : e.deadline ≠ f.deadline) :
    f.insertInto (e.insertInto es) = e.insertInto (f.insertInto es) := by
  -- ordered lists are the same if they have the same entries for each deadline
  refine ((h.insertInto e).insertInto f).eq_of_filter_eq ((h.insertInto f).insertInto e) fun d => ?_
  simp only [filter_insertInto, List.filter_append]
  by_cases hd : e.deadline = d
  · have other : f.deadline ≠ d := fun same => apart (hd.trans same.symm)
    simp [hd, other]
  · simp [hd]

/-- Of two entries that are due at the same moment, the second goes right behind the first. -/
theorem insertInto_insertInto_of_eq (tie : e.deadline = f.deadline) :
    f.insertInto (e.insertInto es) =
      es.filter (·.deadline ≤ e.deadline) ++ e :: f :: es.filter (e.deadline < ·.deadline) := by
  have early : ∀ g ∈ es.filter (·.deadline ≤ e.deadline) ++ [e], g.deadline ≤ f.deadline := by
    grind
  have late : ∀ g ∈ es.filter (e.deadline < ·.deadline), f.deadline < g.deadline := by
    grind
  have split := insertInto_append early late
  simp only [List.append_assoc, List.singleton_append] at split
  exact split

end Entry

/-! ### Two writes -/

namespace Cache

variable [DecidableEq κ] [Hashable κ]

section

variable {c : Cache κ ν} {key₁ key₂ : κ} (h : c.WellFormed) (apart : key₁ ≠ key₂)
  (value₁ value₂ : ν) (lifetime₁ lifetime₂ : Span) (now : Moment)
include h apart

/-- Two writes put their entries among those of the other keys. -/
theorem WellFormed.contents_put_put :
    ((c.put key₁ value₁ lifetime₁ now).put key₂ value₂ lifetime₂ now).contents =
      (Entry.start key₂ value₂ lifetime₂ now).insertInto
        ((Entry.start key₁ value₁ lifetime₁ now).insertInto
          ((c.contents.filter (·.key ≠ key₁)).filter (·.key ≠ key₂))) := by
  rw [(h.put ..).contents_put, h.contents_put,
    Entry.filter_insertInto_of_pos (decide_eq_true apart)]

theorem WellFormed.lookup?_put_put (key : κ) :
    ((c.put key₁ value₁ lifetime₁ now).put key₂ value₂ lifetime₂ now).lookup? key =
      if key = key₁ then some (.start key₁ value₁ lifetime₁ now)
      else if key = key₂ then some (.start key₂ value₂ lifetime₂ now) else c.lookup? key := by
  rw [(h.put ..).lookup?_put, h.lookup?_put]
  split_ifs with second first
  · exact absurd (first.symm.trans second) apart
  all_goals rfl

/-- Each of two writes counts as an overwrite if its key was present before both. -/
theorem WellFormed.tally_put_put :
    ((c.put key₁ value₁ lifetime₁ now).put key₂ value₂ lifetime₂ now).tally =
      { c.tally with
        overwrites := c.tally.overwrites + (c.lookup? key₁).isSome.toNat +
          (c.lookup? key₂).isSome.toNat } := by
  rw [(h.put ..).tally_put, h.lookup?_put, if_neg apart.symm, h.tally_put]
  cases (c.lookup? key₁).isSome <;> cases (c.lookup? key₂).isSome <;> rfl

theorem WellFormed.stats_put_comm :
    ((c.put key₁ value₁ lifetime₁ now).put key₂ value₂ lifetime₂ now).stats =
      ((c.put key₂ value₂ lifetime₂ now).put key₁ value₁ lifetime₁ now).stats := by
  have size : ((c.put key₁ value₁ lifetime₁ now).put key₂ value₂ lifetime₂ now).size =
      ((c.put key₂ value₂ lifetime₂ now).put key₁ value₁ lifetime₁ now).size := by
    rw [((h.put ..).put ..).size_eq, ((h.put ..).put ..).size_eq, h.contents_put_put apart,
      h.contents_put_put apart.symm, List.filter_comm]
    simp only [(Entry.insertInto_perm _ _).length_eq, List.length_cons]
  rw [stats_eq, stats_eq, size, h.tally_put_put apart, h.tally_put_put apart.symm, Nat.add_right_comm]

end

/-- After any run, two keys that are written at one moment lead to the same entries in whichever order
they are written, and to the same statistics. If the two entries are due at different moments, the
timeline is the same as well. If they are due at the same moment, they stand side by side, the one
written first in front, and the rest of the timeline is the same. -/
theorem writes_commute (refreshOnRead : Bool) (rs : List (Moment × Request κ ν)) {key₁ key₂ : κ}
    (apart : key₁ ≠ key₂) (value₁ value₂ : ν) (lifetime₁ lifetime₂ : Span) (now : Moment) :
    let c := ((empty refreshOnRead : Cache κ ν).run rs).2
    let one := (c.put key₁ value₁ lifetime₁ now).put key₂ value₂ lifetime₂ now
    let other := (c.put key₂ value₂ lifetime₂ now).put key₁ value₁ lifetime₁ now
    let e₁ := Entry.start key₁ value₁ lifetime₁ now
    let e₂ := Entry.start key₂ value₂ lifetime₂ now
    (∀ key, one.lookup? key = other.lookup? key) ∧ one.stats = other.stats ∧
      (now.deadline lifetime₁ ≠ now.deadline lifetime₂ →
        one.timeline.toList = other.timeline.toList) ∧
      (now.deadline lifetime₁ = now.deadline lifetime₂ →
        ∃ front back, one.timeline.toList = front ++ e₁ :: e₂ :: back ∧
          other.timeline.toList = front ++ e₂ :: e₁ :: back) := by
  intro c one other e₁ e₂
  have formed : c.WellFormed := (wellFormed_empty refreshOnRead).run rs
  let others := (c.contents.filter (·.key ≠ key₁)).filter (·.key ≠ key₂)
  have ordered : Ordered others := (formed.ordered.filter _).filter _
  have first : one.timeline.toList = e₂.insertInto (e₁.insertInto others) :=
    formed.contents_put_put apart value₁ value₂ lifetime₁ lifetime₂ now
  have second : other.timeline.toList = e₁.insertInto (e₂.insertInto others) := by
    have entries := formed.contents_put_put apart.symm value₂ value₁ lifetime₂ lifetime₁ now
    rw [List.filter_comm] at entries
    exact entries
  refine ⟨fun key => ?_, formed.stats_put_comm apart .., fun due => ?_, fun tie => ?_⟩
  · rw [formed.lookup?_put_put apart, formed.lookup?_put_put apart.symm]
    split_ifs with same₁ same₂
    · exact absurd (same₁.symm.trans same₂) apart
    all_goals rfl
  · rw [first, second]
    exact Entry.insertInto_comm ordered due
  · have tie : e₁.deadline = e₂.deadline := tie
    refine ⟨others.filter (·.deadline ≤ e₁.deadline), others.filter (e₁.deadline < ·.deadline), ?_, ?_⟩
    · rw [first, Entry.insertInto_insertInto_of_eq tie]
    · rw [second, Entry.insertInto_insertInto_of_eq tie.symm, tie]

/-- A key is overwritten and another one is new. For the same lifetime, the one written first is in
front; for different ones, the order of the writes leaves no trace. -/
theorem writes_commute_of_overwriting :
    let c := ((empty true : Cache Nat Nat).run [(.origin, .put 1 11 (.ofSeconds 5))]).2
    let write (c : Cache Nat Nat) (key seconds : Nat) :=
      c.put key (10 * key) (.ofSeconds (.ofNat seconds)) .origin
    let entry (key seconds : Nat) : Entry Nat Nat :=
      .start key (10 * key) (.ofSeconds (.ofNat seconds)) .origin
    (∃ front back,
        (write (write c 1 2) 2 2).timeline.toList = front ++ entry 1 2 :: entry 2 2 :: back ∧
        (write (write c 2 2) 1 2).timeline.toList = front ++ entry 2 2 :: entry 1 2 :: back) ∧
      (write (write c 1 2) 2 3).timeline.toList = (write (write c 2 3) 1 2).timeline.toList ∧
      (write (write c 1 2) 2 3).stats = (write (write c 2 3) 1 2).stats := by
  intro c write entry
  have apart : (1 : Nat) ≠ 2 := by decide
  obtain ⟨-, -, -, tied⟩ := writes_commute true [(.origin, .put 1 11 (.ofSeconds 5))] apart 10 20
    (.ofSeconds 2) (.ofSeconds 2) .origin
  obtain ⟨-, stats, order, -⟩ := writes_commute true [(.origin, .put 1 11 (.ofSeconds 5))] apart 10 20
    (.ofSeconds 2) (.ofSeconds 3) .origin
  exact ⟨tied rfl, order (by decide), stats⟩

end Cache
end TimedCache
