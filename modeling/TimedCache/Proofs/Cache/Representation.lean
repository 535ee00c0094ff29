import Mathlib.Data.List.Iterate
import TimedCache.Proofs.Cache.Requests

/-!
# The representation of a cache

In every state that a run from the empty cache leads to, the links, the index and the free slots
agree with each other, and so do the three numbers that say how many entries there are.
-/
namespace TimedCache

variable {κ ν : Type}

theorem iterate_eq_of_isChain {α : Type} {f : α → α} {a : α} {l : List α}
    (h : (a :: l).IsChain fun i j => f i = j) : List.iterate f a (l.length + 1) = a :: l := by
  induction l generalizing a with
  | nil => rfl
  | cons b l ih =>
    obtain ⟨step, rest⟩ := List.isChain_cons_cons.mp h
    rw [List.length_cons, List.iterate, step, ih rest]

theorem map_some_filterMap {α β : Type} {f : α → Option β} {l : List α}
    (h : ∀ a ∈ l, (f a).isSome) : (l.filterMap f).map some = l.map f := by
  induction l with
  | nil => rfl
  | cons a l ih =>
    obtain ⟨b, hb⟩ := Option.isSome_iff_exists.mp (h a List.mem_cons_self)
    rw [List.filterMap_cons_some hb, List.map_cons, List.map_cons, hb,
      ih fun c hc => h c (List.mem_cons_of_mem a hc)]

namespace Timeline.Circle

variable {t : Timeline κ ν} {is : List SlotId}

/-- Following `next` from the root leads around the circle. -/
theorem iterate_next (h : t.Circle is) :
    List.iterate t.next root (is.length + 2) = root :: is ++ [root] := by
  have chain := (linked_iff_isChain.mp h.linked).imp fun _ _ adjacent => adjacent.1
  simpa using iterate_eq_of_isChain chain

/-- Following `prev` from the root leads around it the other way. -/
theorem iterate_prev (h : t.Circle is) :
    List.iterate t.prev root (is.length + 2) = root :: is.reverse ++ [root] := by
  have chain : (root :: is ++ [root]).reverse.IsChain fun i j => t.prev i = j :=
    List.isChain_reverse.mpr ((linked_iff_isChain.mp h.linked).imp fun _ _ adjacent => adjacent.2)
  have reverse : (root :: is ++ [root]).reverse = root :: is.reverse ++ [root] := by simp
  rw [reverse] at chain
  simpa using iterate_eq_of_isChain chain

end Timeline.Circle

namespace Cache

variable [DecidableEq κ] [Hashable κ]

/-- The slots of a list are on the circle in this order, the index leads to them and to no others,
and all other slots but the root are free. -/
structure Represented (c : Cache κ ν) (is : List SlotId) : Prop where
  forward : List.iterate c.timeline.next Timeline.root (is.length + 2) =
    Timeline.root :: is ++ [Timeline.root]
  backward : List.iterate c.timeline.prev Timeline.root (is.length + 2) =
    Timeline.root :: is.reverse ++ [Timeline.root]
  distinct : (Timeline.root :: is).Nodup
  occupied : ∀ i, i ∈ is ↔ (c.timeline.entry? i).isSome
  ordered : (is.filterMap c.timeline.entry?).Pairwise fun a b => a.deadline ≤ b.deadline
  injective : ∀ (k l : κ) (i : SlotId), c.index[k]? = some i → c.index[l]? = some i → k = l
  range : ∀ i : SlotId, (∃ k : κ, c.index[k]? = some i) ↔ i ∈ is
  keyed : ∀ (k : κ) (i : SlotId), c.index[k]? = some i → (c.timeline.entry? i).map Entry.key = some k
  freeDistinct : c.timeline.free.Nodup
  free : ∀ i, i ∈ c.timeline.free ↔
    i ≠ Timeline.root ∧ i < c.timeline.slots.size ∧ c.timeline.entry? i = none

variable {c : Cache κ ν} {is : List SlotId}

theorem WellFormedAlong.represented (h : c.WellFormedAlong is) : c.Represented is where
  forward := h.circle.iterate_next
  backward := h.circle.iterate_prev
  distinct := h.circle.distinct
  occupied := fun i => ⟨h.circle.held i, h.onCircle i⟩
  ordered := h.sorted
  injective := fun k l i hk hl => by
    have hk := ((h.indexed k i).mp hk).2
    have hl := ((h.indexed l i).mp hl).2
    exact Option.some.inj (hk.symm.trans hl)
  range := fun i => by
    constructor
    · rintro ⟨k, hk⟩
      exact ((h.indexed k i).mp hk).1
    · intro on
      obtain ⟨e, he⟩ := Option.isSome_iff_exists.mp (h.circle.held i on)
      exact ⟨e.key, h.index_key on he⟩
  keyed := fun k i hk => ((h.indexed k i).mp hk).2
  freeDistinct := h.accounted.distinct
  free := h.accounted.vacant

/-- Iterating ends after each slot on the circle has given its entry. -/
theorem WellFormedAlong.map_take (h : c.WellFormedAlong is) {n : Nat} (enough : is.length ≤ n) :
    (c.timeline.take n).map some = is.map c.timeline.entry? := by
  rw [h.circle.take_eq, List.take_of_length_le (by rwa [h.circle.length_filterMap])]
  exact map_some_filterMap h.circle.held

/-- After any run, also one with failing listeners and moments that go back, the representation is
sound, iterating ends after all entries, and the three numbers of entries agree. -/
theorem run_represented (refreshOnRead : Bool) (rs : List (Moment × Request κ ν)) :
    let c := ((empty refreshOnRead : Cache κ ν).run rs).2
    ∃ is, c.Represented is ∧
      (∀ n, is.length ≤ n → (c.timeline.take n).map some = is.map c.timeline.entry?) ∧
      (c.isEmpty ↔ c.size = 0) ∧
      c.size = is.length ∧ c.timeline.count = is.length ∧ c.stats.entries = is.length := by
  intro c
  obtain ⟨is, h⟩ := (wellFormed_empty refreshOnRead).run rs
  have size : c.size = is.length := h.size_eq.trans h.length_contents
  refine ⟨is, h.represented, fun n => h.map_take, ?_, size, ?_, size⟩
  · rw [h.isEmpty_iff, ← List.length_eq_zero_iff, ← h.size_eq]
  · rw [h.count_eq, h.length_contents]

end Cache
end TimedCache
