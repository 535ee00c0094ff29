import TimedCache.Proofs.Cache.Requests
import TimedCache.Proofs.Timeline.Relocation

/-!
# Another deadline for one entry

An entry is given another deadline while its slot is on the circle, whose deadlines may be out of
order then. Moving the slot to its place restores the order, and does no more than that.
-/
namespace TimedCache.Cache

variable {κ ν : Type} [DecidableEq κ] [Hashable κ]
variable {c : Cache κ ν} {is : List SlotId} {i : SlotId}

/-- Whatever deadline the entry in a slot of the circle is given in place, moving the slot comes to an
end and leaves the cache well-formed with the index as it was. The other slots on the circle keep
their order; the slot is behind all of them that are due no later and before all that are due later.
Only the slot, the neighbours that it had and those that it has are linked otherwise, and of the
entries only the one deadline is another. -/
theorem retimed_in_place (h : c.WellFormedAlong is) (hi : i ∈ is) (deadline : Moment) :
    let t := c.timeline
    let s := t.update i fun e => { e with deadline }
    ∃ u pre post front back,
      (s.detach i).place? i = some u ∧ s.relocate i = u ∧
        ({ c with timeline := u } : Cache κ ν).WellFormedAlong (front ++ i :: back) ∧
        is = pre ++ i :: post ∧ pre ++ post = front ++ back ∧
        (∀ j ∈ front, ∃ f, t.entry? j = some f ∧ f.deadline ≤ deadline) ∧
        (∀ j ∈ back, ∃ f, t.entry? j = some f ∧ deadline < f.deadline) ∧
        (∀ k ∉ [i, t.prev i, t.next i, u.prev i, u.next i],
          u.next k = t.next k ∧ u.prev k = t.prev k) ∧
        (∀ k, u.entry? k =
          if k = i then (t.entry? k).map fun e => { e with deadline } else t.entry? k) ∧
        u.free = t.free ∧ u.count = t.count ∧ u.slots.size = t.slots.size := by
  intro t s
  obtain ⟨e, he⟩ := Option.isSome_iff_exists.mp (h.circle.held i hi)
  obtain ⟨pre, post, rfl⟩ := List.append_of_mem hi
  -- with the slot off the circle the rest is in order, whatever the new deadline is
  obtain ⟨lifted, -⟩ := h.lift he (f := fun e => { e with deadline }) rfl
  have held : Timeline.entry? (s.detach i) i = some { e with deadline } := by
    simp [s, t, Timeline.entry?_update, he]
  have others : ∀ j ∈ pre ++ post, Timeline.entry? (s.detach i) j = t.entry? j := by
    intro j hj
    rw [Timeline.entry?_detach, Timeline.entry?_update, if_neg (ne_of_mem_of_not_mem hj lifted.off)]
  have parts := Timeline.earlier_append_later (s.detach i) deadline (pre ++ post)
  have moved : (s.detach i).place? i = some (s.relocate i) := lifted.circle.place?_eq_place held
  have formed := lifted.place held
  refine ⟨s.relocate i, pre, post, (s.detach i).earlier deadline (pre ++ post),
    (s.detach i).later deadline (pre ++ post), moved, rfl, formed, rfl, parts.symm,
    ?_, ?_, ?_, ?_, ?_, ?_, ?_⟩
  · intro j hj
    rw [← others j (parts ▸ List.mem_append_left _ hj)]
    exact lifted.circle.deadline_le_earlier lifted.sorted deadline j hj
  · intro j hj
    rw [← others j (parts ▸ List.mem_append_right _ hj)]
    exact lifted.circle.lt_deadline_later deadline j hj
  · intro k hk
    simp only [List.mem_cons, List.not_mem_nil, or_false, not_or] at hk
    obtain ⟨other, hp, hn, hp', hn'⟩ := hk
    have links := (h.circle.update i fun e => { e with deadline }).links_relocate hi other
    rw [Timeline.next_update, Timeline.prev_update, Timeline.next_update, Timeline.prev_update]
      at links
    exact ⟨links.1 hp hp', links.2 hn hn'⟩
  · intro k
    rw [Timeline.relocate, Timeline.entry?_place, Timeline.entry?_detach, Timeline.entry?_update]
  · rw [Timeline.relocate, Timeline.free_place, Timeline.free_detach, Timeline.free_update]
  · rw [Timeline.relocate, Timeline.count_place, Timeline.count_detach, Timeline.count_update]
  · rw [Timeline.relocate, Timeline.size_place, Timeline.size_detach, Timeline.size_update]

/-- Three keys whose entries are due one after the other. -/
def threeKeys : List (Moment × Request Nat Nat) :=
  [(.origin, .put 1 10 (.ofSeconds 1)), (.origin, .put 2 20 (.ofSeconds 2)),
    (.origin, .put 3 30 (.ofSeconds 3))]

theorem contents_threeKeys :
    ((empty true : Cache Nat Nat).run threeKeys).2.contents =
      [.start 1 10 (.ofSeconds 1) .origin, .start 2 20 (.ofSeconds 2) .origin,
        .start 3 30 (.ofSeconds 3) .origin] := by
  have h₀ := wellFormed_empty (κ := Nat) (ν := Nat) true
  have h₁ := h₀.put 1 10 (.ofSeconds 1) .origin
  have h₂ := h₁.put 2 20 (.ofSeconds 2) .origin
  refine (h₂.contents_put 3 30 (.ofSeconds 3) .origin).trans ?_
  rw [h₁.contents_put, h₀.contents_put]
  decide

/-- The first entry, given the latest deadline in place, is moved to the end. -/
theorem retimed_in_threeKeys :
    let c := ((empty true : Cache Nat Nat).run threeKeys).2
    let late := Moment.origin.plus (.ofSeconds 9)
    ∃ is i u front, c.WellFormedAlong is ∧ c.index[1]? = some i ∧ i ∈ is ∧
      ((c.timeline.update i fun e => { e with deadline := late }).detach i).place? i = some u ∧
      ({ c with timeline := u } : Cache Nat Nat).WellFormedAlong (front ++ [i]) := by
  intro c late
  have formed : c.WellFormed := (wellFormed_empty true).run threeKeys
  have present : c.lookup? 1 = some (.start 1 10 (.ofSeconds 1) .origin) :=
    formed.lookup?_eq_some_iff.mpr ⟨by rw [contents_threeKeys]; decide, rfl⟩
  obtain ⟨is, along⟩ := formed
  obtain ⟨i, hi, -⟩ := Option.bind_eq_some_iff.mp present
  have on : i ∈ is := ((along.indexed 1 i).mp hi).1
  obtain ⟨u, pre, post, front, back, placed, -, along', -, -, -, later, -⟩ :=
    retimed_in_place along on late
  have none : back = [] := by
    refine List.eq_nil_iff_forall_not_mem.mpr fun j hj => ?_
    obtain ⟨f, hf, due⟩ := later j hj
    have mem : f ∈ c.contents := by
      rw [along.contents_eq]
      exact List.mem_filterMap.mpr ⟨j, along.onCircle j (by simp [hf]), hf⟩
    rw [contents_threeKeys] at mem
    simp only [List.mem_cons, List.not_mem_nil, or_false] at mem
    obtain rfl | rfl | rfl := mem <;> exact absurd due (by decide)
  subst none
  exact ⟨is, i, u, front, along, hi, on, placed, along'⟩

end TimedCache.Cache
