import TimedCache.Proofs.Timeline.Relocation

/-!
# Taking slots off the circle

Taking a slot off writes to the slot and to its two neighbours, which may be one and the same or the
root. It undoes placing the slot, it leaves the rest of the circle as it was, and done once more it
changes nothing.
-/
namespace TimedCache.Timeline

variable {κ ν : Type} {t : Timeline κ ν} {is : List SlotId} {i k : SlotId}

/-- A slot that is linked to itself is not on the circle. -/
theorem Circle.notMem_of_alone (h : t.Circle is) (alone : t.next i = i) : i ∉ is := by
  intro on
  obtain ⟨pre, post, rfl⟩ := List.append_of_mem on
  have behind : post.headD root ∈ post ++ [root] := by cases post <;> simp
  exact ne_of_mem_back h.distinct _ behind (h.next_eq.symm.trans alone)

/-- Only the slot and its neighbours are written. -/
theorem getElem?_detach (hk : k ∉ [i, t.prev i, t.next i]) :
    (t.detach i).slots[k]? = t.slots[k]? := by
  simp only [List.mem_cons, List.not_mem_nil, or_false, not_or] at hk
  obtain ⟨other, before, behind⟩ := hk
  unfold detach
  split
  · rfl
  · simp only [setNext, setPrev, getElem?_modifySlot, if_neg other, if_neg before, if_neg behind]

theorem detach_of_alone (alone : t.next i = i ∧ t.prev i = i) : t.detach i = t := by
  by_cases off : i = root ∨ t.entry? i = none
  · exact detach_eq_self off
  · have away : i ≠ root := fun h => off (.inl h)
    have holds : (t.entry? i).isSome := Option.isSome_iff_ne_none.mpr fun h => off (.inr h)
    have inside := lt_size_of_isSome holds
    obtain ⟨next, prev⟩ := alone
    refine eq_of_reads (by simp) (by simp) (fun k => ?_) (fun k => ?_) (by simp) (by simp)
    · rw [next_detach away holds (prev.symm ▸ inside)]
      grind
    · rw [prev_detach away holds (next.symm ▸ inside)]
      grind

theorem Circle.detach_erase (h : t.Circle is) (hi : i ∈ is) : (t.detach i).Circle (is.erase i) := by
  obtain ⟨pre, post, rfl⟩ := List.append_of_mem hi
  have front : i ∉ pre := fun on => h.notMem_append (List.mem_append_left post on)
  rw [List.erase_append_right _ front, List.erase_cons_head]
  exact h.detach

/-- Taking a slot off the circle undoes placing it: a slot that holds an entry and is linked to itself
is placed, and taking it off again gives back the timeline as it was. A slot on the circle is linked to
itself afterwards, and the circle, in both directions, is the old one without it; no slot but this one
and its neighbours is written, and no entry changes. Taking it off once more changes nothing, as for
the root and for a slot without an entry. -/
theorem detach_undoes_place (h : t.Circle is) :
    (∀ i ≠ root, (t.entry? i).isSome → t.next i = i ∧ t.prev i = i →
      ∃ u, t.place? i = some u ∧ u.detach i = t) ∧
    (∀ i ∈ is,
      let u := t.detach i
      (u.next i = i ∧ u.prev i = i) ∧ u.Circle (is.erase i) ∧
        (∀ k ∉ [i, t.prev i, t.next i], u.slots[k]? = t.slots[k]?) ∧
        (∀ k, u.entry? k = t.entry? k) ∧ u.free = t.free ∧ u.count = t.count ∧
        u.detach i = u) ∧
    ∀ i, i = root ∨ t.entry? i = none → t.detach i = t := by
  refine ⟨fun i away holds alone => ?_, fun i hi => ?_, fun i => detach_eq_self⟩
  · obtain ⟨e, he⟩ := Option.isSome_iff_exists.mp holds
    exact ⟨t.place i, h.place?_eq_place he,
      h.detach_place away he (h.notMem_of_alone alone.1) alone⟩
  · have alone := h.alone_detach hi
    exact ⟨alone, h.detach_erase hi, fun k => getElem?_detach, entry?_detach t i, free_detach t i,
      count_detach t i, detach_of_alone alone⟩

/-- One slot is on the circle; a second one is not, and its entry is due earlier. -/
def oneLinked : Timeline Nat Nat :=
  (empty.editAll? [.store (.start 1 10 (.ofSeconds 2) .origin), .place 1,
    .store (.start 2 20 (.ofSeconds 1) .origin)]).getD empty

/-- The second slot goes between the root and the first and off again; both neighbours of the first
one are the root. -/
theorem detach_undoes_place_of_oneLinked :
    oneLinked.Circle [1] ∧
      (∃ u, oneLinked.place? 2 = some u ∧ u.next root = 2 ∧ u.prev 1 = 2 ∧
        u.detach 2 = oneLinked) ∧
      (oneLinked.detach 1).Circle [] ∧ (oneLinked.detach 1).detach 1 = oneLinked.detach 1 := by
  have circle : oneLinked.Circle [1] :=
    ⟨by decide, by decide, by simp only [Linked, List.cons_append, List.nil_append]; decide⟩
  obtain ⟨placed, taken, -⟩ := detach_undoes_place circle
  obtain ⟨u, hu, undone⟩ := placed 2 (by decide) (by decide) (by decide)
  obtain ⟨-, left, -, -, -, -, again⟩ := taken 1 List.mem_cons_self
  have links : (oneLinked.place? 2).map (fun u => (u.next root, u.prev 1)) = some (2, 2) := by
    decide
  rw [hu, Option.map_some, Option.some_inj, Prod.mk.injEq] at links
  exact ⟨circle, ⟨u, hu, links.1, links.2, undone⟩, left, again⟩

end TimedCache.Timeline
