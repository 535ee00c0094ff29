import TimedCache.Proofs.Timeline.Insertion

/-!
# Taking a slot off and placing it again

A slot that is taken off the circle leaves the timeline as it was before the slot was placed, link
by link. So it makes no difference to where a slot is placed that it was on the circle before; and
only the slot and its neighbours, those it leaves and those it gets, are linked otherwise afterwards.
-/
namespace TimedCache.Timeline

variable {κ ν : Type} {t u : Timeline κ ν} {is pre post : List SlotId} {i k behind : SlotId}
  {e : Entry κ ν}

/-- A timeline is what is read from its slots, with the free slots and the count. -/
theorem eq_of_reads (size : u.slots.size = t.slots.size) (entries : ∀ k, u.entry? k = t.entry? k)
    (nexts : ∀ k, u.next k = t.next k) (prevs : ∀ k, u.prev k = t.prev k) (free : u.free = t.free)
    (count : u.count = t.count) : u = t := by
  refine Timeline.ext (Array.ext size fun k hu ht => ?_) free count
  have entry := entries k
  have next := nexts k
  have prev := prevs k
  simp only [Timeline.entry?, Timeline.next, Timeline.prev, Array.getElem?_eq_getElem hu,
    Array.getElem?_eq_getElem ht, Option.bind_some, Option.map_some, Option.getD_some]
    at entry next prev
  exact Slot.mk.injEq .. ▸ ⟨entry, prev, next⟩

/-! ### Changes in one slot -/

theorem modifySlot_comm {f g : Slot κ ν → Slot κ ν} (h : ∀ s, f (g s) = g (f s))
    (t : Timeline κ ν) (i k : SlotId) :
    (t.modifySlot i g).modifySlot k f = (t.modifySlot k f).modifySlot i g := by
  refine Timeline.ext (Array.ext_getElem? fun j => ?_) rfl rfl
  simp only [getElem?_modifySlot]
  split_ifs <;> simp [Function.comp_def, h]

theorem update_update (t : Timeline κ ν) (i : SlotId) (f g : Entry κ ν → Entry κ ν) :
    (t.update i f).update i g = t.update i fun e => g (f e) := by
  refine Timeline.ext (Array.ext_getElem? fun j => ?_) rfl rfl
  simp only [update, getElem?_modifySlot]
  split_ifs <;> simp [Function.comp_def]

theorem update_setPrev (t : Timeline κ ν) (i j k : SlotId) (f : Entry κ ν → Entry κ ν) :
    (t.setPrev i j).update k f = (t.update k f).setPrev i j := by
  apply modifySlot_comm
  exact fun _ => rfl

theorem update_setNext (t : Timeline κ ν) (i j k : SlotId) (f : Entry κ ν → Entry κ ν) :
    (t.setNext i j).update k f = (t.update k f).setNext i j := by
  apply modifySlot_comm
  exact fun _ => rfl

/-- Changing an entry has nothing to do with the links. -/
theorem update_detach (t : Timeline κ ν) (i k : SlotId) (f : Entry κ ν → Entry κ ν) :
    (t.detach i).update k f = (t.update k f).detach i := by
  have same := entry?_eq_none_iff (isSome_entry?_update t k i f)
  by_cases off : i = root ∨ t.entry? i = none
  · rw [detach_eq_self off, detach_eq_self (off.imp_right same.mpr)]
  · unfold detach
    rw [if_neg off, if_neg (fun h => off (h.imp_right same.mp))]
    simp only [next_update, prev_update, update_setPrev, update_setNext]

/-- A new entry may as well be changed before it is stored. -/
theorem Accounted.update_store (h : t.Accounted) (e : Entry κ ν) (f : Entry κ ν → Entry κ ν) :
    (t.store e).2.update t.spare f = (t.store (f e)).2 := by
  refine Timeline.ext (Array.ext_getElem? fun j => ?_) ?_ ?_
  · rw [Timeline.update, getElem?_modifySlot, h.getElem?_store, h.getElem?_store]
    by_cases hj : j = t.spare <;> simp [hj]
  · cases hf : t.free <;> simp [Timeline.store, hf, Timeline.update, modifySlot]
  · cases hf : t.free <;> simp [Timeline.store, hf, Timeline.update, modifySlot]

/-! ### Taking off what was put on -/

namespace Circle

theorem detach_link (h : t.Circle (pre ++ post)) (away : i ≠ root) (holds : (t.entry? i).isSome)
    (off : i ∉ pre ++ post) (alone : t.next i = i ∧ t.prev i = i) :
    (t.link (pre.getLastD root) i).detach i = t := by
  have inside := lt_size_of_isSome holds
  obtain ⟨hp, hn⟩ := h.gap_lt_size (root_lt_size_of_isSome holds)
  have circle := h.link away holds off
  obtain ⟨next, prev⟩ := h.gap
  rw [next] at hn
  have holds : (Timeline.entry? (t.link (pre.getLastD root) i) i).isSome := by rwa [entry?_link]
  have hp' : (t.link (pre.getLastD root) i).prev i < (t.link (pre.getLastD root) i).slots.size := by
    rw [size_link, circle.prev_eq]
    exact hp
  have hn' : (t.link (pre.getLastD root) i).next i < (t.link (pre.getLastD root) i).slots.size := by
    rw [size_link, circle.next_eq]
    exact hn
  refine eq_of_reads (by simp) (by simp) (fun k => ?_) (fun k => ?_) (by simp) (by simp)
  · rw [next_detach away holds hp', circle.prev_eq, circle.next_eq, next_link hp inside]
    grind
  · rw [prev_detach away holds hn', circle.prev_eq, circle.next_eq,
      prev_link (next ▸ hn) inside]
    grind

theorem detach_place (h : t.Circle is) (away : i ≠ root) (he : t.entry? i = some e) (off : i ∉ is)
    (alone : t.next i = i ∧ t.prev i = i) : (t.place i).detach i = t := by
  have parts := earlier_append_later t e.deadline is
  have whole : t.Circle (t.earlier e.deadline is ++ t.later e.deadline is) := by rwa [parts]
  rw [Timeline.place, h.place?_eq he, Option.getD_some]
  exact whole.detach_link away (by simp [he]) (by rwa [parts]) alone

/-- A slot that is on the circle goes where it would go if it had not been there. -/
theorem relocate_place (h : t.Circle is) (away : i ≠ root) (he : t.entry? i = some e) (off : i ∉ is)
    (alone : t.next i = i ∧ t.prev i = i) (f : Entry κ ν → Entry κ ν) :
    ((t.place i).update i f).relocate i = (t.update i f).place i := by
  rw [relocate, ← update_detach, h.detach_place away he off alone]

theorem alone_detach (h : t.Circle is) (hi : i ∈ is) :
    (t.detach i).next i = i ∧ (t.detach i).prev i = i := by
  have away := h.ne_root hi
  have holds := h.held i hi
  obtain ⟨hn, hp⟩ := h.neighbours_lt_size (root_lt_size_of_isSome holds) (List.mem_cons_of_mem _ hi)
  rw [next_detach away holds hp, prev_detach away holds hn, if_pos rfl]
  exact ⟨rfl, if_pos rfl⟩

/-- Moving a slot twice comes to the same as moving it once. -/
theorem relocate_relocate (h : t.Circle is) (hi : i ∈ is) (f g : Entry κ ν → Entry κ ν) :
    (((t.update i f).relocate i).update i g).relocate i =
      (t.update i fun e => g (f e)).relocate i := by
  have updated := h.update i f
  obtain ⟨e, he⟩ := Option.isSome_iff_exists.mp (updated.held i hi)
  have alone := updated.alone_detach hi
  obtain ⟨pre, post, rfl⟩ := List.append_of_mem hi
  have again := updated.detach.relocate_place (h.ne_root hi) ((entry?_detach _ i i).trans he)
    h.notMem_append alone g
  rw [update_detach, update_update] at again
  exact again

/-- Moving the slot of a new entry comes to the same as storing what the entry has become. -/
theorem relocate_store (h : t.Circle is) (ha : t.Accounted) (e : Entry κ ν)
    (f : Entry κ ν → Entry κ ν) :
    (((t.store e).2.place t.spare).update t.spare f).relocate t.spare =
      (t.store (f e)).2.place t.spare := by
  have alone : (t.store e).2.next t.spare = t.spare ∧ (t.store e).2.prev t.spare = t.spare := by
    simp [ha.next_store, ha.prev_store]
  rw [(h.store ha e).relocate_place ha.spare_ne_root (ha.entry?_store_spare e) (h.spare_notMem ha)
    alone, ha.update_store]

/-! ### The links of the other slots -/

theorem links_detach (h : t.Circle is) (hi : i ∈ is) (hk : k ≠ i) :
    (k ≠ t.prev i → (t.detach i).next k = t.next k) ∧
      (k ≠ t.next i → (t.detach i).prev k = t.prev k) := by
  have away := h.ne_root hi
  have holds := h.held i hi
  obtain ⟨hn, hp⟩ := h.neighbours_lt_size (root_lt_size_of_isSome holds) (List.mem_cons_of_mem _ hi)
  rw [next_detach away holds hp, prev_detach away holds hn, if_neg hk, if_neg hk]
  exact ⟨fun other => if_neg other, fun other => if_neg other⟩

theorem links_link (h : t.Circle (pre ++ post)) (away : i ≠ root) (holds : (t.entry? i).isSome)
    (off : i ∉ pre ++ post) (hk : k ≠ i) {u : Timeline κ ν}
    (hu : u = t.link (pre.getLastD root) i) :
    (k ≠ u.prev i → u.next k = t.next k) ∧ (k ≠ u.next i → u.prev k = t.prev k) := by
  subst hu
  have inside := lt_size_of_isSome holds
  obtain ⟨hp, hn⟩ := h.gap_lt_size (root_lt_size_of_isSome holds)
  have circle := h.link away holds off
  rw [circle.prev_eq, circle.next_eq, next_link hp inside, prev_link hn inside, h.gap.1]
  constructor
  · intro other
    rw [if_neg other, if_neg hk]
  · intro other
    rw [if_neg other, if_neg hk]

theorem links_place (h : t.Circle is) (away : i ≠ root) (he : t.entry? i = some e) (off : i ∉ is)
    (hk : k ≠ i) :
    (k ≠ (t.place i).prev i → (t.place i).next k = t.next k) ∧
      (k ≠ (t.place i).next i → (t.place i).prev k = t.prev k) := by
  have parts := earlier_append_later t e.deadline is
  have whole : t.Circle (t.earlier e.deadline is ++ t.later e.deadline is) := by rwa [parts]
  refine whole.links_link away (by simp [he]) (by rwa [parts]) hk ?_
  rw [Timeline.place, h.place?_eq he, Option.getD_some]

/-- Of the slots that stay, only the neighbours that are left and those that are got are linked
otherwise. -/
theorem links_relocate (h : t.Circle is) (hi : i ∈ is) (hk : k ≠ i) :
    (k ≠ t.prev i → k ≠ (t.relocate i).prev i → (t.relocate i).next k = t.next k) ∧
      (k ≠ t.next i → k ≠ (t.relocate i).next i → (t.relocate i).prev k = t.prev k) := by
  obtain ⟨e, he⟩ := Option.isSome_iff_exists.mp (h.held i hi)
  have left := h.links_detach hi hk
  obtain ⟨pre, post, rfl⟩ := List.append_of_mem hi
  have got := h.detach.links_place (h.ne_root hi) ((entry?_detach t i i).trans he) h.notMem_append hk
  exact ⟨fun old new => (got.1 new).trans (left.1 old), fun old new => (got.2 new).trans (left.2 old)⟩

end Circle

end TimedCache.Timeline
