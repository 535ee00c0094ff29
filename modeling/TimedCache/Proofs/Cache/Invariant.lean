import TimedCache.Cache.WellFormed
import TimedCache.Proofs.Timeline.Entries

/-!
# The invariant of a cache

Every operation of a cache that touches its timeline keeps the cache well-formed. A write and a
renewal break the invariant on the way: one slot then holds an entry and is indexed, but is not on
the circle. What such a slot needs to go on the circle is stated once and serves both.
-/
namespace TimedCache.Cache

variable {κ ν : Type} [DecidableEq κ] [Hashable κ]

/-- The entries present, the earliest deadline first. -/
def contents (c : Cache κ ν) : List (Entry κ ν) := c.timeline.toList

/-- A map has as many keys as a list that names each of them once. -/
theorem size_eq_length_of_mem_iff {m : Std.ExtHashMap κ SlotId} {ks : List κ} (distinct : ks.Nodup)
    (h : ∀ k, k ∈ m ↔ k ∈ ks) : m.size = ks.length := by
  induction ks generalizing m with
  | nil =>
    have : m = ∅ := Std.ExtHashMap.eq_empty_iff_forall_not_mem.mpr fun k => by simp [h]
    simp [this]
  | cons k ks ih =>
    obtain ⟨new, distinct⟩ := List.nodup_cons.mp distinct
    have rest : ∀ j, j ∈ m.erase k ↔ j ∈ ks := by
      intro j
      rw [Std.ExtHashMap.mem_erase, h, List.mem_cons]
      by_cases hj : j = k
      · subst hj
        simp [new]
      · simp [hj, Ne.symm hj]
    have size := ih distinct rest
    have present : k ∈ m := (h k).mpr List.mem_cons_self
    have some : m.size ≠ 0 := by
      intro none
      rw [← Std.ExtHashMap.eq_empty_iff_size_eq_zero] at none
      simp [none] at present
    rw [Std.ExtHashMap.size_erase, if_pos present] at size
    rw [List.length_cons]
    omega

namespace WellFormedAlong

variable {c d : Cache κ ν} {is : List SlotId}

theorem congr (h : c.WellFormedAlong is) (index : d.index = c.index)
    (timeline : d.timeline = c.timeline) : d.WellFormedAlong is where
  accounted := timeline ▸ h.accounted
  circle := timeline ▸ h.circle
  sorted := timeline ▸ h.sorted
  onCircle := timeline ▸ h.onCircle
  indexed := by
    rw [index, timeline]
    exact h.indexed

theorem contents_eq (h : c.WellFormedAlong is) : c.contents = is.filterMap c.timeline.entry? :=
  h.circle.toList_eq h.accounted.rooted.1

theorem length_contents (h : c.WellFormedAlong is) : c.contents.length = is.length := by
  rw [h.contents_eq, h.circle.length_filterMap]

theorem ordered (h : c.WellFormedAlong is) : Ordered c.contents := by
  rw [h.contents_eq]
  exact h.sorted

/-- The index leads from the key of an entry on the circle to its slot. -/
theorem index_key (h : c.WellFormedAlong is) {i : SlotId} (hi : i ∈ is) {e : Entry κ ν}
    (he : c.timeline.entry? i = some e) : c.index[e.key]? = some i :=
  (h.indexed e.key i).mpr ⟨hi, by simp [he]⟩

theorem distinctKeys (h : c.WellFormedAlong is) : (c.contents.map Entry.key).Nodup := by
  rw [h.contents_eq, List.Nodup, List.pairwise_map, List.pairwise_filterMap]
  refine h.circle.nodup.imp_of_mem fun {i j} hi hj apart e he f hf same => apart ?_
  have := h.index_key hi he
  rw [same, h.index_key hj hf] at this
  exact (Option.some.inj this).symm

theorem lookup?_eq_some_iff (h : c.WellFormedAlong is) {key : κ} {e : Entry κ ν} :
    c.lookup? key = some e ↔ e ∈ c.contents ∧ e.key = key := by
  rw [lookup?, Option.bind_eq_some_iff, h.contents_eq, List.mem_filterMap]
  constructor
  · rintro ⟨i, hi, he⟩
    obtain ⟨on, hk⟩ := (h.indexed key i).mp hi
    exact ⟨⟨i, on, he⟩, by simpa [he] using hk⟩
  · rintro ⟨⟨i, on, he⟩, rfl⟩
    exact ⟨i, h.index_key on he, he⟩

theorem lookup?_eq_none_iff (h : c.WellFormedAlong is) {key : κ} :
    c.lookup? key = none ↔ c.index[key]? = none := by
  rw [lookup?, Option.bind_eq_none_iff]
  constructor
  · intro none
    rw [Option.eq_none_iff_forall_not_mem]
    intro i hi
    obtain ⟨on, hk⟩ := (h.indexed key i).mp hi
    simp [none i hi] at hk
  · intro none i hi
    rw [none] at hi
    cases hi

theorem mem_index_iff (h : c.WellFormedAlong is) {key : κ} :
    key ∈ c.index ↔ key ∈ c.contents.map Entry.key := by
  rw [List.mem_map, ← Std.ExtHashMap.isSome_getElem?_iff_mem, Option.isSome_iff_ne_none, ne_eq,
    ← h.lookup?_eq_none_iff, ← ne_eq, Option.ne_none_iff_exists']
  simp only [h.lookup?_eq_some_iff]

theorem size_eq (h : c.WellFormedAlong is) : c.size = c.contents.length := by
  rw [size, size_eq_length_of_mem_iff h.distinctKeys fun _ => h.mem_index_iff, List.length_map]

theorem held_eq (h : c.WellFormedAlong is) : c.timeline.held = is.toFinset := by
  ext i
  rw [Timeline.mem_held, List.mem_toFinset]
  exact ⟨h.onCircle i, h.circle.held i⟩

theorem count_eq (h : c.WellFormedAlong is) : c.timeline.count = c.contents.length := by
  rw [h.accounted.counted, ← Timeline.card_held, h.held_eq,
    List.toFinset_card_of_nodup h.circle.nodup, h.length_contents]

theorem isEmpty_iff (h : c.WellFormedAlong is) : c.isEmpty ↔ c.contents = [] := by
  rw [isEmpty, Timeline.isEmpty, beq_iff_eq, h.circle.next_root, ← List.length_eq_zero_iff,
    h.length_contents, List.length_eq_zero_iff]
  cases is with
  | nil => simp
  | cons i is => simpa using h.circle.ne_root List.mem_cons_self

end WellFormedAlong

namespace WellFormed

variable {c : Cache κ ν}

theorem ordered (h : c.WellFormed) : Ordered c.contents := h.elim fun _ h => h.ordered

theorem distinctKeys (h : c.WellFormed) : (c.contents.map Entry.key).Nodup :=
  h.elim fun _ h => h.distinctKeys

theorem lookup?_eq_some_iff (h : c.WellFormed) {key : κ} {e : Entry κ ν} :
    c.lookup? key = some e ↔ e ∈ c.contents ∧ e.key = key :=
  h.elim fun _ h => h.lookup?_eq_some_iff

theorem lookup?_eq_none_iff (h : c.WellFormed) {key : κ} :
    c.lookup? key = none ↔ ∀ e ∈ c.contents, e.key ≠ key := by
  rw [Option.eq_none_iff_forall_not_mem]
  simp only [Option.mem_def, h.lookup?_eq_some_iff, not_and]

theorem size_eq (h : c.WellFormed) : c.size = c.contents.length := h.elim fun _ h => h.size_eq

theorem isEmpty_iff (h : c.WellFormed) : c.isEmpty ↔ c.contents = [] :=
  h.elim fun _ h => h.isEmpty_iff

/-- Only what is present under its key counts for what a key leads to. -/
theorem lookup?_congr (h : c.WellFormed) {d : Cache κ ν} (hd : d.WellFormed) {key : κ}
    (same : ∀ e : Entry κ ν, e.key = key → (e ∈ d.contents ↔ e ∈ c.contents)) :
    d.lookup? key = c.lookup? key := by
  ext e
  rw [h.lookup?_eq_some_iff, hd.lookup?_eq_some_iff]
  constructor
  · rintro ⟨he, hk⟩
    exact ⟨(same e hk).mp he, hk⟩
  · rintro ⟨he, hk⟩
    exact ⟨(same e hk).mpr he, hk⟩

/-- What is counted and noted has no part in the invariant. -/
theorem record (h : c.WellFormed) (event : Event) : (c.record event).WellFormed :=
  h.imp fun _ along => along.congr rfl rfl

theorem note (h : c.WellFormed) : c.note.WellFormed := h.imp fun _ along => along.congr rfl rfl

end WellFormed

/-! ### Counts and notes -/

section

variable (c : Cache κ ν)

/-- The statistics given out do not depend on the number noted. -/
theorem stats_eq : c.stats = ⟨c.tally, c.size⟩ := rfl

@[simp] theorem tally_record (event : Event) : (c.record event).tally = c.tally.record event := rfl
@[simp] theorem tally_note : c.note.tally = c.tally := rfl

end

/-! ### One slot off the circle -/

/-- Well-formed but for one slot that holds an entry and is indexed and is not on the circle. -/
structure WellFormedBut (c : Cache κ ν) (i : SlotId) (is : List SlotId) : Prop where
  accounted : c.timeline.Accounted
  circle : c.timeline.Circle is
  sorted : c.timeline.Sorted is
  away : i ≠ Timeline.root
  off : i ∉ is
  onCircle : ∀ j, (c.timeline.entry? j).isSome → j = i ∨ j ∈ is
  indexed : ∀ k j, c.index[k]? = some j ↔
    (j = i ∨ j ∈ is) ∧ (c.timeline.entry? j).map Entry.key = some k

/-- Placing the slot makes the cache well-formed. -/
theorem WellFormedBut.place {c : Cache κ ν} {i : SlotId} {is : List SlotId}
    (h : c.WellFormedBut i is) {e : Entry κ ν} (he : c.timeline.entry? i = some e) :
    ({ c with timeline := c.timeline.place i } : Cache κ ν).WellFormedAlong
      (c.timeline.earlier e.deadline is ++ i :: c.timeline.later e.deadline is) := by
  have mem : ∀ j, j ∈ c.timeline.earlier e.deadline is ++ i :: c.timeline.later e.deadline is ↔
      j = i ∨ j ∈ is := by
    intro j
    rw [List.perm_middle.mem_iff, List.mem_cons, Timeline.earlier_append_later]
  constructor
  · exact h.accounted.place i
  · exact h.circle.place h.away he h.off
  · exact h.circle.sorted_place h.sorted he
  · intro j
    rw [mem, Timeline.entry?_place]
    exact h.onCircle j
  · intro k j
    rw [mem, Timeline.entry?_place]
    exact h.indexed k j

theorem WellFormedBut.contents_place {c : Cache κ ν} {i : SlotId} {is : List SlotId}
    (h : c.WellFormedBut i is) {e : Entry κ ν} (he : c.timeline.entry? i = some e) :
    ({ c with timeline := c.timeline.place i } : Cache κ ν).contents =
      e.insertInto (is.filterMap c.timeline.entry?) :=
  (h.place he).contents_eq.trans (h.circle.filterMap_place h.sorted he)

namespace WellFormedAlong

variable {c : Cache κ ν} {is pre post : List SlotId} {i : SlotId} {key : κ} {e : Entry κ ν}

/-- Storing an entry under a new key and indexing its slot. -/
theorem store (h : c.WellFormedAlong is) (new : c.index[e.key]? = none) :
    ({ c with
      index := c.index.insert e.key c.timeline.spare
      timeline := (c.timeline.store e).2 } : Cache κ ν).WellFormedBut c.timeline.spare is ∧
      is.filterMap (Timeline.entry? (c.timeline.store e).2) = c.contents := by
  have off := h.circle.spare_notMem h.accounted
  have entries : is.filterMap (Timeline.entry? (c.timeline.store e).2) = c.contents :=
    (h.circle.filterMap_store h.accounted e).trans h.contents_eq.symm
  refine ⟨?_, entries⟩
  constructor
  · exact h.accounted.store e
  · exact h.circle.store h.accounted e
  · unfold Timeline.Sorted
    rw [entries]
    exact h.ordered
  · exact h.accounted.spare_ne_root
  · exact off
  · intro j
    rw [h.accounted.entry?_store]
    split_ifs with hj
    · exact fun _ => .inl hj
    · exact fun held => .inr (h.onCircle j held)
  · intro k j
    rw [h.accounted.entry?_store, Std.ExtHashMap.getElem?_insert]
    by_cases hj : j = c.timeline.spare
    · subst hj
      have unused : c.index[k]? ≠ some c.timeline.spare := fun used =>
        off ((h.indexed k _).mp used).1
      by_cases hk : e.key = k <;> simp [hk, unused]
    · by_cases hk : e.key = k
      · have absent : ¬(j ∈ is ∧ (c.timeline.entry? j).map Entry.key = some k) := by
          rw [← h.indexed, ← hk, new]
          simp
        simpa [hk, hj, Ne.symm hj] using absent
      · simpa [hk, hj] using h.indexed k j

end WellFormedAlong
end TimedCache.Cache
