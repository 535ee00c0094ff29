import Mathlib.Data.Finset.Card
import Mathlib.Data.Finset.Range
import TimedCache.Timeline.Circle

/-!
# Slots of a timeline

What each operation does to the slots: which entry a slot holds afterwards and where its links lead.
From this alone follows that every operation keeps the slots accounted for, whatever slot numbers it
is given.
-/
namespace TimedCache.Timeline

variable {κ ν : Type}

theorem entry?_of_size_le {t : Timeline κ ν} {i : SlotId} (h : t.slots.size ≤ i) :
    t.entry? i = none := by
  simp [Timeline.entry?, Array.getElem?_eq_none h]

theorem lt_size_of_isSome {t : Timeline κ ν} {i : SlotId} (h : (t.entry? i).isSome) :
    i < t.slots.size := by
  by_contra hi
  simp [entry?_of_size_le (Nat.le_of_not_lt hi)] at h

theorem entry?_eq_none_iff {t u : Timeline κ ν} {i : SlotId}
    (h : (u.entry? i).isSome = (t.entry? i).isSome) : u.entry? i = none ↔ t.entry? i = none := by
  rw [← Option.isNone_iff_eq_none, ← Option.isNone_iff_eq_none, ← Option.not_isSome,
    ← Option.not_isSome, h]

theorem root_lt_size_of_isSome {t : Timeline κ ν} {i : SlotId} (h : (t.entry? i).isSome) :
    root < t.slots.size :=
  Nat.lt_of_le_of_lt (Nat.zero_le i) (lt_size_of_isSome h)

@[simp] theorem entry?_empty (i : SlotId) : Timeline.entry? (empty : Timeline κ ν) i = none := by
  cases i with
  | zero => rfl
  | succ i => exact entry?_of_size_le (Nat.succ_le_succ (Nat.zero_le i))

/-! ### Writing a slot -/

theorem getElem?_modifySlot (t : Timeline κ ν) (i k : SlotId) (f : Slot κ ν → Slot κ ν) :
    (t.modifySlot i f).slots[k]? = if k = i then t.slots[k]?.map f else t.slots[k]? := by
  simp only [modifySlot, Array.getElem?_modify, eq_comm]

theorem entry?_modifySlot {f : Slot κ ν → Slot κ ν} (keeps : ∀ s, (f s).entry = s.entry)
    (t : Timeline κ ν) (i k : SlotId) : entry? (t.modifySlot i f) k = t.entry? k := by
  unfold Timeline.entry?
  rw [getElem?_modifySlot]
  split
  · cases t.slots[k]? <;> simp [keeps]
  · rfl

theorem next_modifySlot {f : Slot κ ν → Slot κ ν} (keeps : ∀ s, (f s).next = s.next)
    (t : Timeline κ ν) (i k : SlotId) : (t.modifySlot i f).next k = t.next k := by
  unfold next
  rw [getElem?_modifySlot]
  split
  · cases t.slots[k]? <;> simp [keeps]
  · rfl

theorem prev_modifySlot {f : Slot κ ν → Slot κ ν} (keeps : ∀ s, (f s).prev = s.prev)
    (t : Timeline κ ν) (i k : SlotId) : (t.modifySlot i f).prev k = t.prev k := by
  unfold prev
  rw [getElem?_modifySlot]
  split
  · cases t.slots[k]? <;> simp [keeps]
  · rfl

@[simp] theorem size_modifySlot (t : Timeline κ ν) (i : SlotId) (f : Slot κ ν → Slot κ ν) :
    (t.modifySlot i f).slots.size = t.slots.size := Array.size_modify

@[simp] theorem free_modifySlot (t : Timeline κ ν) (i : SlotId) (f : Slot κ ν → Slot κ ν) :
    (t.modifySlot i f).free = t.free := rfl

@[simp] theorem count_modifySlot (t : Timeline κ ν) (i : SlotId) (f : Slot κ ν → Slot κ ν) :
    (t.modifySlot i f).count = t.count := rfl

/-! ### Writing a link -/

@[simp] theorem size_setPrev (t : Timeline κ ν) (i j : SlotId) :
    (t.setPrev i j).slots.size = t.slots.size := size_modifySlot t i _

@[simp] theorem size_setNext (t : Timeline κ ν) (i j : SlotId) :
    (t.setNext i j).slots.size = t.slots.size := size_modifySlot t i _

@[simp] theorem free_setPrev (t : Timeline κ ν) (i j : SlotId) :
    (t.setPrev i j).free = t.free := free_modifySlot t i _

@[simp] theorem free_setNext (t : Timeline κ ν) (i j : SlotId) :
    (t.setNext i j).free = t.free := free_modifySlot t i _

@[simp] theorem count_setPrev (t : Timeline κ ν) (i j : SlotId) :
    (t.setPrev i j).count = t.count := count_modifySlot t i _

@[simp] theorem count_setNext (t : Timeline κ ν) (i j : SlotId) :
    (t.setNext i j).count = t.count := count_modifySlot t i _

@[simp] theorem entry?_setPrev (t : Timeline κ ν) (i j k : SlotId) :
    entry? (t.setPrev i j) k = t.entry? k := by
  apply entry?_modifySlot
  exact fun _ => rfl

@[simp] theorem entry?_setNext (t : Timeline κ ν) (i j k : SlotId) :
    entry? (t.setNext i j) k = t.entry? k := by
  apply entry?_modifySlot
  exact fun _ => rfl

@[simp] theorem next_setPrev (t : Timeline κ ν) (i j k : SlotId) :
    (t.setPrev i j).next k = t.next k := by
  apply next_modifySlot
  exact fun _ => rfl

@[simp] theorem prev_setNext (t : Timeline κ ν) (i j k : SlotId) :
    (t.setNext i j).prev k = t.prev k := by
  apply prev_modifySlot
  exact fun _ => rfl

theorem prev_setPrev {t : Timeline κ ν} {i : SlotId} (h : i < t.slots.size) (j k : SlotId) :
    (t.setPrev i j).prev k = if k = i then j else t.prev k := by
  unfold prev setPrev
  rw [getElem?_modifySlot]
  split
  next hk =>
    subst hk
    simp [h]
  next => rfl

theorem next_setNext {t : Timeline κ ν} {i : SlotId} (h : i < t.slots.size) (j k : SlotId) :
    (t.setNext i j).next k = if k = i then j else t.next k := by
  unfold next setNext
  rw [getElem?_modifySlot]
  split
  next hk =>
    subst hk
    simp [h]
  next => rfl

/-! ### Changing an entry -/

@[simp] theorem size_update (t : Timeline κ ν) (i : SlotId) (f : Entry κ ν → Entry κ ν) :
    (t.update i f).slots.size = t.slots.size := size_modifySlot t i _

@[simp] theorem free_update (t : Timeline κ ν) (i : SlotId) (f : Entry κ ν → Entry κ ν) :
    (t.update i f).free = t.free := free_modifySlot t i _

@[simp] theorem count_update (t : Timeline κ ν) (i : SlotId) (f : Entry κ ν → Entry κ ν) :
    (t.update i f).count = t.count := count_modifySlot t i _

theorem entry?_update (t : Timeline κ ν) (i k : SlotId) (f : Entry κ ν → Entry κ ν) :
    entry? (t.update i f) k = if k = i then (t.entry? k).map f else t.entry? k := by
  unfold Timeline.entry? update
  rw [getElem?_modifySlot]
  split
  · cases t.slots[k]? <;> rfl
  · rfl

@[simp] theorem next_update (t : Timeline κ ν) (i k : SlotId) (f : Entry κ ν → Entry κ ν) :
    (t.update i f).next k = t.next k := by
  apply next_modifySlot
  exact fun _ => rfl

@[simp] theorem prev_update (t : Timeline κ ν) (i k : SlotId) (f : Entry κ ν → Entry κ ν) :
    (t.update i f).prev k = t.prev k := by
  apply prev_modifySlot
  exact fun _ => rfl

theorem isSome_entry?_update (t : Timeline κ ν) (i k : SlotId) (f : Entry κ ν → Entry κ ν) :
    (Timeline.entry? (t.update i f) k).isSome = (t.entry? k).isSome := by
  rw [entry?_update]
  split <;> simp

/-! ### Storing and vacating -/

/-- The slot that storing an entry takes. -/
def spare (t : Timeline κ ν) : SlotId := t.free.headD t.slots.size

@[simp] theorem store_fst (t : Timeline κ ν) (e : Entry κ ν) : (t.store e).1 = t.spare := by
  cases h : t.free <;> simp [store, spare, h]

/-- The timeline after a slot has been vacated. -/
def vacated (t : Timeline κ ν) (i : SlotId) : Timeline κ ν where
  slots := t.slots.modify i fun s => { s with entry := none }
  free := i :: t.free
  count := t.count - 1

theorem vacate?_eq_some {t : Timeline κ ν} {i : SlotId} {e : Entry κ ν} (hi : i ≠ root)
    (he : t.entry? i = some e) : t.vacate? i = some (e, t.vacated i) := by
  simp [vacate?, hi, he, vacated]

theorem entry?_vacated (t : Timeline κ ν) (i k : SlotId) :
    entry? (t.vacated i) k = if k = i then none else t.entry? k := by
  show entry? (t.modifySlot i fun s => { s with entry := none }) k = _
  unfold Timeline.entry?
  rw [getElem?_modifySlot]
  split
  · cases t.slots[k]? <;> rfl
  · rfl

@[simp] theorem next_vacated (t : Timeline κ ν) (i k : SlotId) :
    (t.vacated i).next k = t.next k := by
  apply next_modifySlot (f := fun s => { s with entry := none })
  exact fun _ => rfl

@[simp] theorem prev_vacated (t : Timeline κ ν) (i k : SlotId) :
    (t.vacated i).prev k = t.prev k := by
  apply prev_modifySlot (f := fun s => { s with entry := none })
  exact fun _ => rfl

/-! ### Taking a slot off the circle and putting it on -/

theorem detach_eq_self {t : Timeline κ ν} {i : SlotId} (h : i = root ∨ t.entry? i = none) :
    t.detach i = t := if_pos h

@[simp] theorem entry?_detach (t : Timeline κ ν) (i k : SlotId) :
    entry? (t.detach i) k = t.entry? k := by
  unfold detach
  split <;> simp

@[simp] theorem size_detach (t : Timeline κ ν) (i : SlotId) :
    (t.detach i).slots.size = t.slots.size := by
  unfold detach
  split <;> simp

@[simp] theorem free_detach (t : Timeline κ ν) (i : SlotId) : (t.detach i).free = t.free := by
  unfold detach
  split <;> simp

@[simp] theorem count_detach (t : Timeline κ ν) (i : SlotId) : (t.detach i).count = t.count := by
  unfold detach
  split <;> simp

/-- The timeline after a slot has been taken off the circle and vacated. -/
def removed (t : Timeline κ ν) (i : SlotId) : Timeline κ ν := (t.detach i).vacated i

theorem entry?_removed (t : Timeline κ ν) (i k : SlotId) :
    entry? (t.removed i) k = if k = i then none else t.entry? k := by
  rw [removed, entry?_vacated, entry?_detach]

theorem detach_eq {t : Timeline κ ν} {i : SlotId} (hi : i ≠ root) (he : (t.entry? i).isSome) :
    t.detach i =
      (((t.setNext (t.prev i) (t.next i)).setPrev (t.next i) (t.prev i)).setPrev i i).setNext i i := by
  refine if_neg ?_
  rintro (h | h)
  · exact hi h
  · simp [h] at he

/-- Where the links lead once a slot that holds an entry is off the circle. -/
theorem next_detach {t : Timeline κ ν} {i : SlotId} (hi : i ≠ root) (he : (t.entry? i).isSome)
    (hp : t.prev i < t.slots.size) (k : SlotId) :
    (t.detach i).next k =
      if k = i then i else if k = t.prev i then t.next i else t.next k := by
  have inside := lt_size_of_isSome he
  rw [detach_eq hi he, next_setNext (by simpa using inside), next_setPrev, next_setPrev,
    next_setNext hp]

theorem prev_detach {t : Timeline κ ν} {i : SlotId} (hi : i ≠ root) (he : (t.entry? i).isSome)
    (hn : t.next i < t.slots.size) (k : SlotId) :
    (t.detach i).prev k =
      if k = i then i else if k = t.next i then t.prev i else t.prev k := by
  have inside := lt_size_of_isSome he
  rw [detach_eq hi he, prev_setNext, prev_setPrev (by simpa using inside),
    prev_setPrev (by simpa using hn), prev_setNext]

@[simp] theorem entry?_link (t : Timeline κ ν) (behind i k : SlotId) :
    entry? (t.link behind i) k = t.entry? k := by
  simp [link]

@[simp] theorem size_link (t : Timeline κ ν) (behind i : SlotId) :
    (t.link behind i).slots.size = t.slots.size := by
  simp [link]

@[simp] theorem free_link (t : Timeline κ ν) (behind i : SlotId) :
    (t.link behind i).free = t.free := by
  simp [link]

@[simp] theorem count_link (t : Timeline κ ν) (behind i : SlotId) :
    (t.link behind i).count = t.count := by
  simp [link]

theorem next_link {t : Timeline κ ν} {behind i : SlotId} (hb : behind < t.slots.size)
    (hi : i < t.slots.size) (k : SlotId) :
    (t.link behind i).next k =
      if k = behind then i else if k = i then t.next behind else t.next k := by
  rw [link, next_setPrev, next_setNext (by simpa using hb), next_setNext (by simpa using hi),
    next_setPrev]

theorem prev_link {t : Timeline κ ν} {behind i : SlotId} (hn : t.next behind < t.slots.size)
    (hi : i < t.slots.size) (k : SlotId) :
    (t.link behind i).prev k =
      if k = t.next behind then i else if k = i then behind else t.prev k := by
  rw [link, prev_setPrev (by simpa using hn), prev_setNext, prev_setNext, prev_setPrev hi]

@[simp] theorem entry?_place (t : Timeline κ ν) (i k : SlotId) :
    entry? (t.place i) k = t.entry? k := by
  rw [place, place?]
  split
  · rfl
  · cases t.predecessor? _ t.slots.size (t.prev root) <;> simp

@[simp] theorem size_place (t : Timeline κ ν) (i : SlotId) :
    (t.place i).slots.size = t.slots.size := by
  rw [place, place?]
  split
  · rfl
  · cases t.predecessor? _ t.slots.size (t.prev root) <;> simp

@[simp] theorem free_place (t : Timeline κ ν) (i : SlotId) : (t.place i).free = t.free := by
  rw [place, place?]
  split
  · rfl
  · cases t.predecessor? _ t.slots.size (t.prev root) <;> simp

@[simp] theorem count_place (t : Timeline κ ν) (i : SlotId) : (t.place i).count = t.count := by
  rw [place, place?]
  split
  · rfl
  · cases t.predecessor? _ t.slots.size (t.prev root) <;> simp

/-! ### Counting the slots that hold an entry -/

/-- The slots that hold an entry. -/
def held (t : Timeline κ ν) : Finset SlotId :=
  (Finset.range t.slots.size).filter fun i => (t.entry? i).isSome

@[simp] theorem mem_held {t : Timeline κ ν} {i : SlotId} : i ∈ t.held ↔ (t.entry? i).isSome := by
  simp only [held, Finset.mem_filter, Finset.mem_range, and_iff_right_iff_imp]
  exact lt_size_of_isSome

theorem card_filter_getElem? (l : List (Slot κ ν)) :
    ((Finset.range l.length).filter fun i => (l[i]?.bind Slot.entry).isSome).card =
      (l.filter fun s => s.entry.isSome).length := by
  induction l using List.reverseRecOn with
  | nil => rfl
  | append_singleton l s ih =>
    have front : ∀ i ∈ Finset.range l.length,
        (((l ++ [s])[i]?.bind Slot.entry).isSome ↔ (l[i]?.bind Slot.entry).isSome) := by
      intro i hi
      rw [List.getElem?_append_left (Finset.mem_range.mp hi)]
    rw [List.length_append, List.length_singleton, Finset.range_add_one, Finset.filter_insert,
      Finset.filter_congr front]
    cases hs : s.entry <;> simp [hs, ih]

theorem card_held (t : Timeline κ ν) :
    t.held.card = (t.slots.toList.filter fun s => s.entry.isSome).length := by
  rw [← card_filter_getElem?, held, Array.length_toList]
  simp only [Timeline.entry?, Array.getElem?_toList]
  rfl

theorem held_eq_of_entry? {t u : Timeline κ ν}
    (h : ∀ i, (u.entry? i).isSome = (t.entry? i).isSome) : u.held = t.held := by
  ext i
  simp [h]

theorem held_vacated (t : Timeline κ ν) (i : SlotId) : (t.vacated i).held = t.held.erase i := by
  ext k
  rw [mem_held, entry?_vacated, Finset.mem_erase, mem_held]
  by_cases hk : k = i <;> simp [hk]

/-! ### Accounting for the slots -/

namespace Accounted

variable {t : Timeline κ ν}

theorem empty : (empty : Timeline κ ν).Accounted := by
  constructor
  · exact List.nodup_nil
  · intro i
    constructor
    · exact fun free => absurd free List.not_mem_nil
    · exact fun ⟨away, inside, _⟩ => absurd (Nat.lt_one_iff.mp inside) away
  · exact ⟨Nat.one_pos, rfl⟩
  · rfl
  · intro i inside
    obtain rfl := Nat.lt_one_iff.mp inside
    exact ⟨Nat.one_pos, Nat.one_pos⟩

/-- Accounting is kept by whatever changes neither which slots hold an entry nor the free ones. -/
theorem transfer (h : t.Accounted) {u : Timeline κ ν} (size : u.slots.size = t.slots.size)
    (held : ∀ i, (u.entry? i).isSome = (t.entry? i).isSome) (free : u.free = t.free)
    (count : u.count = t.count)
    (inside : ∀ i < u.slots.size, u.next i < u.slots.size ∧ u.prev i < u.slots.size) :
    u.Accounted := by
  have vacant := fun i => entry?_eq_none_iff (held i)
  constructor
  · rw [free]
    exact h.distinct
  · intro i
    rw [free, size, vacant]
    exact h.vacant i
  · rw [size, vacant]
    exact h.rooted
  · rw [count, h.counted, ← card_held, ← card_held, held_eq_of_entry? held]
  · exact inside

theorem update (h : t.Accounted) (i : SlotId) (f : Entry κ ν → Entry κ ν) :
    (t.update i f).Accounted :=
  h.transfer (size_update t i f) (isSome_entry?_update t i · f) (free_update t i f)
    (count_update t i f) fun k hk => by simpa using h.inside k (by simpa using hk)

theorem detach (h : t.Accounted) (i : SlotId) : (t.detach i).Accounted := by
  by_cases hi : i = root ∨ t.entry? i = none
  · rwa [detach_eq_self hi]
  · have away : i ≠ root := fun h => hi (.inl h)
    have held : (t.entry? i).isSome := Option.isSome_iff_ne_none.mpr fun h => hi (.inr h)
    have inside := lt_size_of_isSome held
    obtain ⟨hn, hp⟩ := h.inside i inside
    refine h.transfer (size_detach t i) (fun k => by rw [entry?_detach]) (free_detach t i)
      (count_detach t i) fun k hk => ?_
    rw [size_detach] at hk ⊢
    rw [next_detach away held hp, prev_detach away held hn]
    constructor
    · split_ifs
      exacts [inside, hn, (h.inside k hk).1]
    · split_ifs
      exacts [inside, hp, (h.inside k hk).2]

theorem link (h : t.Accounted) {behind i : SlotId} (hb : behind < t.slots.size)
    (hi : i < t.slots.size) : (t.link behind i).Accounted := by
  have hn := (h.inside behind hb).1
  refine h.transfer (size_link t behind i) (fun k => by rw [entry?_link]) (free_link t behind i)
    (count_link t behind i) fun k hk => ?_
  rw [size_link] at hk ⊢
  rw [next_link hb hi, prev_link hn hi]
  constructor
  · split_ifs
    exacts [hi, hn, (h.inside k hk).1]
  · split_ifs
    exacts [hi, hb, (h.inside k hk).2]

theorem vacated (h : t.Accounted) {i : SlotId} (hi : i ≠ root) (he : (t.entry? i).isSome) :
    (t.vacated i).Accounted := by
  have size : (t.vacated i).slots.size = t.slots.size := by simp [Timeline.vacated]
  constructor
  · refine List.nodup_cons.mpr ⟨fun free => ?_, h.distinct⟩
    simp [((h.vacant i).mp free).2.2] at he
  · intro k
    rw [size, entry?_vacated]
    show k ∈ i :: t.free ↔ _
    rw [List.mem_cons, h.vacant]
    by_cases hk : k = i
    · subst hk
      simp [hi, lt_size_of_isSome he]
    · simp [hk]
  · rw [size, entry?_vacated, if_neg hi.symm]
    exact h.rooted
  · rw [← card_held, held_vacated, Finset.card_erase_of_mem (mem_held.mpr he), card_held,
      ← h.counted]
    rfl
  · intro k hk
    rw [size] at hk ⊢
    simpa using h.inside k hk

theorem removed (h : t.Accounted) {i : SlotId} (hi : i ≠ root) (he : (t.entry? i).isSome) :
    (t.removed i).Accounted :=
  (h.detach i).vacated hi (by rwa [entry?_detach])

theorem predecessor?_lt_size (h : t.Accounted) {deadline : Moment} {n : Nat} {i j : SlotId}
    (hi : i < t.slots.size) (hj : t.predecessor? deadline n i = some j) : j < t.slots.size := by
  induction n generalizing i with
  | zero => cases hj
  | succ n ih =>
    rw [predecessor?] at hj
    split at hj
    · cases hj
      exact hi
    · split at hj
      · cases hj
        exact hi
      · split at hj
        · exact ih (h.inside i hi).2 hj
        · cases hj
          exact hi

theorem place? (h : t.Accounted) {i : SlotId} {u : Timeline κ ν} (hu : t.place? i = some u) :
    u.Accounted := by
  rw [Timeline.place?] at hu
  split at hu
  · cases hu
    exact h
  next e he =>
    obtain ⟨behind, found, rfl⟩ := Option.map_eq_some_iff.mp hu
    exact h.link (h.predecessor?_lt_size (h.inside root h.rooted.1).2 found)
      (lt_size_of_isSome (by simp [he]))

theorem place (h : t.Accounted) (i : SlotId) : (t.place i).Accounted := by
  rw [Timeline.place]
  cases hu : t.place? i with
  | none => exact h
  | some u => exact h.place? hu

theorem spare_ne_root (h : t.Accounted) : t.spare ≠ root := by
  cases hf : t.free with
  | nil =>
    rw [spare, hf]
    exact Nat.ne_of_gt h.rooted.1
  | cons i free =>
    rw [spare, hf]
    exact ((h.vacant i).mp (hf ▸ List.mem_cons_self)).1

theorem entry?_spare (h : t.Accounted) : t.entry? t.spare = none := by
  cases hf : t.free with
  | nil =>
    rw [spare, hf]
    exact entry?_of_size_le (Nat.le_refl _)
  | cons i free =>
    rw [spare, hf]
    exact ((h.vacant i).mp (hf ▸ List.mem_cons_self)).2.2

/-- Storing an entry fills the spare slot, linked to itself, and leaves the others alone. -/
theorem getElem?_store (h : t.Accounted) (e : Entry κ ν) (k : SlotId) :
    (t.store e).2.slots[k]? =
      if k = t.spare then some ⟨some e, k, k⟩ else t.slots[k]? := by
  cases hf : t.free with
  | nil =>
    simp only [store, spare, hf, List.headD_nil, Array.getElem?_push]
    split_ifs with hk
    · rw [hk]
    · rfl
  | cons i free =>
    have inside := ((h.vacant i).mp (hf ▸ List.mem_cons_self)).2.1
    simp only [store, spare, hf, List.headD_cons, Array.getElem?_modify]
    by_cases hk : k = i
    · subst hk
      simp [inside]
    · simp [hk, Ne.symm hk]

theorem entry?_store (h : t.Accounted) (e : Entry κ ν) (k : SlotId) :
    entry? (t.store e).2 k = if k = t.spare then some e else t.entry? k := by
  rw [Timeline.entry?, h.getElem?_store]
  split_ifs <;> rfl

theorem entry?_store_spare (h : t.Accounted) (e : Entry κ ν) :
    entry? (t.store e).2 t.spare = some e := by
  rw [h.entry?_store, if_pos rfl]

theorem next_store (h : t.Accounted) (e : Entry κ ν) (k : SlotId) :
    (t.store e).2.next k = if k = t.spare then k else t.next k := by
  rw [next, h.getElem?_store]
  split_ifs <;> rfl

theorem prev_store (h : t.Accounted) (e : Entry κ ν) (k : SlotId) :
    (t.store e).2.prev k = if k = t.spare then k else t.prev k := by
  rw [prev, h.getElem?_store]
  split_ifs <;> rfl

theorem held_store (h : t.Accounted) (e : Entry κ ν) :
    (t.store e).2.held = insert t.spare t.held := by
  ext k
  rw [mem_held, h.entry?_store, Finset.mem_insert, mem_held]
  by_cases hk : k = t.spare <;> simp [hk]

theorem lt_size_store (h : t.Accounted) (e : Entry κ ν) (k : SlotId) :
    k < (t.store e).2.slots.size ↔ k < t.slots.size ∨ k = t.spare := by
  cases hf : t.free with
  | nil =>
    simp only [Timeline.store, spare, hf, Array.size_push, List.headD_nil]
    exact Nat.lt_succ_iff_lt_or_eq
  | cons i free =>
    have inside := ((h.vacant i).mp (hf ▸ List.mem_cons_self)).2.1
    simp only [Timeline.store, spare, hf, Array.size_modify, List.headD_cons, iff_self_or]
    rintro rfl
    exact inside

theorem mem_free_store (h : t.Accounted) (e : Entry κ ν) (k : SlotId) :
    k ∈ (t.store e).2.free ↔ k ∈ t.free ∧ k ≠ t.spare := by
  cases hf : t.free with
  | nil => simp [Timeline.store, hf]
  | cons i free =>
    have fresh := (List.nodup_cons.mp (hf ▸ h.distinct)).1
    simp only [Timeline.store, spare, hf, List.headD_cons, List.mem_cons]
    by_cases hk : k = i
    · subst hk
      simp [fresh]
    · simp [hk]

theorem store (h : t.Accounted) (e : Entry κ ν) : (t.store e).2.Accounted := by
  constructor
  · have free : (t.store e).2.free = t.free.tail := by
      cases hf : t.free <;> simp [Timeline.store, hf]
    rw [free]
    exact h.distinct.tail
  · intro k
    rw [h.mem_free_store, h.lt_size_store, h.entry?_store, h.vacant]
    by_cases hk : k = t.spare <;> simp [hk]
  · rw [h.lt_size_store, h.entry?_store, if_neg h.spare_ne_root.symm]
    exact ⟨.inl h.rooted.1, h.rooted.2⟩
  · have count : (t.store e).2.count = t.count + 1 := by
      cases hf : t.free <;> simp [Timeline.store, hf]
    rw [count, ← card_held, h.held_store, Finset.card_insert_of_notMem (by simp [h.entry?_spare]),
      card_held, ← h.counted]
  · intro k hk
    rw [h.next_store, h.prev_store, h.lt_size_store, h.lt_size_store]
    split_ifs with spare
    · exact ⟨.inr spare, .inr spare⟩
    · have old := ((h.lt_size_store e k).mp hk).resolve_right spare
      exact ⟨.inl (h.inside k old).1, .inl (h.inside k old).2⟩

end Accounted
end TimedCache.Timeline
