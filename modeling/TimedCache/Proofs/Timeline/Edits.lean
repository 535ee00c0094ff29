import Mathlib.Data.Finset.Image
import Mathlib.Data.List.Find
import Mathlib.Logic.Function.Iterate
import Mathlib.Order.Bounds.Basic
import TimedCache.Proofs.Timeline.Slots
import TimedCache.Timeline.Guarded

/-!
# Edits with any slot numbers

The slots stay accounted for whatever edits are made, also where a slot is linked twice or vacated
while it is linked. So no edit runs into a fault, except that going back may never end; slots are
used again before new ones are added, the last one vacated first.
-/
namespace TimedCache.Timeline

variable {κ ν : Type} {t u : Timeline κ ν} {i : SlotId}

/-! ### Guards -/

theorem readSlot_eq (h : i < t.slots.size) :
    ∃ s, t.readSlot i = .ok s ∧ s.prev = t.prev i ∧ s.next = t.next i := by
  refine ⟨t.slots[i], ?_, ?_, ?_⟩ <;> simp [readSlot, prev, next, h]

theorem writeSlot_eq (h : i < t.slots.size) (f : Slot κ ν → Slot κ ν) :
    t.writeSlot i f = .ok (t.modifySlot i f) := if_pos h

theorem vacate?_eq_some_iff {e : Entry κ ν} :
    t.vacate? i = some (e, u) ↔ i ≠ root ∧ t.entry? i = some e ∧ u = t.vacated i := by
  constructor
  · intro h
    unfold vacate? at h
    split at h
    · cases h
    next away =>
      obtain ⟨f, hf, h⟩ := Option.map_eq_some_iff.mp h
      obtain ⟨rfl, rfl⟩ := Prod.mk.inj h
      exact ⟨away, hf, rfl⟩
  · rintro ⟨away, he, rfl⟩
    exact vacate?_eq_some away he

namespace Accounted

theorem storeGuarded_eq (h : t.Accounted) (e : Entry κ ν) : t.storeGuarded e = .ok (t.store e) := by
  cases hf : t.free with
  | nil =>
    simp only [storeGuarded, hf]
    rfl
  | cons i free =>
    have inside := ((h.vacant i).mp (hf ▸ List.mem_cons_self)).2.1
    simp only [storeGuarded, Timeline.store, hf, writeSlot_eq inside]
    rfl

theorem count_pos (h : t.Accounted) (he : (t.entry? i).isSome) : 0 < t.count := by
  rw [h.counted, ← card_held]
  exact Finset.card_pos.mpr ⟨i, mem_held.mpr he⟩

theorem vacateGuarded_eq (h : t.Accounted) (i : SlotId) :
    t.vacateGuarded i = .ok (((t.vacate? i).map Prod.snd).getD t) := by
  unfold vacateGuarded
  cases hv : t.vacate? i with
  | none => rfl
  | some found =>
    obtain ⟨-, he, -⟩ := vacate?_eq_some_iff.mp hv
    exact if_neg (Nat.ne_of_gt (h.count_pos (Option.isSome_of_eq_some he)))

theorem detachGuarded_eq (h : t.Accounted) (i : SlotId) :
    t.detachGuarded i = .ok (t.detach i) := by
  unfold detachGuarded Timeline.detach
  split
  · rfl
  next hi =>
    have held : (t.entry? i).isSome := Option.isSome_iff_ne_none.mpr fun h => hi (.inr h)
    have inside := lt_size_of_isSome held
    obtain ⟨hn, hp⟩ := h.inside i inside
    obtain ⟨s, hs, prev, next⟩ := readSlot_eq inside
    rw [hs]
    dsimp only [bind, Except.bind]
    rw [prev, next, writeSlot_eq hp]
    dsimp only
    rw [writeSlot_eq (by simpa using hn)]
    dsimp only
    rw [writeSlot_eq (by simpa using inside)]
    dsimp only
    rw [writeSlot_eq (by simpa using inside)]
    rfl

theorem linkGuarded_eq (h : t.Accounted) {behind : SlotId} (hb : behind < t.slots.size)
    (hi : i < t.slots.size) : t.linkGuarded behind i = .ok (t.link behind i) := by
  obtain ⟨s, hs, -, next⟩ := readSlot_eq hb
  have hn := (h.inside behind hb).1
  unfold linkGuarded
  rw [hs]
  dsimp only [bind, Except.bind]
  rw [next, writeSlot_eq hi]
  dsimp only
  rw [writeSlot_eq (by simpa using hi)]
  dsimp only
  rw [writeSlot_eq (by simpa using hb)]
  dsimp only
  rw [writeSlot_eq (by simpa using hn)]
  rfl

theorem predecessorGuarded_eq (h : t.Accounted) (deadline : Moment) (n : Nat)
    (hi : i < t.slots.size) :
    t.predecessorGuarded deadline n i =
      (t.predecessor? deadline n i).elim (.error .endless) .ok := by
  induction n generalizing i with
  | zero => rfl
  | succ n ih =>
    rw [predecessorGuarded, predecessor?]
    by_cases stop : i = root
    · rw [if_pos stop, if_pos stop]
      rfl
    · rw [if_neg stop, if_neg stop]
      cases he : t.entry? i with
      | none => rfl
      | some e =>
        dsimp only
        by_cases later : deadline < e.deadline
        · obtain ⟨s, hs, prev, -⟩ := readSlot_eq hi
          rw [if_pos later, if_pos later, hs, ← prev, ← ih (prev ▸ (h.inside i hi).2)]
          rfl
        · rw [if_neg later, if_neg later]
          rfl

theorem placeGuarded_eq (h : t.Accounted) (i : SlotId) :
    t.placeGuarded i = (t.place? i).elim (.error .endless) .ok := by
  unfold placeGuarded Timeline.place?
  cases he : t.entry? i with
  | none => rfl
  | some e =>
    have start := (h.inside root h.rooted.1).2
    obtain ⟨s, hs, prev, -⟩ := readSlot_eq h.rooted.1
    dsimp only
    rw [hs]
    dsimp only [bind, Except.bind]
    rw [prev, h.predecessorGuarded_eq _ _ start]
    cases found : t.predecessor? e.deadline t.slots.size (t.prev root) with
    | none => rfl
    | some behind =>
      have inside := lt_size_of_isSome (Option.isSome_of_eq_some he)
      exact h.linkGuarded_eq (h.predecessor?_lt_size start found) inside

/-- An edit runs into no fault but that it never ends. -/
theorem editGuarded_eq (h : t.Accounted) (e : Edit κ ν) :
    t.editGuarded e = (t.edit? e).elim (.error .endless) .ok := by
  cases e with
  | store e =>
    rw [editGuarded, h.storeGuarded_eq]
    rfl
  | vacate i => exact h.vacateGuarded_eq i
  | detach i => exact h.detachGuarded_eq i
  | place i => exact h.placeGuarded_eq i
  | update i f => rfl

end Accounted

/-! ### Going back -/

/-- There is no answer within some steps if each of them meets a later deadline. -/
theorem predecessor?_eq_none_iff (t : Timeline κ ν) (deadline : Moment) (n : Nat) (i : SlotId) :
    t.predecessor? deadline n i = none ↔
      ∀ k < n, t.prev^[k] i ≠ root ∧ ∃ e, t.entry? (t.prev^[k] i) = some e ∧ deadline < e.deadline := by
  induction n generalizing i with
  | zero => simp [predecessor?]
  | succ n ih =>
    rw [Nat.forall_lt_succ_left, predecessor?]
    simp only [Function.iterate_succ_apply, Function.iterate_zero, id_eq, ← ih]
    by_cases hi : i = root
    · simp [hi]
    · cases he : t.entry? i with
      | none => simp [hi]
      | some e => by_cases later : deadline < e.deadline <;> simp [hi, later]

/-- What returns to a place within some steps stays among the places passed by then. -/
theorem exists_iterate_eq {α : Type} {f : α → α} {a : α} {m n : Nat} (hm : m < n)
    (again : f^[m] a = f^[n] a) (k : Nat) : ∃ j < n, f^[j] a = f^[k] a := by
  induction k using Nat.strongRecOn with
  | _ k ih =>
    by_cases hk : k < n
    · exact ⟨k, hk, rfl⟩
    · obtain ⟨j, hj, same⟩ := ih (k - n + m) (by omega)
      refine ⟨j, hj, ?_⟩
      rw [same, Function.iterate_add_apply, again, ← Function.iterate_add_apply]
      congr 1
      omega

/-- Going back that does not end within as many steps as there are slots never ends: it passes one
of them twice. -/
theorem Accounted.predecessor?_eq_none (h : t.Accounted) {deadline : Moment}
    (none : t.predecessor? deadline t.slots.size i = none) (n : Nat) :
    t.predecessor? deadline n i = .none := by
  rw [predecessor?_eq_none_iff] at none ⊢
  let others := (Finset.range t.slots.size).erase root
  have passed : ∀ k ∈ Finset.range t.slots.size, t.prev^[k] i ∈ others := by
    intro k hk
    obtain ⟨away, e, he, -⟩ := none k (Finset.mem_range.mp hk)
    have inside := lt_size_of_isSome (Option.isSome_of_eq_some he)
    exact Finset.mem_erase.mpr ⟨away, Finset.mem_range.mpr inside⟩
  have fewer : others.card < (Finset.range t.slots.size).card :=
    Finset.card_erase_lt_of_mem (Finset.mem_range.mpr h.rooted.1)
  obtain ⟨a, ha, b, hb, apart, again⟩ := Finset.exists_ne_map_eq_of_card_lt_of_maps_to fewer passed
  have ha := Finset.mem_range.mp ha
  have hb := Finset.mem_range.mp hb
  have seen : ∀ k, ∃ j < t.slots.size, t.prev^[j] i = t.prev^[k] i := by
    intro k
    rcases Nat.lt_or_gt_of_ne apart with ab | ba
    · obtain ⟨j, hj, same⟩ := exists_iterate_eq ab again k
      exact ⟨j, by omega, same⟩
    · obtain ⟨j, hj, same⟩ := exists_iterate_eq ba again.symm k
      exact ⟨j, by omega, same⟩
  intro k _
  obtain ⟨j, hj, same⟩ := seen k
  rw [← same]
  exact none j hj

/-! ### One edit -/

theorem place?_eq_some {t u : Timeline κ ν} (hu : t.place? i = some u) :
    u = t ∨ ∃ behind, u = t.link behind i := by
  unfold place? at hu
  split at hu
  · exact .inl (Option.some.inj hu).symm
  · obtain ⟨behind, -, rfl⟩ := Option.map_eq_some_iff.mp hu
    exact .inr ⟨behind, rfl⟩

/-- The slot that an edit vacates. -/
def vacates? (t : Timeline κ ν) : Edit κ ν → Option SlotId
  | .vacate i => (t.vacate? i).map fun _ => i
  | _ => none

/-- What an edit leaves of a timeline if it neither stores nor vacates an entry. -/
structure Relinked (t u : Timeline κ ν) : Prop where
  size : u.slots.size = t.slots.size
  held : ∀ i, (u.entry? i).isSome = (t.entry? i).isSome
  free : u.free = t.free
  count : u.count = t.count

/-- What an edit does: it stores an entry, vacates a slot, or keeps which slots hold entries. -/
theorem edit?_cases {e : Edit κ ν} (hu : t.edit? e = some u) :
    (∃ f, e = .store f ∧ u = (t.store f).2) ∨
      (∃ i f, t.vacates? e = some i ∧ i ≠ root ∧ t.entry? i = some f ∧ u = t.vacated i) ∨
      t.vacates? e = none ∧ t.Relinked u := by
  have kept : t.Relinked t := ⟨rfl, fun _ => rfl, rfl, rfl⟩
  cases e with
  | store f => exact .inl ⟨f, rfl, (Option.some.inj hu).symm⟩
  | vacate i =>
    have hu := Option.some.inj hu
    cases hv : t.vacate? i with
    | none =>
      rw [hv] at hu
      exact .inr (.inr ⟨by simp [vacates?, hv], hu ▸ kept⟩)
    | some found =>
      obtain ⟨away, held, result⟩ := vacate?_eq_some_iff.mp hv
      rw [hv] at hu
      exact .inr (.inl ⟨i, found.1, by simp [vacates?, hv], away, held, hu.symm.trans result⟩)
  | detach i =>
    obtain rfl := Option.some.inj hu
    refine .inr (.inr ⟨rfl, size_detach t i, fun k => ?_, free_detach t i, count_detach t i⟩)
    rw [entry?_detach]
  | place i =>
    obtain rfl | ⟨behind, rfl⟩ := place?_eq_some hu
    · exact .inr (.inr ⟨rfl, kept⟩)
    · refine .inr (.inr ⟨rfl, size_link t behind i, fun k => ?_, free_link t behind i,
        count_link t behind i⟩)
      rw [entry?_link]
  | update i f =>
    obtain rfl := Option.some.inj hu
    exact .inr (.inr ⟨rfl, size_update t i f, (isSome_entry?_update t i · f), free_update t i f,
      count_update t i f⟩)

namespace Accounted

variable {e : Edit κ ν}

theorem edit? (h : t.Accounted) (hu : t.edit? e = some u) : u.Accounted := by
  cases e with
  | store e =>
    obtain rfl := Option.some.inj hu
    exact h.store e
  | vacate i =>
    obtain rfl := Option.some.inj hu
    cases hv : t.vacate? i with
    | none => exact h
    | some found =>
      obtain ⟨away, held, result⟩ := vacate?_eq_some_iff.mp hv
      rw [Option.map_some, Option.getD_some, result]
      exact h.vacated away (by simp [held])
  | detach i =>
    obtain rfl := Option.some.inj hu
    exact h.detach i
  | place i => exact h.place? hu
  | update i f =>
    obtain rfl := Option.some.inj hu
    exact h.update i f

/-- An edit has no outcome just where going back for a place never ends. -/
theorem edit?_eq_none_iff (h : t.Accounted) :
    t.edit? e = none ↔ ∃ i f, e = .place i ∧ t.entry? i = some f ∧
      ∀ n, t.predecessor? f.deadline n (t.prev root) = none := by
  constructor
  · intro stuck
    cases e with
    | place i =>
      have stuck : t.place? i = none := stuck
      unfold Timeline.place? at stuck
      cases hf : t.entry? i with
      | none => simp [hf] at stuck
      | some f =>
        rw [hf] at stuck
        exact ⟨i, f, rfl, hf, h.predecessor?_eq_none (Option.map_eq_none_iff.mp stuck)⟩
    | _ => cases stuck
  · rintro ⟨i, f, rfl, hf, never⟩
    simp [Timeline.edit?, Timeline.place?, hf, never]

/-- A slot holds an entry, is free or is the root. -/
theorem size_eq (h : t.Accounted) : t.slots.size = t.count + t.free.length + 1 := by
  have parts : Finset.range t.slots.size = insert root (t.held ∪ t.free.toFinset) := by
    ext i
    rw [Finset.mem_range, Finset.mem_insert, Finset.mem_union, mem_held, List.mem_toFinset,
      h.vacant]
    have rooted := h.rooted.1
    have inside : (t.entry? i).isSome → i < t.slots.size := lt_size_of_isSome
    by_cases hi : i = root
    · simpa [hi] using rooted
    · cases he : t.entry? i <;> simp_all
  have apart : Disjoint t.held t.free.toFinset := by
    rw [Finset.disjoint_left]
    intro i held free
    simp [((h.vacant i).mp (List.mem_toFinset.mp free)).2.2] at held
  have away : root ∉ t.held ∪ t.free.toFinset := by
    simp [h.rooted.2, h.vacant]
  have card := congrArg Finset.card parts
  rw [Finset.card_range, Finset.card_insert_of_notMem away, Finset.card_union_of_disjoint apart,
    card_held, ← h.counted, List.toFinset_card_of_nodup h.distinct] at card
  exact card

/-- Slots are added only when all of them hold entries. -/
theorem size_edit? (h : t.Accounted) (hu : t.edit? e = some u) :
    u.slots.size = max t.slots.size (u.count + 1) := by
  have size := h.size_eq
  obtain ⟨f, -, rfl⟩ | ⟨i, f, -, -, -, rfl⟩ | ⟨-, kept⟩ := edit?_cases hu
  · cases hf : t.free with
    | nil =>
      simp only [hf, List.length_nil] at size
      simp only [Timeline.store, hf, Array.size_push]
      omega
    | cons i free =>
      simp only [hf, List.length_cons] at size
      simp only [Timeline.store, hf, Array.size_modify]
      omega
  · simp only [Timeline.vacated, Array.size_modify]
    omega
  · rw [kept.size, kept.count]
    omega

end Accounted

/-! ### Runs of edits -/

theorem editAll?_concat (t : Timeline κ ν) (es : List (Edit κ ν)) (e : Edit κ ν) :
    t.editAll? (es ++ [e]) = (t.editAll? es).bind (·.edit? e) := by
  simp [editAll?, List.foldlM_append]

/-- The slots that edits vacate, in order. -/
def vacatings (t : Timeline κ ν) : List (Edit κ ν) → List SlotId
  | [] => []
  | e :: es => (t.vacates? e).toList ++ (t.edit? e).elim [] (·.vacatings es)

theorem vacatings_concat {es : List (Edit κ ν)} (h : t.editAll? es = some u) (e : Edit κ ν) :
    t.vacatings (es ++ [e]) = t.vacatings es ++ (u.vacates? e).toList := by
  induction es generalizing t with
  | nil =>
    obtain rfl : t = u := Option.some.inj h
    cases hv : t.edit? e <;> simp [vacatings, hv]
  | cons d es ih =>
    obtain ⟨v, hv, h⟩ := Option.bind_eq_some_iff.mp h
    simp [vacatings, hv, ih h]

/-- The numbers of entries that edits have held so far. -/
def countsOf (es : List (Edit κ ν)) : Set Nat :=
  {n | ∃ before u, before <+: es ∧ (empty : Timeline κ ν).editAll? before = some u ∧ u.count = n}

theorem countsOf_concat {es : List (Edit κ ν)} {e : Edit κ ν}
    (h : (empty : Timeline κ ν).editAll? (es ++ [e]) = some u) :
    countsOf (es ++ [e]) = insert u.count (countsOf es) := by
  ext n
  simp only [countsOf, List.prefix_concat_iff, Set.mem_insert_iff, Set.mem_ofPred_eq]
  constructor
  · rintro ⟨before, v, rfl | sub, hv, rfl⟩
    · rw [h] at hv
      exact .inl (congrArg count (Option.some.inj hv).symm)
    · exact .inr ⟨before, v, sub, hv, rfl⟩
  · rintro (rfl | ⟨before, v, sub, hv, rfl⟩)
    · exact ⟨_, u, .inl rfl, h, rfl⟩
    · exact ⟨before, v, .inr sub, hv, rfl⟩

/-- The free slots are the vacant ones among those vacated, the last one vacated first. They are
compared by what is found in them. -/
def Recycles (t : Timeline κ ν) (past : List SlotId) : Prop :=
  ∀ p : SlotId → Bool, t.free.find? p = past.reverse.find? fun i => (t.entry? i).isNone && p i

namespace Recycles

variable {past : List SlotId}

/-- The slot that is taken is no longer to be found. -/
theorem store (h : t.Recycles past) (ha : t.Accounted) (e : Entry κ ν) :
    (t.store e).2.Recycles past := by
  intro p
  have vacant : ∀ i ∈ past.reverse, ((Timeline.entry? (t.store e).2 i).isNone && p i) =
      ((t.entry? i).isNone && (i != t.spare && p i)) := by
    intro i _
    rw [ha.entry?_store]
    by_cases hi : i = t.spare
    · subst hi
      simp
    · simp [hi, bne_iff_ne.mpr hi]
  rw [List.find?_congr vacant, ← h fun i => i != t.spare && p i]
  cases hf : t.free with
  | nil => simp [Timeline.store, hf]
  | cons i free =>
    have fresh := (List.nodup_cons.mp (hf ▸ ha.distinct)).1
    have others : ∀ j ∈ free, (j != i && p j) = p j := by
      intro j hj
      simp [ne_of_mem_of_not_mem hj fresh]
    simp only [Timeline.store, spare, hf, List.headD_cons]
    rw [List.find?_cons_of_neg (by simp), List.find?_congr others]

/-- The slot that is vacated is found first. -/
theorem vacated (h : t.Recycles past) (i : SlotId) : (t.vacated i).Recycles (past ++ [i]) := by
  intro p
  rw [List.reverse_append, List.reverse_singleton, List.singleton_append, List.find?_cons]
  show (i :: t.free).find? p = _
  rw [List.find?_cons, h p, entry?_vacated, if_pos rfl, Option.isNone_none, Bool.true_and]
  cases hp : p i with
  | true => rfl
  | false =>
    have vacant : ∀ j ∈ past.reverse, ((t.entry? j).isNone && p j) =
        ((Timeline.entry? (t.vacated i) j).isNone && p j) := by
      intro j _
      rw [entry?_vacated]
      by_cases hj : j = i
      · subst hj
        simp [hp]
      · simp [hj]
    exact List.find?_congr vacant

theorem relinked (h : t.Recycles past) (kept : t.Relinked u) : u.Recycles past := by
  intro p
  have vacant : ∀ i ∈ past.reverse, ((u.entry? i).isNone && p i) =
      ((t.entry? i).isNone && p i) := by
    intro i _
    rw [← Option.not_isSome, ← Option.not_isSome, kept.held]
  rw [kept.free, List.find?_congr vacant]
  exact h p

theorem edit? {e : Edit κ ν} (h : t.Recycles past) (ha : t.Accounted) (hu : t.edit? e = some u) :
    u.Recycles (past ++ (t.vacates? e).toList) := by
  obtain ⟨f, rfl, rfl⟩ | ⟨i, f, hv, -, -, rfl⟩ | ⟨hv, kept⟩ := edit?_cases hu
  · show (t.store f).2.Recycles (past ++ [])
    rw [List.append_nil]
    exact h.store ha f
  · rw [hv]
    exact h.vacated i
  · rw [hv, Option.toList_none, List.append_nil]
    exact h.relinked kept

end Recycles

/-- What edits from the empty timeline keep. -/
structure Kept (es : List (Edit κ ν)) (t : Timeline κ ν) : Prop where
  accounted : t.Accounted
  guarded : es.foldlM editGuarded empty = .ok t
  recycles : t.Recycles ((empty : Timeline κ ν).vacatings es)
  size : ∃ most, t.slots.size = most + 1 ∧ IsGreatest (countsOf es) most

theorem kept_of_editAll? {es : List (Edit κ ν)}
    (h : (empty : Timeline κ ν).editAll? es = some t) : t.Kept es := by
  induction es using List.reverseRecOn generalizing t with
  | nil =>
    obtain rfl := Option.some.inj h
    refine ⟨.empty, rfl, fun p => by simp [empty, vacatings], 0, rfl, ?_, ?_⟩
    · exact ⟨[], _, List.prefix_refl [], rfl, rfl⟩
    · rintro n ⟨before, u, sub, hu, rfl⟩
      obtain rfl := List.prefix_nil.mp sub
      obtain rfl := Option.some.inj hu
      exact Nat.le_refl 0
  | append_singleton es e ih =>
    have counts := countsOf_concat h
    rw [editAll?_concat] at h
    obtain ⟨s, hs, h⟩ := Option.bind_eq_some_iff.mp h
    have kept := ih hs
    obtain ⟨most, size, greatest⟩ := kept.size
    refine ⟨kept.accounted.edit? h, ?_, ?_, max t.count most, ?_, ?_⟩
    · rw [List.foldlM_append, kept.guarded]
      show (s.editGuarded e >>= pure) = _
      rw [bind_pure, kept.accounted.editGuarded_eq, h]
      rfl
    · rw [vacatings_concat hs]
      exact kept.recycles.edit? kept.accounted h
    · rw [kept.accounted.size_edit? h, size]
      omega
    · rw [counts]
      exact greatest.insert t.count

/-- After any edits that all return, with any slot numbers, the free slots are those that hold no
entry, the entries are counted and no link leads outside. None of the edits has run into a fault, and
none will but by never ending. An entry is stored in the vacant slot that was vacated last, else in
a new slot, so that the slots besides the root are as many as entries were ever held at once. -/
theorem editAll?_accounted {es : List (Edit κ ν)} {t : Timeline κ ν}
    (returns : (empty : Timeline κ ν).editAll? es = some t) :
    t.Accounted ∧ es.foldlM editGuarded empty = .ok t ∧
      (∀ e : Edit κ ν, t.editGuarded e = (t.edit? e).elim (.error .endless) .ok ∧
        (t.edit? e = none ↔ ∃ i f, e = .place i ∧ t.entry? i = some f ∧
          ∀ n, t.predecessor? f.deadline n (t.prev root) = none)) ∧
      (∀ e : Entry κ ν, (t.store e).1 ≠ root ∧ t.entry? (t.store e).1 = none ∧
        (t.store e).1 = (((empty : Timeline κ ν).vacatings es).reverse.find? fun i =>
          (t.entry? i).isNone).getD t.slots.size) ∧
      ∃ most, t.slots.size = most + 1 ∧ IsGreatest (countsOf es) most := by
  have kept := kept_of_editAll? returns
  have accounted := kept.accounted
  refine ⟨accounted, kept.guarded, fun e => ?_, fun e => ?_, kept.size⟩
  · exact ⟨accounted.editGuarded_eq e, accounted.edit?_eq_none_iff⟩
  · rw [store_fst]
    refine ⟨accounted.spare_ne_root, accounted.entry?_spare, ?_⟩
    have first := kept.recycles fun _ => true
    simp only [Bool.and_true] at first
    rw [← first, spare]
    cases t.free <;> rfl

/-- A slot is linked twice and vacated while it is linked, and slots are named that do not exist. -/
def tangled : List (Edit Nat Nat) :=
  [.store (.start 1 10 .zero .origin), .place 1, .place 1, .store (.start 2 20 .zero .origin),
    .vacate 1, .vacate 1, .detach 1, .place 2, .detach 7, .vacate 0,
    .update 2 (·.renew (Moment.origin.plus (.ofSeconds 5)))]

theorem accounted_of_tangled :
    ∃ t, (empty : Timeline Nat Nat).editAll? tangled = some t ∧ t.Accounted ∧
      tangled.foldlM editGuarded empty = .ok t ∧
      (t.store (.start 3 30 .zero .origin)).1 = 1 ∧
      ∃ most, t.slots.size = most + 1 ∧ IsGreatest (countsOf tangled) most := by
  have returns : ((empty : Timeline Nat Nat).editAll? tangled).isSome := by decide
  obtain ⟨t, ht⟩ := Option.isSome_iff_exists.mp returns
  obtain ⟨accounted, guarded, -, store, size⟩ := editAll?_accounted ht
  refine ⟨t, ht, accounted, guarded, ?_, size⟩
  rw [(store _).2.2]
  obtain rfl := Option.some.inj ht
  decide

end TimedCache.Timeline
