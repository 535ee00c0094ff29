import TimedCache.Proofs.Timeline.Entries
import TimedCache.Timeline.Edit

/-!
# Insertion in the order of deadlines

A slot that is placed goes right behind the last slot on the circle whose deadline is no later, and
nothing else moves. So entries that are stored and placed one after the other come to lie as a
stable sort by deadline puts them.
-/
namespace TimedCache

variable {κ ν : Type}

/-! ### Stable sorting -/

/-- Entries in the order of their deadlines, those with the same deadline as in the list. -/
def byDeadline (es : List (Entry κ ν)) : List (Entry κ ν) :=
  es.mergeSort fun a b => a.deadline ≤ b.deadline

/-- Ordered lists in which the entries of each deadline are the same ones, in the same order, are
the same. -/
theorem Ordered.eq_of_filter_eq {es fs : List (Entry κ ν)} (he : Ordered es) (hf : Ordered fs)
    (same : ∀ d, es.filter (·.deadline = d) = fs.filter (·.deadline = d)) : es = fs := by
  have mem : ∀ e, e ∈ es ↔ e ∈ fs := fun e => by simpa using congrArg (e ∈ ·) (same e.deadline)
  induction es generalizing fs with
  | nil => exact (List.eq_nil_iff_forall_not_mem.mpr fun e h => by simpa using (mem e).mpr h).symm
  | cons e es ih =>
    obtain _ | ⟨f, fs⟩ := fs
    · simpa using mem e
    · obtain ⟨early, ordered⟩ := List.pairwise_cons.mp he
      obtain ⟨early', ordered'⟩ := List.pairwise_cons.mp hf
      have tie : e.deadline = f.deadline := by
        refine le_antisymm ?_ ?_
        · rcases List.mem_cons.mp ((mem f).mpr List.mem_cons_self) with rfl | h
          exacts [le_refl _, early f h]
        · rcases List.mem_cons.mp ((mem e).mp List.mem_cons_self) with rfl | h
          exacts [le_refl _, early' e h]
      have first := same e.deadline
      rw [List.filter_cons_of_pos (by simp), List.filter_cons_of_pos (by simp [tie])] at first
      obtain ⟨rfl, -⟩ := List.cons_eq_cons.mp first
      have rest : ∀ d, es.filter (·.deadline = d) = fs.filter (·.deadline = d) := by
        intro d
        have := same d
        simp only [List.filter_cons] at this
        split at this
        · exact (List.cons_eq_cons.mp this).2
        · exact this
      refine congrArg (e :: ·) (ih ordered ordered' rest fun a => ?_)
      simpa using congrArg (a ∈ ·) (rest a.deadline)

section

variable (a b c : Entry κ ν)

theorem deadline_le_trans (hab : decide (a.deadline ≤ b.deadline))
    (hbc : decide (b.deadline ≤ c.deadline)) : decide (a.deadline ≤ c.deadline) := by
  rw [decide_eq_true_iff] at *
  exact le_trans hab hbc

theorem deadline_le_total : decide (a.deadline ≤ b.deadline) || decide (b.deadline ≤ a.deadline) := by
  rw [Bool.or_eq_true, decide_eq_true_iff, decide_eq_true_iff]
  exact le_total a.deadline b.deadline

end

theorem ordered_byDeadline (es : List (Entry κ ν)) : Ordered (byDeadline es) :=
  (List.pairwise_mergeSort deadline_le_trans deadline_le_total es).imp of_decide_eq_true

theorem filter_byDeadline (es : List (Entry κ ν)) (d : Moment) :
    (byDeadline es).filter (·.deadline = d) = es.filter (·.deadline = d) := by
  have tied : (es.filter (·.deadline = d)).Pairwise fun a b => decide (a.deadline ≤ b.deadline) := by
    refine List.pairwise_of_forall_mem_list fun a ha b hb => ?_
    rw [List.mem_filter, decide_eq_true_iff] at ha hb
    simp [ha.2, hb.2]
  have sub : (es.filter (·.deadline = d)).Sublist (byDeadline es) :=
    List.sublist_mergeSort deadline_le_trans deadline_le_total tied List.filter_sublist
  have perm : (byDeadline es).Perm es := List.mergeSort_perm es _
  have sub := sub.filter (·.deadline = d)
  simp only [List.filter_filter, Bool.and_self] at sub
  exact (sub.eq_of_length (perm.filter _).length_eq.symm).symm

/-- An entry that goes to its place is the last one of its deadline. -/
theorem Entry.filter_insertInto (e : Entry κ ν) (es : List (Entry κ ν)) (d : Moment) :
    (e.insertInto es).filter (·.deadline = d) = (es ++ [e]).filter (·.deadline = d) := by
  rw [insertInto, ← List.singleton_append, List.filter_append, List.filter_append,
    List.filter_append, List.filter_filter, List.filter_filter]
  by_cases hd : d ≤ e.deadline
  · have front : ∀ f ∈ es, (decide (f.deadline = d) && decide (f.deadline ≤ e.deadline)) =
        decide (f.deadline = d) := by grind
    have back : ∀ f ∈ es, ¬(decide (f.deadline = d) && decide (e.deadline < f.deadline)) := by grind
    rw [List.filter_congr front, List.filter_eq_nil_iff.mpr back, List.append_nil]
  · have front : ∀ f ∈ es, ¬(decide (f.deadline = d) && decide (f.deadline ≤ e.deadline)) := by
      grind
    have back : ∀ f ∈ es, (decide (f.deadline = d) && decide (e.deadline < f.deadline)) =
        decide (f.deadline = d) := by grind
    have other : [e].filter (·.deadline = d) = [] := List.filter_eq_nil_iff.mpr (by grind)
    rw [List.filter_congr back, List.filter_eq_nil_iff.mpr front, other, List.nil_append,
      List.nil_append, List.append_nil]

/-- Sorting one more entry at the end of a list puts it in its place among the others. -/
theorem byDeadline_concat (es : List (Entry κ ν)) (e : Entry κ ν) :
    byDeadline (es ++ [e]) = e.insertInto (byDeadline es) := by
  refine (ordered_byDeadline _).eq_of_filter_eq ((ordered_byDeadline es).insertInto e) fun d => ?_
  rw [filter_byDeadline, e.filter_insertInto, List.filter_append, List.filter_append,
    filter_byDeadline]

namespace Timeline

variable {t : Timeline κ ν} {is : List SlotId} {i : SlotId} {e : Entry κ ν}
  {es : List (Entry κ ν)}

/-! ### Placing one slot -/

theorem Circle.place?_eq_place (h : t.Circle is) (he : t.entry? i = some e) :
    t.place? i = some (t.place i) := by
  rw [Timeline.place, h.place?_eq he, Option.getD_some]

/-- What holds of the entries in slots that all hold one, slot by slot. -/
theorem exists_entry?_of_forall {p : Entry κ ν → Prop} (held : ∀ i ∈ is, (t.entry? i).isSome)
    (h : ∀ e ∈ is.filterMap t.entry?, p e) : ∀ i ∈ is, ∃ e, t.entry? i = some e ∧ p e := by
  intro i hi
  obtain ⟨e, he⟩ := Option.isSome_iff_exists.mp (held i hi)
  exact ⟨e, he, h e (List.mem_filterMap.mpr ⟨i, hi, he⟩)⟩

theorem Circle.lt_deadline_later (h : t.Circle is) (deadline : Moment) :
    ∀ j ∈ t.later deadline is, ∃ f, t.entry? j = some f ∧ deadline < f.deadline := by
  have sub : t.later deadline is <:+ is := List.rtakeWhile_suffix _ _
  exact exists_entry?_of_forall (fun j hj => h.held j (sub.mem hj))
    (lt_deadline_of_mem_later t deadline is)

theorem Circle.deadline_le_earlier (h : t.Circle is) (sorted : t.Sorted is) (deadline : Moment) :
    ∀ j ∈ t.earlier deadline is, ∃ f, t.entry? j = some f ∧ f.deadline ≤ deadline := by
  have sub : t.earlier deadline is <+: is := List.rdropWhile_prefix _ _
  exact exists_entry?_of_forall (fun j hj => h.held j (sub.mem hj))
    (deadline_le_of_mem_earlier h.held sorted deadline)

/-- Whatever the order, the last of the slots in front is not due later. -/
theorem Circle.deadline_le_getLast?_earlier (h : t.Circle is) (deadline : Moment) :
    ∀ j ∈ (t.earlier deadline is).getLast?, ∃ f, t.entry? j = some f ∧ f.deadline ≤ deadline := by
  intro j hj
  have sub : t.earlier deadline is <+: is := List.rdropWhile_prefix _ _
  obtain ⟨f, hf⟩ := Option.isSome_iff_exists.mp (h.held j (sub.mem (List.mem_of_getLast? hj)))
  exact ⟨f, hf, deadline_le_of_mem_getLast?_earlier t deadline is j hj f hf⟩

/-! ### Placing one entry after the other -/

/-- Stores an entry and puts its slot in its place; there is no outcome if that never ends. -/
def add? (t : Timeline κ ν) (e : Entry κ ν) : Option (Timeline κ ν) :=
  (t.store e).2.place? (t.store e).1

/-- The entries along the circle of a timeline are those of a list. -/
def Carries (t : Timeline κ ν) (es : List (Entry κ ν)) : Prop :=
  t.Accounted ∧ ∃ is, t.Circle is ∧ is.filterMap t.entry? = es

theorem Carries.add? (h : t.Carries es) (ordered : Ordered es) (e : Entry κ ν) :
    ∃ u, t.add? e = some u ∧ u.Carries (e.insertInto es) := by
  obtain ⟨accounted, is, circle, rfl⟩ := h
  have entries := circle.filterMap_store accounted e
  have stored := circle.store accounted e
  have sorted : (t.store e).2.Sorted is := by
    rw [Sorted, entries]
    exact ordered
  have held := accounted.entry?_store_spare e
  refine ⟨(t.store e).2.place t.spare, ?_, (accounted.store e).place _, _,
    stored.place accounted.spare_ne_root held (circle.spare_notMem accounted), ?_⟩
  · rw [Timeline.add?, store_fst]
    exact stored.place?_eq_place held
  · rw [stored.filterMap_place sorted held, entries]

theorem carries_byDeadline (es : List (Entry κ ν)) :
    ∃ t, es.foldlM add? empty = some t ∧ t.Carries (byDeadline es) := by
  induction es using List.reverseRecOn with
  | nil => exact ⟨empty, rfl, .empty, [], .empty, List.mergeSort_nil.symm⟩
  | append_singleton es e ih =>
    obtain ⟨t, ht, carries⟩ := ih
    obtain ⟨u, hu, carries⟩ := carries.add? (ordered_byDeadline es) e
    refine ⟨u, ?_, byDeadline_concat es e ▸ carries⟩
    simp [List.foldlM_append, ht, hu]

/-- Placing a slot that is not on the circle always comes to an end, whether or not the deadlines on
the circle are in order. The slot goes right behind the last one whose deadline is no later than its
own, or in front; nothing else on the circle moves. Where the deadlines are in order they stay so,
and the slot is behind all that are due at the same moment. So entries that are stored and placed
one after the other are met along the circle as a stable sort by deadline puts them. -/
theorem stable_placement :
    (∀ (t : Timeline κ ν) (is : List SlotId) (i : SlotId) (e : Entry κ ν),
      t.Circle is → i ≠ root → t.entry? i = some e → i ∉ is →
      ∃ u front back, t.place? i = some u ∧ is = front ++ back ∧ u.Circle (front ++ i :: back) ∧
        (∀ k, u.entry? k = t.entry? k) ∧
        (∀ j ∈ front.getLast?, ∃ f, t.entry? j = some f ∧ f.deadline ≤ e.deadline) ∧
        (∀ j ∈ back, ∃ f, t.entry? j = some f ∧ e.deadline < f.deadline) ∧
        (t.Sorted is → u.Sorted (front ++ i :: back) ∧
          ∀ j ∈ front, ∃ f, t.entry? j = some f ∧ f.deadline ≤ e.deadline)) ∧
    ∀ es : List (Entry κ ν), ∃ t, es.foldlM add? empty = some t ∧
      ∀ n, t.take n = (byDeadline es).take n := by
  constructor
  · intro t is i e circle away he off
    refine ⟨t.place i, t.earlier e.deadline is, t.later e.deadline is, circle.place?_eq_place he,
      (earlier_append_later t e.deadline is).symm, circle.place away he off, entry?_place t i,
      circle.deadline_le_getLast?_earlier e.deadline, circle.lt_deadline_later e.deadline,
      fun sorted => ⟨circle.sorted_place sorted he, circle.deadline_le_earlier sorted e.deadline⟩⟩
  · intro es
    obtain ⟨t, ht, -, is, circle, entries⟩ := carries_byDeadline es
    refine ⟨t, ht, fun n => ?_⟩
    rw [circle.take_eq, entries]

/-- Three slots are on the circle, the first of which has been renewed in place, and a fourth is not. -/
def renewedInPlace : Timeline Nat Nat :=
  (empty.editAll? [.store (.start 1 10 (.ofSeconds 2) .origin), .place 1,
    .store (.start 2 20 (.ofSeconds 3) .origin), .place 2,
    .store (.start 3 30 (.ofSeconds 6) .origin), .place 3,
    .update 1 (·.renew (Moment.origin.plus (.ofSeconds 7))),
    .store (.start 4 40 (.ofSeconds 4) .origin)]).getD empty

theorem placement_in_renewedInPlace :
    renewedInPlace.Circle [1, 2, 3] ∧ ¬renewedInPlace.Sorted [1, 2, 3] ∧
      ∃ u front back, renewedInPlace.place? 4 = some u ∧ [1, 2, 3] = front ++ back ∧
        u.Circle (front ++ 4 :: back) ∧ u.next 2 = 4 ∧ u.prev 3 = 4 := by
  have circle : renewedInPlace.Circle [1, 2, 3] :=
    ⟨by decide, by decide, by simp only [Linked, List.cons_append, List.nil_append]; decide⟩
  obtain ⟨u, front, back, placed, split, chain, -⟩ :=
    stable_placement.1 renewedInPlace [1, 2, 3] 4 _ circle (by decide) rfl (by decide)
  have unsorted : ¬renewedInPlace.Sorted [1, 2, 3] := by
    unfold Sorted
    decide
  have links : (renewedInPlace.place? 4).map (fun u => (u.next 2, u.prev 3)) = some (4, 4) := by
    decide
  rw [placed, Option.map_some, Option.some_inj, Prod.mk.injEq] at links
  exact ⟨circle, unsorted, u, front, back, placed, split, chain, links⟩

end Timeline
end TimedCache
