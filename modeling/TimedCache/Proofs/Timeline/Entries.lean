import TimedCache.Proofs.Time.Order
import TimedCache.Proofs.Timeline.Circle

/-!
# The entries of a timeline

What a timeline holds, read along its circle, is a list of entries in the order of their deadlines.
Each operation is described here by what it does to that list.
-/
namespace TimedCache

variable {κ ν : Type}

/-- A property that is never regained along a list holds in front. -/
theorem filter_append_filter_not {α : Type} {p : α → Prop} [DecidablePred p] {l : List α}
    (h : l.Pairwise fun a b => p b → p a) : l.filter (p ·) ++ l.filter (¬p ·) = l := by
  induction l with
  | nil => rfl
  | cons a l ih =>
    obtain ⟨lost, rest⟩ := List.pairwise_cons.mp h
    by_cases ha : p a
    · simpa [ha] using ih rest
    · have none : ∀ b ∈ a :: l, ¬p b := by
        intro b hb holds
        rcases List.mem_cons.mp hb with rfl | hb
        exacts [ha holds, ha (lost b hb holds)]
      rw [List.filter_eq_nil_iff.mpr (by simpa using none), List.nil_append]
      exact List.filter_eq_self.mpr (by simpa using none)

/-- A list in the order of deadlines with one more entry, behind all whose deadline is no later. -/
def Entry.insertInto (e : Entry κ ν) (es : List (Entry κ ν)) : List (Entry κ ν) :=
  es.filter (·.deadline ≤ e.deadline) ++ e :: es.filter (e.deadline < ·.deadline)

theorem Entry.insertInto_perm (e : Entry κ ν) (es : List (Entry κ ν)) :
    (e.insertInto es).Perm (e :: es) := by
  have parts := List.filter_append_perm (fun f : Entry κ ν => f.deadline ≤ e.deadline) es
  refine List.perm_middle.trans (.cons e ?_)
  simpa only [← not_le, decide_not] using parts

@[simp] theorem Entry.mem_insertInto {e f : Entry κ ν} {es : List (Entry κ ν)} :
    f ∈ e.insertInto es ↔ f = e ∨ f ∈ es := by
  rw [(e.insertInto_perm es).mem_iff, List.mem_cons]

/-- An entry goes to the gap behind which all are due later and in front of which none is. -/
theorem Entry.insertInto_append {e : Entry κ ν} {front back : List (Entry κ ν)}
    (early : ∀ f ∈ front, f.deadline ≤ e.deadline) (late : ∀ f ∈ back, e.deadline < f.deadline) :
    e.insertInto (front ++ back) = front ++ e :: back := by
  rw [insertInto, List.filter_append, List.filter_append,
    List.filter_eq_self.mpr (by simpa using early), List.filter_eq_nil_iff.mpr (by simpa using late),
    List.filter_eq_nil_iff.mpr (by simpa using early), List.filter_eq_self.mpr (by simpa using late),
    List.append_nil, List.nil_append]

/-- An entry that is due last goes to the end. -/
theorem Entry.insertInto_of_le {e : Entry κ ν} {es : List (Entry κ ν)}
    (late : ∀ f ∈ es, f.deadline ≤ e.deadline) : e.insertInto es = es ++ [e] := by
  simpa using insertInto_append late (List.forall_mem_nil _)

/-- Entries in the order of their deadlines. -/
def Ordered (es : List (Entry κ ν)) : Prop := es.Pairwise fun a b => a.deadline ≤ b.deadline

theorem Ordered.filter_expired_cons {e : Entry κ ν} {es : List (Entry κ ν)} {now : Moment}
    (h : Ordered (e :: es)) (fresh : ¬e.ExpiredAt now) :
    (e :: es).filter (·.ExpiredAt now) = [] := by
  refine List.filter_eq_nil_iff.mpr fun f hf expired => fresh ?_
  have expired : f.deadline < now := of_decide_eq_true expired
  rcases List.mem_cons.mp hf with rfl | hf
  · exact expired
  · exact lt_of_le_of_lt ((List.pairwise_cons.mp h).1 f hf) expired

/-- The expired entries are in front. -/
theorem Ordered.filter_expired_append {es : List (Entry κ ν)} (h : Ordered es) (now : Moment) :
    es.filter (·.ExpiredAt now) ++ es.filter (¬·.ExpiredAt now) = es :=
  filter_append_filter_not (h.imp fun early expired => lt_of_le_of_lt early expired)

theorem Ordered.insertInto {es : List (Entry κ ν)} (h : Ordered es) (e : Entry κ ν) :
    Ordered (e.insertInto es) := by
  refine List.pairwise_append.mpr ⟨h.filter _, List.pairwise_cons.mpr ⟨?_, h.filter _⟩, ?_⟩
  · intro a ha
    exact le_of_lt (by simpa using (List.mem_filter.mp ha).2)
  · intro a ha b hb
    have ha : a.deadline ≤ e.deadline := by simpa using (List.mem_filter.mp ha).2
    rcases List.mem_cons.mp hb with rfl | hb
    · exact ha
    · exact le_of_lt (lt_of_le_of_lt ha (by simpa using (List.mem_filter.mp hb).2))

/-- In a list with distinct keys, an entry is the only one of its key. -/
theorem filter_key_ne [DecidableEq κ] {e : Entry κ ν} {front back : List (Entry κ ν)}
    (distinct : ((front ++ e :: back).map Entry.key).Nodup) :
    (front ++ e :: back).filter (·.key ≠ e.key) = front ++ back := by
  rw [(List.perm_middle.map _).nodup_iff, List.map_cons, List.nodup_cons] at distinct
  have others : ∀ f ∈ front ++ back, f.key ≠ e.key := by
    intro f hf same
    exact distinct.1 (same ▸ List.mem_map_of_mem hf)
  rw [List.forall_mem_append] at others
  rw [List.filter_append, List.filter_cons_of_neg (by simp),
    List.filter_eq_self.mpr (by simpa using others.1),
    List.filter_eq_self.mpr (by simpa using others.2)]

namespace Timeline

variable {t : Timeline κ ν} {is pre post : List SlotId} {i : SlotId}

/-! ### Reading along the circle -/

theorem Circle.entriesFrom_eq (h : t.Circle (pre ++ post)) (n : Nat) :
    t.entriesFrom n (post.headD root) = (post.filterMap t.entry?).take n := by
  induction post generalizing n pre with
  | nil => cases n <;> simp [entriesFrom]
  | cons i post ih =>
    cases n with
    | zero => rfl
    | succ n =>
      have rest : t.Circle ((pre ++ [i]) ++ post) := by simpa using h
      obtain ⟨e, he⟩ := Option.isSome_iff_exists.mp (h.held i (by simp))
      rw [List.headD_cons, entriesFrom, if_neg (h.ne_root (by simp)), he, h.next_eq,
        List.filterMap_cons_some he, List.take_succ_cons, ← ih rest]

theorem Circle.take_eq (h : t.Circle is) (n : Nat) : t.take n = (is.filterMap t.entry?).take n := by
  have whole : t.Circle ([] ++ is) := h
  rw [take, h.next_root, whole.entriesFrom_eq]

theorem Circle.toList_eq (h : t.Circle is) (inside : root < t.slots.size) :
    t.toList = is.filterMap t.entry? := by
  rw [toList, h.take_eq]
  refine List.take_of_length_le (le_trans (List.length_filterMap_le _ _) ?_)
  exact le_of_lt (h.length_lt_size inside)

theorem Circle.length_filterMap (h : t.Circle is) :
    (is.filterMap t.entry?).length = is.length := by
  rw [List.filterMap_length_eq_length]
  intro i hi
  exact h.held i hi

/-- Storing an entry leaves those on the circle as they are. -/
theorem Circle.filterMap_store (h : t.Circle is) (ha : t.Accounted) (e : Entry κ ν) :
    is.filterMap (Timeline.entry? (t.store e).2) = is.filterMap t.entry? := by
  refine List.filterMap_congr fun j hj => ?_
  rw [ha.entry?_store, if_neg (ne_of_mem_of_not_mem hj (h.spare_notMem ha))]

/-! ### The place of a deadline -/

theorem lt_deadline_of_mem_later (t : Timeline κ ν) (deadline : Moment) (is : List SlotId) :
    ∀ e ∈ (t.later deadline is).filterMap t.entry?, deadline < e.deadline := by
  intro e he
  obtain ⟨j, hj, he⟩ := List.mem_filterMap.mp he
  simpa [dueAfter, he] using List.mem_rtakeWhile_imp hj

theorem deadline_le_of_mem_getLast?_earlier (t : Timeline κ ν) (deadline : Moment)
    (is : List SlotId) :
    ∀ j ∈ (t.earlier deadline is).getLast?, ∀ e ∈ t.entry? j, e.deadline ≤ deadline := by
  intro j hj e he
  obtain ⟨some, rfl⟩ := List.mem_getLast?_eq_getLast hj
  have last := List.rdropWhile_last_not (t.dueAfter deadline) is some
  change ¬t.dueAfter deadline ((t.earlier deadline is).getLast some) = true at last
  simpa [dueAfter, Option.mem_def.mp he] using last

theorem deadline_le_of_mem_earlier (held : ∀ i ∈ is, (t.entry? i).isSome) (sorted : t.Sorted is)
    (deadline : Moment) :
    ∀ e ∈ (t.earlier deadline is).filterMap t.entry?, e.deadline ≤ deadline := by
  have start : t.earlier deadline is <+: is := List.rdropWhile_prefix _ _
  have sorted : t.Sorted (t.earlier deadline is) := sorted.sublist (start.sublist.filterMap _)
  rcases List.eq_nil_or_concat (t.earlier deadline is) with none | ⟨front, j, split⟩
  · simp [none]
  · rw [List.concat_eq_append] at split
    obtain ⟨e, he⟩ := Option.isSome_iff_exists.mp (held j (start.mem (by simp [split])))
    have late := deadline_le_of_mem_getLast?_earlier t deadline is j (by simp [split]) e he
    rw [Sorted, split, List.filterMap_append, List.pairwise_append] at sorted
    intro a ha
    rw [split, List.filterMap_append, List.mem_append] at ha
    rcases ha with ha | ha
    · exact le_trans (sorted.2.2 a ha e (by simp [he])) late
    · have : a = e := by simpa [he, eq_comm] using ha
      rwa [this]

/-- In a sorted list, placing a slot puts its entry behind all whose deadline is no later. -/
theorem Circle.filterMap_place (h : t.Circle is) (sorted : t.Sorted is) {e : Entry κ ν}
    (he : t.entry? i = some e) :
    (t.earlier e.deadline is ++ i :: t.later e.deadline is).filterMap (Timeline.entry? (t.place i)) =
      e.insertInto (is.filterMap t.entry?) := by
  simp only [entry?_place]
  have front := deadline_le_of_mem_earlier h.held sorted e.deadline
  have back := lt_deadline_of_mem_later t e.deadline is
  have parts := congrArg (List.filterMap t.entry?) (earlier_append_later t e.deadline is)
  rw [List.filterMap_append] at parts
  rw [List.filterMap_append, List.filterMap_cons_some he, ← parts,
    Entry.insertInto_append front back]

theorem Circle.sorted_place (h : t.Circle is) (sorted : t.Sorted is) {e : Entry κ ν}
    (he : t.entry? i = some e) :
    (t.place i).Sorted (t.earlier e.deadline is ++ i :: t.later e.deadline is) := by
  rw [Sorted, h.filterMap_place sorted he]
  exact Ordered.insertInto sorted e

/-! ### Placing a slot at the end -/

/-- Placing a slot takes no comparison but one with the last deadline and makes the slot the last
one. -/
structure PlacesLast (t : Timeline κ ν) (i : SlotId) : Prop where
  stops : ∃ e, t.entry? i = some e ∧
    t.predecessor? e.deadline 1 (t.prev root) = some (t.prev root)
  place?_eq : t.place? i = some (t.link (t.prev root) i)
  last?_eq : (t.place i).last? = some i

/-- Going back ends where one step ends it. -/
theorem predecessor?_of_stops {deadline : Moment} (h : t.predecessor? deadline 1 i = some i)
    {n : Nat} (hn : 0 < n) : t.predecessor? deadline n i = some i := by
  cases n with
  | zero => omega
  | succ n =>
    unfold predecessor? at h ⊢
    grind [predecessor?]

/-- A slot whose deadline is the latest is placed last. -/
theorem Circle.placesLast (h : t.Circle is) {e : Entry κ ν} (away : i ≠ root)
    (he : t.entry? i = some e) (off : i ∉ is)
    (late : ∀ f ∈ is.filterMap t.entry?, f.deadline ≤ e.deadline) : t.PlacesLast i := by
  have stops : t.predecessor? e.deadline 1 (t.prev root) = some (t.prev root) := by
    rw [h.prev_root]
    obtain rfl | ⟨front, j, rfl⟩ := List.eq_nil_or_concat is
    · rfl
    · have on : j ∈ front.concat j := by simp
      obtain ⟨f, hf⟩ := Option.isSome_iff_exists.mp (h.held j on)
      have := late f (List.mem_filterMap.mpr ⟨j, on, hf⟩)
      simp [predecessor?, hf, not_lt.mpr this]
  have placed : t.place? i = some (t.link (t.prev root) i) := by
    rw [place?, he]
    dsimp only
    rw [predecessor?_of_stops stops (root_lt_size_of_isSome (Option.isSome_of_eq_some he)),
      Option.map_some]
  refine ⟨⟨e, he, stops⟩, placed, ?_⟩
  have whole : t.Circle (is ++ []) := by simpa using h
  have circle := whole.link away (by simp [he]) (by simpa using off)
  rw [Timeline.place, placed, Option.getD_some, last?, h.prev_root, circle.prev_root]
  simp [away]

end Timeline
end TimedCache
