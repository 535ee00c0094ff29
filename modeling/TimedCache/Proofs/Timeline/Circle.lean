import Mathlib.Data.List.Chain
import Mathlib.Data.List.DropRight
import TimedCache.Proofs.Timeline.Slots

/-!
# Circles under the operations of a timeline

Taking a slot off the circle closes a gap, putting one on fills one, and going back along `prev`
finds the gap behind the last deadline that is no later. No link elsewhere on the circle changes.
-/
namespace TimedCache.Timeline

variable {κ ν : Type}

/-- One slot is right behind another. -/
def Adjacent (t : Timeline κ ν) (i j : SlotId) : Prop := t.next i = j ∧ t.prev j = i

theorem linked_iff_isChain {t : Timeline κ ν} {is : List SlotId} :
    t.Linked is ↔ is.IsChain t.Adjacent := by
  induction is with
  | nil => simp [Linked]
  | cons i rest ih =>
    cases rest with
    | nil => simp [Linked]
    | cons j rest => simp only [Linked, List.isChain_cons_cons, ih, Adjacent, and_assoc]

/-- A circle falls into two chains at any gap, and the slots on both sides of the gap are linked. -/
theorem linked_append_iff {t : Timeline κ ν} {pre post : List SlotId} :
    t.Linked (root :: (pre ++ post) ++ [root]) ↔
      (root :: pre).IsChain t.Adjacent ∧ (post ++ [root]).IsChain t.Adjacent ∧
        t.Adjacent (pre.getLastD root) (post.headD root) := by
  have split : root :: (pre ++ post) ++ [root] = (root :: pre) ++ (post ++ [root]) := by simp
  rw [linked_iff_isChain, split, List.isChain_append]
  simp [List.getLast?_cons]

/-! ### Distinct slots around a gap -/

section Distinct

variable {pre post : List SlotId} {i : SlotId}

theorem ne_of_mem_front (h : (root :: (pre ++ i :: post)).Nodup) : ∀ a ∈ root :: pre, a ≠ i := by
  rintro a ha rfl
  rcases List.mem_cons.mp ha with rfl | ha
  · exact (List.nodup_cons.mp h).1 (by simp)
  · exact (List.nodup_cons.mp (List.nodup_middle.mp h.of_cons)).1 (List.mem_append_left _ ha)

theorem ne_of_mem_back (h : (root :: (pre ++ i :: post)).Nodup) : ∀ a ∈ post ++ [root], a ≠ i := by
  rintro a ha rfl
  rcases List.mem_append.mp ha with ha | ha
  · exact (List.nodup_cons.mp (List.nodup_middle.mp h.of_cons)).1 (List.mem_append_right _ ha)
  · rw [List.mem_singleton.mp ha] at h
    exact (List.nodup_cons.mp h).1 (by simp)

theorem ne_headD_of_mem_front (h : (root :: (pre ++ post)).Nodup) :
    ∀ a ∈ pre, a ≠ post.headD root := by
  intro a ha
  cases post with
  | nil =>
    rintro rfl
    exact (List.nodup_cons.mp h).1 (List.mem_append_left _ ha)
  | cons n post => exact ne_of_mem_front h a (List.mem_cons_of_mem _ ha)

theorem ne_headD_of_mem_back (h : (root :: (pre ++ post)).Nodup) :
    ∀ a ∈ (post ++ [root]).tail, a ≠ post.headD root := by
  intro a ha
  cases post with
  | nil => cases ha
  | cons n post => exact ne_of_mem_back h a ha

end Distinct

/-- Whether a slot holds an entry that is due after a deadline. -/
def dueAfter (t : Timeline κ ν) (deadline : Moment) (i : SlotId) : Bool :=
  (t.entry? i).any (deadline < ·.deadline)

/-- Of the slots of a list, those up to the last that is not due after a deadline. -/
def earlier (t : Timeline κ ν) (deadline : Moment) (is : List SlotId) : List SlotId :=
  is.rdropWhile (t.dueAfter deadline)

/-- Of the slots of a list, those behind the last that is not due after a deadline. -/
def later (t : Timeline κ ν) (deadline : Moment) (is : List SlotId) : List SlotId :=
  is.rtakeWhile (t.dueAfter deadline)

theorem earlier_append_later (t : Timeline κ ν) (deadline : Moment) (is : List SlotId) :
    t.earlier deadline is ++ t.later deadline is = is := List.rdropWhile_append_rtakeWhile

namespace Circle

variable {t : Timeline κ ν} {is pre post : List SlotId} {i : SlotId}

theorem empty : (empty : Timeline κ ν).Circle [] where
  distinct := by simp
  held := by simp
  linked := ⟨rfl, rfl, trivial⟩

theorem ne_root (h : t.Circle is) (hi : i ∈ is) : i ≠ root := by
  rintro rfl
  exact (List.nodup_cons.mp h.distinct).1 hi

theorem nodup (h : t.Circle is) : is.Nodup := h.distinct.of_cons

theorem notMem_append (h : t.Circle (pre ++ i :: post)) : i ∉ pre ++ post :=
  (List.nodup_cons.mp (List.nodup_middle.mp h.nodup)).1

theorem lt_size (h : t.Circle is) (inside : root < t.slots.size) :
    ∀ i ∈ root :: is, i < t.slots.size := by
  intro i hi
  rcases List.mem_cons.mp hi with rfl | hi
  · exact inside
  · exact lt_size_of_isSome (h.held i hi)

/-- There are more slots than there are on the circle. -/
theorem length_lt_size (h : t.Circle is) (inside : root < t.slots.size) :
    is.length < t.slots.size := by
  have sub : (root :: is).toFinset ⊆ Finset.range t.slots.size := by
    intro i hi
    exact Finset.mem_range.mpr (h.lt_size inside i (List.mem_toFinset.mp hi))
  have := Finset.card_le_card sub
  rw [List.toFinset_card_of_nodup h.distinct, Finset.card_range] at this
  exact this

/-- A circle is kept by whatever keeps the links and the entries on it. -/
theorem transfer (h : t.Circle is) {u : Timeline κ ν}
    (held : ∀ i ∈ is, (t.entry? i).isSome → (u.entry? i).isSome)
    (links : ∀ i ∈ root :: is, u.next i = t.next i ∧ u.prev i = t.prev i) : u.Circle is where
  distinct := h.distinct
  held := fun i hi => held i hi (h.held i hi)
  linked := by
    have on : ∀ i ∈ root :: is ++ [root], i ∈ root :: is := by
      intro i hi
      rcases List.mem_append.mp hi with hi | hi
      · exact hi
      · exact List.mem_singleton.mp hi ▸ List.mem_cons_self
    refine linked_iff_isChain.mpr ((linked_iff_isChain.mp h.linked).imp_of_mem_imp ?_)
    intro i j hi hj adjacent
    rwa [Adjacent, (links i (on i hi)).1, (links j (on j hj)).2]

theorem update (h : t.Circle is) (i : SlotId) (f : Entry κ ν → Entry κ ν) :
    (t.update i f).Circle is := by
  refine h.transfer (fun k _ holds => ?_) fun k _ => ⟨next_update t i k f, prev_update t i k f⟩
  rwa [isSome_entry?_update]

theorem spare_notMem (h : t.Circle is) (ha : t.Accounted) : t.spare ∉ is := by
  intro on
  simpa [ha.entry?_spare] using h.held _ on

theorem store (h : t.Circle is) (ha : t.Accounted) (e : Entry κ ν) : (t.store e).2.Circle is := by
  have off : t.spare ∉ root :: is :=
    List.not_mem_cons_of_ne_of_not_mem ha.spare_ne_root (h.spare_notMem ha)
  refine h.transfer (fun k hk holds => ?_) fun k hk => ?_
  · rwa [ha.entry?_store, if_neg (ne_of_mem_of_not_mem (List.mem_cons_of_mem _ hk) off)]
  · have other := ne_of_mem_of_not_mem hk off
    rw [ha.next_store, ha.prev_store, if_neg other, if_neg other]
    exact ⟨rfl, rfl⟩

theorem vacated (h : t.Circle is) (off : i ∉ is) : (t.vacated i).Circle is := by
  refine h.transfer (fun k hk holds => ?_) fun k _ => ⟨next_vacated t i k, prev_vacated t i k⟩
  rwa [entry?_vacated, if_neg (ne_of_mem_of_not_mem hk off)]

/-! ### Neighbours -/

/-- The slots on both sides of a gap, the root standing for the end of the list. -/
theorem gap (h : t.Circle (pre ++ post)) : t.Adjacent (pre.getLastD root) (post.headD root) :=
  (linked_append_iff.mp h.linked).2.2

theorem prev_eq (h : t.Circle (pre ++ i :: post)) : t.prev i = pre.getLastD root := h.gap.2

theorem next_eq (h : t.Circle (pre ++ i :: post)) : t.next i = post.headD root := by
  have gap : t.Circle ((pre ++ [i]) ++ post) := by simpa using h
  simpa using gap.gap.1

theorem prev_root (h : t.Circle is) : t.prev root = is.getLastD root := by
  have gap : t.Circle (is ++ []) := by simpa using h
  exact gap.gap.2

theorem next_root (h : t.Circle is) : t.next root = is.headD root := by
  have gap : t.Circle ([] ++ is) := h
  exact gap.gap.1

/-- No link leads away from the circle. -/
theorem neighbours (h : t.Circle is) (hi : i ∈ root :: is) :
    t.next i ∈ root :: is ∧ t.prev i ∈ root :: is := by
  rcases List.mem_cons.mp hi with rfl | hi
  · rw [h.next_root, h.prev_root]
    exact ⟨by cases is <;> simp, List.getLastD_mem_cons⟩
  · obtain ⟨pre, post, rfl⟩ := List.append_of_mem hi
    rw [h.next_eq, h.prev_eq]
    exact ⟨by cases post <;> simp, List.mem_append_left (i :: post) List.getLastD_mem_cons⟩

theorem neighbours_lt_size (h : t.Circle is) (inside : root < t.slots.size)
    (hi : i ∈ root :: is) : t.next i < t.slots.size ∧ t.prev i < t.slots.size :=
  (h.neighbours hi).imp (h.lt_size inside _) (h.lt_size inside _)

theorem gap_lt_size (h : t.Circle (pre ++ post)) (inside : root < t.slots.size) :
    pre.getLastD root < t.slots.size ∧ t.next (pre.getLastD root) < t.slots.size := by
  have on : pre.getLastD root ∈ root :: (pre ++ post) :=
    List.mem_append_left post List.getLastD_mem_cons
  exact ⟨h.lt_size inside _ on, (h.neighbours_lt_size inside on).1⟩

/-! ### Taking off and putting on -/

theorem detach (h : t.Circle (pre ++ i :: post)) : (t.detach i).Circle (pre ++ post) := by
  have away : i ≠ root := h.ne_root (by simp)
  have holds : (t.entry? i).isSome := h.held i (by simp)
  obtain ⟨hn, hp⟩ := h.neighbours_lt_size (root_lt_size_of_isSome holds) (i := i) (by simp)
  have before : t.Adjacent (t.prev i) i := by
    rw [h.prev_eq]
    exact h.gap
  have behind : t.Adjacent i (t.next i) := by
    rw [h.next_eq]
    have gap : t.Circle ((pre ++ [i]) ++ post) := by simpa using h
    simpa using gap.gap
  -- a link that changes leads to the slot taken off or comes from it
  have keep : ∀ a b, a ≠ i → b ≠ i → t.Adjacent a b → (t.detach i).Adjacent a b := by
    intro a b ha hb adjacent
    have : a ≠ t.prev i := by
      rintro rfl
      exact hb (adjacent.1.symm.trans before.1)
    have : b ≠ t.next i := by
      rintro rfl
      exact ha (adjacent.2.symm.trans behind.2)
    rw [Adjacent, next_detach away holds hp, prev_detach away holds hn]
    simp_all [Adjacent]
  obtain ⟨front, back, -⟩ := linked_append_iff.mp h.linked
  constructor
  · exact h.distinct.sublist (by simp)
  · intro k hk
    rw [entry?_detach]
    refine h.held k ?_
    rcases List.mem_append.mp hk with hk | hk <;> simp [hk]
  · refine linked_append_iff.mpr ⟨?_, ?_, ?_⟩
    · exact front.imp_of_mem_imp fun a b ha hb =>
        keep a b (ne_of_mem_front h.distinct a ha) (ne_of_mem_front h.distinct b hb)
    · exact back.tail.imp_of_mem_imp fun a b ha hb =>
        keep a b (ne_of_mem_back h.distinct a ha) (ne_of_mem_back h.distinct b hb)
    · have hp' : t.prev i ≠ i := by
        rw [h.prev_eq]
        exact ne_of_mem_front h.distinct _ List.getLastD_mem_cons
      have hn' : t.next i ≠ i := fun same => hp' (by simpa [same] using behind.2)
      rw [← h.prev_eq, ← h.next_eq, Adjacent, next_detach away holds hp, prev_detach away holds hn]
      simp [hp', hn']

theorem removed (h : t.Circle (pre ++ i :: post)) : (t.removed i).Circle (pre ++ post) :=
  h.detach.vacated h.notMem_append

theorem link (h : t.Circle (pre ++ post)) (away : i ≠ root) (holds : (t.entry? i).isSome)
    (off : i ∉ pre ++ post) : (t.link (pre.getLastD root) i).Circle (pre ++ i :: post) := by
  have inside := lt_size_of_isSome holds
  obtain ⟨hp, hn⟩ := h.gap_lt_size (root_lt_size_of_isSome holds)
  have distinct : (root :: (pre ++ i :: post)).Nodup := by
    have := List.nodup_cons.mp h.distinct
    refine List.nodup_cons.mpr ⟨?_, List.nodup_middle.mpr (this.2.cons off)⟩
    simpa [away.symm] using this.1
  have gap := h.gap
  -- of the links on the circle, the one across the gap alone changes
  have keep : ∀ a b, a ≠ i → b ≠ i → b ≠ post.headD root → t.Adjacent a b →
      (t.link (pre.getLastD root) i).Adjacent a b := by
    intro a b ha hb other adjacent
    have : a ≠ pre.getLastD root := by
      rintro rfl
      exact other (adjacent.1.symm.trans gap.1)
    rw [Adjacent, next_link hp inside, prev_link hn inside, gap.1]
    simp_all [Adjacent]
  obtain ⟨front, back, -⟩ := linked_append_iff.mp h.linked
  have apart : pre.getLastD root ≠ i := ne_of_mem_front distinct _ List.getLastD_mem_cons
  have apart' : post.headD root ≠ i := ne_of_mem_back distinct _ (by cases post <;> simp)
  refine ⟨distinct, fun k hk => ?_, linked_append_iff.mpr ⟨?_, ?_, ?_⟩⟩
  · rw [entry?_link]
    rcases List.mem_cons.mp (List.perm_middle.mem_iff.mp hk) with rfl | hk
    exacts [holds, h.held k hk]
  · exact front.imp_of_mem_tail_imp fun a b ha hb =>
      keep a b (ne_of_mem_front distinct a ha) (ne_of_mem_front distinct b (.tail _ hb))
        (ne_headD_of_mem_front h.distinct b hb)
  · refine List.isChain_cons.mpr ⟨?_, ?_⟩
    · intro n hn'
      have : n = post.headD root := by simpa using hn'.symm
      rw [this, Adjacent, next_link hp inside, prev_link hn inside, gap.1]
      exact ⟨by rw [if_neg apart.symm, if_pos rfl], if_pos rfl⟩
    · exact back.imp_of_mem_tail_imp fun a b ha hb =>
        keep a b (ne_of_mem_back distinct a ha) (ne_of_mem_back distinct b (List.mem_of_mem_tail hb))
          (ne_headD_of_mem_back h.distinct b hb)
  · rw [List.headD_cons, Adjacent, next_link hp inside, prev_link hn inside, gap.1]
    exact ⟨if_pos rfl, by rw [if_neg apart'.symm, if_pos rfl]⟩

/-! ### Going back -/

/-- Going back from a slot leads to the first one whose deadline is no later, or to the root. -/
theorem predecessor?_eq (h : t.Circle (is ++ post)) (deadline : Moment) {n : Nat}
    (hn : is.length < n) :
    t.predecessor? deadline n (is.getLastD root) =
      some ((t.earlier deadline is).getLastD root) := by
  rw [earlier]
  induction is using List.reverseRecOn generalizing n post with
  | nil =>
    cases n with
    | zero => cases hn
    | succ n => rfl
  | append_singleton is j ih =>
    cases n with
    | zero => cases hn
    | succ n =>
      have h : t.Circle (is ++ j :: post) := by simpa using h
      obtain ⟨e, he⟩ := Option.isSome_iff_exists.mp (h.held j (by simp))
      rw [List.getLastD_concat, predecessor?, if_neg (h.ne_root (by simp)), he]
      dsimp only
      by_cases later : deadline < e.deadline
      · rw [if_pos later, h.prev_eq, List.rdropWhile_concat_pos _ _ _ (by simp [dueAfter, he, later])]
        exact ih h (by simpa using hn)
      · rw [if_neg later, List.rdropWhile_concat_neg _ _ _ (by simp [dueAfter, he, later]),
          List.getLastD_concat]

/-- Placing a slot always comes to an end. -/
theorem place?_eq (h : t.Circle is) {e : Entry κ ν} (he : t.entry? i = some e) :
    t.place? i = some (t.link ((t.earlier e.deadline is).getLastD root) i) := by
  have inside := root_lt_size_of_isSome (Option.isSome_of_eq_some he)
  have whole : t.Circle (is ++ []) := by simpa using h
  rw [Timeline.place?, he]
  dsimp only
  rw [h.prev_root, whole.predecessor?_eq e.deadline (h.length_lt_size inside)]
  rfl

theorem place (h : t.Circle is) {e : Entry κ ν} (away : i ≠ root) (he : t.entry? i = some e)
    (off : i ∉ is) :
    (t.place i).Circle (t.earlier e.deadline is ++ i :: t.later e.deadline is) := by
  have parts := earlier_append_later t e.deadline is
  rw [Timeline.place, h.place?_eq he, Option.getD_some]
  have whole : t.Circle (t.earlier e.deadline is ++ t.later e.deadline is) := by rwa [parts]
  exact whole.link away (by simp [he]) (by rwa [parts])

end Circle
end TimedCache.Timeline
