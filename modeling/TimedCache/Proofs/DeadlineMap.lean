import TimedCache.Proofs.Delivery
import TimedCache.Proofs.Timeline.Entries

/-!
# Deadline maps in order

The residents of a deadline map have distinct stamps, so there is one order in which they leave.
The operations of the map are described here by what they do to the residents in that order.
-/
namespace TimedCache.DeadlineMap

variable {κ ν : Type} {m : DeadlineMap κ ν} {es fs : List (Stamped κ ν)}

/-! ### The order in which entries leave -/

theorem leavesBefore_iff {a b : Stamped κ ν} :
    leavesBefore a b ↔ a.deadline < b.deadline ∨ a.deadline = b.deadline ∧ a.stamp ≤ b.stamp := by
  simp [leavesBefore]

theorem leavesBefore_trans (a b c : Stamped κ ν) (hab : leavesBefore a b) (hbc : leavesBefore b c) :
    leavesBefore a c := by
  rw [leavesBefore_iff] at *
  grind

theorem leavesBefore_total (a b : Stamped κ ν) : leavesBefore a b || leavesBefore b a := by
  rw [Bool.or_eq_true, leavesBefore_iff, leavesBefore_iff]
  grind

/-- Entries with distinct stamps have one order in which they leave. -/
theorem mergeSort_eq (distinct : (fs.map Stamped.stamp).Nodup) (perm : es.Perm fs)
    (ordered : es.Pairwise fun a b => leavesBefore a b) : fs.mergeSort leavesBefore = es := by
  refine List.Perm.eq_of_pairwise ?_
    (List.pairwise_mergeSort leavesBefore_trans leavesBefore_total fs) ordered
    ((List.mergeSort_perm fs _).trans perm.symm)
  intro a b ha hb hab hba
  have ha : a ∈ fs := List.mem_mergeSort.mp ha
  have hb : b ∈ fs := perm.mem_iff.mp hb
  refine List.inj_on_of_nodup_map distinct ha hb ?_
  rw [leavesBefore_iff] at hab hba
  grind

/-- The residents in the order in which they leave. -/
def inOrder (m : DeadlineMap κ ν) : List (Stamped κ ν) := m.residents.mergeSort leavesBefore

theorem inOrder_perm (m : DeadlineMap κ ν) : m.inOrder.Perm m.residents :=
  List.mergeSort_perm m.residents leavesBefore

@[simp] theorem mem_inOrder {e : Stamped κ ν} : e ∈ m.inOrder ↔ e ∈ m.residents :=
  List.mem_mergeSort

theorem pairwise_inOrder (m : DeadlineMap κ ν) : m.inOrder.Pairwise fun a b => leavesBefore a b :=
  List.pairwise_mergeSort leavesBefore_trans leavesBefore_total m.residents

/-- The stamps and the keys of the residents are distinct, and no stamp is to come. -/
structure WellStamped (m : DeadlineMap κ ν) : Prop where
  stamps : (m.residents.map Stamped.stamp).Nodup
  below : ∀ e ∈ m.residents, e.stamp < m.fresh
  keys : (m.residents.map fun e => e.key).Nodup

theorem WellStamped.inOrder_eq (h : m.WellStamped) (perm : es.Perm m.residents)
    (ordered : es.Pairwise fun a b => leavesBefore a b) : m.inOrder = es :=
  mergeSort_eq h.stamps perm ordered

theorem WellStamped.keys_inOrder (h : m.WellStamped) : (m.inOrder.map fun e => e.key).Nodup :=
  (m.inOrder_perm.map _).nodup_iff.mpr h.keys

theorem WellStamped.due_eq (h : m.WellStamped) (now : Moment) :
    m.due now = m.inOrder.filter (·.ExpiredAt now) := by
  refine mergeSort_eq ?_ (m.inOrder_perm.filter _) (m.pairwise_inOrder.filter _)
  exact h.stamps.sublist (List.filter_sublist.map _)

theorem WellStamped.isPrefix_due (h : m.WellStamped) (now : Moment) : m.due now <+: m.inOrder := by
  have early : m.inOrder.Pairwise fun a b => b.ExpiredAt now → a.ExpiredAt now := by
    refine m.pairwise_inOrder.imp fun {a b} before (expired : b.deadline < now) => ?_
    show a.deadline < now
    rw [leavesBefore_iff] at before
    grind
  rw [h.due_eq]
  nth_rewrite 2 [← filter_append_filter_not early]
  exact List.prefix_append _ _

variable [DecidableEq κ]

/-! ### Storing an entry -/

theorem WellStamped.insert (h : m.WellStamped) (e : Entry κ ν) : (m.insert e).WellStamped := by
  have rest : (m.residents.filter fun f => f.key ≠ e.key).Sublist m.residents := List.filter_sublist
  constructor
  · refine List.nodup_cons.mpr ⟨?_, h.stamps.sublist (rest.map _)⟩
    intro used
    obtain ⟨f, hf, same⟩ := List.mem_map.mp used
    have same : f.stamp = m.fresh := same
    have old : f.stamp < m.fresh := h.below f (rest.mem hf)
    omega
  · intro f hf
    show f.stamp < m.fresh + 1
    rcases List.mem_cons.mp hf with rfl | hf
    · show m.fresh < m.fresh + 1
      omega
    · have old : f.stamp < m.fresh := h.below f (rest.mem hf)
      omega
  · refine List.nodup_cons.mpr ⟨?_, h.keys.sublist (rest.map _)⟩
    simp

/-- An entry that is stored leaves behind all whose deadline is no later. -/
theorem WellStamped.inOrder_insert (h : m.WellStamped) (e : Entry κ ν) :
    (m.insert e).inOrder =
      (m.inOrder.filter (·.key ≠ e.key)).filter (·.deadline ≤ e.deadline) ++
        { e with stamp := m.fresh } ::
          (m.inOrder.filter (·.key ≠ e.key)).filter (e.deadline < ·.deadline) := by
  have sorted := m.pairwise_inOrder.filter (·.key ≠ e.key)
  refine (h.insert e).inOrder_eq ?_ ?_
  · refine List.perm_middle.trans (.cons _ ?_)
    have parts := List.filter_append_perm (fun f : Stamped κ ν => f.deadline ≤ e.deadline)
      (m.inOrder.filter (·.key ≠ e.key))
    refine List.Perm.trans ?_ (m.inOrder_perm.filter _)
    simpa only [← not_le, decide_not] using parts
  · refine List.pairwise_append.mpr ⟨sorted.filter _, List.pairwise_cons.mpr ⟨?_, sorted.filter _⟩, ?_⟩
    · intro f hf
      exact leavesBefore_iff.mpr (.inl (by simpa using (List.mem_filter.mp hf).2))
    · intro f hf g hg
      obtain ⟨hf, early⟩ := List.mem_filter.mp hf
      have early : f.deadline ≤ e.deadline := of_decide_eq_true early
      have old : f.stamp < m.fresh := h.below f (mem_inOrder.mp (List.mem_filter.mp hf).1)
      rw [leavesBefore_iff]
      rcases List.mem_cons.mp hg with rfl | hg
      · show f.deadline < e.deadline ∨ f.deadline = e.deadline ∧ f.stamp ≤ m.fresh
        grind
      · have late : e.deadline < g.deadline := by simpa using (List.mem_filter.mp hg).2
        exact .inl (lt_of_le_of_lt early late)

theorem WellStamped.map_inOrder_insert (h : m.WellStamped) (e : Entry κ ν) :
    (m.insert e).inOrder.map Stamped.toEntry =
      e.insertInto ((m.inOrder.map Stamped.toEntry).filter (·.key ≠ e.key)) := by
  rw [h.inOrder_insert, Entry.insertInto]
  simp [List.filter_map, Function.comp_def]

/-! ### Sweeping -/

/-- Removing the keys of the front of a list with distinct keys leaves the rest. -/
theorem filter_key_ne_append {front back : List (Stamped κ ν)}
    (keys : ((front ++ back).map fun e => e.key).Nodup) :
    (front ++ back).filter (fun e => ∀ g ∈ front, g.key ≠ e.key) = back := by
  rw [List.map_append, List.nodup_append] at keys
  have gone : front.filter (fun e => ∀ g ∈ front, g.key ≠ e.key) = [] := by
    refine List.filter_eq_nil_iff.mpr fun e he apart => ?_
    exact of_decide_eq_true apart e he rfl
  have kept : back.filter (fun e => ∀ g ∈ front, g.key ≠ e.key) = back := by
    refine List.filter_eq_self.mpr fun e he => decide_eq_true fun g hg => ?_
    exact keys.2.2 _ (List.mem_map_of_mem hg) _ (List.mem_map_of_mem he)
  rw [List.filter_append, gone, kept, List.nil_append]

/-- The map after the first residents in order have left, whose pairs are given. -/
def swept (m : DeadlineMap κ ν) (gone : List (κ × ν)) : DeadlineMap κ ν :=
  { m with
    residents := m.residents.filter fun e => ∀ g ∈ m.inOrder.take gone.length, g.key ≠ e.key
    tally := { m.tally with evictions := m.tally.evictions + gone.length }
    listener := m.listener.map (·.hearAll gone) }

theorem WellStamped.swept (h : m.WellStamped) (gone : List (κ × ν)) :
    (m.swept gone).WellStamped := by
  have rest : (m.swept gone).residents.Sublist m.residents := List.filter_sublist
  constructor
  · exact h.stamps.sublist (rest.map _)
  · exact fun e he => h.below e (rest.mem he)
  · exact h.keys.sublist (rest.map _)

theorem WellStamped.inOrder_swept (h : m.WellStamped) (gone : List (κ × ν)) :
    (m.swept gone).inOrder = m.inOrder.drop gone.length := by
  have whole := List.take_append_drop gone.length m.inOrder
  have kept := filter_key_ne_append (whole ▸ h.keys_inOrder)
  rw [whole] at kept
  refine (h.swept gone).inOrder_eq ?_ ?_
  · rw [← kept]
    exact m.inOrder_perm.filter _
  · exact m.pairwise_inOrder.sublist (List.drop_sublist _ _)

/-- A sweep removes the first residents in order, as many as are handed out. -/
theorem WellStamped.sweep_eq (h : m.WellStamped) (now : Moment) :
    m.sweep now =
      (m.swept (delivered m.listener ((m.due now).map (·.pair))),
        delivered m.listener ((m.due now).map (·.pair)),
        refuses m.listener ((m.due now).map (·.pair))) := by
  have told := isPrefix_delivered m.listener ((m.due now).map (·.pair))
  rw [sweep, handOut_eq]
  generalize delivered m.listener ((m.due now).map (·.pair)) = gone at told ⊢
  have length : gone.length ≤ (m.due now).length := by simpa using told.length_le
  have first : (m.due now).take gone.length = m.inOrder.take gone.length := by
    obtain ⟨rest, whole⟩ := h.isPrefix_due now
    rw [← whole, List.take_append_of_le_length length]
  have pairs : ((m.due now).take gone.length).map (fun e => (e.key, e.value)) = gone := by
    show ((m.due now).take gone.length).map (·.pair) = gone
    rw [List.map_take, ← List.prefix_iff_eq_take.mp told]
  have count : ((m.due now).take gone.length).length = gone.length := List.length_take_of_le length
  dsimp only
  rw [pairs, count, DeadlineMap.swept]
  simp only [first]

/-! ### Reads and runs -/

section

variable [Inhabited ν] {key : κ} {now : Moment} {e : Stamped κ ν}

theorem get_of_interrupted (stop : (m.sweep now).2.2 = true) :
    m.get key now = (⟨.read .interrupted, none, (m.sweep now).2.1⟩, (m.sweep now).1) := by
  unfold get
  rcases hm : m.sweep now with ⟨n, evicted, interrupted⟩
  rw [hm] at stop
  obtain rfl : interrupted = true := stop
  rfl

theorem get_of_absent (go : (m.sweep now).2.2 = false)
    (absent : ((m.sweep now).1.find? key).filter (fun e => now < e.deadline) = none) :
    m.get key now =
      let n := (m.sweep now).1
      (⟨.read .miss, some default, (m.sweep now).2.1⟩,
        { n with tally := { n.tally with misses := n.tally.misses + 1 } }) := by
  unfold get
  rcases hm : m.sweep now with ⟨n, evicted, interrupted⟩
  rw [hm] at go absent
  obtain rfl : interrupted = false := go
  dsimp only at absent ⊢
  rw [absent]

theorem get_of_found (go : (m.sweep now).2.2 = false)
    (found : ((m.sweep now).1.find? key).filter (fun e => now < e.deadline) = some e) :
    m.get key now =
      let n := (m.sweep now).1
      let n := if n.refreshOnRead then n.insert (e.toEntry.renew now) else n
      (⟨.read (.hit e.value), some e.value, (m.sweep now).2.1⟩,
        { n with tally := { n.tally with hits := n.tally.hits + 1 } }) := by
  unfold get
  rcases hm : m.sweep now with ⟨n, evicted, interrupted⟩
  rw [hm] at go found
  obtain rfl : interrupted = false := go
  dsimp only at found ⊢
  rw [found]
  rfl

end

theorem run_cons [Inhabited ν] (m : DeadlineMap κ ν) (r : Moment × Request κ ν)
    (rs : List (Moment × Request κ ν)) :
    m.run (r :: rs) =
      ((m.perform r.1 r.2).1 :: ((m.perform r.1 r.2).2.run rs).1,
        ((m.perform r.1 r.2).2.run rs).2) := rfl

end TimedCache.DeadlineMap
