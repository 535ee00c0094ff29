import TimedCache.Proofs.Cache.Invariant
import TimedCache.Proofs.Delivery

/-!
# Sweeping

A sweep takes entries from the front of the timeline, where the expired ones are. It takes all of
them, or those up to the first with which the listener fails; either way the cache is well-formed
afterwards, and what is left is a rest of what was present.
-/
namespace TimedCache.Cache

variable {κ ν : Type} [DecidableEq κ] [Hashable κ]
variable {c d : Cache κ ν} {is : List SlotId} {i : SlotId} {e : Entry κ ν} {es : List (Entry κ ν)}
variable {p : κ × ν} {now later : Moment}

/-! ### Steps of a sweep -/

/-- The cache after its listener has heard a pair. -/
def hear (c : Cache κ ν) (p : κ × ν) : Cache κ ν :=
  { c with listener := c.listener.map (·.hear p) }

theorem tell_eq (c : Cache κ ν) (p : κ × ν) : c.tell p = (c.hear p, balks c.listener p) := by
  obtain ⟨index, timeline, tally, noted, listener, refreshOnRead⟩ := c
  cases listener <;> rfl

theorem evictUpTo_of_none (h : c.evictFirst? now = none) (n : Nat) :
    evictUpTo now n c = ⟨c, [], false⟩ := by
  cases n with
  | zero => rfl
  | succ n => rw [evictUpTo, h]

theorem evictUpTo_of_balks (h : c.evictFirst? now = some (p, d)) (fails : balks d.listener p = true)
    (n : Nat) : evictUpTo now (n + 1) c = ⟨d.hear p, [p], true⟩ := by
  rw [evictUpTo, h]
  dsimp only
  rw [tell_eq, fails]

theorem evictUpTo_of_not_balks (h : c.evictFirst? now = some (p, d))
    (takes : balks d.listener p = false) (n : Nat) :
    evictUpTo now (n + 1) c =
      { evictUpTo now n (d.hear p) with evicted := p :: (evictUpTo now n (d.hear p)).evicted } := by
  rw [evictUpTo, h]
  dsimp only
  rw [tell_eq, takes]

/-- Evictions that have come to an end have no use for more steps than there were entries. -/
theorem evictUpTo_eq_of_length_le {n m : Nat}
    (ended : (evictUpTo now n c).cache.evictFirst? now = none)
    (enough : (evictUpTo now n c).evicted.length ≤ m) : evictUpTo now m c = evictUpTo now n c := by
  induction n generalizing c m with
  | zero => exact evictUpTo_of_none ended m
  | succ n ih =>
    cases step : c.evictFirst? now with
    | none => rw [evictUpTo_of_none step, evictUpTo_of_none step]
    | some found =>
      cases fails : balks found.2.listener found.1 with
      | true =>
        rw [evictUpTo_of_balks step fails] at enough ⊢
        obtain ⟨m, rfl⟩ := Nat.exists_eq_add_of_le' enough
        exact evictUpTo_of_balks step fails m
      | false =>
        rw [evictUpTo_of_not_balks step fails] at ended enough ⊢
        rw [List.length_cons] at enough
        obtain ⟨m, rfl⟩ := Nat.exists_eq_add_of_le' (Nat.le_of_add_left_le enough)
        rw [evictUpTo_of_not_balks step fails, ih ended (Nat.le_of_succ_le_succ enough)]

/-- What is to be evicted at a moment is so at a later one. -/
theorem evictFirst?_of_le (earlier : now ≤ later) (h : c.evictFirst? now = some (p, d)) :
    c.evictFirst? later = some (p, d) := by
  simp only [evictFirst?, Option.bind_eq_bind, Option.bind_eq_some_iff] at h ⊢
  obtain ⟨i, hi, e, he, step⟩ := h
  rw [Option.ite_none_right_eq_some] at step
  refine ⟨i, hi, e, he, ?_⟩
  rw [Option.ite_none_right_eq_some]
  exact ⟨lt_of_lt_of_le step.1 earlier, step.2⟩

/-! ### The number that a sweep notes -/

/-- The two ways in which a sweep ends after its evictions. -/
theorem sweepUpTo_cases (now : Moment) (n : Nat) (c : Cache κ ν) :
    let s := evictUpTo now n c
    (s.interrupted || s.evicted.isEmpty) = true ∧ sweepUpTo now n c = s ∨
      (s.interrupted || s.evicted.isEmpty) = false ∧
        sweepUpTo now n c = { s with cache := s.cache.note } := by
  intro s
  unfold sweepUpTo
  dsimp only
  cases s.interrupted || s.evicted.isEmpty with
  | true => exact .inl ⟨rfl, if_pos rfl⟩
  | false => exact .inr ⟨rfl, if_neg Bool.false_ne_true⟩

@[simp] theorem evicted_sweepUpTo (now : Moment) (n : Nat) (c : Cache κ ν) :
    (sweepUpTo now n c).evicted = (evictUpTo now n c).evicted := by
  obtain ⟨-, h⟩ | ⟨-, h⟩ := sweepUpTo_cases now n c <;> rw [h]

@[simp] theorem interrupted_sweepUpTo (now : Moment) (n : Nat) (c : Cache κ ν) :
    (sweepUpTo now n c).interrupted = (evictUpTo now n c).interrupted := by
  obtain ⟨-, h⟩ | ⟨-, h⟩ := sweepUpTo_cases now n c <;> rw [h]

theorem sweepUpTo_of_none (h : c.evictFirst? now = none) (n : Nat) :
    sweepUpTo now n c = ⟨c, [], false⟩ := by
  rw [sweepUpTo, evictUpTo_of_none h]
  rfl

theorem noted_evictFirst? (h : c.evictFirst? now = some (p, d)) : d.noted = c.noted := by
  simp only [evictFirst?, Option.bind_eq_bind, Option.bind_eq_some_iff,
    Option.ite_none_right_eq_some, Option.some_inj, Prod.mk.injEq] at h
  obtain ⟨i, -, e, -, -, vacated, -, -, rfl⟩ := h
  rfl

theorem noted_evictUpTo (now : Moment) (n : Nat) (c : Cache κ ν) :
    (evictUpTo now n c).cache.noted = c.noted := by
  induction n generalizing c with
  | zero => rfl
  | succ n ih =>
    cases step : c.evictFirst? now with
    | none => rw [evictUpTo_of_none step]
    | some found =>
      have same : found.2.noted = c.noted := noted_evictFirst? step
      cases fails : balks found.2.listener found.1 with
      | true =>
        rw [evictUpTo_of_balks step fails]
        exact same
      | false =>
        rw [evictUpTo_of_not_balks step fails]
        exact (ih (found.2.hear found.1)).trans same

/-- A sweep that evicts nothing or that is interrupted leaves the number noted as it was. -/
theorem noted_sweep (c : Cache κ ν) (now : Moment) :
    (c.sweep now).cache.noted =
      if (c.sweep now).interrupted || (c.sweep now).evicted.isEmpty then c.noted
      else (c.sweep now).cache.size := by
  unfold sweep
  rw [interrupted_sweepUpTo, evicted_sweepUpTo]
  obtain ⟨idle, h⟩ | ⟨busy, h⟩ := sweepUpTo_cases now c.timeline.slots.size c
  · rw [h, idle, if_pos rfl, noted_evictUpTo]
  · rw [h, busy]
    rfl

/-! ### One eviction -/

/-- Taking out the first slot and its key. -/
theorem WellFormedAlong.tail (h : c.WellFormedAlong (i :: is))
    (he : c.timeline.entry? i = some e) :
    ({ c with
      index := c.index.erase e.key
      timeline := c.timeline.removed i } : Cache κ ν).WellFormedAlong is := by
  have circle : c.timeline.Circle ([] ++ i :: is) := h.circle
  obtain ⟨off, -⟩ := List.nodup_cons.mp h.circle.nodup
  have others : ∀ j ∈ is, Timeline.entry? (c.timeline.removed i) j = c.timeline.entry? j := by
    intro j hj
    rw [Timeline.entry?_removed, if_neg (ne_of_mem_of_not_mem hj off)]
  constructor
  · exact h.accounted.removed (h.circle.ne_root List.mem_cons_self) (by simp [he])
  · exact circle.removed
  · rw [Timeline.Sorted, List.filterMap_congr others]
    exact h.sorted.sublist ((List.sublist_cons_self i is).filterMap _)
  · intro j
    rw [Timeline.entry?_removed]
    split_ifs with hj
    · exact fun held => absurd held (by simp)
    · exact fun held => List.mem_of_ne_of_mem hj (h.onCircle j held)
  · intro k j
    have key := h.index_key List.mem_cons_self he
    rw [Timeline.entry?_removed, Std.ExtHashMap.getElem?_erase]
    by_cases hj : j = i
    · subst hj
      have : e.key ≠ k → c.index[k]? ≠ some j := by
        intro other hk
        exact other (by simpa [he] using ((h.indexed k j).mp hk).2)
      simpa using this
    · by_cases hk : e.key = k
      · subst hk
        have := (h.indexed e.key j).not.mp (by simp [key, Ne.symm hj])
        simpa [hj] using this
      · simpa [hk, hj] using h.indexed k j

theorem WellFormedAlong.first?_eq (h : c.WellFormedAlong is) : c.timeline.first? = is.head? := by
  rw [Timeline.first?, h.circle.next_root]
  cases is with
  | nil => rfl
  | cons i is => simp [h.circle.ne_root List.mem_cons_self]

theorem WellFormedAlong.evictFirst?_cons (h : c.WellFormedAlong (i :: is))
    (he : c.timeline.entry? i = some e) :
    c.evictFirst? now =
      if e.ExpiredAt now then
        some (e.pair,
          { c with
            index := c.index.erase e.key
            timeline := c.timeline.removed i }.record .eviction)
      else none := by
  have vacate : (c.timeline.detach i).vacate? i = some (e, c.timeline.removed i) :=
    Timeline.vacate?_eq_some (h.circle.ne_root List.mem_cons_self) (by simp [he])
  simp only [evictFirst?, h.first?_eq, List.head?_cons, Option.bind_eq_bind, Option.bind_some, he,
    vacate]

theorem WellFormed.evictFirst?_eq_none (h : c.WellFormed)
    (fresh : ∀ e ∈ c.contents.head?, ¬e.ExpiredAt now) : c.evictFirst? now = none := by
  obtain ⟨is, h⟩ := h
  cases is with
  | nil => simp [evictFirst?, h.first?_eq]
  | cons i is =>
    obtain ⟨e, he⟩ := Option.isSome_iff_exists.mp (h.circle.held i List.mem_cons_self)
    rw [h.evictFirst?_cons he, if_neg]
    refine fresh e ?_
    rw [h.contents_eq, List.filterMap_cons_some he]
    rfl

/-- What evicting the first entry of a cache and telling its listener leads to. -/
structure Popped (c : Cache κ ν) (e : Entry κ ν) (d : Cache κ ν) : Prop where
  wellFormed : d.WellFormed
  contents : c.contents = e :: d.contents
  tally : d.tally = c.tally.record .eviction
  listener : d.listener = c.listener.map (·.hear e.pair)
  refreshOnRead : d.refreshOnRead = c.refreshOnRead

theorem WellFormed.evictFirst?_eq_some (h : c.WellFormed) (present : c.contents = e :: es)
    (expired : e.ExpiredAt now) :
    ∃ d, c.evictFirst? now = some (e.pair, d) ∧ c.Popped e (d.hear e.pair) ∧
      d.listener = c.listener := by
  obtain ⟨is, h⟩ := h
  have entries := h.contents_eq
  cases is with
  | nil => simp [present] at entries
  | cons i is =>
    obtain ⟨f, hf⟩ := Option.isSome_iff_exists.mp (h.circle.held i List.mem_cons_self)
    rw [List.filterMap_cons_some hf, present] at entries
    obtain ⟨rfl, rest⟩ := List.cons_eq_cons.mp entries
    have formed := h.tail hf
    have remain := formed.contents_eq
    refine ⟨_, (h.evictFirst?_cons hf).trans (if_pos expired), ?_, rfl⟩
    refine ⟨⟨is, formed.congr rfl rfl⟩, ?_, rfl, rfl, rfl⟩
    rw [present, rest]
    refine congrArg (e :: ·) (Eq.trans ?_ remain.symm)
    refine List.filterMap_congr fun j hj => ?_
    have : j ≠ i := ne_of_mem_of_not_mem hj (List.nodup_cons.mp h.circle.nodup).1
    rw [Timeline.entry?_removed, if_neg this]

/-! ### A whole sweep -/

/-- The pairs that a sweep is to evict, in order. -/
def due (c : Cache κ ν) (now : Moment) : List (κ × ν) :=
  (c.contents.filter (·.ExpiredAt now)).map Entry.pair

/-- What a sweep does. -/
structure Swept (c : Cache κ ν) (now : Moment) (s : Sweep κ ν) : Prop where
  wellFormed : s.cache.WellFormed
  evicted : s.evicted = delivered c.listener (c.due now)
  interrupted : s.interrupted = refuses c.listener (c.due now)
  contents : s.cache.contents = c.contents.drop s.evicted.length
  tally : s.cache.tally = { c.tally with evictions := c.tally.evictions + s.evicted.length }
  listener : s.cache.listener = c.listener.map (·.hearAll s.evicted)
  refreshOnRead : s.cache.refreshOnRead = c.refreshOnRead

/-- A sweep has done what it does before it notes the number of entries left. -/
theorem Swept.note {s : Sweep κ ν} (hs : c.Swept now s) :
    c.Swept now { s with cache := s.cache.note } :=
  ⟨hs.wellFormed.note, hs.evicted, hs.interrupted, hs.contents, hs.tally, hs.listener,
    hs.refreshOnRead⟩

/-- A sweep with nothing to evict. -/
theorem WellFormed.swept_self (h : c.WellFormed) (none : c.due now = []) :
    c.Swept now ⟨c, [], false⟩ where
  wellFormed := h
  evicted := by rw [none, delivered]
  interrupted := by rw [none, refuses]
  contents := rfl
  tally := rfl
  listener := (map_hearAll_nil c.listener).symm
  refreshOnRead := rfl

/-- The listener fails with the first pair. -/
theorem Popped.swept_of_balks (h : c.Popped e d)
    (due : c.due now = e.pair :: d.due now) (fails : balks c.listener e.pair = true) :
    c.Swept now ⟨d, [e.pair], true⟩ where
  wellFormed := h.wellFormed
  evicted := by simp [due, delivered, fails]
  interrupted := by simp [due, refuses, fails]
  contents := by simp [h.contents]
  tally := h.tally
  listener := h.listener
  refreshOnRead := h.refreshOnRead

/-- The listener takes the first pair, and the sweep goes on. -/
theorem Popped.swept {s : Sweep κ ν} (h : c.Popped e d)
    (due : c.due now = e.pair :: d.due now) (takes : balks c.listener e.pair = false)
    (hs : d.Swept now s) : c.Swept now { s with evicted := e.pair :: s.evicted } where
  wellFormed := hs.wellFormed
  evicted := by simp [due, delivered, takes, hs.evicted, h.listener]
  interrupted := by simp [due, refuses, takes, hs.interrupted, h.listener]
  contents := by simpa [h.contents] using hs.contents
  tally := by
    rw [hs.tally, h.tally]
    simp [Tally.record, Nat.add_assoc, Nat.add_comm 1]
  listener := by rw [hs.listener, h.listener, map_hearAll_cons]
  refreshOnRead := hs.refreshOnRead.trans h.refreshOnRead

/-- As many steps as there are entries take all that is to be evicted. -/
theorem WellFormed.swept_evictUpTo (h : c.WellFormed) {n : Nat} (enough : c.contents.length ≤ n) :
    c.Swept now (evictUpTo now n c) := by
  induction n generalizing c with
  | zero =>
    have none : c.contents = [] := List.length_eq_zero_iff.mp (Nat.le_zero.mp enough)
    exact h.swept_self (by simp [due, none])
  | succ n ih =>
    cases present : c.contents with
    | nil =>
      rw [evictUpTo_of_none (h.evictFirst?_eq_none (by simp [present]))]
      exact h.swept_self (by simp [due, present])
    | cons e es =>
      by_cases expired : e.ExpiredAt now
      · obtain ⟨d, evict, popped, listener⟩ := h.evictFirst?_eq_some present expired
        have due : c.due now = e.pair :: (d.hear e.pair).due now := by
          simp [due, popped.contents, expired]
        have length : (d.hear e.pair).contents.length ≤ n := by
          simpa [popped.contents] using enough
        cases fails : balks c.listener e.pair with
        | true =>
          rw [evictUpTo_of_balks evict (listener ▸ fails)]
          exact popped.swept_of_balks due fails
        | false =>
          rw [evictUpTo_of_not_balks evict (listener ▸ fails)]
          exact popped.swept due fails (ih popped.wellFormed length)
      · rw [evictUpTo_of_none (h.evictFirst?_eq_none (by simpa [present] using expired))]
        have ordered : Ordered (e :: es) := present ▸ h.ordered
        refine h.swept_self ?_
        rw [due, present, ordered.filter_expired_cons expired]
        rfl

theorem WellFormed.length_contents_le (h : c.WellFormed) :
    c.contents.length ≤ c.timeline.slots.size := by
  obtain ⟨is, h⟩ := h
  rw [h.length_contents]
  exact le_of_lt (h.circle.length_lt_size h.accounted.rooted.1)

/-- The evictions of a sweep are allowed as many steps as there are slots. -/
theorem WellFormed.swept_evictions (h : c.WellFormed) (now : Moment) :
    c.Swept now (evictUpTo now c.timeline.slots.size c) :=
  h.swept_evictUpTo h.length_contents_le

theorem WellFormed.swept (h : c.WellFormed) (now : Moment) : c.Swept now (c.sweep now) := by
  have swept := h.swept_evictions now
  unfold sweep
  obtain ⟨-, hs⟩ | ⟨-, hs⟩ := sweepUpTo_cases now c.timeline.slots.size c <;> rw [hs]
  · exact swept
  · exact swept.note

/-- A listener that does not fail lets a sweep complete. -/
theorem WellFormed.completed (h : c.WellFormed) (unfailing : ∀ l ∈ c.listener, l.Unfailing)
    (now : Moment) : (c.sweep now).interrupted = false :=
  (h.swept now).interrupted.trans (refuses_eq_false unfailing _)

namespace Swept

variable {s : Sweep κ ν}

theorem isPrefix_evicted (hs : c.Swept now s) : s.evicted <+: c.due now :=
  hs.evicted ▸ isPrefix_delivered c.listener (c.due now)

/-- What is evicted and what stays is what was present, in order. -/
theorem evicted_append (hs : c.Swept now s) (h : c.WellFormed) :
    s.evicted ++ s.cache.contents.map Entry.pair = c.contents.map Entry.pair := by
  have front : c.due now <+: c.contents.map Entry.pair := by
    rw [due, ← h.ordered.filter_expired_append now, List.map_append]
    simp
  have taken : s.evicted = (c.contents.map Entry.pair).take s.evicted.length :=
    List.prefix_iff_eq_take.mp (hs.isPrefix_evicted.trans front)
  rw [hs.contents, List.map_drop]
  nth_rewrite 1 [taken]
  rw [List.take_append_drop]

theorem evicted_of_completed (hs : c.Swept now s) (completed : s.interrupted = false) :
    s.evicted = c.due now := by
  rw [hs.evicted, delivered_eq_self (hs.interrupted ▸ completed)]

/-- A sweep that is not interrupted leaves the entries that have not expired. -/
theorem contents_of_completed (hs : c.Swept now s) (h : c.WellFormed)
    (completed : s.interrupted = false) :
    s.cache.contents = c.contents.filter (¬·.ExpiredAt now) := by
  rw [hs.contents, hs.evicted_of_completed completed, due, List.length_map]
  nth_rewrite 2 [← h.ordered.filter_expired_append now]
  rw [List.drop_left]

/-- A sweep that is not interrupted leaves nothing that was to be evicted by then. -/
theorem evictFirst?_eq_none (hs : c.Swept later s) (h : c.WellFormed)
    (completed : s.interrupted = false) (earlier : now ≤ later) : s.cache.evictFirst? now = none := by
  refine hs.wellFormed.evictFirst?_eq_none fun e he expired => ?_
  have mem := List.mem_of_mem_head? he
  rw [hs.contents_of_completed h completed, List.mem_filter] at mem
  exact of_decide_eq_true mem.2 (lt_of_lt_of_le expired earlier)

theorem size_eq_of_evicted_eq_nil (hs : c.Swept now s) (h : c.WellFormed) (none : s.evicted = []) :
    s.cache.size = c.size := by
  rw [hs.wellFormed.size_eq, h.size_eq, hs.contents, none]
  rfl

theorem length_evicted_le (hs : c.Swept now s) : s.evicted.length ≤ c.contents.length :=
  calc s.evicted.length ≤ (c.due now).length := hs.isPrefix_evicted.length_le
    _ = (c.contents.filter (·.ExpiredAt now)).length := List.length_map _
    _ ≤ c.contents.length := List.length_filter_le _ _

/-- After a sweep that is not interrupted, a key leads where it did unless that has expired. -/
theorem lookup?_of_completed (hs : c.Swept now s) (h : c.WellFormed)
    (completed : s.interrupted = false) (key : κ) :
    s.cache.lookup? key = (c.lookup? key).filter fun e => ¬e.ExpiredAt now := by
  ext e
  rw [hs.wellFormed.lookup?_eq_some_iff, Option.filter_eq_some_iff, h.lookup?_eq_some_iff,
    hs.contents_of_completed h completed, List.mem_filter]
  tauto

end Swept

/-- A sweep that is not interrupted needs no more steps than it evicts entries. -/
theorem WellFormed.sweepUpTo_eq (h : c.WellFormed) (completed : (c.sweep now).interrupted = false)
    {n : Nat} (enough : (c.sweep now).evicted.length ≤ n) : sweepUpTo now n c = c.sweep now := by
  rw [sweep, interrupted_sweepUpTo] at completed
  rw [sweep, evicted_sweepUpTo] at enough
  have ended := (h.swept_evictions now).evictFirst?_eq_none h completed (le_refl now)
  unfold sweep sweepUpTo
  rw [evictUpTo_eq_of_length_le ended enough]

end TimedCache.Cache
