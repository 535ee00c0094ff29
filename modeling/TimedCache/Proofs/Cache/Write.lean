import TimedCache.Proofs.Cache.Invariant

/-!
# Writing and renewing

A write and a renewal keep a cache well-formed. To the entries present they do the same: the entry
of the key, if there is one, leaves its place, and an entry of the same key goes behind all whose
deadline is no later.
-/
namespace TimedCache.Cache

variable {κ ν : Type} [DecidableEq κ] [Hashable κ]
variable {c : Cache κ ν} {is : List SlotId} {i : SlotId} {key : κ} {e : Entry κ ν}

/-! ### An entry that changes its place -/

/-- Changing the entry of a key and taking its slot off the circle. -/
theorem WellFormedAlong.lift {pre post : List SlotId} (h : c.WellFormedAlong (pre ++ i :: post))
    (he : c.timeline.entry? i = some e) {f : Entry κ ν → Entry κ ν} (keeps : (f e).key = e.key) :
    ({ c with timeline := (c.timeline.update i f).detach i } : Cache κ ν).WellFormedBut i
        (pre ++ post) ∧
      (pre ++ post).filterMap (Timeline.entry? ((c.timeline.update i f).detach i)) =
        c.contents.filter (·.key ≠ e.key) := by
  have on : ∀ j, j ∈ pre ++ i :: post ↔ j = i ∨ j ∈ pre ++ post := fun j => by
    rw [List.perm_middle.mem_iff, List.mem_cons]
  have off := h.circle.notMem_append
  have others : ∀ j ∈ pre ++ post,
      Timeline.entry? ((c.timeline.update i f).detach i) j = c.timeline.entry? j := by
    intro j hj
    rw [Timeline.entry?_detach, Timeline.entry?_update, if_neg (ne_of_mem_of_not_mem hj off)]
  have rest : (pre ++ post).Sublist (pre ++ i :: post) := by simp
  refine ⟨?_, ?_⟩
  · constructor
    · exact (h.accounted.update i f).detach i
    · exact (h.circle.update i f).detach
    · rw [Timeline.Sorted, List.filterMap_congr others]
      exact h.sorted.sublist (rest.filterMap _)
    · exact h.circle.ne_root (by simp)
    · exact off
    · intro j
      rw [Timeline.entry?_detach, Timeline.isSome_entry?_update, ← on]
      exact h.onCircle j
    · intro k j
      rw [← on, Timeline.entry?_detach, Timeline.entry?_update]
      show c.index[k]? = some j ↔ _
      rw [h.indexed]
      split_ifs with hj
      · rw [hj, he]
        simp [keeps]
      · rfl
  · have distinct := h.distinctKeys
    rw [h.contents_eq, List.filterMap_append, List.filterMap_cons_some he] at distinct
    rw [List.filterMap_congr others, h.contents_eq, List.filterMap_append,
      List.filterMap_append (l := pre), List.filterMap_cons_some he, filter_key_ne distinct]

/-- Changing the entry of a key and moving its slot to the place of its new deadline. -/
theorem WellFormed.relocate (h : c.WellFormed) (hi : c.index[key]? = some i)
    (he : c.timeline.entry? i = some e) {f : Entry κ ν → Entry κ ν} (keeps : (f e).key = e.key) :
    ({ c with timeline := (c.timeline.update i f).relocate i } : Cache κ ν).WellFormed ∧
      ({ c with timeline := (c.timeline.update i f).relocate i } : Cache κ ν).contents =
        (f e).insertInto (c.contents.filter (·.key ≠ key)) := by
  obtain ⟨is, h⟩ := h
  obtain ⟨on, hk⟩ := (h.indexed key i).mp hi
  have hk : e.key = key := by simpa [he] using hk
  obtain ⟨pre, post, rfl⟩ := List.append_of_mem on
  obtain ⟨lifted, rest⟩ := h.lift he keeps
  have held : Timeline.entry? ((c.timeline.update i f).detach i) i = some (f e) := by
    simp [Timeline.entry?_update, he]
  have entries := lifted.contents_place held
  rw [rest, hk] at entries
  exact ⟨⟨_, lifted.place held⟩, entries⟩

/-- The slot of a key that is present, with its entry. -/
theorem WellFormed.exists_entry (h : c.WellFormed) (hi : c.index[key]? = some i) :
    ∃ e, c.timeline.entry? i = some e ∧ e.key = key := by
  obtain ⟨is, h⟩ := h
  obtain ⟨on, hk⟩ := (h.indexed key i).mp hi
  exact Option.map_eq_some_iff.mp hk

/-! ### Writing -/

theorem WellFormed.put_spec (h : c.WellFormed) (key : κ) (value : ν) (lifetime : Span)
    (now : Moment) :
    (c.put key value lifetime now).WellFormed ∧
      (c.put key value lifetime now).contents =
        (Entry.start key value lifetime now).insertInto (c.contents.filter (·.key ≠ key)) := by
  unfold Cache.put
  split
  next i hi =>
    obtain ⟨e, he, hk⟩ := h.exists_entry hi
    obtain ⟨formed, entries⟩ := h.relocate hi he
      (f := fun e => { e with value, lifetime }.renew now) rfl
    have same : ({ e with value, lifetime }.renew now : Entry κ ν) =
        .start key value lifetime now := by simp [Entry.renew, Entry.start, hk]
    rw [same] at entries
    exact ⟨(formed.record .overwrite).note, entries⟩
  next new =>
    obtain ⟨is, along⟩ := id h
    let e := Entry.start key value lifetime now
    obtain ⟨stored, others⟩ := along.store (e := e) new
    have absent : ∀ f ∈ c.contents, f.key ≠ key :=
      h.lookup?_eq_none_iff.mp (along.lookup?_eq_none_iff.mpr new)
    have held := along.accounted.entry?_store_spare e
    dsimp only
    rw [Timeline.store_fst]
    refine ⟨WellFormed.note ⟨_, stored.place held⟩, (stored.contents_place held).trans ?_⟩
    refine congrArg e.insertInto (others.trans ?_)
    rw [List.filter_eq_self.mpr (by simpa using absent)]

theorem WellFormed.put (h : c.WellFormed) (key : κ) (value : ν) (lifetime : Span) (now : Moment) :
    (c.put key value lifetime now).WellFormed := (h.put_spec key value lifetime now).1

theorem WellFormed.contents_put (h : c.WellFormed) (key : κ) (value : ν) (lifetime : Span)
    (now : Moment) :
    (c.put key value lifetime now).contents =
      (Entry.start key value lifetime now).insertInto (c.contents.filter (·.key ≠ key)) :=
  (h.put_spec key value lifetime now).2

/-- A write changes what its key leads to, and nothing else. -/
theorem WellFormed.lookup?_put (h : c.WellFormed) (key : κ) (value : ν) (lifetime : Span)
    (now : Moment) (k : κ) :
    (c.put key value lifetime now).lookup? k =
      if k = key then some (.start key value lifetime now) else c.lookup? k := by
  have formed := h.put key value lifetime now
  split
  next same =>
    rw [formed.lookup?_eq_some_iff, h.contents_put, Entry.mem_insertInto]
    exact ⟨.inl rfl, same.symm⟩
  next other =>
    refine h.lookup?_congr formed fun e hk => ?_
    have : e ≠ .start key value lifetime now := fun same => other (by rw [← hk, same]; rfl)
    simp [h.contents_put, this, hk, other]

/-- A write counts as an overwrite if the key is present, live or not. -/
theorem WellFormed.tally_put (h : c.WellFormed) (key : κ) (value : ν) (lifetime : Span)
    (now : Moment) :
    (c.put key value lifetime now).tally =
      if (c.lookup? key).isSome then c.tally.record .overwrite else c.tally := by
  unfold Cache.put
  split
  next i hi =>
    obtain ⟨e, he, -⟩ := h.exists_entry hi
    simp [lookup?, hi, he]
  next new => simp [lookup?, new]

@[simp] theorem listener_put (c : Cache κ ν) (key : κ) (value : ν) (lifetime : Span)
    (now : Moment) : (c.put key value lifetime now).listener = c.listener := by
  unfold Cache.put
  split <;> rfl

@[simp] theorem refreshOnRead_put (c : Cache κ ν) (key : κ) (value : ν) (lifetime : Span)
    (now : Moment) : (c.put key value lifetime now).refreshOnRead = c.refreshOnRead := by
  unfold Cache.put
  split <;> rfl

/-! ### Renewing -/

theorem live?_eq_some_iff {now : Moment} :
    c.live? key now = some (i, e) ↔
      c.index[key]? = some i ∧ c.timeline.entry? i = some e ∧ e.LiveAt now := by
  unfold live?
  cases hi : c.index[key]? with
  | none => simp
  | some j =>
    cases he : c.timeline.entry? j with
    | none =>
      simp only [Option.bind_eq_bind, Option.bind_some, he, Option.bind_none, reduceCtorEq,
        Option.some.injEq, false_iff, not_and]
      rintro rfl
      simp [he]
    | some f =>
      simp only [Option.bind_eq_bind, Option.bind_some, he, Option.ite_none_right_eq_some,
        Option.some.injEq, Prod.mk.injEq]
      constructor
      · rintro ⟨live, rfl, rfl⟩
        exact ⟨rfl, he, live⟩
      · rintro ⟨rfl, hf, live⟩
        obtain rfl : f = e := by simpa [he] using hf
        exact ⟨live, rfl, rfl⟩

theorem map_snd_live? (c : Cache κ ν) (key : κ) (now : Moment) :
    (c.live? key now).map Prod.snd = (c.lookup? key).filter fun e => e.LiveAt now := by
  unfold live? lookup?
  cases c.index[key]? with
  | none => rfl
  | some i =>
    simp only [Option.bind_eq_bind, Option.bind_some]
    cases c.timeline.entry? i with
    | none => rfl
    | some e => by_cases live : e.LiveAt now <;> simp [live, Option.filter]

theorem lookup?_of_live? {now : Moment} (live : c.live? key now = some (i, e)) :
    c.lookup? key = some e := by
  obtain ⟨hi, he, -⟩ := live?_eq_some_iff.mp live
  rw [lookup?, hi, Option.bind_some, he]

theorem WellFormed.key_of_live? (h : c.WellFormed) {now : Moment}
    (live : c.live? key now = some (i, e)) : e.key = key :=
  (h.lookup?_eq_some_iff.mp (lookup?_of_live? live)).2

theorem WellFormed.renew_spec (h : c.WellFormed) {now : Moment}
    (live : c.live? key now = some (i, e)) :
    (c.renew i now).WellFormed ∧
      (c.renew i now).contents =
        (e.renew now).insertInto (c.contents.filter (·.key ≠ key)) := by
  obtain ⟨hi, he, -⟩ := live?_eq_some_iff.mp live
  exact h.relocate hi he (f := (·.renew now)) rfl

end TimedCache.Cache
