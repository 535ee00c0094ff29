import TimedCache.Proofs.Cache.Requests

/-!
# Interrupted reads

A read that its listener interrupts has evicted the entries of which the listener was told, and has
done nothing else; it has not even noted how many entries are left. So a second read goes on where it
ended: but for that number, both together come to what one read comes to that no listener interrupts.
-/
namespace TimedCache.Cache

variable {κ ν : Type} [DecidableEq κ] [Hashable κ]
variable {c d : Cache κ ν} {is : List SlotId} {i : SlotId} {e : Entry κ ν} {p : κ × ν}
variable {key : κ} {now later : Moment}

/-! ### The slots under a sweep -/

/-- What evicting the first entry does to the slots. -/
theorem WellFormedAlong.of_evictFirst? (h : c.WellFormedAlong is)
    (step : c.evictFirst? now = some (p, d)) :
    ∃ i rest, is = i :: rest ∧ d.WellFormedAlong rest ∧
      ∀ j, d.timeline.entry? j = if j = i then none else c.timeline.entry? j := by
  cases is with
  | nil => simp [evictFirst?, h.first?_eq] at step
  | cons i is =>
    obtain ⟨e, he⟩ := Option.isSome_iff_exists.mp (h.circle.held i List.mem_cons_self)
    rw [h.evictFirst?_cons he, Option.ite_none_right_eq_some, Option.some_inj] at step
    obtain ⟨-, step⟩ := step
    obtain ⟨-, rfl⟩ := Prod.mk.inj step
    exact ⟨i, is, rfl, (h.tail he).congr rfl rfl, Timeline.entry?_removed c.timeline i⟩

/-- A sweep vacates the first slots on the circle, one for each pair that it evicts. -/
structure Cleared (c : Cache κ ν) (is : List SlotId) (s : Sweep κ ν) : Prop where
  along : s.cache.WellFormedAlong (is.drop s.evicted.length)
  entries : ∀ i, s.cache.timeline.entry? i =
    if i ∈ is.take s.evicted.length then none else c.timeline.entry? i

theorem WellFormedAlong.cleared_self (h : c.WellFormedAlong is) (interrupted : Bool) :
    c.Cleared is ⟨c, [], interrupted⟩ :=
  ⟨h, fun i => by simp⟩

theorem Cleared.cons {s : Sweep κ ν} (h : d.Cleared is s)
    (entries : ∀ j, d.timeline.entry? j = if j = i then none else c.timeline.entry? j) :
    c.Cleared (i :: is) { s with evicted := p :: s.evicted } := by
  refine ⟨h.along, fun j => ?_⟩
  simp only [h.entries, entries, List.length_cons, List.take_succ_cons, List.mem_cons]
  by_cases first : j = i <;> simp [first]

theorem WellFormedAlong.cleared_evictUpTo (h : c.WellFormedAlong is) (n : Nat) :
    c.Cleared is (evictUpTo now n c) := by
  induction n generalizing c is with
  | zero => exact h.cleared_self false
  | succ n ih =>
    cases step : c.evictFirst? now with
    | none =>
      rw [evictUpTo_of_none step]
      exact h.cleared_self false
    | some found =>
      obtain ⟨i, rest, rfl, along, entries⟩ := h.of_evictFirst? step
      have along : (found.2.hear found.1).WellFormedAlong rest := along.congr rfl rfl
      cases fails : balks found.2.listener found.1 with
      | true =>
        rw [evictUpTo_of_balks step fails]
        exact (along.cleared_self true).cons entries
      | false =>
        rw [evictUpTo_of_not_balks step fails]
        exact (ih along).cons entries

theorem WellFormedAlong.cleared_sweep (h : c.WellFormedAlong is) (now : Moment) :
    c.Cleared is (c.sweep now) := by
  have cleared : c.Cleared is (evictUpTo now c.timeline.slots.size c) := h.cleared_evictUpTo _
  unfold sweep
  obtain ⟨-, hs⟩ | ⟨-, hs⟩ := sweepUpTo_cases now c.timeline.slots.size c <;> rw [hs]
  · exact cleared
  · exact ⟨cleared.along.congr rfl rfl, cleared.entries⟩

/-! ### What evictions work on -/

/-- The cache without its listener. -/
def mute (c : Cache κ ν) : Cache κ ν := { c with listener := none }

/-- The cache without what evictions do not look at: its listener and the number that it noted. -/
def core (c : Cache κ ν) : Cache κ ν := { c.mute with noted := 0 }

theorem size_core (c : Cache κ ν) : c.core.size = c.size := rfl
theorem stats_core (c : Cache κ ν) : c.core.stats = c.stats := rfl
theorem index_core (c : Cache κ ν) : c.core.index = c.index := rfl
theorem timeline_core (c : Cache κ ν) : c.core.timeline = c.timeline := rfl

theorem live?_core (c : Cache κ ν) (key : κ) (now : Moment) :
    c.core.live? key now = c.live? key now := rfl

theorem WellFormed.with_listener (h : c.WellFormed) (l : Option (Listener κ ν)) :
    ({ c with listener := l } : Cache κ ν).WellFormed :=
  h.imp fun _ along => along.congr rfl rfl

theorem core_sweepUpTo (now : Moment) (n : Nat) (c : Cache κ ν) :
    (sweepUpTo now n c).cache.core = (evictUpTo now n c).cache.core := by
  obtain ⟨-, h⟩ | ⟨-, h⟩ := sweepUpTo_cases now n c <;> rw [h]
  rfl

theorem evictFirst?_core (c : Cache κ ν) (now : Moment) :
    c.core.evictFirst? now = (c.evictFirst? now).map fun found => (found.1, found.2.core) := by
  unfold evictFirst? core mute
  dsimp only
  cases c.timeline.first? with
  | none => rfl
  | some i =>
    simp only [Option.bind_eq_bind, Option.bind_some]
    cases c.timeline.entry? i with
    | none => rfl
    | some e =>
      by_cases expired : e.ExpiredAt now
      · cases (c.timeline.detach i).vacate? i <;> simp [expired, record]
      · simp [expired]

theorem evictFirst?_core_eq_some (h : c.evictFirst? now = some (p, d)) :
    c.core.evictFirst? now = some (p, d.core) := by
  rw [evictFirst?_core, h]
  rfl

/-- Evictions depend on no more than the core, but for their number: more of them lead on from where
some have ended, also at a later moment. -/
theorem evictUpTo_core (c : Cache κ ν) (earlier : now ≤ later) (n m : Nat) :
    evictUpTo later ((evictUpTo now n c).evicted.length + m) c.core =
      { evictUpTo later m (evictUpTo now n c).cache.core with
        evicted := (evictUpTo now n c).evicted ++
          (evictUpTo later m (evictUpTo now n c).cache.core).evicted } := by
  induction n generalizing c with
  | zero => simp [evictUpTo]
  | succ n ih =>
    cases step : c.evictFirst? now with
    | none => simp [evictUpTo_of_none step]
    | some found =>
      have core := evictFirst?_core_eq_some (evictFirst?_of_le earlier step)
      cases fails : balks found.2.listener found.1 with
      | true =>
        rw [evictUpTo_of_balks step fails, List.length_singleton, Nat.add_comm,
          evictUpTo_of_not_balks core rfl]
        rfl
      | false =>
        rw [evictUpTo_of_not_balks step fails, List.length_cons, Nat.add_right_comm,
          evictUpTo_of_not_balks core rfl]
        exact congrArg (fun s : Sweep κ ν => { s with evicted := found.1 :: s.evicted })
          (ih (found.2.hear found.1))

/-- A sweep is continued by more evictions, whether it was interrupted or not. -/
theorem evictUpTo_core_sweep (c : Cache κ ν) (earlier : now ≤ later) (m : Nat) :
    evictUpTo later ((c.sweep now).evicted.length + m) c.core =
      { evictUpTo later m (c.sweep now).cache.core with
        evicted := (c.sweep now).evicted ++ (evictUpTo later m (c.sweep now).cache.core).evicted } := by
  unfold sweep
  rw [evicted_sweepUpTo, core_sweepUpTo]
  exact evictUpTo_core c earlier c.timeline.slots.size m

/-- A sweep that is not interrupted comes to what as many evictions come to, or more. -/
theorem WellFormed.evictUpTo_core_of_completed (h : c.WellFormed)
    (completed : (c.sweep now).interrupted = false) {n : Nat}
    (enough : (c.sweep now).evicted.length ≤ n) :
    evictUpTo now n c.core = ⟨(c.sweep now).cache.core, (c.sweep now).evicted, false⟩ := by
  obtain ⟨m, rfl⟩ := Nat.exists_eq_add_of_le enough
  have none : (c.sweep now).cache.core.evictFirst? now = none := by
    rw [evictFirst?_core, (h.swept now).evictFirst?_eq_none h completed (le_refl now)]
    rfl
  rw [evictUpTo_core_sweep c (le_refl now), evictUpTo_of_none none, List.append_nil]

/-- A sweep and the next one, if that is not interrupted, come to what one sweep comes to that starts
where the first has started and is not interrupted. -/
theorem sweep_resumed (c : Cache κ ν) (earlier : now ≤ later) {whole next : Cache κ ν}
    (hw : whole.WellFormed) (hn : next.WellFormed) (same : whole.core = c.core)
    (left : next.core = (c.sweep now).cache.core)
    (completed : (whole.sweep later).interrupted = false)
    (completed' : (next.sweep later).interrupted = false) :
    (next.sweep later).cache.core = (whole.sweep later).cache.core ∧
      (c.sweep now).evicted ++ (next.sweep later).evicted = (whole.sweep later).evicted := by
  let n := (whole.sweep later).evicted.length + (next.sweep later).evicted.length
  have enough : (whole.sweep later).evicted.length ≤ (c.sweep now).evicted.length + n := by omega
  have enough' : (next.sweep later).evicted.length ≤ n := by omega
  have resumed := evictUpTo_core_sweep c earlier n
  rw [← same, ← left, hw.evictUpTo_core_of_completed completed enough,
    hn.evictUpTo_core_of_completed completed' enough', Sweep.mk.injEq] at resumed
  exact ⟨resumed.1.symm, resumed.2.1.symm⟩

theorem touch_core (c : Cache κ ν) (i : SlotId) (now : Moment) :
    c.core.touch i now = (c.touch i now).core := by
  unfold touch core mute
  dsimp only
  split <;> rfl

/-- Reads that are not interrupted do the same after sweeps that do. -/
theorem get_core (state : (c.sweep now).cache.core = (d.sweep now).cache.core)
    (completed : (c.sweep now).interrupted = false)
    (completed' : (d.sweep now).interrupted = false) (key : κ) :
    (c.get key now).cache.core = (d.get key now).cache.core ∧
      (c.get key now).outcome = (d.get key now).outcome := by
  have same : (c.sweep now).cache.live? key now = (d.sweep now).cache.live? key now := by
    rw [← live?_core, state, live?_core]
  obtain ⟨gone, hc⟩ | ⟨i, e, live, hc⟩ := get_cases_of_completed key completed <;>
    obtain ⟨gone', hd⟩ | ⟨j, f, live', hd⟩ := get_cases_of_completed key completed'
  · rw [hc, hd]
    exact ⟨congrArg (Cache.record · .miss) state, rfl⟩
  · simp [← same, gone] at live'
  · simp [← same, live] at gone'
  · obtain ⟨rfl, rfl⟩ := Prod.mk.inj (Option.some.inj (live.symm.trans (same.trans live')))
    rw [hc, hd]
    refine ⟨?_, rfl⟩
    show ((c.sweep now).cache.touch i now).core.record .hit = _
    rw [← touch_core, state, touch_core]
    rfl

/-! ### What an interrupted read leaves -/

/-- A cache is another one whose first entries have been evicted. Its other entries and counts, and
whether reads refresh, are as before. -/
structure Curtailed (c d : Cache κ ν) (gone : List (Entry κ ν)) : Prop where
  wellFormed : d.WellFormed
  order : c.timeline.toList = gone ++ d.timeline.toList
  slots : ∀ i, d.timeline.entry? i =
    (c.timeline.entry? i).filter fun e => e.key ∉ gone.map Entry.key
  index : ∀ k, d.index[k]? = if k ∈ gone.map Entry.key then none else c.index[k]?
  count : d.timeline.count + gone.length = c.timeline.count
  tally : d.tally = { c.tally with evictions := c.tally.evictions + gone.length }
  refreshOnRead : d.refreshOnRead = c.refreshOnRead

theorem take_filterMap {α β : Type} {f : α → Option β} {l : List α} (h : ∀ a ∈ l, (f a).isSome)
    (n : Nat) : (l.filterMap f).take n = (l.take n).filterMap f := by
  induction l generalizing n with
  | nil => simp
  | cons a l ih =>
    obtain ⟨b, hb⟩ := Option.isSome_iff_exists.mp (h a List.mem_cons_self)
    cases n with
    | zero => rfl
    | succ n =>
      rw [List.filterMap_cons_some hb, List.take_succ_cons, List.take_succ_cons,
        List.filterMap_cons_some hb, ih fun x hx => h x (List.mem_cons_of_mem a hx)]

/-- The index leads to a slot from the key of its entry. -/
theorem WellFormedAlong.index_eq_some_iff (h : c.WellFormedAlong is) {k : κ} :
    c.index[k]? = some i ↔ (c.timeline.entry? i).map Entry.key = some k := by
  rw [h.indexed, and_iff_right_of_imp]
  intro held
  refine h.onCircle i ?_
  rw [← Option.isSome_map (f := Entry.key), held]
  rfl

/-- An entry has the key of one of the first if it is in the slot of one of the first. -/
theorem WellFormedAlong.mem_keys_take_iff (h : c.WellFormedAlong is)
    (he : c.timeline.entry? i = some e) (n : Nat) :
    e.key ∈ (c.contents.take n).map Entry.key ↔ i ∈ is.take n := by
  rw [h.contents_eq, take_filterMap h.circle.held, List.mem_map]
  constructor
  · rintro ⟨f, hf, same⟩
    obtain ⟨j, hj, hf⟩ := List.mem_filterMap.mp hf
    have here := h.index_eq_some_iff.mpr (congrArg (Option.map Entry.key) he)
    have there := h.index_eq_some_iff.mpr (congrArg (Option.map Entry.key) hf)
    rw [same, here, Option.some_inj] at there
    exact there ▸ hj
  · intro hi
    exact ⟨e, List.mem_filterMap.mpr ⟨i, hi, he⟩, rfl⟩

theorem WellFormed.curtailed_sweep (h : c.WellFormed) (now : Moment) :
    c.Curtailed (c.sweep now).cache (c.contents.take (c.sweep now).evicted.length) := by
  have swept := h.swept now
  obtain ⟨is, along⟩ := h
  have cleared := along.cleared_sweep now
  have order := List.take_append_drop (c.sweep now).evicted.length c.contents
  rw [← swept.contents] at order
  have slots : ∀ i, (c.sweep now).cache.timeline.entry? i = (c.timeline.entry? i).filter
      fun e => e.key ∉ (c.contents.take (c.sweep now).evicted.length).map Entry.key := by
    intro i
    rw [cleared.entries]
    cases he : c.timeline.entry? i with
    | none => simp
    | some e =>
      have := along.mem_keys_take_iff he (c.sweep now).evicted.length
      by_cases first : i ∈ is.take (c.sweep now).evicted.length
      · rw [if_pos first, Option.filter_some, decide_eq_false (not_not.mpr (this.mpr first))]
        rfl
      · rw [if_neg first, Option.filter_some, decide_eq_true ((not_congr this).mpr first)]
        rfl
  refine ⟨swept.wellFormed, order.symm, slots, fun k => ?_, ?_, ?_, swept.refreshOnRead⟩
  · ext i
    rw [cleared.along.index_eq_some_iff, slots, Option.map_eq_some_iff]
    simp only [Option.filter_eq_some_iff, decide_eq_true_eq]
    split
    next mem =>
      refine iff_of_false ?_ (by simp)
      rintro ⟨e, ⟨-, stays⟩, rfl⟩
      exact stays mem
    next stays =>
      rw [along.index_eq_some_iff, Option.map_eq_some_iff]
      refine exists_congr fun e => and_congr_left fun hk => and_iff_left ?_
      rwa [hk]
  · have total := congrArg List.length order
    rw [List.length_append] at total
    rw [cleared.along.count_eq, along.count_eq, Nat.add_comm, total]
  · rw [swept.tally, List.length_take_of_le swept.length_evicted_le]

/-- A sweep whose listener fails ends with the pair on which it does. -/
theorem WellFormed.sweep_of_balks (h : c.WellFormed) {front back : List (Entry κ ν)}
    (expired : c.contents.filter (·.ExpiredAt now) = front ++ e :: back)
    (takes : refuses c.listener (front.map Entry.pair) = false)
    (fails : balks (c.listener.map (·.hearAll (front.map Entry.pair))) e.pair = true) :
    (c.sweep now).interrupted = true ∧ (c.sweep now).evicted = (front ++ [e]).map Entry.pair ∧
      c.contents.take (c.sweep now).evicted.length = front ++ [e] ∧
      (c.sweep now).cache.due now = back.map Entry.pair := by
  have swept := h.swept now
  have due : c.due now = front.map Entry.pair ++ e.pair :: back.map Entry.pair := by
    simp [Cache.due, expired]
  obtain ⟨told, failed⟩ := delivered_append_cons takes fails (back.map Entry.pair)
  rw [← due] at told failed
  have evicted : (c.sweep now).evicted = (front ++ [e]).map Entry.pair := by
    simp [swept.evicted, told]
  have contents : c.contents =
      (front ++ [e]) ++ (back ++ c.contents.filter (¬·.ExpiredAt now)) := by
    nth_rewrite 1 [← h.ordered.filter_expired_append now]
    simp [expired]
  have length : (c.sweep now).evicted.length = (front ++ [e]).length := by
    rw [evicted, List.length_map]
  refine ⟨swept.interrupted.trans failed, evicted, ?_, ?_⟩
  · rw [contents, length, List.take_left]
  · have all : ∀ f ∈ back, f.ExpiredAt now := by
      intro f hf
      have mem : f ∈ c.contents.filter (·.ExpiredAt now) := by simp [expired, hf]
      exact of_decide_eq_true (List.mem_filter.mp mem).2
    rw [Cache.due, swept.contents, length, contents, List.drop_left, List.filter_append,
      List.filter_eq_self.mpr (by simpa using all)]
    simp

/-- A read whose listener fails with an entry has evicted the expired entries up to this one, in
order, and has changed nothing else; nor has it counted a hit or a miss. The next read at the same
moment, if it is not interrupted, finds what one uninterrupted read would have found at first, and
leads to the same timeline, index and statistics; both together tell the same pairs. -/
theorem interrupted_get_resumes [Inhabited ν] (refreshOnRead : Bool)
    (rs : List (Moment × Request κ ν)) (key : κ) (now : Moment) :
    let c := ((empty refreshOnRead : Cache κ ν).run rs).2
    let first := c.get key now
    ∀ (l : Listener κ ν) (front back : List (Entry κ ν)) (e : Entry κ ν),
      c.listener = some l →
      c.timeline.toList.filter (·.ExpiredAt now) = front ++ e :: back →
      refuses (some l) (front.map Entry.pair) = false →
      l.fails (l.heard ++ front.map Entry.pair) e.pair = true →
      first.outcome = .interrupted ∧ first.evicted = (front ++ [e]).map Entry.pair ∧
        first.cache.listener = some (l.hearAll first.evicted) ∧
        c.Curtailed first.cache (front ++ [e]) ∧
        ∀ l₁ l₂ : Option (Listener κ ν),
          refuses l₁ ((front ++ e :: back).map Entry.pair) = false →
          refuses l₂ (back.map Entry.pair) = false →
          let whole := ({ c with listener := l₁ } : Cache κ ν).get key now
          let second := ({ first.cache with listener := l₂ } : Cache κ ν).get key now
          second.outcome.answer?.isSome ∧ second.outcome = whole.outcome ∧
            first.evicted ++ second.evicted = whole.evicted ∧
            second.cache.listener = l₂.map (·.hearAll second.evicted) ∧
            whole.cache.listener = l₁.map (·.hearAll whole.evicted) ∧
            second.cache.timeline = whole.cache.timeline ∧
            second.cache.index = whole.cache.index ∧ second.cache.stats = whole.cache.stats := by
  intro c first l front back e listening expired takes fails
  have formed : c.WellFormed := (wellFormed_empty refreshOnRead).run rs
  obtain ⟨interrupted, evicted, gone, due⟩ := formed.sweep_of_balks expired
    (by rwa [listening]) (by simpa [listening, balks, Listener.hearAll] using fails)
  have read : first = ⟨(c.sweep now).cache, (c.sweep now).evicted, .interrupted⟩ := by
    show c.get key now = _
    unfold Cache.get
    exact if_pos interrupted
  rw [read]
  refine ⟨rfl, evicted, ?_, gone ▸ formed.curtailed_sweep now, fun l₁ l₂ take₁ take₂ => ?_⟩
  · rw [(formed.swept now).listener, listening]
    rfl
  · intro whole second
    have hw := formed.with_listener l₁
    have hn := (formed.swept now).wellFormed.with_listener l₂
    have all : c.due now = (front ++ e :: back).map Entry.pair := congrArg (·.map Entry.pair) expired
    have completed := (hw.swept now).interrupted.trans (all ▸ take₁)
    have completed' := (hn.swept now).interrupted.trans (due ▸ take₂)
    obtain ⟨swept, told⟩ := sweep_resumed c (le_refl now) hw hn rfl rfl completed completed'
    obtain ⟨state, outcome⟩ := get_core swept completed' completed key
    have timeline : second.cache.timeline = whole.cache.timeline := by
      rw [← timeline_core, state, timeline_core]
    have index : second.cache.index = whole.cache.index := by rw [← index_core, state, index_core]
    have stats : second.cache.stats = whole.cache.stats := by rw [← stats_core, state, stats_core]
    refine ⟨?_, outcome, ?_, ?_, ?_, timeline, index, stats⟩
    · rw [hn.outcome_get key completed', Outcome.answer?_ofValue?]
      rfl
    · rw [evicted_get, evicted_get]
      exact told
    · rw [listener_get, (hn.swept now).listener, evicted_get]
    · rw [listener_get, (hw.swept now).listener, evicted_get]

/-- Three entries expire before the fourth, and the listener fails with the second. -/
def failing : List (Moment × Request Nat Nat) :=
  [(.origin, .listen (.refusing "log" 2)), (.origin, .put 1 10 (.ofSeconds 1)),
    (.origin, .put 2 20 (.ofSeconds 2)), (.origin, .put 3 30 (.ofSeconds 3)),
    (.origin, .put 4 40 (.ofSeconds 9))]

theorem contents_failing :
    ((empty true : Cache Nat Nat).run failing).2.contents =
      [.start 1 10 (.ofSeconds 1) .origin, .start 2 20 (.ofSeconds 2) .origin,
        .start 3 30 (.ofSeconds 3) .origin, .start 4 40 (.ofSeconds 9) .origin] := by
  have h₀ := (wellFormed_empty (κ := Nat) (ν := Nat) true).with_listener
    (some (.refusing "log" 2))
  have h₁ := h₀.put 1 10 (.ofSeconds 1) .origin
  have h₂ := h₁.put 2 20 (.ofSeconds 2) .origin
  have h₃ := h₂.put 3 30 (.ofSeconds 3) .origin
  refine (h₃.contents_put 4 40 (.ofSeconds 9) .origin).trans ?_
  rw [h₂.contents_put, h₁.contents_put, h₀.contents_put]
  decide

theorem interrupted_get_of_failing :
    let now := Moment.origin.plus (.ofSeconds 5)
    let c := ((empty true : Cache Nat Nat).run failing).2
    let first := c.get 4 now
    let second := first.cache.get 4 now
    let whole := c.mute.get 4 now
    first.outcome = .interrupted ∧ first.evicted = [(1, 10), (2, 20)] ∧
      second.outcome = whole.outcome ∧ first.evicted ++ second.evicted = whole.evicted ∧
      second.cache.timeline = whole.cache.timeline := by
  intro now c first second whole
  have listening : c.listener = some (.refusing "log" 2) := by
    simp [c, failing, Cache.run, perform, listen]
  have contents : c.timeline.toList = _ := contents_failing
  have expired : c.timeline.toList.filter (·.ExpiredAt now) =
      [.start 1 10 (.ofSeconds 1) .origin] ++ .start 2 20 (.ofSeconds 2) .origin ::
        [.start 3 30 (.ofSeconds 3) .origin] := by
    rw [contents]
    decide
  obtain ⟨outcome, evicted, listener, -, resumes⟩ :=
    interrupted_get_resumes true failing 4 now _ _ _ _ listening expired rfl rfl
  have takes : refuses first.cache.listener [(3, 30)] = false := by
    rw [listener]
    rfl
  obtain ⟨-, found, told, -, -, timeline, -⟩ := resumes none first.cache.listener rfl takes
  exact ⟨outcome, evicted, found, told, timeline⟩

end TimedCache.Cache
