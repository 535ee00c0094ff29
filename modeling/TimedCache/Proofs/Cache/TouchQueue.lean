import TimedCache.Proofs.Cache.Accounting
import TimedCache.Proofs.Cache.OneLifetime

/-!
# The queue of touches

With one lifetime for all writes, a later touch leads to a later deadline. So the keys on the
timeline stand in the order in which they were last touched, sweeps take them in this order, and a
slot that is placed goes to the end without a search.
-/
namespace TimedCache

variable {κ ν : Type}

/-! ### The order of the last touches -/

/-- The key that a request touches, by its reply: a write touches its key, and so does a hit if
reads refresh. -/
def Request.touched? (refreshOnRead : Bool) : Request κ ν → Reply ν → Option κ
  | put key _ _, _ => some key
  | get key, .read (.hit _) => if refreshOnRead then some key else none
  | _, _ => none

/-- The keys that requests touch, by their replies, in order. -/
def touched (refreshOnRead : Bool)
    (history : List ((Moment × Request κ ν) × Reply ν × List (κ × ν))) : List κ :=
  history.filterMap fun x => x.1.2.touched? refreshOnRead x.2.1

theorem touched_concat (refreshOnRead : Bool)
    (history : List ((Moment × Request κ ν) × Reply ν × List (κ × ν)))
    (x : (Moment × Request κ ν) × Reply ν × List (κ × ν)) :
    touched refreshOnRead (history ++ [x]) =
      touched refreshOnRead history ++ (x.1.2.touched? refreshOnRead x.2.1).toList := by
  rw [touched, List.filterMap_append, touched, List.filterMap_cons]
  cases x.1.2.touched? refreshOnRead x.2.1 <;> rfl

section Order

variable [DecidableEq κ]

/-- The keys present are those touched that are left, in the order of their last touches; before
them, others have left in the order of touches. -/
structure TouchQueue (touches gone keys : List κ) : Prop where
  /-- Removing duplicates keeps the last occurrence of each key. -/
  order : keys = touches.dedup.filter (· ∈ keys)
  sublist : (gone ++ keys).Sublist touches

theorem dedup_append_singleton (ks : List κ) (k : κ) :
    (ks ++ [k]).dedup = ks.dedup.filter (· ≠ k) ++ [k] := by
  induction ks with
  | nil => rfl
  | cons j ks ih =>
    rw [List.cons_append]
    by_cases later : j ∈ ks
    · rw [List.dedup_cons_of_mem (by simp [later]), List.dedup_cons_of_mem later, ih]
    · by_cases same : j = k
      · rw [List.dedup_cons_of_mem (by simp [same]), List.dedup_cons_of_notMem later, ih,
          List.filter_cons_of_neg (by simpa using same)]
      · rw [List.dedup_cons_of_notMem (by simp [later, same]), List.dedup_cons_of_notMem later, ih,
          List.filter_cons_of_pos (by simpa using same), List.cons_append]

namespace TouchQueue

variable {touches gone keys front back : List κ}

theorem nil : TouchQueue ([] : List κ) [] [] := ⟨rfl, .slnil⟩

theorem nodup (h : TouchQueue touches gone keys) : keys.Nodup := by
  rw [h.order]
  exact (List.nodup_dedup touches).filter _

/-- Keys leave from the front. -/
theorem leave (h : TouchQueue touches gone (front ++ back)) :
    TouchQueue touches (gone ++ front) back where
  order := by
    have apart := List.disjoint_of_nodup_append h.nodup
    have rest : (front ++ back).filter (· ∈ back) = back := by
      rw [List.filter_append, List.filter_eq_nil_iff.mpr (by simpa using fun k hk => apart hk),
        List.filter_eq_self.mpr (by simp), List.nil_append]
    nth_rewrite 1 [← rest, h.order, List.filter_filter]
    refine List.filter_congr fun k _ => ?_
    simp only [List.mem_append]
    grind
  sublist := by
    rw [List.append_assoc]
    exact h.sublist

/-- A key that is touched goes to the end, wherever it was. -/
theorem touch (h : TouchQueue touches gone keys) (k : κ) :
    TouchQueue (touches ++ [k]) gone (keys.filter (· ≠ k) ++ [k]) where
  order := by
    rw [dedup_append_singleton, List.filter_append, List.filter_cons_of_pos (by simp),
      List.filter_nil, List.filter_filter]
    nth_rewrite 1 [h.order, List.filter_filter]
    refine congrArg (· ++ [k]) (List.filter_congr fun j _ => ?_)
    grind
  sublist := by
    rw [← List.append_assoc]
    exact (List.Sublist.append_left List.filter_sublist gone |>.trans h.sublist).append (.refl _)

end TouchQueue
end Order

namespace Cache

variable [DecidableEq κ] [Hashable κ]

/-- The keys present, the earliest deadline first. -/
def keys (c : Cache κ ν) : List κ := c.timeline.toList.map Entry.key

/-- How a request comes to place a slot: the timeline just before, and the slot. A write places the
slot of its key, and so does a hit if reads refresh. -/
inductive Places (c : Cache κ ν) (now : Moment) : Request κ ν → Timeline κ ν → SlotId → Prop
  | overwrite {key : κ} {value : ν} {lifetime : Span} {i : SlotId}
      (present : c.index[key]? = some i) :
      c.Places now (.put key value lifetime)
        ((c.timeline.update i fun e => { e with value, lifetime }.renew now).detach i) i
  | store {key : κ} {value : ν} {lifetime : Span} (new : c.index[key]? = none) :
      c.Places now (.put key value lifetime)
        (c.timeline.store (.start key value lifetime now)).2
        (c.timeline.store (.start key value lifetime now)).1
  | refresh {key : κ} {i : SlotId} {e : Entry κ ν} (completed : (c.sweep now).interrupted = false)
      (live : (c.sweep now).cache.live? key now = some (i, e))
      (refreshes : (c.sweep now).cache.refreshOnRead = true) :
      c.Places now (.get key) (((c.sweep now).cache.timeline.update i (·.renew now)).detach i) i

variable {c : Cache κ ν} {key : κ} {now limit : Moment} {lifetime : Span} {i : SlotId}
  {e : Entry κ ν} {r : Request κ ν} {t : Timeline κ ν}

theorem Places.timeline_perform (h : c.Places now r t i) :
    (c.perform now r).cache.timeline = t.place i := by
  cases h with
  | overwrite present =>
    simp only [perform, put, present]
    rfl
  | store new => simp only [perform, put, new, note]
  | @refresh key i e completed live refreshes =>
    simp only [perform, get, completed, live, refreshes, if_true]
    rfl

/-- A request that places no slot leaves the timeline as it was, or as its sweep has left it. -/
theorem timeline_perform (c : Cache κ ν) (now : Moment) (r : Request κ ν) :
    (∃ t i, c.Places now r t i) ∨ (c.perform now r).cache.timeline = c.timeline ∨
      (c.perform now r).cache.timeline = (c.sweep now).cache.timeline := by
  cases r with
  | put key value lifetime =>
    cases found : c.index[key]? with
    | some i => exact .inl ⟨_, i, .overwrite found⟩
    | none => exact .inl ⟨_, _, .store found⟩
  | get key =>
    show _ ∨ (c.get key now).cache.timeline = _ ∨ (c.get key now).cache.timeline = _
    obtain ⟨-, hc⟩ | ⟨-, -, hc⟩ | ⟨i, e, completed, live, hc⟩ := c.get_cases key now
    · exact .inr (.inr (by rw [hc]))
    · exact .inr (.inr (by rw [hc, record]))
    · by_cases refreshes : (c.sweep now).cache.refreshOnRead
      · exact .inl ⟨_, i, .refresh completed live refreshes⟩
      · exact .inr (.inr (by rw [hc, touch, if_neg refreshes, record]))
  | _ => exact .inr (.inl rfl)

theorem WellFormed.mem_keys_iff (h : c.WellFormed) :
    key ∈ c.keys ↔ c.index.contains key = true := by
  obtain ⟨is, h⟩ := h
  rw [Std.ExtHashMap.contains_iff_mem, h.mem_index_iff]
  rfl

theorem WellFormed.keys_sweep (h : c.WellFormed) (now : Moment) :
    (c.sweep now).evicted.map Prod.fst ++ (c.sweep now).cache.keys = c.keys := by
  have parts := congrArg (List.map Prod.fst) ((h.swept now).evicted_append h)
  rw [List.map_append, List.map_map, List.map_map] at parts
  exact parts

/-- An entry of the latest deadline takes its key to the end. -/
theorem keys_insertInto {d : Cache κ ν} (late : ∀ f ∈ c.contents, f.deadline ≤ e.deadline)
    (contents : d.contents = e.insertInto (c.contents.filter (·.key ≠ key))) (he : e.key = key) :
    d.keys = c.keys.filter (· ≠ key) ++ [key] := by
  rw [Entry.insertInto_of_le fun f hf => late f (List.mem_of_mem_filter hf)] at contents
  show d.contents.map Entry.key = (c.contents.map Entry.key).filter (· ≠ key) ++ [key]
  rw [contents, List.map_append, List.map_singleton, he, List.filter_map]
  rfl

namespace Uniform

/-! ### One request -/

theorem keys_put (h : c.Uniform lifetime (· ≤ now.deadline lifetime)) (key : κ) (value : ν) :
    (c.put key value lifetime now).keys = c.keys.filter (· ≠ key) ++ [key] :=
  keys_insertInto (fun f hf => (h.entries f hf).2) (h.wellFormed.contents_put ..) rfl

theorem deadline_renew (h : c.Uniform lifetime (· ≤ limit)) (live : c.live? key now = some (i, e)) :
    (e.renew now).deadline = now.deadline lifetime := by
  have present := (h.wellFormed.lookup?_eq_some_iff.mp (lookup?_of_live? live)).1
  rw [Entry.renew, (h.entries e present).1]

theorem keys_touch (h : c.Uniform lifetime (· ≤ now.deadline lifetime))
    (live : c.live? key now = some (i, e)) :
    (c.touch i now).keys =
      if c.refreshOnRead then c.keys.filter (· ≠ key) ++ [key] else c.keys := by
  obtain ⟨-, contents⟩ := h.wellFormed.touch_spec live
  split at contents
  next refresh =>
    have late : ∀ f ∈ c.contents, f.deadline ≤ (e.renew now).deadline := by
      rw [h.deadline_renew live]
      exact fun f hf => (h.entries f hf).2
    have found : e.key = key := h.wellFormed.key_of_live? live
    rw [if_pos refresh, keys_insertInto late contents found]
  next refresh =>
    rw [if_neg refresh]
    exact congrArg (List.map Entry.key) contents

/-- The entry of a key whose deadline becomes the latest is placed last. -/
theorem placesLast_detach (h : c.Uniform lifetime (· ≤ limit)) (hi : c.index[key]? = some i)
    (he : c.timeline.entry? i = some e) {f : Entry κ ν → Entry κ ν} (keeps : (f e).key = e.key)
    (last : (f e).deadline = limit) : ((c.timeline.update i f).detach i).PlacesLast i := by
  obtain ⟨is, along⟩ := h.wellFormed
  obtain ⟨pre, post, rfl⟩ := List.append_of_mem ((along.indexed key i).mp hi).1
  obtain ⟨lifted, rest⟩ := along.lift he keeps
  refine lifted.circle.placesLast (e := f e) lifted.away
    (by simp [Timeline.entry?_update, he]) lifted.off fun g hg => ?_
  rw [rest] at hg
  exact last ▸ (h.entries g (List.mem_of_mem_filter hg)).2

/-- A new entry whose deadline is the latest is placed last. -/
theorem placesLast_store (h : c.Uniform lifetime (· ≤ limit)) (new : c.index[e.key]? = none)
    (last : e.deadline = limit) : (c.timeline.store e).2.PlacesLast c.timeline.spare := by
  obtain ⟨is, along⟩ := h.wellFormed
  obtain ⟨stored, entries⟩ := along.store new
  refine stored.circle.placesLast stored.away (along.accounted.entry?_store_spare e) stored.off
    fun g hg => ?_
  rw [entries] at hg
  exact last ▸ (h.entries g hg).2

theorem placesLast (h : c.Uniform lifetime (· ≤ now.deadline lifetime))
    (hr : r.WritesFor lifetime) (places : c.Places now r t i) : t.PlacesLast i := by
  cases places with
  | overwrite present =>
    obtain rfl := hr
    obtain ⟨e, he, -⟩ := h.wellFormed.exists_entry present
    exact h.placesLast_detach present he rfl rfl
  | store new =>
    obtain rfl := hr
    rw [Timeline.store_fst]
    exact h.placesLast_store new rfl
  | refresh completed live refreshes =>
    have swept := h.sweep now
    obtain ⟨hi, he, -⟩ := live?_eq_some_iff.mp live
    exact swept.placesLast_detach hi he rfl (swept.deadline_renew live)

end Uniform

/-! ### Runs -/

theorem WellFormed.refreshOnRead_perform (h : c.WellFormed) (now : Moment) (r : Request κ ν) :
    (c.perform now r).cache.refreshOnRead = c.refreshOnRead := by
  cases r with
  | put key value l => exact refreshOnRead_put ..
  | get key =>
    have swept := (h.swept now).refreshOnRead
    show (c.get key now).cache.refreshOnRead = c.refreshOnRead
    obtain ⟨-, hc⟩ | ⟨-, -, hc⟩ | ⟨i, e, -, -, hc⟩ := c.get_cases key now <;> rw [hc]
    · exact swept
    · exact swept
    · exact (refreshOnRead_touch ..).trans swept
  | _ => rfl

/-- A request keeps the queue: what it evicts leaves from the front, what it touches goes to the
end. -/
theorem WellFormed.touchQueue_perform (h : c.WellFormed) {touches gone : List κ}
    (queue : TouchQueue touches gone c.keys) {r : Request κ ν} (hr : r.WritesFor lifetime)
    (latest : r.readsClock = true → c.Uniform lifetime (· ≤ now.deadline lifetime)) :
    TouchQueue (touches ++ (r.touched? c.refreshOnRead (c.perform now r).reply).toList)
      (gone ++ (c.perform now r).evicted.map Prod.fst) (c.perform now r).cache.keys := by
  cases r with
  | put key value l =>
    obtain rfl : l = lifetime := hr
    show TouchQueue (touches ++ [key]) (gone ++ []) (c.put key value l now).keys
    rw [List.append_nil, (latest rfl).keys_put]
    exact queue.touch key
  | get key =>
    have swept := h.swept now
    rw [← h.keys_sweep now] at queue
    have left := queue.leave
    show TouchQueue (touches ++
        (Request.touched? c.refreshOnRead (.get key) (.read (c.get key now).outcome)).toList)
      (gone ++ (c.get key now).evicted.map Prod.fst) (c.get key now).cache.keys
    rw [evicted_get, ← swept.refreshOnRead]
    obtain ⟨-, hc⟩ | ⟨-, -, hc⟩ | ⟨i, e, -, live, hc⟩ := c.get_cases key now <;> rw [hc]
    · simpa [Request.touched?] using left
    · show TouchQueue _ _ (c.sweep now).cache.keys
      simpa [Request.touched?] using left
    · have keys := ((latest rfl).sweep now).keys_touch live
      show TouchQueue _ _ ((c.sweep now).cache.touch i now).keys
      rw [keys]
      cases (c.sweep now).cache.refreshOnRead with
      | true => simpa [Request.touched?] using left.touch key
      | false => simpa [Request.touched?] using left
  | _ =>
    show TouchQueue (touches ++ []) (gone ++ []) c.keys
    rwa [List.append_nil, List.append_nil]

/-- The history of a run grows by a request with its answer. -/
theorem zip_run_concat (c : Cache κ ν) (rs : List (Moment × Request κ ν)) (now : Moment)
    (r : Request κ ν) :
    (rs ++ [(now, r)]).zip (c.run (rs ++ [(now, r)])).1 =
      rs.zip (c.run rs).1 ++
        [((now, r), ((c.run rs).2.perform now r).reply, ((c.run rs).2.perform now r).evicted)] := by
  rw [run_append, List.zip_append (length_run c rs).symm]
  rfl

/-- A run keeps the queue. -/
theorem touchQueue_run (refreshOnRead : Bool) {rs : List (Moment × Request κ ν)}
    (h : OneLifetime lifetime rs) :
    let start : Cache κ ν := empty refreshOnRead
    (start.run rs).2.refreshOnRead = refreshOnRead ∧
      TouchQueue (touched refreshOnRead (rs.zip (start.run rs).1))
        ((start.evicted rs).map Prod.fst) (start.run rs).2.keys := by
  intro start
  induction rs using List.reverseRecOn with
  | nil => exact ⟨rfl, .nil⟩
  | append_singleton rs r ih =>
    obtain ⟨now, r⟩ := r
    obtain ⟨refresh, queue⟩ := ih h.front
    have formed : (start.run rs).2.WellFormed := (wellFormed_empty refreshOnRead).run rs
    have step := formed.touchQueue_perform queue h.writesFor (h.uniform refreshOnRead)
    rw [refresh] at step
    rw [zip_run_concat, touched_concat, evicted_append, run_append, List.map_append]
    refine ⟨(formed.refreshOnRead_perform now r).trans refresh, ?_⟩
    simpa [evicted, run_cons, Cache.run] using step

/-- With one lifetime for all writes, while the clock does not go back, the keys on the timeline
stand in the order in which they were last touched (removing duplicates keeps last occurrences), and
keys leave in this order. What a request evicts, and so what a listener is told, comes from the front
of the timeline. A slot that is placed is compared with the last one at most and becomes the last
one. -/
theorem run_touchQueue (refreshOnRead : Bool) {rs : List (Moment × Request κ ν)}
    (h : OneLifetime lifetime rs) :
    let start : Cache κ ν := empty refreshOnRead
    let (replies, c) := start.run rs
    let touches := touched refreshOnRead (rs.zip replies)
    c.keys = touches.dedup.filter c.index.contains ∧
      ((start.evicted rs).map Prod.fst ++ c.keys).Sublist touches ∧
      ∀ before now r after, rs = before ++ (now, r) :: after →
        let d := (start.run before).2
        let a := d.perform now r
        a.evicted.map Prod.fst <+: d.keys ∧
          (d.listener.isSome → d.toldBy now r = a.evicted) ∧
          (∀ t i, d.Places now r t i → a.cache.timeline = t.place i ∧ t.PlacesLast i) ∧
          ((∃ t i, d.Places now r t i) ∨ a.cache.timeline = d.timeline ∨
            a.cache.timeline = (d.sweep now).cache.timeline) := by
  intro start
  have formed : ∀ rs, (start.run rs).2.WellFormed := (wellFormed_empty refreshOnRead).run
  obtain ⟨-, queue⟩ := touchQueue_run refreshOnRead h
  refine ⟨?_, queue.sublist, ?_⟩
  · refine queue.order.trans (List.filter_congr fun key _ => ?_)
    rw [Bool.eq_iff_iff, ← (formed rs).mem_keys_iff, decide_eq_true_iff]
  · rintro before now r after rfl
    refine ⟨?_, fun listening => (formed before).toldBy_eq listening now r, fun t i places => ?_,
      timeline_perform _ now r⟩
    · cases r with
      | get key =>
        show ((start.run before).2.get key now).evicted.map Prod.fst <+: _
        rw [evicted_get, ← (formed before).keys_sweep now]
        exact List.prefix_append _ _
      | _ => exact List.nil_prefix
    · have timed : r.readsClock = true := by
        cases places <;> rfl
      have uniform := h.uniform refreshOnRead timed
      exact ⟨places.timeline_perform, uniform.placesLast h.writesFor places⟩

/-- Two keys are written, and the first is read before it is due. -/
def refreshed : List (Moment × Request Nat Nat) :=
  [(.origin, .put 1 10 (.ofSeconds 2)), (.origin, .put 2 20 (.ofSeconds 2)),
    (Moment.origin.plus (.ofSeconds 1), .get 1)]

theorem contents_two :
    ((empty true : Cache Nat Nat).run (refreshed.take 2)).2.contents =
      [.start 1 10 (.ofSeconds 2) .origin, .start 2 20 (.ofSeconds 2) .origin] := by
  have formed := wellFormed_empty (κ := Nat) (ν := Nat) true
  have first := formed.put 1 10 (.ofSeconds 2) .origin
  refine (first.contents_put 2 20 (.ofSeconds 2) .origin).trans ?_
  rw [formed.contents_put]
  decide

theorem keys_of_refreshed : ((empty true : Cache Nat Nat).run refreshed).2.keys = [2, 1] := by
  let c := ((empty true : Cache Nat Nat).run (refreshed.take 2)).2
  let now := Moment.origin.plus (.ofSeconds 1)
  have one : OneLifetime (.ofSeconds 2) refreshed :=
    ⟨by simp [refreshed, Request.WritesFor], by decide, by decide⟩
  have formed : c.WellFormed := (wellFormed_empty true).run _
  have fresh : c.due now = [] := by
    rw [Cache.due, contents_two]
    decide
  have completed : (c.sweep now).interrupted = false := by
    rw [(formed.swept now).interrupted, fresh]
    rfl
  have none : (c.get 1 now).evicted = [] := by
    rw [evicted_get, (formed.swept now).evicted, fresh]
    rfl
  have found : c.lookup? 1 = some (.start 1 10 (.ofSeconds 2) .origin) :=
    formed.lookup?_eq_some_iff.mpr ⟨by rw [contents_two]; decide, rfl⟩
  have hit : (c.get 1 now).outcome = .hit 10 := by
    rw [formed.outcome_get 1 completed, found]
    decide
  have present : ∀ key ∈ [2, 1], (c.get 1 now).cache.index.contains key := by
    have kept := (formed.balance_get 1 now).map Prod.fst
    rw [none, List.nil_append, List.map_map, List.map_map, contents_two] at kept
    intro key hk
    rw [← (formed.get 1 now).mem_keys_iff]
    exact kept.mem_iff.mp (by revert key; decide)
  let replies := ((empty true : Cache Nat Nat).run refreshed).1
  have touches : touched true (refreshed.zip replies) = [1, 2, 1] := by
    show touched true [_, _, (_, .read (c.get 1 now).outcome, (c.get 1 now).evicted)] = _
    rw [hit]
    rfl
  have order : (c.get 1 now).cache.keys =
      (touched true (refreshed.zip replies)).dedup.filter (c.get 1 now).cache.index.contains :=
    (run_touchQueue true one).1
  rw [touches] at order
  exact order.trans (List.filter_eq_self.mpr present)

end Cache
end TimedCache
