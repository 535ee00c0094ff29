import TimedCache.Proofs.Cache.Spaced
import TimedCache.Proofs.Cache.Unexpired
import TimedCache.Proofs.Soak.Report

/-!
# Runs of a single worker

A single worker leaves no choice but the times of its operations. Where these are more than a lifetime
apart, every write is evicted by the next read. Where all of them lie within one lifetime, nothing is
evicted before the closing read, which then reports the last value of each key.
-/
namespace TimedCache.Soak

open Cache

variable {w : Workload} {s : Settings} {schedule before : Schedule} {closing : Moment} {n i : Nat}

/-! ### The operations of the worker -/

/-- The state of the generator at an operation of the first worker. -/
def cursorAt (i : Nat) : UInt64 := advance^[i + 1] 0

/-- The key to which the generator leads at an operation, with its state. -/
def pairAt (w : Workload) (i : Nat) : String × UInt64 := (keyAt w (cursorAt i), cursorAt i)

/-- The pairs that are written by operations with numbers below a given one. -/
def writes (w : Workload) (n : Nat) : List (String × UInt64) :=
  (List.range ((n + 2) / 3)).map fun j => pairAt w (3 * j)

theorem length_writes (w : Workload) (n : Nat) : (writes w n).length = (n + 2) / 3 := by
  simp [writes]

theorem writes_eq_filterMap (w : Workload) (n : Nat) :
    writes w n = (List.range n).filterMap fun i => if i % 3 = 0 then some (pairAt w i) else none := by
  induction n with
  | zero => rfl
  | succ n ih =>
    rw [List.range_succ, List.filterMap_append, ← ih, writes, writes]
    by_cases third : n % 3 = 0
    · have next : (n + 1 + 2) / 3 = (n + 2) / 3 + 1 := by omega
      have number : 3 * ((n + 2) / 3) = n := by omega
      rw [next, List.range_succ]
      simp [third, number]
    · have same : (n + 1 + 2) / 3 = (n + 2) / 3 := by omega
      simp [third, same]

theorem mem_map_fst_writes {key : String} :
    key ∈ (writes w n).map Prod.fst ↔ ∃ i < n, i % 3 = 0 ∧ keyAt w (cursorAt i) = key := by
  simp [writes_eq_filterMap, pairAt]

theorem operationsFrom_eq (w : Workload) (n number : Nat) (cursor : UInt64) :
    operationsFrom w n number cursor =
      (List.range n).map fun i => .ofCursor w (number + i) (advance^[i + 1] cursor) := by
  induction n generalizing number cursor with
  | zero => rfl
  | succ n ih =>
    rw [operationsFrom, ih, List.range_succ_eq_map, List.map_cons, List.map_map]
    refine congrArg₂ List.cons ?_ (List.map_congr_left fun i _ => ?_)
    · rw [Nat.add_zero, Nat.zero_add, Function.iterate_one]
    · rw [Function.comp_apply, ← Function.iterate_succ_apply, Nat.succ_eq_add_one,
        Nat.add_right_comm, Nat.add_assoc]

theorem interleaving_singleton {α : Type} {l out : List α} (h : Interleaving [l] out) : out = l := by
  generalize one : [l] = ls at h
  induction h generalizing l with
  | done none =>
    subst one
    exact (none l (by simp)).symm
  | @turn ls i a rest out head _ ih =>
    subst one
    obtain ⟨rfl, rfl⟩ : i = 0 ∧ l = a :: rest := by
      cases i <;> simp_all
    rw [ih rfl]

theorem allOperations_of_alone (alone : w.workers = 1) : allOperations w = [operations w 0] := by
  simp [allOperations, alone]

theorem operations_of_alone (alone : w.workers = 1) (admissible : schedule.Admissible w) :
    schedule.map Prod.snd =
      (List.range w.operations.toNat).map fun i => .ofCursor w i (cursorAt i) := by
  have same := interleaving_singleton (allOperations_of_alone alone ▸ admissible.interleaved)
  rw [same, operations, operationsFrom_eq]
  simp [cursorAt]

theorem written?_ofCursor (w : Workload) (i : Nat) :
    ((Operation.ofCursor w i (cursorAt i)).request w).written? =
      if i % 3 = 0 then some (pairAt w i) else none := by
  unfold Operation.ofCursor
  split <;> rfl

theorem exists_split {op : Nat → Operation} (h : schedule.map Prod.snd = (List.range n).map op)
    (hi : i < n) :
    ∃ before now after, schedule = before ++ (now, op i) :: after ∧
      before.map Prod.snd = (List.range i).map op := by
  obtain ⟨k, rfl⟩ := Nat.exists_eq_add_of_lt hi
  rw [Nat.add_assoc, List.range_add, List.range_succ_eq_map, List.map_append, List.map_cons,
    List.map_cons] at h
  obtain ⟨before, rest, rfl, front, back⟩ := List.map_eq_append_iff.mp h
  obtain ⟨⟨now, o⟩, after, rfl, same, -⟩ := List.map_eq_cons_iff.mp back
  obtain rfl : o = op i := same
  exact ⟨before, now, after, rfl, front⟩

/-! ### The requests of the worker -/

theorem asked_append_cons (w : Workload) (before : Schedule) (now : Moment) (o : Operation)
    (after : Schedule) :
    asked w (before ++ (now, o) :: after) =
      asked w before ++ (now, o.request w) :: asked w after := by
  simp [asked]

theorem getElem?_run_requests (s : Settings) (before : Schedule) (now : Moment) (o : Operation)
    (after : Schedule) (closing : Moment) :
    ((start s).run (requests s.workload (before ++ (now, o) :: after) closing)).1[before.length]? =
      some ((((start s).run (asked s.workload before)).2.perform now (o.request s.workload)).reply,
        (((start s).run (asked s.workload before)).2.perform now (o.request s.workload)).evicted) := by
  have length : (asked s.workload before).length = before.length := List.length_map _
  rw [requests_eq, asked_append_cons, List.append_assoc, List.cons_append, ← length]
  exact getElem?_run ..

theorem readsClock_request (w : Workload) (o : Operation) : (o.request w).readsClock := by
  cases o <;> rfl

theorem readings_asked (w : Workload) (schedule : Schedule) :
    readings (asked w schedule) = schedule.map Prod.fst := by
  simp [readings, asked, List.filter_map, Function.comp_def, readsClock_request]

theorem written_asked
    (h : schedule.map Prod.snd = (List.range n).map fun i => .ofCursor w i (cursorAt i)) :
    written (asked w schedule) = writes w n := by
  have pairs : written (asked w schedule) =
      (schedule.map Prod.snd).filterMap fun o => (o.request w).written? := by
    rw [written, asked, List.filterMap_map, List.filterMap_map]
    rfl
  rw [pairs, h, List.filterMap_map, writes_eq_filterMap]
  exact List.filterMap_congr fun i _ => written?_ofCursor w i

theorem written_requests
    (h : schedule.map Prod.snd = (List.range n).map fun i => .ofCursor w i (cursorAt i)) :
    written (requests w schedule closing) = writes w n := by
  rw [requests_eq, written_append, written_asked h]
  exact List.append_nil _

/-- More than a lifetime passes between operations that follow one another. -/
def Schedule.Spaced (w : Workload) (schedule : Schedule) : Prop :=
  schedule.IsChain fun a b => a.1.nanos + (w.lifetime.nanos : Int) < b.1.nanos

/-- All operations come within less than a lifetime. -/
def Schedule.Crowded (w : Workload) (schedule : Schedule) : Prop :=
  ∀ first ∈ schedule.head?, ∀ last ∈ schedule.getLast?,
    last.1.nanos < first.1.nanos + w.lifetime.nanos

/-- No write follows a write. -/
theorem isChain_asked (alone : w.workers = 1) (admissible : schedule.Admissible w)
    (spaced : schedule.Spaced w) :
    (asked w schedule).IsChain (Request.Apart w.lifetime) := by
  have ops := operations_of_alone alone admissible
  rw [asked, List.isChain_map, List.isChain_iff_getElem]
  intro i hi
  refine ⟨List.isChain_iff_getElem.mp spaced i hi, ?_⟩
  have number (j : Nat) (hj : j < schedule.length) : schedule[j].2 = .ofCursor w j (cursorAt j) := by
    have same := congrArg (·[j]?) ops
    have length : schedule.length = w.operations.toNat := by simpa using congrArg List.length ops
    simpa [hj, length ▸ hj] using same
  rw [number i (by omega), number (i + 1) hi]
  simp only [isRead_request, isWrite_ofCursor]
  have : i % 3 ≠ 0 ∨ (i + 1) % 3 ≠ 0 := by omega
  simpa using this

/-! ### The report -/

theorem contents_start (s : Settings) : (start s).contents = [] := rfl

/-- The listener has heard what was evicted. -/
theorem heard_run (s : Settings) (schedule : Schedule) (closing : Moment) :
    ((start s).run (requests s.workload schedule closing)).2.listener.map Listener.heard =
      some ((start s).evicted (requests s.workload schedule closing)) := by
  rw [(wellFormed_start s).listener_run (keepsListener_requests s.workload schedule closing)]
  rfl

/-- The closing read replaces nothing. -/
theorem overwrites_run (s : Settings) (schedule : Schedule) (closing : Moment) :
    (run s schedule closing).stats.overwrites =
      ((start s).replaced (asked s.workload schedule)).length := by
  refine (congrArg Tally.overwrites (tally_run s (requests s.workload schedule closing))).trans ?_
  rw [requests_eq, replaced_append]
  exact congrArg List.length (List.append_nil _)

theorem ended_of_late (admissible : schedule.Admissible w)
    (late : ∀ last ∈ schedule.getLast?, last.1.nanos + w.lifetime.nanos < closing.nanos) :
    ∀ o ∈ schedule, o.1.nanos + w.lifetime.nanos < closing.nanos := by
  intro o ho
  obtain ⟨last, hl, le⟩ := admissible.exists_getLast? o ho
  have := late last hl
  omega

section Regimes

variable (alone : s.workload.workers = 1) (admissible : schedule.Admissible s.workload)
  (ended : ∀ o ∈ schedule, o.1.nanos + s.workload.lifetime.nanos < closing.nanos)

include alone admissible ended in
/-- If the operations are spaced, no read is a hit, no write is replaced, and the writes are evicted in
their order. -/
theorem run_of_spaced (spaced : schedule.Spaced s.workload) :
    let rs := requests s.workload schedule closing
    (start s).evicted rs = writes s.workload s.workload.operations.toNat ∧
      (start s).replaced rs = [] ∧ ∀ a ∈ ((start s).run rs).1, a.1.isHit = false := by
  intro rs
  have apart : rs.IsChain (Request.Apart s.workload.lifetime) := by
    refine List.isChain_append.mpr ⟨isChain_asked alone admissible spaced, .singleton _, ?_⟩
    intro r hr q hq
    obtain rfl : q = (closing, .get "") := by simpa using hq.symm
    obtain ⟨o, ho, rfl⟩ := List.mem_map.mp (List.mem_of_getLast? hr)
    exact ⟨ended o ho, .inr rfl⟩
  have timed : ∀ r ∈ rs, r.2.readsClock :=
    forall_mem_requests.mpr ⟨fun o _ => readsClock_request s.workload o.2, rfl⟩
  have common : ∀ r ∈ rs, r.2.WritesFor s.workload.lifetime :=
    forall_mem_requests.mpr ⟨fun o _ => writesFor_request s.workload o.2, trivial⟩
  obtain ⟨pairs, kept, missed⟩ := (wellFormed_start s).run_of_apart (unfailing_start s) timed common
    apart fun _ _ => .of_vacant rfl
  rw [contents_run ended, contents_start, written_requests (operations_of_alone alone admissible)]
    at pairs
  exact ⟨by simpa using pairs, kept, missed⟩

include admissible ended in
/-- If the operations are crowded, nothing expires before the closing read. -/
theorem brief_asked (crowded : schedule.Crowded s.workload) :
    Brief s.workload.lifetime (asked s.workload schedule) where
  common := List.forall_mem_map.mpr fun o _ => writesFor_request s.workload o.2
  early := by
    rw [readings_asked]
    simp only [List.forall_mem_map]
    intro begins hb now hn
    obtain ⟨first, hf, least⟩ := admissible.exists_head? begins hb
    obtain ⟨last, hl, greatest⟩ := admissible.exists_getLast? now hn
    have exact := Moment.nanos_deadline_eq_iff.mpr
      (Moment.isSome_add?_iff.mpr (lt_trans (ended begins hb) closing.upper))
    have := crowded first hf last hl
    rw [Moment.lt_iff, exact]
    omega

include admissible ended in
theorem oneLifetime_asked : OneLifetime s.workload.lifetime (asked s.workload schedule) where
  common := List.forall_mem_map.mpr fun o _ => writesFor_request s.workload o.2
  forward := by
    rw [readings_asked]
    exact admissible.ordered
  fits := by
    rw [readings_asked]
    refine List.forall_mem_map.mpr fun o ho => Moment.isSome_add?_iff.mpr ?_
    exact lt_trans (ended o ho) closing.upper

include alone admissible in
/-- Then a read is a hit exactly if an earlier write was to its key, and evicts nothing. -/
theorem getElem?_run_of_brief (brief : Brief s.workload.lifetime (asked s.workload schedule))
    (hi : i < s.workload.operations.toNat) :
    ∃ reply, ((start s).run (requests s.workload schedule closing)).1[i]? = some (reply, []) ∧
      (i % 3 ≠ 0 → (reply.isHit ↔
        ∃ j < i, j % 3 = 0 ∧ keyAt s.workload (cursorAt j) = keyAt s.workload (cursorAt i))) := by
  obtain ⟨before, now, after, rfl, front⟩ :=
    exists_split (operations_of_alone alone admissible) hi
  have place : before.length = i := by simpa using congrArg List.length front
  have found := getElem?_run_requests s before now (.ofCursor s.workload i (cursorAt i)) after closing
  rw [asked_append_cons] at brief
  rw [brief.evicted_perform (wellFormed_start s) (contents_start s), place] at found
  refine ⟨_, found, fun reads => ?_⟩
  have get : (Operation.ofCursor s.workload i (cursorAt i)).request s.workload =
      .get (keyAt s.workload (cursorAt i)) := by
    rw [Operation.ofCursor, if_neg reads, Operation.request]
  rw [get] at brief ⊢
  rw [brief.isHit_get_iff (wellFormed_start s) (contents_start s), written_asked front,
    mem_map_fst_writes]

include ended

/-- The closing read finds that all has expired. -/
theorem closing_read :
    let c := ((start s).run (asked s.workload schedule)).2
    c.perform closing (.get "") =
      ⟨.read .miss, c.contents.map Entry.pair, (c.get "" closing).cache⟩ := by
  intro c
  have uniform := uniform_asked ended
  obtain ⟨evicted, missed, -⟩ := uniform.wellFormed.get_of_expired (unfailing_asked s schedule)
    (fun e he => (uniform.entries e he).2) ""
  rw [perform, missed, evicted]

theorem getElem?_run_closing :
    ((start s).run (requests s.workload schedule closing)).1[schedule.length]? =
      some (.read .miss, ((start s).run (asked s.workload schedule)).2.contents.map Entry.pair) := by
  have found := getElem?_run (start s) (asked s.workload schedule) closing (.get "") []
  rw [closing_read ended, asked, List.length_map] at found
  exact found

theorem evicted_requests :
    (start s).evicted (requests s.workload schedule closing) =
      (start s).evicted (asked s.workload schedule) ++
        ((start s).run (asked s.workload schedule)).2.contents.map Entry.pair := by
  rw [requests_eq, evicted_append, evicted_cons, closing_read ended]
  exact congrArg (_ ++ ·) (List.append_nil _)

/-- The closing read touches no key. -/
theorem touched_requests (refreshOnRead : Bool) :
    touched refreshOnRead ((requests s.workload schedule closing).zip
        ((start s).run (requests s.workload schedule closing)).1) =
      touched refreshOnRead
        ((asked s.workload schedule).zip ((start s).run (asked s.workload schedule)).1) := by
  rw [requests_eq, zip_run_concat, touched_concat, closing_read ended]
  exact List.append_nil _

end Regimes

/-- The outcome of a run of a single worker whose last lifetime is over before the closing read. If
the operations are spaced, no read is a hit, no write is replaced, and the listener is told all
writes in their order. If they are crowded, nothing is evicted before the closing read, a read is a
hit exactly if an earlier write was to its key, the writes that are replaced are those beyond the
first to each key, and the closing read evicts each key that was written once, with its last value,
in the order in which the keys were last touched (of several touches of a key, the last one is
kept). -/
theorem single_worker_outcome (alone : s.workload.workers = 1)
    (admissible : schedule.Admissible s.workload)
    (late : ∀ last ∈ schedule.getLast?,
      last.1.nanos + s.workload.lifetime.nanos < closing.nanos) :
    let w := s.workload
    let n := w.operations.toNat
    let rs := requests w schedule closing
    let replies := ((start s).run rs).1
    let heard := ((start s).run rs).2.listener.map Listener.heard
    let stats := (run s schedule closing).stats
    (schedule.Spaced w →
      stats.hits = 0 ∧ stats.overwrites = 0 ∧ stats.evictions = (n + 2) / 3 ∧
        heard = some (writes w n)) ∧
    (schedule.Crowded w →
      (∀ i < n, ∃ reply, replies[i]? = some (reply, []) ∧
        (i % 3 ≠ 0 → (reply.isHit ↔
          ∃ j < i, j % 3 = 0 ∧ keyAt w (cursorAt j) = keyAt w (cursorAt i)))) ∧
      stats.overwrites + ((writes w n).map Prod.fst).dedup.length = (n + 2) / 3 ∧
      ∃ ps, replies[n]? = some (.read .miss, ps) ∧ heard = some ps ∧
        ps.map Prod.fst = (touched s.cache.refreshOnRead (rs.zip replies)).dedup ∧
        (∀ key, key ∈ ps.map Prod.fst ↔ key ∈ (writes w n).map Prod.fst) ∧
        ∀ p ∈ ps, lastPair? (writes w n) p.1 = some p) := by
  intro w n rs replies heard stats
  have ended := ended_of_late admissible late
  have ops := operations_of_alone alone admissible
  have told : heard = some ((start s).evicted rs) := heard_run s schedule closing
  have formed := wellFormed_start s
  have vacant := contents_start s
  refine ⟨fun spaced => ?_, fun crowded => ?_⟩
  · obtain ⟨evicted, kept, missed⟩ := run_of_spaced alone admissible ended spaced
    have tally : ((start s).run rs).2.tally = _ := tally_run s rs
    refine ⟨?_, ?_, ?_, told.trans (congrArg some evicted)⟩
    · refine (congrArg Tally.hits tally).trans (List.countP_eq_zero.mpr fun a ha => ?_)
      simp [missed a ha]
    · exact (congrArg Tally.overwrites tally).trans (congrArg List.length kept)
    · rw [← length_writes w n, ← evicted]
      exact congrArg Tally.evictions tally
  · have brief := brief_asked admissible ended crowded
    have wrote : written (asked w schedule) = writes w n := written_asked ops
    have length : schedule.length = n := by simpa using congrArg List.length ops
    obtain ⟨early, -⟩ := brief.run formed vacant
    have keys : _ = List.dedup _ := brief.keys_eq (oneLifetime_asked admissible ended)
      s.cache.refreshOnRead (.silent "soak")
    let c := ((start s).run (asked w schedule)).2
    have fst : (c.contents.map Entry.pair).map Prod.fst = c.keys := List.map_map
    refine ⟨fun i hi => getElem?_run_of_brief alone admissible brief hi, ?_,
      c.contents.map Entry.pair, length ▸ getElem?_run_closing ended, ?_, ?_, fun key => ?_, ?_⟩
    · have replaced := brief.length_replaced formed vacant
      rwa [wrote, length_writes, ← overwrites_run s schedule closing] at replaced
    · rw [told, evicted_requests ended, early, List.nil_append]
    · rw [fst, touched_requests ended]
      exact keys
    · rw [fst, brief.mem_keys_iff formed vacant, wrote]
    · intro p hp
      obtain ⟨e, present, rfl⟩ := List.mem_map.mp hp
      exact wrote ▸ brief.lastPair?_of_mem formed vacant present

/-- A worker whose four operations are on one key. -/
def oneKey : Workload := { Workload.standard with workers := 1, keys := 1, operations := 4 }

/-- The operations of the worker at given moments. -/
def oneKeyAt (times : List Moment) : Schedule := times.zip (operations oneKey 0)

theorem keyAt_oneKey (cursor : UInt64) : keyAt oneKey cursor = "key-0" := by
  have one : cursor >>> 33 % oneKey.keys = 0 := UInt64.toNat_inj.mp (Nat.mod_one _)
  rw [keyAt, one]
  rfl

theorem fst_oneKeyAt {times : List Moment} (length : times.length = 4) :
    (oneKeyAt times).map Prod.fst = times :=
  List.map_fst_zip (by rw [length, operations, length_operationsFrom]; rfl)

theorem admissible_oneKeyAt (times : List Moment) (length : times.length = 4)
    (ordered : times.Pairwise (· ≤ ·)) : (oneKeyAt times).Admissible oneKey where
  interleaved := by
    have all : (oneKeyAt times).map Prod.snd = operations oneKey 0 :=
      List.map_snd_zip (by rw [length, operations, length_operationsFrom]; rfl)
    rw [allOperations_of_alone rfl, all]
    simpa using interleaving_flatten [operations oneKey 0]
  ordered := by rwa [fst_oneKeyAt length]

theorem mem_of_oneKeyAt {times : List Moment} (length : times.length = 4) {o : Moment × Operation}
    (ho : o ∈ oneKeyAt times) : o.1 ∈ times :=
  fst_oneKeyAt length ▸ List.mem_map_of_mem ho

/-- A second apart, both writes expire and no read is a hit. All at once, the second operation hits
what the first has written, and the fourth replaces it. -/
theorem outcome_of_oneKey :
    let s : Settings := ⟨.standard, oneKey⟩
    let second (n : UInt64) := Moment.origin.plus (.ofSeconds n)
    let apart := oneKeyAt [second 0, second 1, second 2, second 3]
    let atOnce := oneKeyAt [second 0, second 0, second 0, second 0]
    (run s apart (second 9)).stats.hits = 0 ∧ (run s apart (second 9)).stats.evictions = 2 ∧
      (∃ reply, ((start s).run (requests oneKey atOnce (second 9))).1[1]? = some (reply, []) ∧
        reply.isHit) ∧
      (run s atOnce (second 9)).stats.overwrites = 1 := by
  intro s second apart atOnce
  have late {times : List Moment} (length : times.length = 4)
      (ended : ∀ t ∈ times, t.nanos + oneKey.lifetime.nanos < (second 9).nanos) :
      ∀ last ∈ (oneKeyAt times).getLast?,
        last.1.nanos + oneKey.lifetime.nanos < (second 9).nanos :=
    fun last hl => ended last.1 (mem_of_oneKeyAt length (List.mem_of_getLast? hl))
  have spaced : apart.Spaced oneKey := by
    refine (List.isChain_map Prod.fst (R := fun a b : Moment =>
      a.nanos + (oneKey.lifetime.nanos : Int) < b.nanos)).mp ?_
    rw [fst_oneKeyAt rfl]
    decide
  have crowded : atOnce.Crowded oneKey := by
    intro first hf last hl
    have early : ∀ a ∈ [second 0, second 0, second 0, second 0],
        ∀ b ∈ [second 0, second 0, second 0, second 0],
          b.nanos < a.nanos + oneKey.lifetime.nanos := by decide
    exact early _ (mem_of_oneKeyAt rfl (List.mem_of_head? hf)) _
      (mem_of_oneKeyAt rfl (List.mem_of_getLast? hl))
  have keys : ((writes oneKey 4).map Prod.fst).dedup = ["key-0"] := by
    simp [writes, pairAt, keyAt_oneKey, List.range_succ]
  have one : apart.Admissible oneKey := admissible_oneKeyAt _ rfl (by decide)
  have other : atOnce.Admissible oneKey := admissible_oneKeyAt _ rfl (by decide)
  obtain ⟨outcome, -⟩ := single_worker_outcome (s := s) rfl one (late rfl (by decide))
  obtain ⟨missed, -, evicted, -⟩ := outcome spaced
  obtain ⟨-, outcome⟩ := single_worker_outcome (s := s) rfl other (late rfl (by decide))
  obtain ⟨replies, overwrites, -⟩ := outcome crowded
  obtain ⟨reply, answered, hits⟩ := replies 1 (by decide)
  have hit : reply.isHit := (hits (by decide)).mpr
    ⟨0, by decide, by decide, by rw [keyAt_oneKey, keyAt_oneKey]⟩
  have four : s.workload.operations.toNat = 4 := rfl
  rw [four] at evicted overwrites
  rw [keys, List.length_singleton] at overwrites
  refine ⟨missed, evicted, ⟨reply, answered, hit⟩, ?_⟩
  omega

end TimedCache.Soak
