import TimedCache.Cache.Request
import TimedCache.Proofs.Cache.Sweep
import TimedCache.Proofs.Cache.Write

/-!
# Reads, requests and runs

A read ends in one of three ways: in its sweep, with a miss, or with a hit. Each keeps the cache
well-formed, as every other request does, and so does a run.
-/
namespace TimedCache

variable {κ ν : Type}

namespace Outcome

/-- The outcome of a read that was not interrupted, by the value that it found. -/
def ofValue? : Option ν → Outcome ν
  | some v => hit v
  | none => miss

def isHit : Outcome ν → Bool
  | hit _ => true
  | _ => false

def isMiss : Outcome ν → Bool
  | miss => true
  | _ => false

@[simp] theorem isHit_ofValue? (v : Option ν) : (ofValue? v).isHit = v.isSome := by
  cases v <;> rfl

@[simp] theorem isMiss_ofValue? (v : Option ν) : (ofValue? v).isMiss = v.isNone := by
  cases v <;> rfl

theorem ofValue?_ne_interrupted (v : Option ν) : ofValue? v ≠ interrupted := by
  cases v <;> simp [ofValue?]

theorem answer?_ofValue? [Inhabited ν] (v : Option ν) :
    (ofValue? v).answer? = some (v.getD default) := by
  cases v <;> rfl

end Outcome

namespace Cache

variable [DecidableEq κ] [Hashable κ]
variable {c : Cache κ ν} {key : κ} {now : Moment}

/-! ### Reads -/

/-- The cache after a hit on the entry in a slot. -/
def touch (c : Cache κ ν) (i : SlotId) (now : Moment) : Cache κ ν :=
  if c.refreshOnRead then c.renew i now else c

@[simp] theorem tally_touch (c : Cache κ ν) (i : SlotId) (now : Moment) :
    (c.touch i now).tally = c.tally := by
  unfold touch
  split <;> rfl

@[simp] theorem listener_touch (c : Cache κ ν) (i : SlotId) (now : Moment) :
    (c.touch i now).listener = c.listener := by
  unfold touch
  split <;> rfl

@[simp] theorem refreshOnRead_touch (c : Cache κ ν) (i : SlotId) (now : Moment) :
    (c.touch i now).refreshOnRead = c.refreshOnRead := by
  unfold touch
  split <;> rfl

/-- A hit changes the entries present only if it lets a lifetime begin anew. -/
theorem WellFormed.touch_spec (h : c.WellFormed) {i : SlotId} {e : Entry κ ν}
    (live : c.live? key now = some (i, e)) :
    (c.touch i now).WellFormed ∧
      (c.touch i now).contents =
        if c.refreshOnRead then (e.renew now).insertInto (c.contents.filter (·.key ≠ key))
        else c.contents := by
  unfold touch
  split
  · exact h.renew_spec live
  · exact ⟨h, rfl⟩

theorem WellFormed.lookup?_touch (h : c.WellFormed) {i : SlotId} {e : Entry κ ν}
    (live : c.live? key now = some (i, e)) (k : κ) :
    (c.touch i now).lookup? k =
      if c.refreshOnRead ∧ k = key then some (e.renew now) else c.lookup? k := by
  obtain ⟨formed, contents⟩ := h.touch_spec live
  have found := h.key_of_live? live
  by_cases refresh : c.refreshOnRead
  · rw [if_pos refresh] at contents
    by_cases hk : k = key
    · rw [if_pos ⟨refresh, hk⟩, formed.lookup?_eq_some_iff, contents, Entry.mem_insertInto]
      exact ⟨.inl rfl, by rw [hk, ← found]; rfl⟩
    · rw [if_neg fun both => hk both.2]
      refine h.lookup?_congr formed fun f hf => ?_
      have : f ≠ e.renew now := fun same => hk (by rw [← hf, same, ← found]; rfl)
      simp [contents, this, hf, hk]
  · rw [if_neg fun both => refresh both.1, touch, if_neg refresh]

/-- The three ways in which a read ends. -/
theorem get_cases (c : Cache κ ν) (key : κ) (now : Moment) :
    (c.sweep now).interrupted = true ∧
        c.get key now = ⟨(c.sweep now).cache, (c.sweep now).evicted, .interrupted⟩ ∨
      (c.sweep now).interrupted = false ∧ (c.sweep now).cache.live? key now = none ∧
        c.get key now = ⟨(c.sweep now).cache.record .miss, (c.sweep now).evicted, .miss⟩ ∨
      ∃ i e, (c.sweep now).interrupted = false ∧
        (c.sweep now).cache.live? key now = some (i, e) ∧
        c.get key now =
          ⟨((c.sweep now).cache.touch i now).record .hit, (c.sweep now).evicted, .hit e.value⟩ := by
  unfold get
  dsimp only
  cases interrupted : (c.sweep now).interrupted with
  | true => exact .inl ⟨rfl, if_pos rfl⟩
  | false =>
    rw [if_neg Bool.false_ne_true]
    cases live : (c.sweep now).cache.live? key now with
    | none => exact .inr (.inl ⟨rfl, rfl, rfl⟩)
    | some found => exact .inr (.inr ⟨found.1, found.2, rfl, rfl, rfl⟩)

/-- A read that is not interrupted ends with a miss or with a hit. -/
theorem get_cases_of_completed (key : κ) (completed : (c.sweep now).interrupted = false) :
    (c.sweep now).cache.live? key now = none ∧
        c.get key now = ⟨(c.sweep now).cache.record .miss, (c.sweep now).evicted, .miss⟩ ∨
      ∃ i e, (c.sweep now).cache.live? key now = some (i, e) ∧
        c.get key now =
          ⟨((c.sweep now).cache.touch i now).record .hit, (c.sweep now).evicted, .hit e.value⟩ := by
  obtain ⟨stop, -⟩ | ⟨-, miss⟩ | ⟨i, e, -, hit⟩ := c.get_cases key now
  · simp [completed] at stop
  · exact .inl miss
  · exact .inr ⟨i, e, hit⟩

@[simp] theorem evicted_get (c : Cache κ ν) (key : κ) (now : Moment) :
    (c.get key now).evicted = (c.sweep now).evicted := by
  obtain ⟨-, h⟩ | ⟨-, -, h⟩ | ⟨i, e, -, -, h⟩ := c.get_cases key now <;> rw [h]

@[simp] theorem listener_get (c : Cache κ ν) (key : κ) (now : Moment) :
    (c.get key now).cache.listener = (c.sweep now).cache.listener := by
  obtain ⟨-, h⟩ | ⟨-, -, h⟩ | ⟨i, e, -, -, h⟩ := c.get_cases key now <;> rw [h]
  · rfl
  · exact listener_touch ..

theorem WellFormed.get (h : c.WellFormed) (key : κ) (now : Moment) :
    (c.get key now).cache.WellFormed := by
  have swept := (h.swept now).wellFormed
  obtain ⟨-, h⟩ | ⟨-, -, h⟩ | ⟨i, e, -, live, h⟩ := c.get_cases key now <;> rw [h]
  · exact swept
  · exact swept.record .miss
  · exact (swept.touch_spec live).1.record .hit

/-- A read counts its evictions, and one hit or one miss if it is not interrupted. -/
theorem WellFormed.tally_get (h : c.WellFormed) (key : κ) (now : Moment) :
    (c.get key now).cache.tally =
      { hits := c.tally.hits + (c.get key now).outcome.isHit.toNat
        misses := c.tally.misses + (c.get key now).outcome.isMiss.toNat
        evictions := c.tally.evictions + (c.get key now).evicted.length
        overwrites := c.tally.overwrites } := by
  have swept := (h.swept now).tally
  obtain ⟨-, h⟩ | ⟨-, -, h⟩ | ⟨i, e, -, -, h⟩ := c.get_cases key now <;> rw [h]
  · exact swept
  · exact congrArg (·.record .miss) swept
  · exact congrArg (·.record .hit) ((tally_touch ..).trans swept)

/-- A read that is not interrupted finds what its key leads to, if that is live. -/
theorem WellFormed.outcome_get (h : c.WellFormed) (key : κ) {now : Moment}
    (completed : (c.sweep now).interrupted = false) :
    (c.get key now).outcome =
      .ofValue? (((c.lookup? key).filter fun e => e.LiveAt now).map Entry.value) := by
  have found : ((c.sweep now).cache.live? key now).map Prod.snd =
      (c.lookup? key).filter fun e => e.LiveAt now := by
    rw [map_snd_live?, (h.swept now).lookup?_of_completed h completed]
    ext e
    simp only [Option.filter_eq_some_iff, decide_eq_true_eq, and_assoc]
    refine and_congr_right fun _ => and_iff_right_of_imp fun live expired => ?_
    exact lt_asymm (show now < e.deadline from live) expired
  rw [← found]
  obtain ⟨live, h⟩ | ⟨i, e, live, h⟩ := get_cases_of_completed key completed
  · rw [h, live]
    rfl
  · rw [h, live]
    rfl

/-! ### Requests and runs -/

theorem wellFormed_empty (refreshOnRead : Bool) : (empty refreshOnRead : Cache κ ν).WellFormed := by
  refine ⟨[], ⟨.empty, .empty, List.Pairwise.nil, ?_, ?_⟩⟩
  · intro i held
    simp [empty] at held
  · intro k i
    simp [empty]

@[simp] theorem contents_empty (refreshOnRead : Bool) :
    (empty refreshOnRead : Cache κ ν).contents = [] := rfl

theorem WellFormed.perform (h : c.WellFormed) (now : Moment) (r : Request κ ν) :
    (c.perform now r).cache.WellFormed := by
  cases r with
  | put key value lifetime => exact h.put key value lifetime now
  | get key => exact h.get key now
  | listen l => exact h.imp fun _ along => along.congr rfl rfl
  | size | isEmpty | stats | refreshOnRead | describe => exact h

theorem WellFormed.run (h : c.WellFormed) (rs : List (Moment × Request κ ν)) :
    (c.run rs).2.WellFormed := by
  induction rs generalizing c with
  | nil => exact h
  | cons r rs ih => exact ih (h.perform r.1 r.2)

theorem run_cons (c : Cache κ ν) (r : Moment × Request κ ν) (rs : List (Moment × Request κ ν)) :
    c.run (r :: rs) =
      (((c.perform r.1 r.2).reply, (c.perform r.1 r.2).evicted) ::
        ((c.perform r.1 r.2).cache.run rs).1, ((c.perform r.1 r.2).cache.run rs).2) := rfl

theorem run_append (c : Cache κ ν) (xs ys : List (Moment × Request κ ν)) :
    c.run (xs ++ ys) = ((c.run xs).1 ++ ((c.run xs).2.run ys).1, ((c.run xs).2.run ys).2) := by
  induction xs generalizing c with
  | nil => rfl
  | cons x xs ih => simp only [List.cons_append, run_cons, ih]

theorem length_run (c : Cache κ ν) (rs : List (Moment × Request κ ν)) :
    (c.run rs).1.length = rs.length := by
  induction rs generalizing c with
  | nil => rfl
  | cons r rs ih => simp only [run_cons, List.length_cons, ih]

end Cache
end TimedCache
