import TimedCache.Proofs.Cache.Requests

/-!
# Where the pairs go

Each pair that is written leaves a cache in one way, if it leaves: a write to its key replaces it or
a sweep evicts it. The counts of a cache and the calls of its listeners follow from this.
-/
namespace TimedCache

variable {κ ν : Type}

/-- The pair that a request writes. -/
def Request.written? : Request κ ν → Option (κ × ν)
  | put key value _ => some (key, value)
  | _ => none

/-- The pairs that requests write. -/
def written (rs : List (Moment × Request κ ν)) : List (κ × ν) := rs.filterMap fun r => r.2.written?

theorem written_cons (r : Moment × Request κ ν) (rs : List (Moment × Request κ ν)) :
    written (r :: rs) = r.2.written?.toList ++ written rs := by
  rw [written, List.filterMap_cons]
  cases r.2.written? <;> rfl

theorem written_append (rs ss : List (Moment × Request κ ν)) :
    written (rs ++ ss) = written rs ++ written ss := List.filterMap_append

namespace Reply

def isHit : Reply ν → Bool
  | read outcome => outcome.isHit
  | _ => false

def isMiss : Reply ν → Bool
  | read outcome => outcome.isMiss
  | _ => false

/-- Whether this is the reply to a read that was not interrupted. -/
def isAnswer : Reply ν → Bool
  | read (.hit _) | read .miss => true
  | _ => false

theorem countP_isAnswer (replies : List (Reply ν × List (κ × ν))) :
    replies.countP (·.1.isAnswer) = replies.countP (·.1.isHit) + replies.countP (·.1.isMiss) := by
  induction replies with
  | nil => rfl
  | cons r replies ih =>
    obtain ⟨reply, evicted⟩ := r
    simp only [List.countP_cons, ih]
    cases reply with
    | read outcome =>
      cases outcome <;> simp [isAnswer, isHit, isMiss, Outcome.isHit, Outcome.isMiss] <;> omega
    | _ => rfl

end Reply

namespace Cache

variable [DecidableEq κ] [Hashable κ]

/-- The pair that a request replaces. -/
def replaced? (c : Cache κ ν) : Request κ ν → Option (κ × ν)
  | .put key _ _ => (c.lookup? key).map Entry.pair
  | _ => none

/-- The pairs that are replaced in a run. -/
def replaced (c : Cache κ ν) : List (Moment × Request κ ν) → List (κ × ν)
  | [] => []
  | (now, r) :: rs => (c.replaced? r).toList ++ (c.perform now r).cache.replaced rs

/-- The pairs that are evicted in a run. -/
def evicted (c : Cache κ ν) (rs : List (Moment × Request κ ν)) : List (κ × ν) :=
  (c.run rs).1.flatMap Prod.snd

/-- What the listener has heard more after a request than before. A registration makes no call. -/
def toldBy (c : Cache κ ν) (now : Moment) : Request κ ν → List (κ × ν)
  | .listen _ => []
  | r =>
    match c.listener, (c.perform now r).cache.listener with
    | some before, some after => after.heard.drop before.heard.length
    | _, _ => []

/-- The pairs that listeners are told in a run. -/
def told (c : Cache κ ν) : List (Moment × Request κ ν) → List (κ × ν)
  | [] => []
  | (now, r) :: rs => c.toldBy now r ++ (c.perform now r).cache.told rs

variable {c : Cache κ ν} {key : κ} {now : Moment} {e : Entry κ ν}

/-! ### One request -/

/-- The entry of a key and the entries of the others. -/
theorem WellFormed.contents_perm (h : c.WellFormed) (key : κ) :
    c.contents.Perm ((c.lookup? key).toList ++ c.contents.filter (·.key ≠ key)) := by
  cases found : c.lookup? key with
  | none =>
    have absent := h.lookup?_eq_none_iff.mp found
    rw [List.filter_eq_self.mpr (by simpa using absent)]
    exact .refl _
  | some e =>
    obtain ⟨present, rfl⟩ := h.lookup?_eq_some_iff.mp found
    obtain ⟨front, back, split⟩ := List.append_of_mem present
    have distinct := h.distinctKeys
    rw [split] at distinct ⊢
    rw [filter_key_ne distinct]
    exact List.perm_middle

theorem WellFormed.balance_put (h : c.WellFormed) (key : κ) (value : ν) (lifetime : Span)
    (now : Moment) :
    ((key, value) :: c.contents.map Entry.pair).Perm
      (((c.lookup? key).map Entry.pair).toList ++
        (c.put key value lifetime now).contents.map Entry.pair) := by
  have stored := Entry.insertInto_perm (.start key value lifetime now)
    (c.contents.filter (·.key ≠ key))
  have before := (h.contents_perm key).map Entry.pair
  have after := stored.map Entry.pair
  rw [List.map_append, ← Option.toList_map] at before
  rw [h.contents_put]
  exact (before.cons _).trans (List.perm_middle.symm.trans (after.symm.append_left _))

theorem WellFormed.balance_get (h : c.WellFormed) (key : κ) (now : Moment) :
    (c.contents.map Entry.pair).Perm
      ((c.get key now).evicted ++ (c.get key now).cache.contents.map Entry.pair) := by
  have swept := h.swept now
  rw [← swept.evicted_append h, evicted_get]
  refine List.Perm.append_left _ ?_
  obtain ⟨-, hc⟩ | ⟨-, -, hc⟩ | ⟨i, e, -, live, hc⟩ := c.get_cases key now
  · rw [hc]
  · rw [hc]
    exact .refl _
  · obtain ⟨-, contents⟩ := swept.wellFormed.touch_spec live
    rw [hc]
    show List.Perm _ (((c.sweep now).cache.touch i now).contents.map Entry.pair)
    rw [contents]
    split
    · have parts := (swept.wellFormed.contents_perm key).map Entry.pair
      rw [lookup?_of_live? live] at parts
      exact parts.trans ((Entry.insertInto_perm (e.renew now) _).map Entry.pair).symm
    · exact .refl _

/-- What is present and what is written is what is replaced, evicted or present afterwards. -/
theorem WellFormed.balance (h : c.WellFormed) (now : Moment) (r : Request κ ν) :
    (c.contents.map Entry.pair ++ r.written?.toList).Perm
      ((c.replaced? r).toList ++ (c.perform now r).evicted ++
        (c.perform now r).cache.contents.map Entry.pair) := by
  cases r with
  | put key value lifetime =>
    rw [replaced?, Cache.perform, List.append_nil]
    exact List.perm_append_comm.trans (h.balance_put key value lifetime now)
  | get key =>
    show (c.contents.map Entry.pair ++ []).Perm _
    rw [List.append_nil]
    exact h.balance_get key now
  | _ =>
    show (c.contents.map Entry.pair ++ []).Perm (c.contents.map Entry.pair)
    rw [List.append_nil]

theorem WellFormed.tally_perform (h : c.WellFormed) (now : Moment) (r : Request κ ν) :
    (c.perform now r).cache.tally =
      { hits := c.tally.hits + (c.perform now r).reply.isHit.toNat
        misses := c.tally.misses + (c.perform now r).reply.isMiss.toNat
        evictions := c.tally.evictions + (c.perform now r).evicted.length
        overwrites := c.tally.overwrites + (c.replaced? r).toList.length } := by
  cases r with
  | put key value lifetime =>
    show (c.put key value lifetime now).tally = _
    rw [h.tally_put, replaced?]
    cases c.lookup? key <;> rfl
  | get key => exact h.tally_get key now
  | _ => rfl

/-- Once there is a listener, it is told what is evicted. -/
theorem WellFormed.toldBy_eq (h : c.WellFormed) (listening : c.listener.isSome) (now : Moment)
    (r : Request κ ν) : c.toldBy now r = (c.perform now r).evicted := by
  obtain ⟨l, hl⟩ := Option.isSome_iff_exists.mp listening
  cases r with
  | put key value lifetime => simp [toldBy, Cache.perform, hl]
  | get key =>
    have heard : (c.sweep now).cache.listener = some (l.hearAll (c.sweep now).evicted) := by
      rw [(h.swept now).listener, hl, Option.map_some]
    simp [toldBy, Cache.perform, hl, heard, Listener.hearAll]
  | listen l => rfl
  | _ => simp [toldBy, Cache.perform, hl]

theorem WellFormed.listening (h : c.WellFormed) (listening : c.listener.isSome) (now : Moment)
    (r : Request κ ν) : (c.perform now r).cache.listener.isSome := by
  cases r with
  | put key value lifetime => simpa [Cache.perform] using listening
  | get key => simpa [Cache.perform, (h.swept now).listener] using listening
  | listen l => rfl
  | _ => exact listening

/-! ### Runs -/

theorem evicted_cons (c : Cache κ ν) (r : Moment × Request κ ν) (rs : List (Moment × Request κ ν)) :
    c.evicted (r :: rs) =
      (c.perform r.1 r.2).evicted ++ (c.perform r.1 r.2).cache.evicted rs := rfl

theorem evicted_append (c : Cache κ ν) (xs ys : List (Moment × Request κ ν)) :
    c.evicted (xs ++ ys) = c.evicted xs ++ (c.run xs).2.evicted ys := by
  rw [evicted, run_append, List.flatMap_append, evicted, evicted]

theorem replaced_append (c : Cache κ ν) (xs ys : List (Moment × Request κ ν)) :
    c.replaced (xs ++ ys) = c.replaced xs ++ (c.run xs).2.replaced ys := by
  induction xs generalizing c with
  | nil => rfl
  | cons x xs ih => rw [List.cons_append, replaced, replaced, run_cons, ih, List.append_assoc]

/-- What is present and what a run writes is what it replaces, what it evicts and what is present
afterwards. -/
theorem WellFormed.balance_run (h : c.WellFormed) (rs : List (Moment × Request κ ν)) :
    (c.contents.map Entry.pair ++ written rs).Perm
      (c.replaced rs ++ c.evicted rs ++ (c.run rs).2.contents.map Entry.pair) := by
  classical
  induction rs generalizing c with
  | nil => simp [written, replaced, evicted, Cache.run]
  | cons r rs ih =>
    have step := h.balance r.1 r.2
    have rest := ih (h.perform r.1 r.2)
    rw [written_cons, evicted_cons, run_cons, replaced]
    rw [List.perm_iff_count] at step rest ⊢
    intro p
    have step := step p
    have rest := rest p
    simp only [List.count_append] at step rest ⊢
    omega

theorem WellFormed.tally_run (h : c.WellFormed) (rs : List (Moment × Request κ ν)) :
    (c.run rs).2.tally =
      { hits := c.tally.hits + (c.run rs).1.countP (·.1.isHit)
        misses := c.tally.misses + (c.run rs).1.countP (·.1.isMiss)
        evictions := c.tally.evictions + (c.evicted rs).length
        overwrites := c.tally.overwrites + (c.replaced rs).length } := by
  induction rs generalizing c with
  | nil => rfl
  | cons r rs ih =>
    have step := h.tally_perform r.1 r.2
    rw [evicted_cons, run_cons, replaced, ih (h.perform r.1 r.2), step]
    ext
    · cases hit : (c.perform r.1 r.2).reply.isHit <;> simp [hit]
      omega
    · cases miss : (c.perform r.1 r.2).reply.isMiss <;> simp [miss]
      omega
    · simp only [List.length_append]
      omega
    · simp only [List.length_append]
      omega

/-- Once there is a listener, listeners are told what is evicted. -/
theorem WellFormed.told_eq (h : c.WellFormed) (listening : c.listener.isSome)
    (rs : List (Moment × Request κ ν)) : c.told rs = c.evicted rs := by
  induction rs generalizing c with
  | nil => rfl
  | cons r rs ih =>
    rw [told, evicted_cons, h.toldBy_eq listening, ih (h.perform r.1 r.2)]
    exact h.listening listening r.1 r.2

/-- In any run, each pair written is replaced, evicted or present at the end, and the counts of
overwrites and evictions say how many; each read that is answered is counted as a hit or as a miss,
and no other; and from any registration on, what listeners are told is what is evicted. -/
theorem run_accounts (refreshOnRead : Bool) (rs : List (Moment × Request κ ν)) :
    let start : Cache κ ν := empty refreshOnRead
    let (replies, c) := start.run rs
    (written rs).Perm
        (start.replaced rs ++ start.evicted rs ++ c.timeline.toList.map Entry.pair) ∧
      (written rs).length = c.tally.overwrites + c.tally.evictions + c.size ∧
      replies.countP (·.1.isAnswer) = c.tally.hits + c.tally.misses ∧
      replies.countP (·.1.isHit) = c.tally.hits ∧ replies.countP (·.1.isMiss) = c.tally.misses ∧
      ∀ before now l after, rs = before ++ (now, .listen l) :: after →
        let d := ((start.run before).2.listen l)
        d.told after = d.evicted after ∧
          c.tally.evictions = d.tally.evictions + (d.told after).length := by
  intro start
  have formed := wellFormed_empty (κ := κ) (ν := ν) refreshOnRead
  have balance := formed.balance_run rs
  have tally := formed.tally_run rs
  have hits := congrArg Tally.hits tally
  have misses := congrArg Tally.misses tally
  have evictions := congrArg Tally.evictions tally
  have overwrites := congrArg Tally.overwrites tally
  have zero : (empty refreshOnRead : Cache κ ν).tally = .zero := rfl
  simp only [zero, Tally.zero, Nat.zero_add] at hits misses evictions overwrites
  refine ⟨balance, ?_, ?_, hits.symm, misses.symm, ?_⟩
  · have size := (formed.run rs).size_eq
    have lengths := balance.length_eq
    simp only [contents_empty, List.map_nil, List.nil_append, List.length_append,
      List.length_map] at lengths
    rw [lengths, overwrites, evictions, size]
  · rw [Reply.countP_isAnswer, hits, misses]
  · rintro before now l after rfl
    have registered : ((start.run before).2.listen l).WellFormed :=
      (formed.run before).perform now (.listen l)
    have told := registered.told_eq rfl after
    refine ⟨told, ?_⟩
    rw [told, run_append]
    exact congrArg Tally.evictions (registered.tally_run after)

end Cache
end TimedCache
