import TimedCache.Proofs.Cache.Requests

/-!
# Reads and the history of a key

While moments do not go back and no listener fails, a sweep removes only what can never be live
again. So what a read finds follows from the requests with its own key before it: from the value
and the lifetime last written and from the moment at which that lifetime last began.
-/
namespace TimedCache

variable {κ ν : Type}

/-- What a history says about a key: the value and the lifetime last written, and when the lifetime
last began. -/
structure Timing (ν : Type) where
  value : ν
  lifetime : Span
  since : Moment
  deriving DecidableEq

def Timing.deadline (τ : Timing ν) : Moment := τ.since.deadline τ.lifetime

/-- The value that a read finds by the history of its key. -/
def foretold (τ : Option (Timing ν)) (now : Moment) : Option ν :=
  (τ.filter fun τ => now < τ.deadline).map Timing.value

/-- The entry of a key as its history says. -/
def Timing.entry (τ : Timing ν) (key : κ) : Entry κ ν := .start key τ.value τ.lifetime τ.since

/-- A request registers no listener that fails. -/
def Request.Unfailing : Request κ ν → Prop
  | listen l => l.Unfailing
  | _ => True

section Histories

variable [DecidableEq κ]

/-- What is said about a key after one more request with its reply. A hit lets the lifetime begin
anew if reads refresh. -/
def Timing.follow (refreshOnRead : Bool) (key : κ) (τ : Option (Timing ν)) (now : Moment)
    (r : Request κ ν) (reply : Reply ν) : Option (Timing ν) :=
  match r, reply with
  | .put k value lifetime, _ => if k = key then some ⟨value, lifetime, now⟩ else τ
  | .get k, .read (.hit _) =>
    if refreshOnRead ∧ k = key then τ.map fun τ => { τ with since := now } else τ
  | _, _ => τ

/-- What requests with their replies say about a key. -/
def Timing.ofHistory (refreshOnRead : Bool) (key : κ) (τ : Option (Timing ν))
    (history : List ((Moment × Request κ ν) × Reply ν × List (κ × ν))) : Option (Timing ν) :=
  history.foldl (fun τ x => follow refreshOnRead key τ x.1.1 x.1.2 x.2.1) τ

/-- Whether a request reads a key. -/
def Request.reads (key : κ) : Request κ ν → Bool
  | get k => k = key
  | _ => false

/-- Whether a request is about a key. -/
def Request.concerns (key : κ) : Request κ ν → Bool
  | put k _ _ => k = key
  | get k => k = key
  | _ => false

/-- The replies to the reads of a key. -/
def readsOf (key : κ) (history : List ((Moment × Request κ ν) × Reply ν × List (κ × ν))) :
    List (Reply ν) :=
  (history.filter fun x => x.1.2.reads key).map fun x => x.2.1

/-- The replies to the reads of a key, by what is said about the key and the requests that
follow. -/
def foretell (refreshOnRead : Bool) (key : κ) :
    Option (Timing ν) → List (Moment × Request κ ν) → List (Reply ν)
  | _, [] => []
  | τ, (now, r) :: rs =>
    let reply := .read (.ofValue? (foretold τ now))
    let later := foretell refreshOnRead key (Timing.follow refreshOnRead key τ now r reply) rs
    if r.reads key then reply :: later else later

variable {refreshOnRead : Bool} {key : κ} {τ : Option (Timing ν)}

theorem Timing.follow_of_not_concerns {r : Request κ ν} (h : r.concerns key = false) (now : Moment)
    (reply : Reply ν) : follow refreshOnRead key τ now r reply = τ := by
  cases r with
  | put k value lifetime => exact if_neg (of_decide_eq_false h)
  | get k =>
    have other : k ≠ key := of_decide_eq_false h
    cases reply with
    | read outcome => cases outcome <;> simp [follow, other]
    | _ => rfl
  | _ => rfl

/-- Requests that are not about the key do not matter. -/
theorem foretell_filter (rs : List (Moment × Request κ ν)) :
    foretell refreshOnRead key τ (rs.filter fun r => r.2.concerns key) =
      foretell refreshOnRead key τ rs := by
  induction rs generalizing τ with
  | nil => rfl
  | cons r rs ih =>
    obtain ⟨now, r⟩ := r
    rw [List.filter_cons]
    cases h : r.concerns key with
    | true => rw [if_pos rfl, foretell, foretell, ih]
    | false =>
      have other : r.reads key = false := by
        cases r with
        | get k => exact h
        | _ => rfl
      rw [if_neg Bool.false_ne_true, foretell, ih, Timing.follow_of_not_concerns h, other]
      rfl

end Histories

/-! ### What is found and what is said -/

/-- What a key leads to is what is said about it, except that it may be gone once its deadline is
before all moments to come. -/
def Agrees (found : Option (Entry κ ν)) (key : κ) (τ : Option (Timing ν)) (later : List Moment) :
    Prop :=
  found = τ.map (·.entry key) ∨
    found = none ∧ ∃ s, τ = some s ∧ ∀ t ∈ later, s.deadline < t

namespace Agrees

variable {found : Option (Entry κ ν)} {key : κ} {τ : Option (Timing ν)} {now : Moment}
variable {later : List Moment}

theorem tail (h : Agrees found key τ (now :: later)) : Agrees found key τ later := by
  obtain same | ⟨none, s, hs, past⟩ := h
  · exact .inl same
  · exact .inr ⟨none, s, hs, fun t ht => past t (List.mem_cons_of_mem now ht)⟩

/-- A sweep removes only what no later moment finds live. -/
theorem swept (h : Agrees found key τ (now :: later)) (forward : ∀ t ∈ later, now ≤ t) :
    Agrees (found.filter fun e => ¬e.ExpiredAt now) key τ later := by
  obtain rfl | ⟨rfl, s, hs, past⟩ := h
  · cases τ with
    | none => exact .inl rfl
    | some s =>
      by_cases expired : s.deadline < now
      · refine .inr ⟨?_, s, rfl, fun t ht => lt_of_lt_of_le expired (forward t ht)⟩
        have : (s.entry key).ExpiredAt now := expired
        simp [this]
      · refine .inl ?_
        have : ¬(s.entry key).ExpiredAt now := expired
        simp [this]
  · exact .inr ⟨rfl, s, hs, fun t ht => past t (List.mem_cons_of_mem now ht)⟩

theorem map_value (h : Agrees found key τ (now :: later)) :
    (found.filter fun e => e.LiveAt now).map Entry.value = foretold τ now := by
  obtain rfl | ⟨rfl, s, rfl, past⟩ := h
  · cases τ with
    | none => rfl
    | some s =>
      by_cases live : now < s.deadline
      · have : (s.entry key).LiveAt now := live
        simp only [foretold, Option.map_some, Option.filter_some, decide_eq_true this,
          decide_eq_true live, if_true]
        rfl
      · have : ¬(s.entry key).LiveAt now := live
        simp only [foretold, Option.map_some, Option.filter_some, decide_eq_false this,
          decide_eq_false live, Bool.false_eq_true, if_false, Option.map_none]
  · have := lt_asymm (past now List.mem_cons_self)
    simp only [foretold, Option.filter_some, decide_eq_false this, Bool.false_eq_true, if_false,
      Option.filter_none, Option.map_none]

theorem renew {e : Entry κ ν} (h : Agrees (some e) key τ later) (now : Moment) :
    Agrees (some (e.renew now)) key (τ.map fun s => { s with since := now }) later := by
  obtain same | ⟨none, -⟩ := h
  · obtain ⟨s, rfl, rfl⟩ := Option.map_eq_some_iff.mp same.symm
    exact .inl rfl
  · cases none

end Agrees

/-! ### Runs -/

namespace Cache

variable [DecidableEq κ] [Hashable κ]

/-- A cache without a failing listener that agrees with what is said about a key. -/
structure Tracks (c : Cache κ ν) (refreshOnRead : Bool) (key : κ) (τ : Option (Timing ν))
    (later : List Moment) : Prop where
  wellFormed : c.WellFormed
  refresh : c.refreshOnRead = refreshOnRead
  unfailing : ∀ l ∈ c.listener, l.Unfailing
  agrees : Agrees (c.lookup? key) key τ later

variable {c : Cache κ ν} {refreshOnRead : Bool} {key : κ} {τ : Option (Timing ν)} {now : Moment}
variable {later : List Moment}

theorem tracks_empty (refreshOnRead : Bool) (key : κ) (later : List Moment) :
    (empty refreshOnRead : Cache κ ν).Tracks refreshOnRead key none later where
  wellFormed := wellFormed_empty refreshOnRead
  refresh := rfl
  unfailing := fun _ none => by cases none
  agrees := .inl (by simp [lookup?, empty])

namespace Tracks

theorem completed (h : c.Tracks refreshOnRead key τ later) (now : Moment) :
    (c.sweep now).interrupted = false :=
  h.wellFormed.completed h.unfailing now

theorem sweep (h : c.Tracks refreshOnRead key τ (now :: later)) (forward : ∀ t ∈ later, now ≤ t) :
    (c.sweep now).cache.Tracks refreshOnRead key τ later := by
  have swept := h.wellFormed.swept now
  constructor
  · exact swept.wellFormed
  · exact swept.refreshOnRead.trans h.refresh
  · rw [swept.listener]
    exact unfailing_map_hearAll h.unfailing _
  · rw [swept.lookup?_of_completed h.wellFormed (h.completed now)]
    exact h.agrees.swept forward

theorem record (h : c.Tracks refreshOnRead key τ later) (event : Event) :
    (c.record event).Tracks refreshOnRead key τ later :=
  ⟨h.wellFormed.record event, h.refresh, h.unfailing, h.agrees⟩

theorem put (h : c.Tracks refreshOnRead key τ later) (k : κ) (value : ν) (lifetime : Span)
    (now : Moment) :
    (c.put k value lifetime now).Tracks refreshOnRead key
      (if k = key then some ⟨value, lifetime, now⟩ else τ) later := by
  constructor
  · exact h.wellFormed.put k value lifetime now
  · exact (refreshOnRead_put ..).trans h.refresh
  · rw [listener_put]
    exact h.unfailing
  · rw [h.wellFormed.lookup?_put]
    by_cases same : k = key
    · subst same
      rw [if_pos rfl, if_pos rfl]
      exact .inl rfl
    · rw [if_neg same, if_neg (Ne.symm same)]
      exact h.agrees

theorem touch (h : c.Tracks refreshOnRead key τ later) {k : κ} {i : SlotId} {e : Entry κ ν}
    (live : c.live? k now = some (i, e)) :
    (c.touch i now).Tracks refreshOnRead key
      (if refreshOnRead ∧ k = key then τ.map fun s => { s with since := now } else τ) later := by
  constructor
  · exact (h.wellFormed.touch_spec live).1
  · exact (refreshOnRead_touch ..).trans h.refresh
  · rw [listener_touch]
    exact h.unfailing
  · rw [h.wellFormed.lookup?_touch live, h.refresh]
    have agrees := h.agrees
    by_cases same : k = key
    · subst same
      rw [lookup?_of_live? live] at agrees ⊢
      split_ifs with refresh
      · exact agrees.renew now
      · exact agrees
    · rw [if_neg fun both => same both.2.symm, if_neg fun both => same both.2]
      exact agrees

/-- One request keeps a cache in agreement with what is said about a key. -/
theorem perform (h : c.Tracks refreshOnRead key τ (now :: later)) (forward : ∀ t ∈ later, now ≤ t)
    {r : Request κ ν} (hr : r.Unfailing) :
    (c.perform now r).cache.Tracks refreshOnRead key
      (Timing.follow refreshOnRead key τ now r (c.perform now r).reply) later := by
  have tail : c.Tracks refreshOnRead key τ later :=
    ⟨h.wellFormed, h.refresh, h.unfailing, h.agrees.tail⟩
  cases r with
  | put k value lifetime => exact tail.put k value lifetime now
  | get k =>
    have swept := h.sweep forward
    show (c.get k now).cache.Tracks refreshOnRead key
      (Timing.follow refreshOnRead key τ now (.get k) (.read (c.get k now).outcome)) later
    obtain ⟨-, hc⟩ | ⟨i, e, live, hc⟩ := get_cases_of_completed k (h.completed now)
    · rw [hc]
      exact swept.record .miss
    · rw [hc]
      exact (swept.touch live).record .hit
  | listen l =>
    refine ⟨h.wellFormed.perform now (.listen l), h.refresh, fun k hk => ?_, tail.agrees⟩
    obtain rfl := Option.some.inj hk
    exact hr
  | size | isEmpty | stats | refreshOnRead | describe => exact tail

/-- A read of the key finds what is foretold. -/
theorem outcome_get (h : c.Tracks refreshOnRead key τ (now :: later)) :
    (c.get key now).outcome = .ofValue? (foretold τ now) := by
  rw [h.wellFormed.outcome_get key (h.completed now), h.agrees.map_value]

/-- The reply to a request leads to what the reply foretold would. -/
theorem follow_reply (h : c.Tracks refreshOnRead key τ (now :: later)) (r : Request κ ν) :
    Timing.follow refreshOnRead key τ now r (c.perform now r).reply =
      Timing.follow refreshOnRead key τ now r (.read (.ofValue? (foretold τ now))) := by
  cases r with
  | get k =>
    by_cases same : k = key
    · subst same
      rw [← h.outcome_get]
      rfl
    · have other : (Request.get k : Request κ ν).concerns key = false := decide_eq_false same
      rw [Timing.follow_of_not_concerns other, Timing.follow_of_not_concerns other]
  | _ => rfl

/-- A run keeps a cache in agreement with what is said about a key. -/
theorem run {rs : List (Moment × Request κ ν)}
    (h : c.Tracks refreshOnRead key τ (rs.map Prod.fst ++ later))
    (forward : (rs.map Prod.fst ++ later).Pairwise (· ≤ ·))
    (unfailing : ∀ r ∈ rs, r.2.Unfailing) :
    (c.run rs).2.Tracks refreshOnRead key
      (Timing.ofHistory refreshOnRead key τ (rs.zip (c.run rs).1)) later := by
  induction rs generalizing c τ with
  | nil => exact h
  | cons r rs ih =>
    obtain ⟨first, forward⟩ := List.pairwise_cons.mp forward
    obtain ⟨hr, unfailing⟩ := List.forall_mem_cons.mp unfailing
    exact ih (h.perform first hr) forward unfailing

/-- The reads of the key in a run find what is foretold. -/
theorem readsOf_run {rs : List (Moment × Request κ ν)}
    (h : c.Tracks refreshOnRead key τ (rs.map Prod.fst))
    (forward : (rs.map Prod.fst).Pairwise (· ≤ ·)) (unfailing : ∀ r ∈ rs, r.2.Unfailing) :
    readsOf key (rs.zip (c.run rs).1) = foretell refreshOnRead key τ rs := by
  induction rs generalizing c τ with
  | nil => rfl
  | cons r rs ih =>
    obtain ⟨first, forward⟩ := List.pairwise_cons.mp forward
    obtain ⟨hr, unfailing⟩ := List.forall_mem_cons.mp unfailing
    have rest := ih (h.perform first hr) forward unfailing
    obtain ⟨now, r⟩ := r
    rw [h.follow_reply] at rest
    rw [run_cons, List.zip_cons_cons, foretell, ← rest, readsOf, List.filter_cons]
    cases reads : r.reads key with
    | false => rfl
    | true =>
      cases r with
      | get k =>
        obtain rfl : k = key := of_decide_eq_true reads
        rw [← h.outcome_get]
        rfl
      | _ => cases reads

end Tracks

/-- The reply to a request in a run. -/
theorem getElem?_run (c : Cache κ ν) (before : List (Moment × Request κ ν)) (now : Moment)
    (r : Request κ ν) (after : List (Moment × Request κ ν)) :
    (c.run (before ++ (now, r) :: after)).1[before.length]? =
      some (((c.run before).2.perform now r).reply, ((c.run before).2.perform now r).evicted) := by
  rw [run_append, run_cons, ← c.length_run before]
  dsimp only
  rw [List.getElem?_append_right (Nat.le_refl _), Nat.sub_self, List.getElem?_cons_zero]

/-- While moments do not go back and no listener fails, a read is a hit exactly if its key has been
written and its deadline is still to come, reckoned from the last write or, if reads refresh, from
the last hit after it. It answers the value last written, else the default, and is counted as a hit
or as a miss. Requests that are not about the key can be left out without changing this. -/
theorem read_eq_foretold [Inhabited ν] (refreshOnRead : Bool) {rs : List (Moment × Request κ ν)}
    (forward : (rs.map Prod.fst).Pairwise (· ≤ ·)) (unfailing : ∀ r ∈ rs, r.2.Unfailing)
    (key : κ) :
    (∀ before now after, rs = before ++ (now, .get key) :: after →
      let (replies, c) := (empty refreshOnRead : Cache κ ν).run before
      let said := Timing.ofHistory refreshOnRead key none (before.zip replies)
      let found := (said.filter fun τ => now < τ.since.deadline τ.lifetime).map Timing.value
      let outcome := Outcome.ofValue? found
      (((empty refreshOnRead : Cache κ ν).run rs).1[before.length]?).map Prod.fst =
          some (.read outcome) ∧
        outcome.answer? = some (found.getD default) ∧
        (c.get key now).cache.tally.hits = c.tally.hits + found.isSome.toNat ∧
        (c.get key now).cache.tally.misses = c.tally.misses + found.isNone.toNat) ∧
    ∀ kept : List (Moment × Request κ ν), kept.Sublist rs →
      (kept.filter fun r => r.2.concerns key) = (rs.filter fun r => r.2.concerns key) →
      readsOf key (kept.zip ((empty refreshOnRead : Cache κ ν).run kept).1) =
        readsOf key (rs.zip ((empty refreshOnRead : Cache κ ν).run rs).1) := by
  constructor
  · rintro before now after rfl
    rw [List.map_append, List.map_cons] at forward
    have tracks := (tracks_empty refreshOnRead key _).run forward fun r hr =>
      unfailing r (List.mem_append_left _ hr)
    have tally := tracks.wellFormed.tally_get key now
    rw [tracks.outcome_get, Outcome.isHit_ofValue?, Outcome.isMiss_ofValue?] at tally
    refine ⟨?_, Outcome.answer?_ofValue? _, congrArg Tally.hits tally, congrArg Tally.misses tally⟩
    rw [getElem?_run, Option.map_some]
    exact congrArg (fun o => some (Reply.read o)) tracks.outcome_get
  · intro kept sub same
    have forward' := forward.sublist (sub.map Prod.fst)
    have unfailing' : ∀ r ∈ kept, r.2.Unfailing := fun r hr => unfailing r (sub.mem hr)
    rw [(tracks_empty refreshOnRead key _).readsOf_run forward' unfailing',
      (tracks_empty refreshOnRead key _).readsOf_run forward unfailing, ← foretell_filter, same,
      foretell_filter]

/-- Two keys are written, then each is read. -/
def twoKeys : List (Moment × Request Nat Nat) :=
  [(.origin, .put 1 10 (.ofSeconds 2)), (.origin, .put 2 20 .zero),
    (Moment.origin.plus (.ofSeconds 1), .get 1), (Moment.origin.plus (.ofSeconds 1), .get 2)]

theorem read_of_two_keys :
    (((empty false : Cache Nat Nat).run twoKeys).1[2]?).map Prod.fst = some (.read (.hit 10)) ∧
      let kept := twoKeys.filter fun r => r.2.concerns 2
      readsOf 2 (kept.zip ((empty false : Cache Nat Nat).run kept).1) =
        readsOf 2 (twoKeys.zip ((empty false : Cache Nat Nat).run twoKeys).1) := by
  have forward : (twoKeys.map Prod.fst).Pairwise (· ≤ ·) := by decide
  have unfailing : ∀ r ∈ twoKeys, r.2.Unfailing := by simp [twoKeys, Request.Unfailing]
  constructor
  · exact ((read_eq_foretold false forward unfailing 1).1 (twoKeys.take 2) _ _ rfl).1
  · exact (read_eq_foretold false forward unfailing 2).2 _ List.filter_sublist (by simp)

end Cache
end TimedCache
