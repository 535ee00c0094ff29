import TimedCache.Proofs.Cache.Accounting
import TimedCache.Proofs.Cache.History

/-!
# Listeners of a run

While no other listener is registered, the one there is has heard what was evicted, in order. While
no listener is registered that fails, sweeps are not interrupted: each read is answered, and one for
which all entries have expired leaves none.
-/
namespace TimedCache

variable {κ ν : Type}

/-- A request leaves the listener in its place. -/
def Request.KeepsListener : Request κ ν → Prop
  | listen _ => False
  | _ => True

theorem Request.KeepsListener.unfailing {r : Request κ ν} (h : r.KeepsListener) : r.Unfailing := by
  cases r with
  | listen l => cases h
  | _ => trivial

def Request.isRead : Request κ ν → Bool
  | get _ => true
  | _ => false

namespace Cache

variable [DecidableEq κ] [Hashable κ]
variable {c : Cache κ ν} {now : Moment} {rs : List (Moment × Request κ ν)}

theorem WellFormed.listener_perform (h : c.WellFormed) (now : Moment) {r : Request κ ν}
    (keeps : r.KeepsListener) :
    (c.perform now r).cache.listener = c.listener.map (·.hearAll (c.perform now r).evicted) := by
  cases r with
  | put key value lifetime =>
    show (c.put key value lifetime now).listener = c.listener.map (·.hearAll [])
    rw [listener_put, map_hearAll_nil]
  | get key =>
    show (c.get key now).cache.listener = c.listener.map (·.hearAll (c.get key now).evicted)
    rw [listener_get, (h.swept now).listener, evicted_get]
  | listen l => cases keeps
  | _ => exact (map_hearAll_nil c.listener).symm

theorem WellFormed.listener_run (h : c.WellFormed) (keeps : ∀ r ∈ rs, r.2.KeepsListener) :
    (c.run rs).2.listener = c.listener.map (·.hearAll (c.evicted rs)) := by
  induction rs generalizing c with
  | nil => exact (map_hearAll_nil c.listener).symm
  | cons r rs ih =>
    obtain ⟨first, rest⟩ := List.forall_mem_cons.mp keeps
    rw [run_cons, evicted_cons, map_hearAll_append, ← h.listener_perform r.1 first]
    exact ih (h.perform r.1 r.2) rest

/-! ### Listeners that do not fail -/

/-- A listener that stays does not begin to fail. -/
theorem WellFormed.unfailing_perform (h : c.WellFormed) (unfailing : ∀ l ∈ c.listener, l.Unfailing)
    (now : Moment) {r : Request κ ν} (hr : r.Unfailing) :
    ∀ l ∈ (c.perform now r).cache.listener, l.Unfailing := by
  have stays (keeps : r.KeepsListener) : ∀ l ∈ (c.perform now r).cache.listener, l.Unfailing := by
    rw [h.listener_perform now keeps]
    exact unfailing_map_hearAll unfailing _
  cases r with
  | listen l =>
    intro k hk
    obtain rfl := Option.some.inj hk
    exact hr
  | _ => exact stays trivial

theorem WellFormed.unfailing_run (h : c.WellFormed) (unfailing : ∀ l ∈ c.listener, l.Unfailing)
    (hr : ∀ r ∈ rs, r.2.Unfailing) : ∀ l ∈ (c.run rs).2.listener, l.Unfailing := by
  induction rs generalizing c with
  | nil => exact unfailing
  | cons r rs ih =>
    obtain ⟨first, rest⟩ := List.forall_mem_cons.mp hr
    exact ih (h.perform r.1 r.2) (h.unfailing_perform unfailing r.1 first) rest

theorem unfailing_run_empty (refreshOnRead : Bool) (hr : ∀ r ∈ rs, r.2.Unfailing) :
    ∀ l ∈ ((empty refreshOnRead : Cache κ ν).run rs).2.listener, l.Unfailing :=
  (wellFormed_empty refreshOnRead).unfailing_run (fun _ none => by cases none) hr

/-- A sweep that is not interrupted leaves a right number noted. -/
theorem WellFormed.noted_sweep_of_completed (h : c.WellFormed)
    (completed : (c.sweep now).interrupted = false) (right : c.noted = c.size) :
    (c.sweep now).cache.noted = (c.sweep now).cache.size := by
  rw [noted_sweep, completed, Bool.false_or]
  split
  next none =>
    rw [right, (h.swept now).size_eq_of_evicted_eq_nil h (List.isEmpty_iff.mp none)]
  next => rfl

theorem WellFormed.noted_perform (h : c.WellFormed) (unfailing : ∀ l ∈ c.listener, l.Unfailing)
    (right : c.noted = c.size) (now : Moment) (r : Request κ ν) :
    (c.perform now r).cache.noted = (c.perform now r).cache.size := by
  cases r with
  | put key value lifetime => rfl
  | get key =>
    have completed := h.completed unfailing now
    have swept := h.noted_sweep_of_completed completed right
    show (c.get key now).cache.noted = (c.get key now).cache.size
    obtain ⟨-, hc⟩ | ⟨i, e, -, hc⟩ := get_cases_of_completed key completed
    · rw [hc]
      exact swept
    · rw [hc, touch]
      split <;> exact swept
  | _ => exact right

theorem WellFormed.noted_run (h : c.WellFormed) (unfailing : ∀ l ∈ c.listener, l.Unfailing)
    (right : c.noted = c.size) (hr : ∀ r ∈ rs, r.2.Unfailing) :
    (c.run rs).2.noted = (c.run rs).2.size := by
  induction rs generalizing c with
  | nil => exact right
  | cons r rs ih =>
    obtain ⟨first, rest⟩ := List.forall_mem_cons.mp hr
    exact ih (h.perform r.1 r.2) (h.unfailing_perform unfailing r.1 first)
      (h.noted_perform unfailing right r.1 r.2) rest

/-- The statistics kept are those given out, unless a listener fails. -/
theorem kept_run_empty (refreshOnRead : Bool) (hr : ∀ r ∈ rs, r.2.Unfailing) :
    let c := ((empty refreshOnRead : Cache κ ν).run rs).2
    c.kept = c.stats := by
  intro c
  have right : c.noted = c.size :=
    (wellFormed_empty refreshOnRead).noted_run (fun _ none => by cases none) rfl hr
  exact congrArg (Stats.mk c.tally) right

theorem WellFormed.isAnswer_perform (h : c.WellFormed) (unfailing : ∀ l ∈ c.listener, l.Unfailing)
    (now : Moment) (r : Request κ ν) : (c.perform now r).reply.isAnswer = r.isRead := by
  cases r with
  | get key =>
    show (Reply.read (c.get key now).outcome).isAnswer = true
    rw [h.outcome_get key (h.completed unfailing now)]
    cases ((c.lookup? key).filter fun e => e.LiveAt now).map Entry.value <;> rfl
  | _ => rfl

/-- Each read is answered. -/
theorem WellFormed.countP_isAnswer_run (h : c.WellFormed)
    (unfailing : ∀ l ∈ c.listener, l.Unfailing) (hr : ∀ r ∈ rs, r.2.Unfailing) :
    (c.run rs).1.countP (·.1.isAnswer) = rs.countP (·.2.isRead) := by
  induction rs generalizing c with
  | nil => rfl
  | cons r rs ih =>
    obtain ⟨first, rest⟩ := List.forall_mem_cons.mp hr
    rw [run_cons, List.countP_cons, List.countP_cons, h.isAnswer_perform unfailing,
      ih (h.perform r.1 r.2) (h.unfailing_perform unfailing r.1 first) rest]

/-- A read after all deadlines leaves no entries. -/
theorem WellFormed.contents_get_eq_nil (h : c.WellFormed)
    (unfailing : ∀ l ∈ c.listener, l.Unfailing) (expired : ∀ e ∈ c.contents, e.ExpiredAt now)
    (key : κ) : (c.get key now).cache.contents = [] := by
  have completed := h.completed unfailing now
  have none : (c.sweep now).cache.contents = [] := by
    rw [(h.swept now).contents_of_completed h completed]
    exact List.filter_eq_nil_iff.mpr (by simpa using expired)
  obtain ⟨-, hc⟩ | ⟨i, e, live, -⟩ := get_cases_of_completed key completed
  · rw [hc]
    exact none
  · have found := (h.swept now).wellFormed.lookup?_eq_some_iff.mp (lookup?_of_live? live)
    simp [none] at found

end Cache
end TimedCache
