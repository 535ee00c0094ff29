import TimedCache.Proofs.Cache.Requests
import TimedCache.Proofs.Timeline.Relocation

/-!
# Writing a key twice

A write leaves no trace of what was written under its key before, neither in the entries nor in the
links between them, except that it is counted as an overwrite.
-/
namespace TimedCache.Cache

variable {κ ν : Type} [DecidableEq κ] [Hashable κ]

theorem WellFormed.put_put {c : Cache κ ν} (h : c.WellFormed) (key : κ) (value₁ value₂ : ν)
    (lifetime₁ lifetime₂ : Span) (now₁ now₂ : Moment) :
    (c.put key value₁ lifetime₁ now₁).put key value₂ lifetime₂ now₂ =
      (c.put key value₂ lifetime₂ now₂).record .overwrite := by
  obtain ⟨is, h⟩ := h
  cases found : c.index[key]? with
  | some i => -- the slot is moved by both writes
    have on := ((h.indexed key i).mp found).1
    have moved := h.circle.relocate_relocate on
      (fun e => { e with value := value₁, lifetime := lifetime₁ }.renew now₁)
      (fun e => { e with value := value₂, lifetime := lifetime₂ }.renew now₂)
    simp only [Cache.put, found, Cache.record, Cache.note]
    rw [moved]
    rfl
  | none => -- the slot that the first write takes is moved by the second
    have moved := h.circle.relocate_store h.accounted (.start key value₁ lifetime₁ now₁)
      (fun e => { e with value := value₂, lifetime := lifetime₂ }.renew now₂)
    have indexed : (c.index.insert key c.timeline.spare)[key]? = some c.timeline.spare :=
      Std.ExtHashMap.getElem?_insert_self
    simp only [Cache.put, found, Timeline.store_fst, indexed, Cache.record, Cache.note]
    rw [moved]
    rfl

/-- After any run, a write that follows at once on a write of the same key leads to the state that it
leads to alone, whatever the two values, lifetimes and moments are, and whether the key was absent,
live or expired; one more overwrite is counted, and no listener is told anything. -/
theorem write_absorbs_write (refreshOnRead : Bool) (rs : List (Moment × Request κ ν)) (key : κ)
    (value₁ value₂ : ν) (lifetime₁ lifetime₂ : Span) (now₁ now₂ : Moment) :
    let c := ((empty refreshOnRead : Cache κ ν).run rs).2
    let twice := (c.put key value₁ lifetime₁ now₁).put key value₂ lifetime₂ now₂
    let once := c.put key value₂ lifetime₂ now₂
    twice = { once with
        tally := { once.tally with overwrites := once.tally.overwrites + 1 } } ∧
      twice.listener = c.listener ∧ once.listener = c.listener := by
  intro c twice once
  have formed : c.WellFormed := (wellFormed_empty refreshOnRead).run rs
  refine ⟨formed.put_put key value₁ value₂ lifetime₁ lifetime₂ now₁ now₂, ?_, ?_⟩
  · rw [listener_put, listener_put]
  · rw [listener_put]

end TimedCache.Cache
