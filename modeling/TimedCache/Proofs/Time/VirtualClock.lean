import Mathlib.Data.List.Induction
import TimedCache.Proofs.Time.Order
import TimedCache.Time.Move

/-!
# How far clocks move

A clock shows the distance that it has been moved, less whole turns of its word. So it goes forward as
long as the distance is less than one turn, and the advance that completes a turn sets it back.
-/
namespace TimedCache

namespace VirtualClock

variable {c : VirtualClock} {steps : List Span}

/-- How far an advance by a span moves a clock. -/
def travel (step : Span) : Nat := min step.nanos (UInt64.size - 1)

/-- How far advances move a clock in all. -/
def distance : List Span → Nat
  | [] => 0
  | step :: steps => travel step + distance steps

/-- The clock after advances in order. -/
def advanceAll (c : VirtualClock) (steps : List Span) : VirtualClock := steps.foldl advance c

@[simp] theorem distance_nil : distance [] = 0 := rfl

@[simp] theorem distance_cons (step : Span) (steps : List Span) :
    distance (step :: steps) = travel step + distance steps := rfl

@[simp] theorem distance_append (xs ys : List Span) :
    distance (xs ++ ys) = distance xs + distance ys := by
  induction xs with
  | nil => exact (Nat.zero_add _).symm
  | cons x xs ih => rw [List.cons_append, distance_cons, ih, distance_cons, Nat.add_assoc]

theorem advanceAll_append (c : VirtualClock) (xs ys : List Span) :
    c.advanceAll (xs ++ ys) = (c.advanceAll xs).advanceAll ys := List.foldl_append

theorem travel_lt (step : Span) : travel step < UInt64.size :=
  Nat.lt_of_le_of_lt (Nat.min_le_right _ _) (by decide)

theorem toNat_offset_advance (c : VirtualClock) (step : Span) :
    (c.advance step).offset.toNat = (c.offset.toNat + travel step) % UInt64.size := by
  have stride : (stride step).toNat = travel step := UInt64.toNat_ofNat_of_lt (travel_lt step)
  rw [advance, UInt64.toNat_add, stride]

theorem toNat_offset_advanceAll (c : VirtualClock) (steps : List Span) :
    (c.advanceAll steps).offset.toNat = (c.offset.toNat + distance steps) % UInt64.size := by
  induction steps generalizing c with
  | nil => exact (Nat.mod_eq_of_lt c.offset.toNat_lt).symm
  | cons step steps ih =>
    have rest := ih (c.advance step)
    rw [toNat_offset_advance, Nat.mod_add_mod, Nat.add_assoc] at rest
    exact rest

theorem le_iff_offset {c d : VirtualClock} :
    c.elapsed ≤ d.elapsed ∧ c.now ≤ d.now ↔ c.offset.toNat ≤ d.offset.toNat := by
  rw [Span.le_iff, Moment.le_iff]
  exact (and_congr_right fun _ => Int.ofNat_le).trans (and_self_iff)

/-- Advances by less than a turn set a clock back exactly if they complete one. -/
theorem offset_le_advanceAll_iff (short : distance steps < UInt64.size) :
    c.offset.toNat ≤ (c.advanceAll steps).offset.toNat ↔
      c.offset.toNat + distance steps < UInt64.size := by
  have before := c.offset.toNat_lt
  rw [toNat_offset_advanceAll]
  simp only [UInt64.size] at *
  omega

end VirtualClock

namespace SharedClock

open VirtualClock

variable {c : SharedClock} {m : Move} {ms : List Move}

/-- The span by which a move advances a clock, if it does; one through no handle does not. -/
def step? (c : SharedClock) : Move → Option Span
  | .advance handle step => if handle < c.handles then some step else none
  | .share => none

/-- The spans by which moves advance a clock. -/
def steps (c : SharedClock) : List Move → List Span
  | [] => []
  | m :: ms => (c.step? m).toList ++ (c.move m).steps ms

/-- No handle sees the clock go back in a move. -/
def ForwardIn (c : SharedClock) (m : Move) : Prop :=
  ∀ handle, ∀ u ∈ c.through? handle, ∀ v ∈ (c.move m).through? handle,
    u.elapsed ≤ v.elapsed ∧ u.now ≤ v.now

/-- No handle sees the clock go back in any of the moves. -/
def Forward (c : SharedClock) (ms : List Move) : Prop :=
  ∀ before m after, ms = before ++ m :: after → (c.moveAll before).ForwardIn m

/-! ### One move -/

theorem clock_move (c : SharedClock) (m : Move) :
    (c.move m).clock = c.clock.advanceAll (c.step? m).toList := by
  cases m with
  | advance handle step =>
    simp only [move, advance, step?]
    split <;> rfl
  | share => rfl

theorem handles_le_move (c : SharedClock) (m : Move) : c.handles ≤ (c.move m).handles := by
  cases m with
  | advance handle step =>
    simp only [move, advance]
    split <;> exact Nat.le_refl _
  | share => exact Nat.le_succ _

theorem distance_step?_lt (c : SharedClock) (m : Move) :
    distance (c.step? m).toList < UInt64.size := by
  cases c.step? m with
  | none => decide
  | some step => simpa using travel_lt step

theorem mem_through?_iff {handle : Nat} {u : VirtualClock} :
    u ∈ c.through? handle ↔ handle < c.handles ∧ u = c.clock := by
  simp [through?, eq_comm]

theorem forwardIn_iff (held : 0 < c.handles) :
    c.ForwardIn m ↔ c.clock.offset.toNat + distance (c.step? m).toList < UInt64.size := by
  rw [← offset_le_advanceAll_iff (c.distance_step?_lt m), ← clock_move, ← le_iff_offset]
  constructor
  · intro forward
    have still := Nat.lt_of_lt_of_le held (c.handles_le_move m)
    exact forward 0 _ (mem_through?_iff.mpr ⟨held, rfl⟩) _ (mem_through?_iff.mpr ⟨still, rfl⟩)
  · intro le handle u hu v hv
    rw [(mem_through?_iff.mp hu).2, (mem_through?_iff.mp hv).2]
    exact le

/-! ### Moves in order -/

theorem steps_append (c : SharedClock) (xs ys : List Move) :
    c.steps (xs ++ ys) = c.steps xs ++ (c.moveAll xs).steps ys := by
  induction xs generalizing c with
  | nil => rfl
  | cons m xs ih => simp only [List.cons_append, steps, ih, moveAll, List.foldl_cons,
      List.append_assoc]

theorem clock_moveAll (c : SharedClock) (ms : List Move) :
    (c.moveAll ms).clock = c.clock.advanceAll (c.steps ms) := by
  induction ms generalizing c with
  | nil => rfl
  | cons m ms ih =>
    rw [steps, advanceAll_append, ← clock_move]
    exact ih (c.move m)

theorem handles_le_moveAll (c : SharedClock) (ms : List Move) :
    c.handles ≤ (c.moveAll ms).handles := by
  induction ms generalizing c with
  | nil => exact Nat.le_refl _
  | cons m ms ih => exact Nat.le_trans (c.handles_le_move m) (ih (c.move m))

/-- What a shared clock shows after moves from its start. -/
theorem toNat_offset_moveAll_start (ms : List Move) :
    (start.moveAll ms).clock.offset.toNat = distance (start.steps ms) % UInt64.size := by
  rw [clock_moveAll, toNat_offset_advanceAll]
  exact congrArg (· % UInt64.size) (Nat.zero_add _)

/-- A clock never goes back exactly if it has not been moved a whole turn. -/
theorem forward_start_iff (ms : List Move) :
    start.Forward ms ↔ distance (start.steps ms) < UInt64.size := by
  have held (xs : List Move) : 0 < (start.moveAll xs).handles :=
    Nat.lt_of_lt_of_le Nat.one_pos (start.handles_le_moveAll xs)
  have reading (xs : List Move) := toNat_offset_moveAll_start xs
  constructor
  · intro forward
    induction ms using List.reverseRecOn with
    | nil => decide
    | append_singleton ms m ih =>
      have front : start.Forward ms := fun before k after split =>
        forward before k (after ++ [m]) (by simp [split])
      have last := (forwardIn_iff (held ms)).mp (forward ms m [] rfl)
      rw [reading, Nat.mod_eq_of_lt (ih front)] at last
      simpa [steps_append, steps] using last
  · rintro short before m after rfl
    simp only [steps_append, steps, distance_append] at short
    rw [forwardIn_iff (held before), reading, Nat.mod_eq_of_lt (by omega)]
    omega

end SharedClock
end TimedCache
