import TimedCache.Proofs.Time.Order

/-!
# Deadlines

A lifetime ends at the exact sum if that is on the line of moments, else a hundred years on, else at
once. So a deadline is never later than the exact sum, and earlier where that is off the line. The
hundred years end before sums that are on the line do, which is why a lifetime that is longer, or
that begins later, may end earlier.
-/
namespace TimedCache.Moment

variable {a b now : Moment} {s t lifetime : Span}

theorem isSome_add?_iff :
    (now.add? lifetime).isSome ↔ now.nanos + lifetime.nanos < 9223372036854775808000000000 := by
  rw [Option.isSome_iff_ne_none, ne_eq, add?_eq_none_iff, Int.not_le]

theorem deadline_of_add? (h : now.add? lifetime = some a) : now.deadline lifetime = a := by
  rw [deadline, h]
  rfl

theorem deadline_of_horizon (off : now.add? lifetime = none) (h : now.add? horizon = some a) :
    now.deadline lifetime = a := by
  rw [deadline, off, h]
  rfl

theorem deadline_eq_self (off : now.add? lifetime = none) (far : now.add? horizon = none) :
    now.deadline lifetime = now := by
  rw [deadline, off, far]
  rfl

/-- A deadline as a number, by which of the two sums are on the line. -/
theorem nanos_deadline (now : Moment) (lifetime : Span) :
    (now.deadline lifetime).nanos =
      if now.nanos + lifetime.nanos < 9223372036854775808000000000 then now.nanos + lifetime.nanos
      else if now.nanos + horizon.nanos < 9223372036854775808000000000 then
        now.nanos + horizon.nanos
      else now.nanos := by
  cases exact : now.add? lifetime with
  | some m =>
    have := m.upper
    have := add?_eq_some_iff.mp exact
    rw [deadline_of_add? exact]
    omega
  | none =>
    have := add?_eq_none_iff.mp exact
    cases far : now.add? horizon with
    | some m =>
      have := m.upper
      have := add?_eq_some_iff.mp far
      rw [deadline_of_horizon exact far]
      omega
    | none =>
      have := add?_eq_none_iff.mp far
      rw [deadline_eq_self exact far]
      omega

/-! ### One deadline -/

theorem le_deadline (now : Moment) (lifetime : Span) : now ≤ now.deadline lifetime := by
  have := nanos_deadline now lifetime
  rw [le_iff]
  omega

theorem nanos_deadline_le (now : Moment) (lifetime : Span) :
    (now.deadline lifetime).nanos ≤ now.nanos + lifetime.nanos := by
  have := nanos_deadline now lifetime
  omega

/-- The exact sum is reached only where it is on the line. -/
theorem nanos_deadline_eq_iff :
    (now.deadline lifetime).nanos = now.nanos + lifetime.nanos ↔ (now.add? lifetime).isSome := by
  have := nanos_deadline now lifetime
  have := (now.deadline lifetime).upper
  rw [isSome_add?_iff]
  omega

theorem lt_deadline_iff :
    now < now.deadline lifetime ↔
      .zero < lifetime ∧ ((now.add? lifetime).isSome ∨ (now.add? horizon).isSome) := by
  have zero : Span.zero.nanos = 0 := rfl
  have years : 0 < horizon.nanos := by decide
  have := nanos_deadline now lifetime
  rw [lt_iff, Span.lt_iff, isSome_add?_iff, isSome_add?_iff]
  omega

/-- A lifetime that is over before a moment ends before it. -/
theorem deadline_lt (h : a.nanos + lifetime.nanos < b.nanos) : a.deadline lifetime < b := by
  have := nanos_deadline_le a lifetime
  rw [lt_iff]
  omega

/-- A lifetime that begins anew before it is over is not over at once. -/
theorem lt_deadline_of_lt (earlier : a ≤ now) (live : now < a.deadline lifetime)
    (far : (now.add? horizon).isSome) : now < now.deadline lifetime := by
  refine lt_deadline_iff.mpr ⟨?_, .inr far⟩
  have zero : Span.zero.nanos = 0 := rfl
  have := nanos_deadline_le a lifetime
  rw [lt_iff] at live
  rw [le_iff] at earlier
  rw [Span.lt_iff]
  omega

/-! ### Two deadlines -/

/-- A lifetime whose exact sum is on the line ends no earlier than one that is no longer and begins
no later. -/
theorem deadline_le_deadline (later : a ≤ b) (longer : s ≤ t) (fits : (b.add? t).isSome) :
    a.deadline s ≤ b.deadline t := by
  have first := nanos_deadline_le a s
  have second := nanos_deadline_eq_iff.mpr fits
  rw [le_iff] at later ⊢
  rw [Span.le_iff] at longer
  omega

/-- Against a lifetime that ends at the horizon, one ends no later if it does so as well, or comes to
no more than that. -/
theorem deadline_le_horizon_iff (later : a ≤ b) (off : b.add? t = none)
    (far : (b.add? horizon).isSome) :
    a.deadline s ≤ b.deadline t ↔
      a.add? s = none ∨ a.nanos + s.nanos ≤ b.nanos + horizon.nanos := by
  have first := nanos_deadline a s
  have second := nanos_deadline b t
  simp only [isSome_add?_iff, add?_eq_none_iff, le_iff] at *
  omega

/-- Against a lifetime that ends at once, one ends no later if it is over by then. -/
theorem deadline_le_self_iff (later : a ≤ b) (off : b.add? t = none) (far : b.add? horizon = none) :
    a.deadline s ≤ b.deadline t ↔
      a.nanos + s.nanos ≤ b.nanos ∨
        a.add? s = none ∧ (a.add? horizon = none ∨ a.nanos + horizon.nanos ≤ b.nanos) := by
  have first := nanos_deadline a s
  rw [deadline_eq_self off far]
  simp only [add?_eq_none_iff, le_iff] at *
  have := b.upper
  omega

/-- A lifetime ends no earlier than one that is no longer and begins no later if its exact sum is on
the line. If that is off the line, so that the lifetime ends at the horizon, the other one has to end
there too or to come to no more than that; a lifetime within the horizon always does. If the horizon
is off the line as well, so that the lifetime ends at once, the other one has to be over by then. -/
theorem deadlines_ordered_iff (later : a ≤ b) (longer : s ≤ t) :
    ((b.add? t).isSome → a.deadline s ≤ b.deadline t) ∧
      (b.add? t = none → (b.add? horizon).isSome →
        (a.deadline s ≤ b.deadline t ↔
          a.add? s = none ∨ a.nanos + s.nanos ≤ b.nanos + horizon.nanos)) ∧
      (b.add? t = none → b.add? horizon = none →
        (a.deadline s ≤ b.deadline t ↔
          a.nanos + s.nanos ≤ b.nanos ∨
            a.add? s = none ∧ (a.add? horizon = none ∨ a.nanos + horizon.nanos ≤ b.nanos))) ∧
      (s ≤ horizon → (b.add? horizon).isSome → a.deadline s ≤ b.deadline t) := by
  refine ⟨deadline_le_deadline later longer, deadline_le_horizon_iff later,
    deadline_le_self_iff later, fun short far => ?_⟩
  cases exact : b.add? t with
  | some m => exact deadline_le_deadline later longer (by simp [exact])
  | none =>
    refine (deadline_le_horizon_iff later exact far).mpr (.inr ?_)
    rw [le_iff] at later
    rw [Span.le_iff] at short
    omega

/-- The longest whole number of seconds ends at the horizon: after fifty years, and before two hundred
years. -/
theorem deadlines_ordered_of_longest :
    let longest := Span.ofSeconds 18446744073709551615
    origin.deadline (.ofSeconds 1576800000) ≤ origin.deadline longest ∧
      ¬origin.deadline (.ofSeconds 6307200000) ≤ origin.deadline longest := by
  intro longest
  have off : origin.add? longest = none := by decide
  have far : (origin.add? horizon).isSome := by decide
  obtain ⟨-, -, -, short⟩ :=
    deadlines_ordered_iff (s := .ofSeconds 1576800000) (t := longest) (le_refl origin) (by decide)
  obtain ⟨-, apart, -⟩ :=
    deadlines_ordered_iff (s := .ofSeconds 6307200000) (t := longest) (le_refl origin) (by decide)
  exact ⟨short (by decide) far, fun ordered => absurd ((apart off far).mp ordered) (by decide)⟩

/-- Deadlines are not monotone. A longer lifetime may end earlier: two hundred years end after the
longest whole number of seconds. So may one that begins later: the largest number of seconds that is
on the line is off it when counted from one second on. -/
theorem deadline_not_monotone :
    let centuries := Span.ofSeconds 6307200000
    let longest := Span.ofSeconds 18446744073709551615
    let largest := Span.ofSeconds 9223372036854775807
    let second := origin.plus (.ofSeconds 1)
    (centuries ≤ longest ∧ origin.deadline longest < origin.deadline centuries) ∧
      (origin ≤ second ∧ second.deadline largest < origin.deadline largest) ∧
      ¬∀ (a b : Moment) (s t : Span), a ≤ b → s ≤ t → a.deadline s ≤ b.deadline t := by
  intro centuries longest largest second
  have longer : centuries ≤ longest ∧ origin.deadline longest < origin.deadline centuries := by
    decide
  have later : origin ≤ second ∧ second.deadline largest < origin.deadline largest := by decide
  refine ⟨longer, later, fun monotone => ?_⟩
  exact not_le.mpr longer.2 (monotone origin origin centuries longest (le_refl origin) longer.1)

end TimedCache.Moment
