import Mathlib.Data.List.Basic
import TimedCache.DeadlineMap

/-!
# Handing pairs to a listener

Pairs that are to leave are handed to the listener one after the other, until all are told or one
call fails. The pair of a call that fails leaves as well; the pairs behind it stay. Without a
listener all of them leave.
-/
namespace TimedCache

variable {κ ν : Type}

/-- The listener after calls with pairs in order. -/
def Listener.hearAll (l : Listener κ ν) (ps : List (κ × ν)) : Listener κ ν :=
  { l with heard := l.heard ++ ps }

/-- No call of the listener fails. -/
def Listener.Unfailing (l : Listener κ ν) : Prop := ∀ heard p, l.fails heard p = false

/-- Whether the listener, if there is one, fails with a pair. -/
def balks (l : Option (Listener κ ν)) (p : κ × ν) : Bool := l.any fun l => l.fails l.heard p

/-- Of pairs that are to leave, those that do. -/
def delivered (l : Option (Listener κ ν)) : List (κ × ν) → List (κ × ν)
  | [] => []
  | p :: ps => p :: if balks l p then [] else delivered (l.map (·.hear p)) ps

/-- Whether one of the calls fails. -/
def refuses (l : Option (Listener κ ν)) : List (κ × ν) → Bool
  | [] => false
  | p :: ps => balks l p || refuses (l.map (·.hear p)) ps

theorem map_hearAll_nil (l : Option (Listener κ ν)) : l.map (·.hearAll []) = l := by
  cases l <;> simp [Listener.hearAll]

theorem map_hearAll_cons (l : Option (Listener κ ν)) (p : κ × ν) (ps : List (κ × ν)) :
    l.map (·.hearAll (p :: ps)) = (l.map (·.hear p)).map (·.hearAll ps) := by
  cases l <;> simp [Listener.hearAll, Listener.hear]

theorem map_hearAll_append (l : Option (Listener κ ν)) (ps qs : List (κ × ν)) :
    l.map (·.hearAll (ps ++ qs)) = (l.map (·.hearAll ps)).map (·.hearAll qs) := by
  cases l <;> simp [Listener.hearAll]

/-- Calls do not make a listener fail that would not. -/
theorem unfailing_map_hearAll {l : Option (Listener κ ν)} (unfailing : ∀ k ∈ l, k.Unfailing)
    (ps : List (κ × ν)) : ∀ k ∈ l.map (·.hearAll ps), k.Unfailing := by
  intro k hk
  obtain ⟨j, hj, rfl⟩ := Option.map_eq_some_iff.mp hk
  exact unfailing j hj

theorem isPrefix_delivered (l : Option (Listener κ ν)) (ps : List (κ × ν)) : delivered l ps <+: ps := by
  induction ps generalizing l with
  | nil => exact List.prefix_refl []
  | cons p ps ih =>
    unfold delivered
    split
    · simp
    · exact List.cons_prefix_cons.mpr ⟨rfl, ih _⟩

theorem delivered_eq_self {l : Option (Listener κ ν)} {ps : List (κ × ν)}
    (h : refuses l ps = false) : delivered l ps = ps := by
  induction ps generalizing l with
  | nil => rfl
  | cons p ps ih =>
    obtain ⟨told, rest⟩ := Bool.or_eq_false_iff.mp h
    rw [delivered, told, ih rest]
    rfl

theorem refuses_eq_false {l : Option (Listener κ ν)} (h : ∀ k ∈ l, k.Unfailing)
    (ps : List (κ × ν)) : refuses l ps = false := by
  induction ps generalizing l with
  | nil => rfl
  | cons p ps ih =>
    cases l with
    | none => exact ih (by simp)
    | some l =>
      have unfailing : l.Unfailing := h l rfl
      have rest : refuses (some (l.hear p)) ps = false := by
        refine ih fun k hk => ?_
        obtain rfl := Option.some.inj hk
        exact unfailing
      simp [refuses, balks, unfailing l.heard p, rest]

/-- Calls with more pairs fail if one of the first fails, or one of those that follow. -/
theorem refuses_append (l : Option (Listener κ ν)) (ps qs : List (κ × ν)) :
    refuses l (ps ++ qs) = (refuses l ps || refuses (l.map (·.hearAll ps)) qs) := by
  induction ps generalizing l with
  | nil => rw [map_hearAll_nil, List.nil_append, refuses, Bool.false_or]
  | cons p ps ih => rw [List.cons_append, refuses, refuses, ih, map_hearAll_cons, Bool.or_assoc]

/-- The calls end with the first that fails. -/
theorem delivered_append_cons {l : Option (Listener κ ν)} {front : List (κ × ν)} {p : κ × ν}
    (takes : refuses l front = false) (fails : balks (l.map (·.hearAll front)) p = true)
    (back : List (κ × ν)) :
    delivered l (front ++ p :: back) = front ++ [p] ∧ refuses l (front ++ p :: back) = true := by
  induction front generalizing l with
  | nil =>
    rw [map_hearAll_nil] at fails
    simp [delivered, refuses, fails]
  | cons q front ih =>
    obtain ⟨first, rest⟩ := Bool.or_eq_false_iff.mp takes
    rw [map_hearAll_cons] at fails
    obtain ⟨told, failed⟩ := ih rest fails
    simp [delivered, refuses, first, told, failed]

/-- A listener is handed one entry as it hears one pair. -/
theorem DeadlineMap.handOut_some_cons (l : Listener κ ν) (e : Stamped κ ν) (es : List (Stamped κ ν)) :
    handOut (some l) (e :: es) =
      if l.fails l.heard e.pair then ([e], true, some (l.hear e.pair))
      else
        let rest := handOut (some (l.hear e.pair)) es
        (e :: rest.1, rest.2) := rfl

/-- What a deadline map hands out is what is delivered. -/
theorem DeadlineMap.handOut_eq (l : Option (Listener κ ν)) (es : List (Stamped κ ν)) :
    handOut l es =
      (es.take (delivered l (es.map (·.pair))).length, refuses l (es.map (·.pair)),
        l.map (·.hearAll (delivered l (es.map (·.pair))))) := by
  induction es generalizing l with
  | nil => cases l <;> simp [handOut, delivered, refuses, Listener.hearAll]
  | cons e es ih =>
    cases l with
    | none =>
      -- without a listener the hand-out does not recurse
      have rest := ih none
      rw [handOut, Prod.mk.injEq, Prod.mk.injEq] at rest
      rw [handOut, List.map_cons, delivered, refuses]
      simpa [balks] using rest
    | some l =>
      rw [handOut_some_cons, List.map_cons, delivered, refuses]
      by_cases fails : l.fails l.heard e.pair
      · simp [balks, fails, Listener.hearAll, Listener.hear]
      · have rest := ih (some (l.hear e.pair))
        rw [if_neg fails, rest]
        simp [balks, fails, Listener.hearAll, Listener.hear]

end TimedCache
