import TimedCache.Proofs.Settings.Source
import TimedCache.Proofs.Text.Flag
import TimedCache.Soak.Settings

/-!
# What the settings of a cache are loaded from

The settings of a cache are one flag, read from one variable: it is on unless the variable is set, and
a variable that is set has to spell a flag. A soak run loads them before its workload, so it reports a
variable that spells none before it asks for any other.
-/
namespace TimedCache

open Source

variable {environment : String → Option String} {asked asked' : List String} {value : String}
  {b : Bool}

namespace CacheSettings

def refreshVariable : String := "TTL_CACHE_REFRESH_ON_READ"

theorem load_eq {m : Type → Type} [Monad m] [LawfulMonad m] (source : Source m) :
    load source = mk <$> source.setting Flag.ofChars? refreshVariable true := by
  rw [map_eq_pure_bind]
  rfl

/-- What loading the settings of a cache from an environment comes to, and the variables that it asks
for. -/
def attempt (environment : String → Option String) :
    Except SettingError CacheSettings × List String :=
  answer (load (recording environment)) []

theorem asked_attempt (environment : String → Option String) :
    (attempt environment).2 = [refreshVariable] := by
  rw [attempt, load_eq, answer_map, answer_setting]
  rfl

theorem attempt_of_unset (unset : environment refreshVariable = none) :
    attempt environment = (.ok ⟨true⟩, [refreshVariable]) := by
  rw [attempt, load_eq, answer_map, answer_setting, unset]
  rfl

theorem attempt_of_set (set : environment refreshVariable = some value) :
    attempt environment =
      (match Flag.ofChars? (trimBlanks value.toList) with
        | some b => .ok ⟨b⟩
        | none => .error (.malformed refreshVariable value),
        [refreshVariable]) := by
  rw [attempt, load_eq, answer_map, answer_setting, set]
  simp only
  cases Flag.ofChars? (trimBlanks value.toList) <;> rfl

theorem attempt_eq_ok_iff (set : environment refreshVariable = some value) :
    attempt environment = (.ok ⟨b⟩, [refreshVariable]) ↔ Flag.Spells value b := by
  rw [attempt_of_set set, ← Flag.ofChars?_trimBlanks_eq_some_iff]
  cases Flag.ofChars? (trimBlanks value.toList) <;> simp

theorem attempt_eq_error_iff (set : environment refreshVariable = some value) :
    attempt environment = (.error (.malformed refreshVariable value), [refreshVariable]) ↔
      ∀ b, ¬Flag.Spells value b := by
  simp only [attempt_of_set set, ← Flag.ofChars?_trimBlanks_eq_some_iff]
  cases Flag.ofChars? (trimBlanks value.toList) <;> simp

end CacheSettings

/-! ### Before the workload -/

namespace Soak.Settings

variable {c : CacheSettings} {e : SettingError}

/-- What loading the settings of a soak run from an environment comes to, and the variables that it
asks for. -/
def attempt (environment : String → Option String) : Except Failure Settings × List String :=
  (load (recording environment)).run.run []

theorem attempt_of_error (h : CacheSettings.attempt environment = (.error e, asked)) :
    attempt environment = (.error (.cache e), asked) :=
  run_bind_of_error (run_adapt_of_error h Failure.cache) _

section Workload

variable (h : CacheSettings.attempt environment = (.ok c, asked))

include h

theorem attempt_of_workload_error
    (h' : answer (Workload.load (recording environment)) asked = (.error e, asked')) :
    attempt environment = (.error (.workload e), asked') := by
  refine (run_bind_of_ok (run_adapt_of_ok h Failure.cache) _).trans ?_
  exact run_bind_of_error (run_adapt_of_error h' Failure.workload) _

theorem attempt_of_ok {w : Workload}
    (h' : answer (Workload.load (recording environment)) asked = (.ok w, asked')) :
    attempt environment = (.ok ⟨c, w⟩, asked') := by
  refine (run_bind_of_ok (run_adapt_of_ok h Failure.cache) _).trans ?_
  exact run_bind_of_ok (run_adapt_of_ok h' Failure.workload) _

end Workload

theorem attempt_eq_cache_error_iff :
    attempt environment = (.error (.cache e), asked) ↔
      CacheSettings.attempt environment = (.error e, asked) := by
  refine ⟨fun failed => ?_, attempt_of_error⟩
  cases loaded : CacheSettings.attempt environment with
  | mk result asked =>
    cases result with
    | error e' => simpa [attempt_of_error loaded] using failed
    | ok c =>
      -- What fails once the cache is loaded is the workload.
      cases loaded' : answer (Workload.load (recording environment)) asked with
      | mk result asked' =>
        cases result with
        | error e' => simp [attempt_of_workload_error loaded loaded'] at failed
        | ok w => simp [attempt_of_ok loaded loaded'] at failed

end Soak.Settings

namespace CacheSettings

/-- The cache is loaded with the flag on where the variable is not set. One that is set is loaded as
the flag that it spells, and reported as it was set if it spells none. So two texts that differ only
in the blanks around them and in the case of letters from A to Z are loaded alike, no text is both on
and off, and one that has, between those blanks, a blank or a character outside ASCII is reported. A
soak run fails with this error exactly if loading its cache does, and has then asked for no other
variable. -/
theorem loaded_iff_spelled (environment : String → Option String) :
    (environment refreshVariable = none →
      attempt environment = (.ok ⟨true⟩, [refreshVariable])) ∧
    (∀ value, environment refreshVariable = some value →
      (∀ b, attempt environment = (.ok ⟨b⟩, [refreshVariable]) ↔ Flag.Spells value b) ∧
      (attempt environment = (.error (.malformed refreshVariable value), [refreshVariable]) ↔
        ∀ b, ¬Flag.Spells value b)) ∧
    (∀ other value value', environment refreshVariable = some value →
      other refreshVariable = some value' → Flag.Alike value value' →
        ∀ s, attempt environment = (.ok s, [refreshVariable]) ↔
          attempt other = (.ok s, [refreshVariable])) ∧
    (∀ value, ¬(Flag.Spells value true ∧ Flag.Spells value false)) ∧
    (∀ value t c, environment refreshVariable = some value → Tight t → Padded t value.toList →
      c ∈ t → isBlank c ∨ 128 ≤ c.toNat →
        attempt environment = (.error (.malformed refreshVariable value), [refreshVariable])) ∧
    (∀ e, (attempt environment).1 = .error e ↔
      Soak.Settings.attempt environment = (.error (.cache e), [refreshVariable])) := by
  refine ⟨attempt_of_unset, fun value set => ⟨fun b => attempt_eq_ok_iff set,
    attempt_eq_error_iff set⟩, ?alike, ?apart, ?strange, ?soak⟩
  case alike =>
    rintro other value value' set set' alike ⟨b⟩
    rw [attempt_eq_ok_iff set, attempt_eq_ok_iff set', alike.spells_iff]
  case apart =>
    rintro value ⟨on, off⟩
    exact absurd (on.unique off) (by decide)
  case strange =>
    intro value t c set tight padded mem strange
    exact (attempt_eq_error_iff set).mpr fun b => Flag.not_spells_of_mem tight padded mem strange
  case soak =>
    intro e
    rw [Soak.Settings.attempt_eq_cache_error_iff, Prod.ext_iff, asked_attempt]
    simp

/-- The flag is set to a text, and the number of workers to no number. -/
def flagged (value : String) : String → Option String
  | "TTL_CACHE_REFRESH_ON_READ" => some value
  | "SOAK_WORKERS" => some "none"
  | _ => none

/-- The long s is no letter from A to Z, though its capital is one. -/
theorem loaded_of_flagged :
    attempt (fun _ => none) = (.ok ⟨true⟩, [refreshVariable]) ∧
    Flag.Alike "oFf\u3000" "\u0085\tOFf" ∧
    attempt (flagged "oFf\u3000") = (.ok ⟨false⟩, [refreshVariable]) ∧
    attempt (flagged "\u0085\tOFf") = (.ok ⟨false⟩, [refreshVariable]) ∧
    attempt (flagged " ye\u017f") =
      (.error (.malformed refreshVariable " ye\u017f"), [refreshVariable]) ∧
    Soak.Settings.attempt (flagged " ye\u017f") =
      (.error (.cache (.malformed refreshVariable " ye\u017f")), [refreshVariable]) := by
  obtain ⟨tight, padded⟩ : Tight "oFf".toList ∧ Padded "oFf".toList "oFf\u3000".toList :=
    trimBlanks_eq_iff.mp (by decide)
  obtain ⟨-, padded'⟩ : Tight "OFf".toList ∧ Padded "OFf".toList "\u0085\tOFf".toList :=
    trimBlanks_eq_iff.mp (by decide)
  have alike : Flag.Alike "oFf\u3000" "\u0085\tOFf" :=
    ⟨_, _, padded, padded', map_toLower_eq_iff.mp (by decide)⟩
  have spelled : Flag.Spells "oFf\u3000" false :=
    ⟨_, tight, padded, "off", by decide, by decide⟩
  obtain ⟨tight', padded'⟩ : Tight "ye\u017f".toList ∧
      Padded "ye\u017f".toList " ye\u017f".toList := trimBlanks_eq_iff.mp (by decide)
  obtain ⟨unset, -⟩ := loaded_iff_spelled fun _ => none
  obtain ⟨-, set, same, -⟩ := loaded_iff_spelled (flagged "oFf\u3000")
  have off := ((set _ rfl).1 false).mpr spelled
  have off' := (same (flagged "\u0085\tOFf") _ _ rfl rfl alike ⟨false⟩).mp off
  obtain ⟨-, -, -, -, strange, soak⟩ := loaded_iff_spelled (flagged " ye\u017f")
  have refused := strange _ _ '\u017f' rfl tight' padded' (by decide) (.inr (by decide))
  exact ⟨unset rfl, alike, off, off', refused, (soak _).mp (congrArg Prod.fst refused)⟩

end CacheSettings
end TimedCache
