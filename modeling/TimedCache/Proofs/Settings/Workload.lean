import TimedCache.Proofs.Settings.Source
import TimedCache.Settings.Workload

/-!
# What a workload is loaded from

The variables of a workload are read in a fixed order, and reading ends with the first that is set to
a text that spells no word. Only when all have been read does it count whether there are workers and
keys, so a faulty variable is reported rather than a lack of them, whichever comes first.
-/
namespace TimedCache.Workload

open Source

variable {w v : Workload} {environment : String → Option String} {name value : String}
  {before after asked asked' : List String}

/-! ### Workloads that are accepted -/

theorem check_eq_ok_iff : w.check = .ok v ↔ v = w ∧ w.workers ≠ 0 ∧ w.keys ≠ 0 := by
  unfold check
  split_ifs <;> simp_all [eq_comm]

theorem check_of_load {source : Source Id} (accepted : (load source).run = Except.ok w) :
    w.check = .ok w := by
  unfold load at accepted
  rw [ExceptT.run_bind] at accepted
  cases read : (Workload.read source).run with
  | error e =>
    rw [read] at accepted
    cases accepted
  | ok v =>
    rw [read] at accepted
    have checked : v.check = .ok w := accepted
    obtain ⟨rfl, -⟩ := check_eq_ok_iff.mp checked
    exact checked

/-! ### The variables in their order -/

/-- The variables in the order of reading, each with the field that it sets. -/
def fields : List (String × (Workload → UInt64)) :=
  [("SOAK_WORKERS", workers), ("SOAK_KEYS", keys), ("SOAK_OPS_PER_WORKER", operations),
   ("SOAK_TTL_MS", lifetimeMillis), ("SOAK_OP_INTERVAL_MS", pauseMillis)]

def names : List String := fields.map Prod.fst

/-- The variables with the standard values of their fields. -/
def defaults : List (String × UInt64) := fields.map fun f => (f.1, f.2 standard)

def values (w : Workload) : List UInt64 := fields.map fun f => f.2 w

theorem values_injective : Function.Injective values := by
  rintro ⟨⟩ ⟨⟩ h
  simpa [values, fields] using h

theorem exists_values_eq {ns : List UInt64} (h : ns.length = fields.length) :
    ∃ w, values w = ns := by
  match ns, h with
  | [workers, keys, operations, lifetimeMillis, pauseMillis], _ =>
    exact ⟨⟨workers, keys, operations, lifetimeMillis, pauseMillis⟩, rfl⟩

theorem map_fst_defaults : defaults.map Prod.fst = names := by
  simp [defaults, names]

theorem words_defaults {m : Type → Type} [Monad m] [LawfulMonad m] (source : Source m) :
    words source defaults = values <$> read source := by
  simp [words, defaults, values, fields, read, Need.variable]

/-- Each field is what its variable means. -/
def Fits (environment : String → Option String) (w : Workload) : Prop :=
  ∀ f ∈ fields, Means environment f.1 (f.2 standard) (f.2 w)

theorem forall₂_values_iff :
    List.Forall₂ (fun v n => Means environment v.1 v.2 n) defaults (values w) ↔
      w.Fits environment := by
  simp [defaults, values, Fits, List.forall₂_map_left_iff, List.forall₂_map_right_iff,
    List.forall₂_same]

theorem exists_fits (sound : ∀ name ∈ names, ¬∃ value, Faulty environment name value) :
    ∃ w : Workload, w.Fits environment := by
  obtain ⟨ns, means⟩ : ∃ ns, List.Forall₂ (fun v n => Means environment v.1 v.2 n) defaults ns :=
    exists_means_forall₂ fun v hv => sound v.1 (map_fst_defaults ▸ List.mem_map_of_mem hv)
  have counted : ns.length = fields.length :=
    means.length_eq.symm.trans (by simp only [defaults, List.length_map])
  obtain ⟨w, rfl⟩ := exists_values_eq counted
  exact ⟨w, forall₂_values_iff.mp means⟩

/-! ### Reading -/

/-- A workload is read as its values are read as words. -/
theorem answer_read_of_words {source : Source (StateM (List String))}
    {result : Except SettingError Workload}
    (h : answer (words source defaults) asked = (result.map values, asked')) :
    answer (read source) asked = (result, asked') := by
  rw [words_defaults, answer_map] at h
  obtain ⟨mapped, asks⟩ := Prod.mk.inj h
  refine Prod.ext ?_ asks
  cases found : (answer (read source) asked).1 <;> cases result <;>
    simp_all [Except.map, values_injective.eq_iff]

theorem answer_read_of_fits (h : w.Fits environment) :
    answer (read (recording environment)) asked = (.ok w, asked ++ names) := by
  refine answer_read_of_words ?_
  rw [answer_words_of_means (forall₂_values_iff.mpr h), map_fst_defaults]
  rfl

theorem answer_read_of_faulty (split : names = before ++ name :: after)
    (sound : ∀ n ∈ before, ¬∃ v, Faulty environment n v) (faulty : Faulty environment name value) :
    answer (read (recording environment)) asked =
      (.error (.malformed name value), asked ++ before ++ [name]) := by
  obtain ⟨bs, vs, cut, rfl, rest⟩ := List.map_eq_append_iff.mp (map_fst_defaults.trans split)
  obtain ⟨⟨_, default⟩, as, rfl, rfl, rfl⟩ := List.map_eq_cons_iff.mp rest
  obtain ⟨ns, means⟩ : ∃ ns, List.Forall₂ (fun v n => Means environment v.1 v.2 n) bs ns :=
    exists_means_forall₂ fun v hv => sound v.1 (List.mem_map_of_mem hv)
  refine answer_read_of_words ?_
  rw [cut, answer_words_of_faulty means faulty]
  rfl

theorem answer_load_of_fits (h : w.Fits environment) :
    answer (load (recording environment)) asked = (w.check, asked ++ names) :=
  answer_bind_of_ok (answer_read_of_fits h) _

theorem answer_load_of_faulty (split : names = before ++ name :: after)
    (sound : ∀ n ∈ before, ¬∃ v, Faulty environment n v) (faulty : Faulty environment name value) :
    answer (load (recording environment)) asked =
      (.error (.malformed name value), asked ++ before ++ [name]) :=
  answer_bind_of_error (answer_read_of_faulty split sound faulty) _

theorem exists_first_faulty (faulty : ∃ name ∈ names, ∃ value, Faulty environment name value) :
    ∃ before name after value, names = before ++ name :: after ∧
      (∀ n ∈ before, ¬∃ v, Faulty environment n v) ∧ Faulty environment name value := by
  classical
  let first := names.find? fun name => ∃ value, Faulty environment name value
  obtain ⟨name, found⟩ : ∃ name, first = some name := by
    simpa [first, ← Option.isSome_iff_exists] using faulty
  obtain ⟨⟨value, here⟩, before, after, split, sound⟩ := by
    simpa only [first, List.find?_eq_some_iff_append, decide_eq_true_eq, Bool.not_eq_true',
      decide_eq_false_iff_not] using found
  exact ⟨before, name, after, value, split, sound, here⟩

theorem fits_of_toString (h : ∀ f ∈ fields, environment f.1 = some (toString (f.2 w))) :
    w.Fits environment := by
  intro f hf
  rw [Means, h f hf]
  exact spells_toString _

/-- What loading a workload from an environment comes to, and the variables that it asks for. -/
def attempt (environment : String → Option String) : Except SettingError Workload × List String :=
  answer (load (recording environment)) []

/-- Loading a workload asks for the variables in order, up to and including the first that is set to a
text that spells no word, and reports that one as it was set. If there is none it asks for all of them,
each field is what its variable means, and then a workload without workers or else without keys is
rejected. In particular a faulty variable is reported even where workers or keys are lacking, exactly
the workloads that fit and lack neither are loaded, and each of these is loaded from the decimal
notation of its fields. -/
theorem load_first_fault (environment : String → Option String) :
    (∀ before name after value, names = before ++ name :: after →
      (∀ n ∈ before, ¬∃ v, Faulty environment n v) → Faulty environment name value →
        attempt environment = (.error (.malformed name value), before ++ [name])) ∧
    ((∀ name ∈ names, ¬∃ v, Faulty environment name v) → ∃ w : Workload, w.Fits environment ∧
      attempt environment = (if w.workers = 0 then .error (.lacking .workers)
        else if w.keys = 0 then .error (.lacking .keys) else .ok w, names)) ∧
    ((∃ name ∈ names, ∃ v, Faulty environment name v) →
      ∃ name value, (attempt environment).1 = .error (.malformed name value)) ∧
    (∀ w : Workload, (attempt environment).1 = .ok w ↔
      w.workers ≠ 0 ∧ w.keys ≠ 0 ∧ w.Fits environment) ∧
    (∀ w : Workload, w.workers ≠ 0 → w.keys ≠ 0 →
      (∀ f ∈ fields, environment f.1 = some (toString (f.2 w))) →
        attempt environment = (.ok w, names)) := by
  have malformed : (∃ name ∈ names, ∃ v, Faulty environment name v) →
      ∃ name value, (attempt environment).1 = .error (.malformed name value) := by
    intro faulty
    obtain ⟨before, name, after, value, split, sound, here⟩ := exists_first_faulty faulty
    exact ⟨name, value, congrArg Prod.fst (answer_load_of_faulty split sound here)⟩
  refine ⟨fun before name after value split sound faulty => ?_, fun sound => ?_, malformed,
    fun w => ⟨fun loaded => ?_, ?_⟩, fun w workers keys set => ?_⟩
  · exact answer_load_of_faulty split sound faulty
  · obtain ⟨w, fits⟩ := exists_fits sound
    exact ⟨w, fits, answer_load_of_fits fits⟩
  · have sound : ∀ name ∈ names, ¬∃ v, Faulty environment name v := by
      intro name named faulty
      obtain ⟨_, _, failed⟩ := malformed ⟨name, named, faulty⟩
      simp [loaded] at failed
    obtain ⟨v, fits⟩ := exists_fits sound
    have checked : v.check = .ok w := loaded ▸ (congrArg Prod.fst (answer_load_of_fits fits)).symm
    obtain ⟨rfl, workers, keys⟩ := check_eq_ok_iff.mp checked
    exact ⟨workers, keys, fits⟩
  · rintro ⟨workers, keys, fits⟩
    have checked : w.check = .ok w := check_eq_ok_iff.mpr ⟨rfl, workers, keys⟩
    exact checked ▸ congrArg Prod.fst (answer_load_of_fits fits)
  · have checked : w.check = .ok w := check_eq_ok_iff.mpr ⟨rfl, workers, keys⟩
    exact checked ▸ answer_load_of_fits (fits_of_toString set)

/-- The number of workers is a zero between blanks, and the lifetime is two numbers. -/
def twoLifetimes : String → Option String
  | "SOAK_WORKERS" => some "\t+00\u00a0"
  | "SOAK_TTL_MS" => some "5 0"
  | _ => none

/-- The lifetime is reported, and the pause is not asked for. -/
theorem load_of_twoLifetimes :
    Faulty twoLifetimes "SOAK_TTL_MS" "5 0" ∧
      attempt twoLifetimes =
        (.error (.malformed "SOAK_TTL_MS" "5 0"),
          ["SOAK_WORKERS", "SOAK_KEYS", "SOAK_OPS_PER_WORKER", "SOAK_TTL_MS"]) := by
  have faulty : Faulty twoLifetimes "SOAK_TTL_MS" "5 0" := faulty_iff.mpr (by decide)
  have sound : ∀ n ∈ ["SOAK_WORKERS", "SOAK_KEYS", "SOAK_OPS_PER_WORKER"],
      ¬∃ v, Faulty twoLifetimes n v := by
    have padded : Decimal.ofChars? (trimBlanks "\t+00\u00a0".toList) ≠ none := by decide
    simpa [faulty_iff, twoLifetimes] using padded
  obtain ⟨first, -⟩ := load_first_fault twoLifetimes
  exact ⟨faulty, first _ _ ["SOAK_OP_INTERVAL_MS"] _ rfl sound faulty⟩

end TimedCache.Workload
