import Mathlib.Data.List.Forall2
import TimedCache.Proofs.Text.Decimal
import TimedCache.Settings.Source

/-!
# Variables asked for in order

Each setting asks for one variable. Settings that are read one after the other ask for their variables
in that order, up to and including the first that is set to no value of its kind.
-/
namespace TimedCache.Source

variable {α β : Type} {asked asked' : List String}

/-! ### Programs that may fail -/

section Run

variable {ε ε' : Type} {x : ExceptT ε (StateM (List String)) α}

theorem run_bind_of_ok {a : α} (h : x.run.run asked = (.ok a, asked'))
    (f : α → ExceptT ε (StateM (List String)) β) :
    (x >>= f).run.run asked = (f a).run.run asked' := by
  rw [ExceptT.run_bind, StateT.run_bind, h]
  rfl

theorem run_bind_of_error {e : ε} (h : x.run.run asked = (.error e, asked'))
    (f : α → ExceptT ε (StateM (List String)) β) :
    (x >>= f).run.run asked = (.error e, asked') := by
  rw [ExceptT.run_bind, StateT.run_bind, h]
  rfl

theorem run_adapt_of_ok {a : α} (h : x.run.run asked = (.ok a, asked')) (f : ε → ε') :
    (x.adapt f).run.run asked = (.ok a, asked') := by
  rw [ExceptT.run_adapt, StateT.run_map, h]
  rfl

theorem run_adapt_of_error {e : ε} (h : x.run.run asked = (.error e, asked')) (f : ε → ε') :
    (x.adapt f).run.run asked = (.error (f e), asked') := by
  rw [ExceptT.run_adapt, StateT.run_map, h]
  rfl

end Run

/-- What a program that reads settings comes to, and the names it has asked for after some others. -/
def answer (x : ExceptT SettingError (StateM (List String)) α) (asked : List String) :
    Except SettingError α × List String :=
  x.run.run asked

section Answer

variable {x : ExceptT SettingError (StateM (List String)) α}

@[simp] theorem answer_pure (a : α) : answer (pure a) asked = (.ok a, asked) := rfl

theorem answer_bind_of_ok {a : α} (h : answer x asked = (.ok a, asked'))
    (f : α → ExceptT SettingError (StateM (List String)) β) :
    answer (x >>= f) asked = answer (f a) asked' :=
  run_bind_of_ok h f

theorem answer_bind_of_error {e : SettingError} (h : answer x asked = (.error e, asked'))
    (f : α → ExceptT SettingError (StateM (List String)) β) :
    answer (x >>= f) asked = (.error e, asked') :=
  run_bind_of_error h f

theorem answer_map (f : α → β) :
    answer (f <$> x) asked = ((answer x asked).1.map f, (answer x asked).2) := by
  rw [map_eq_pure_bind]
  cases h : answer x asked with
  | mk result asked' =>
    cases result with
    | error e => exact answer_bind_of_error h _
    | ok a => exact answer_bind_of_ok h _

end Answer

/-! ### One variable -/

variable {environment : String → Option String} {name value : String} {default word : UInt64}

theorem answer_recording :
    answer (liftM (recording environment name)) asked = (.ok (environment name), asked ++ [name]) :=
  rfl

theorem answer_setting (ofChars? : List Char → Option α) (name : String) (default : α) :
    answer ((recording environment).setting ofChars? name default) asked =
      (match environment name with
        | none => .ok default
        | some value =>
          match ofChars? (trimBlanks value.toList) with
          | some a => .ok a
          | none => .error (.malformed name value),
        asked ++ [name]) := by
  refine (answer_bind_of_ok answer_recording _).trans ?_
  cases environment name with
  | none => rfl
  | some value =>
    simp only
    cases ofChars? (trimBlanks value.toList) <;> rfl

/-- The word that a setting stands for, which is its default unless the variable is set. -/
def Means (environment : String → Option String) (name : String) (default word : UInt64) : Prop :=
  match environment name with
  | none => word = default
  | some value => Spells value word

/-- A variable is set to a text that spells no word. -/
def Faulty (environment : String → Option String) (name value : String) : Prop :=
  environment name = some value ∧ ∀ word, ¬Spells value word

theorem faulty_iff : Faulty environment name value ↔
    environment name = some value ∧ Decimal.ofChars? (trimBlanks value.toList) = none := by
  simp only [Faulty, ← ofChars?_trimBlanks_eq_some_iff, Option.eq_none_iff_forall_ne_some, ne_eq]

theorem answer_word_of_means (h : Means environment name default word) :
    answer ((recording environment).word name default) asked = (.ok word, asked ++ [name]) := by
  refine (answer_setting Decimal.ofChars? name default).trans ?_
  unfold Means at h
  cases set : environment name with
  | none => simp_all
  | some value =>
    rw [set] at h
    simp [ofChars?_trimBlanks_eq_some_iff.mpr h]

theorem answer_word_of_faulty (h : Faulty environment name value) (default : UInt64) :
    answer ((recording environment).word name default) asked =
      (.error (.malformed name value), asked ++ [name]) := by
  refine (answer_setting Decimal.ofChars? name default).trans ?_
  obtain ⟨set, none⟩ := faulty_iff.mp h
  simp [set, none]

theorem exists_means (h : ¬∃ value, Faulty environment name value) (default : UInt64) :
    ∃ word, Means environment name default word := by
  unfold Means
  cases set : environment name with
  | none => exact ⟨default, rfl⟩
  | some value =>
    by_contra none
    exact h ⟨value, set, not_exists.mp none⟩

/-! ### Variables in a row -/

/-- Reads words in order, each with its name and its default. -/
def words {m : Type → Type} [Monad m] (source : Source m) (vs : List (String × UInt64)) :
    ExceptT SettingError m (List UInt64) :=
  vs.mapM fun v => source.word v.1 v.2

variable {before after : List (String × UInt64)} {ws : List UInt64}

theorem answer_words_of_means
    (h : List.Forall₂ (fun v w => Means environment v.1 v.2 w) before ws) (asked : List String) :
    answer (words (recording environment) before) asked =
      (.ok ws, asked ++ before.map Prod.fst) := by
  induction h generalizing asked with
  | nil => simp [words]
  | cons first rest ih =>
    rw [words, List.mapM_cons]
    refine (answer_bind_of_ok (answer_word_of_means first) _).trans ?_
    refine (answer_bind_of_ok (ih _) _).trans ?_
    simp

/-- The first faulty variable ends the reading. -/
theorem answer_words_of_faulty
    (h : List.Forall₂ (fun v w => Means environment v.1 v.2 w) before ws)
    (faulty : Faulty environment name value) (default : UInt64) (after : List (String × UInt64))
    (asked : List String) :
    answer (words (recording environment) (before ++ (name, default) :: after)) asked =
      (.error (.malformed name value), asked ++ before.map Prod.fst ++ [name]) := by
  rw [words, List.mapM_append, List.mapM_cons]
  refine (answer_bind_of_ok (answer_words_of_means h asked) _).trans ?_
  exact answer_bind_of_error (answer_bind_of_error (answer_word_of_faulty faulty default) _) _

theorem exists_means_forall₂ (h : ∀ v ∈ before, ¬∃ value, Faulty environment v.1 value) :
    ∃ ws, List.Forall₂ (fun v w => Means environment v.1 v.2 w) before ws := by
  induction before with
  | nil => exact ⟨[], .nil⟩
  | cons v before ih =>
    obtain ⟨w, first⟩ := exists_means (h v (by simp)) v.2
    obtain ⟨ws, rest⟩ := ih fun u hu => h u (by simp [hu])
    exact ⟨w :: ws, .cons first rest⟩

end TimedCache.Source
