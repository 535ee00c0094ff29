import TimedCache.Settings.Error
import TimedCache.Text.Blank
import TimedCache.Text.Decimal
import TimedCache.Text.Flag

/-!
# Settings from named variables

A setting is read from a variable with a name, and has a default where that is not set. Blanks
around a value do not count. Where the variables come from is a parameter, with its effects.
-/
namespace TimedCache

/-- How variables are looked up by name; one that is not set has no value. -/
abbrev Source (m : Type → Type) := String → m (Option String)

namespace Source

variable {m : Type → Type} [Monad m]

/-- The value of a variable, read from its text between the blanks around it. -/
def setting {α : Type} (source : Source m) (ofChars? : List Char → Option α) (name : String)
    (default : α) : ExceptT SettingError m α := do
  match ← source name with
  | none => return default
  | some value =>
    match ofChars? (trimBlanks value.toList) with
    | some a => return a
    | none => throw (.malformed name value)

def word (source : Source m) (name : String) (default : UInt64) : ExceptT SettingError m UInt64 :=
  source.setting Decimal.ofChars? name default

def flag (source : Source m) (name : String) (default : Bool) : ExceptT SettingError m Bool :=
  source.setting Flag.ofChars? name default

/-- Looks variables up in an environment and records their names in the order of asking. -/
def recording (environment : String → Option String) : Source (StateM (List String)) :=
  fun name => do
    modify (· ++ [name])
    return environment name

end Source
end TimedCache
