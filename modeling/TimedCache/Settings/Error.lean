import TimedCache.Text.Quoted

/-!
# Errors in settings

A setting is in error when its text is malformed, or when a workload lacks what it needs. The
message of a malformed one quotes the text as it was set.
-/
namespace TimedCache

/-- What a workload cannot do without. -/
inductive Need where
  | workers
  | keys
  deriving DecidableEq, Repr

/-- The variable that sets how much there is of what is needed. -/
def Need.variable : Need → String
  | workers => "SOAK_WORKERS"
  | keys => "SOAK_KEYS"

def Need.reason : Need → String
  | workers => "at least one worker is required"
  | keys => "the key space cannot be empty"

inductive SettingError where
  /-- A variable is set, but not to a value of its kind. -/
  | malformed (name value : String)
  /-- There is none of what is needed. -/
  | lacking (need : Need)
  deriving DecidableEq, Repr

def SettingError.message : SettingError → String
  | malformed name value => "Invalid value for " ++ name ++ ": " ++ Quoted.encode value
  | lacking need => "Out of range value for " ++ need.variable ++ ": " ++ need.reason

end TimedCache
