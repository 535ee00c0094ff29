import TimedCache.Time.Moment

/-!
# Cache entries

An entry holds a key and a value with the lifetime last given to it and the deadline that followed.
It is live strictly before its deadline and expired strictly after it; at the deadline it is
neither.
-/
namespace TimedCache

@[ext] structure Entry (κ ν : Type) where
  key : κ
  value : ν
  lifetime : Span
  deadline : Moment
  deriving DecidableEq

namespace Entry

variable {κ ν : Type}

/-- An entry whose lifetime begins now. -/
def start (key : κ) (value : ν) (lifetime : Span) (now : Moment) : Entry κ ν :=
  ⟨key, value, lifetime, now.deadline lifetime⟩

/-- Lets the lifetime begin anew. -/
def renew (e : Entry κ ν) (now : Moment) : Entry κ ν :=
  { e with deadline := now.deadline e.lifetime }

def ExpiredAt (e : Entry κ ν) (now : Moment) : Prop := e.deadline < now
def LiveAt (e : Entry κ ν) (now : Moment) : Prop := now < e.deadline

instance (e : Entry κ ν) (now : Moment) : Decidable (e.ExpiredAt now) :=
  inferInstanceAs (Decidable (e.deadline < now))
instance (e : Entry κ ν) (now : Moment) : Decidable (e.LiveAt now) :=
  inferInstanceAs (Decidable (now < e.deadline))

/-- What an entry hands over when it leaves: its key and its value. -/
def pair (e : Entry κ ν) : κ × ν := (e.key, e.value)

end Entry
end TimedCache
