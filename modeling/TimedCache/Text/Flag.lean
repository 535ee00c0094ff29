/-!
# Flags

A flag is one of four words for yes or one of four for no, in letters of either case. Only the
letters of the ASCII alphabet have two cases here.
-/
namespace TimedCache.Flag

def yes : List String := ["1", "true", "yes", "on"]
def no : List String := ["0", "false", "no", "off"]

def ofChars? (s : List Char) : Option Bool :=
  let word := String.ofList (s.map Char.toLower)
  if word ∈ yes then some true else if word ∈ no then some false else none

end TimedCache.Flag
