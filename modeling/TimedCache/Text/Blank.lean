import TimedCache.Text.CodeRange

/-!
# Blank characters

The characters with the Unicode property `White_Space`, and texts without them at both ends.
-/
namespace TimedCache

/-- The ranges of `White_Space`. -/
def blankRanges : List CodeRange :=
  [⟨0x9, 0xd⟩, ⟨0x20, 0x20⟩, ⟨0x85, 0x85⟩, ⟨0xa0, 0xa0⟩, ⟨0x1680, 0x1680⟩, ⟨0x2000, 0x200a⟩,
   ⟨0x2028, 0x2029⟩, ⟨0x202f, 0x202f⟩, ⟨0x205f, 0x205f⟩, ⟨0x3000, 0x3000⟩]

def isBlank (c : Char) : Bool := CodeRange.covers blankRanges c

/-- Drops the blank characters at both ends. -/
def trimBlanks (s : List Char) : List Char :=
  ((s.dropWhile isBlank).reverse.dropWhile isBlank).reverse

end TimedCache
