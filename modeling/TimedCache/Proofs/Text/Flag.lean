import Mathlib.Data.List.Forall2
import TimedCache.Proofs.Text.Blank
import TimedCache.Text.Flag

/-!
# Spellings of a flag

A text spells a flag if what it has between blanks is in lower case one of the words for it. Blanks
around a text and the case of its letters from A to Z do not count, so two texts that differ in
nothing else spell the same. The words consist of ASCII characters that are no blanks, and these are
the lower case of such characters only.
-/
namespace TimedCache

variable {c d : Char} {s t : List Char}

/-! ### The case of a letter -/

/-- A letter from A to Z and the same letter in lower case. -/
def CaseOf (upper lower : Char) : Prop :=
  'A' ≤ upper ∧ upper ≤ 'Z' ∧ lower.toNat = upper.toNat + 32

/-- The same character, except that a letter from A to Z may stand in the other case. -/
def SameButCase (c d : Char) : Prop := c = d ∨ CaseOf c d ∨ CaseOf d c

theorem caseOf_iff : CaseOf c d ↔ 65 ≤ c.toNat ∧ c.toNat ≤ 90 ∧ d.toNat = c.toNat + 32 := by
  simp [CaseOf, Char.le_def, UInt32.le_iff_toNat_le]

theorem toNat_toLower (c : Char) :
    c.toLower.toNat = if 65 ≤ c.toNat ∧ c.toNat ≤ 90 then c.toNat + 32 else c.toNat := by
  unfold Char.toLower
  split <;> grind [UInt32.toNat_add, UInt32.le_iff_toNat_le, Char.toNat_val, Char.toNat_mk]

theorem sameButCase_iff : SameButCase c d ↔ c.toLower = d.toLower := by
  simp only [SameButCase, caseOf_iff, ← Char.toNat_inj, toNat_toLower]
  grind

theorem map_toLower_eq_iff :
    s.map Char.toLower = t.map Char.toLower ↔ List.Forall₂ SameButCase s t := by
  have same : SameButCase = fun c d => c.toLower = d.toLower := by
    funext c d
    exact propext sameButCase_iff
  rw [same, ← List.forall₂_eq_eq_eq, List.forall₂_map_left_iff, List.forall₂_map_right_iff]

/-- No letter from A to Z is a blank, in either case. -/
theorem isBlank_toLower (c : Char) : isBlank c.toLower = isBlank c := by
  simp only [isBlank, blankRanges, CodeRange.covers, List.any_cons, List.any_nil, toNat_toLower]
  grind

/-! ### The words for a flag -/

namespace Flag

variable {b : Bool} {value value' : String}

def words : Bool → List String
  | true => ["1", "true", "yes", "on"]
  | false => ["0", "false", "no", "off"]

theorem plain_of_mem_words {word : String} (h : word ∈ words b) :
    ∀ c ∈ word.toList, ¬isBlank c ∧ c.toNat < 128 := by
  have plain : ∀ b, (words b).all fun word => word.toList.all fun c =>
      !isBlank c && c.toNat < 128 := by decide
  intro c hc
  simpa using List.all_eq_true.mp (List.all_eq_true.mp (plain b) word h) c hc

theorem ofChars?_eq_some_iff :
    ofChars? s = some b ↔ ∃ word ∈ words b, s.map Char.toLower = word.toList := by
  have found : ofChars? s = some b ↔ String.ofList (s.map Char.toLower) ∈ words b := by
    unfold ofChars?
    cases b <;> grind [words, yes, no]
  rw [found]
  constructor
  · intro mem
    exact ⟨_, mem, String.toList_ofList.symm⟩
  · rintro ⟨word, mem, lower⟩
    rwa [lower, String.ofList_toList]

/-- A text spells a flag if, between blanks and in lower case, it is one of the words for it. -/
def Spells (value : String) (b : Bool) : Prop :=
  ∃ t, Tight t ∧ Padded t value.toList ∧ ∃ word ∈ words b, t.map Char.toLower = word.toList

theorem ofChars?_trimBlanks_eq_some_iff :
    ofChars? (trimBlanks value.toList) = some b ↔ Spells value b := by
  constructor
  · intro h
    exact ⟨_, tight_trimBlanks _, padded_trimBlanks _, ofChars?_eq_some_iff.mp h⟩
  · rintro ⟨t, tight, padded, spelled⟩
    rw [trimBlanks_of_padded tight padded]
    exact ofChars?_eq_some_iff.mpr spelled

theorem Spells.unique {b' : Bool} (h : Spells value b) (h' : Spells value b') : b = b' := by
  rw [← ofChars?_trimBlanks_eq_some_iff] at h h'
  exact Option.some.inj (h.symm.trans h')

/-- Between blanks, two texts are the same but for the case of letters from A to Z. -/
def Alike (value value' : String) : Prop :=
  ∃ t t', Padded t value.toList ∧ Padded t' value'.toList ∧ List.Forall₂ SameButCase t t'

theorem Alike.map_trimBlanks_eq (h : Alike value value') :
    (trimBlanks value.toList).map Char.toLower = (trimBlanks value'.toList).map Char.toLower := by
  obtain ⟨t, t', padded, padded', same⟩ := h
  calc (trimBlanks value.toList).map Char.toLower
    _ = trimBlanks (t.map Char.toLower) := by
      rw [padded.trimBlanks_eq, trimBlanks_map isBlank_toLower]
    _ = trimBlanks (t'.map Char.toLower) := congrArg _ (map_toLower_eq_iff.mpr same)
    _ = (trimBlanks value'.toList).map Char.toLower := by
      rw [padded'.trimBlanks_eq, trimBlanks_map isBlank_toLower]

theorem Alike.spells_iff (h : Alike value value') : Spells value b ↔ Spells value' b := by
  simp only [← ofChars?_trimBlanks_eq_some_iff, ofChars?_eq_some_iff, h.map_trimBlanks_eq]

/-- No word has a blank between its characters or a character outside ASCII. -/
theorem not_spells_of_mem (tight : Tight t) (padded : Padded t value.toList) (mem : c ∈ t)
    (strange : isBlank c ∨ 128 ≤ c.toNat) : ¬Spells value b := by
  rw [← ofChars?_trimBlanks_eq_some_iff, trimBlanks_of_padded tight padded, ofChars?_eq_some_iff]
  rintro ⟨word, mem_words, lower⟩
  have mem_word : c.toLower ∈ word.toList := lower ▸ List.mem_map_of_mem mem
  obtain ⟨seen, small⟩ := plain_of_mem_words mem_words _ mem_word
  -- Neither a blank nor a character outside ASCII has another lower case than itself.
  obtain blank | foreign := strange
  · exact seen ((isBlank_toLower c).trans blank)
  · rw [toNat_toLower, if_neg (by omega)] at small
    omega

end Flag

end TimedCache
