import Mathlib.Data.List.Basic
import TimedCache.Proofs.Text.Blank
import TimedCache.Text.Decimal

/-!
# Numerals

A numeral grows digit by digit, and each digit stands for ten times what stood before and itself. A
decimal word is read from exactly the numerals of the numbers that fit in it, with or without a plus
sign in front.
-/
namespace TimedCache

variable {s digits : List Char} {n : Nat}

/-- The numerals of a number: any number of zeros may stand in front. -/
inductive Numeral : List Char → Nat → Prop
  | digit {d : Nat} (small : d < 10) : Numeral [d.digitChar] d
  | snoc {s : List Char} {n d : Nat} (front : Numeral s n) (small : d < 10) :
      Numeral (s ++ [d.digitChar]) (10 * n + d)

namespace Numeral

theorem ne_nil (h : Numeral s n) : s ≠ [] := by
  cases h <;> simp

theorem isDigit (h : Numeral s n) : ∀ c ∈ s, c.isDigit := by
  induction h with
  | digit small => simp [small]
  | snoc _ small ih => simp_all [or_imp]

theorem ofDigitChars (h : Numeral s n) : Nat.ofDigitChars 10 s 0 = n := by
  induction h with
  | digit small => simp [Nat.ofDigitChars_cons_digitChar_of_lt_ten small]
  | snoc _ small ih =>
    simp [Nat.ofDigitChars_append, ih, Nat.ofDigitChars_cons_digitChar_of_lt_ten small]

end Numeral

theorem exists_eq_digitChar {c : Char} (h : c.isDigit) : ∃ d < 10, c = d.digitChar := by
  have range : 48 ≤ c.toNat ∧ c.toNat ≤ 57 := by
    simpa [Char.isDigit, UInt32.le_iff_toNat_le] using h
  refine ⟨c.toNat - 48, by omega, Char.toNat_inj.mp ?_⟩
  rw [Nat.toNat_digitChar_of_lt_ten (by omega)]
  omega

/-- Digits are a numeral of the number that they count up to. -/
theorem numeral_ofDigitChars (ne : s ≠ []) (h : ∀ c ∈ s, c.isDigit) :
    Numeral s (Nat.ofDigitChars 10 s 0) := by
  induction s using List.reverseRecOn with
  | nil => exact absurd rfl ne
  | append_singleton s c ih =>
    obtain ⟨d, small, rfl⟩ := exists_eq_digitChar (h c (by simp))
    obtain rfl | front := eq_or_ne s []
    · simpa [Nat.ofDigitChars_cons_digitChar_of_lt_ten small] using Numeral.digit small
    · have grown := (ih front fun c hc => h c (by simp [hc])).snoc small
      simpa [Nat.ofDigitChars_append, Nat.ofDigitChars_cons_digitChar_of_lt_ten small] using grown

theorem numeral_toDigits (n : Nat) : Numeral (Nat.toDigits 10 n) n := by
  have counted := numeral_ofDigitChars Nat.toDigits_ne_nil fun c hc =>
    Nat.isDigit_of_mem_toDigits (b := 10) (n := n) (by omega) (by omega) hc
  rwa [Nat.ofDigitChars_ten_toDigits] at counted

theorem not_isBlank_of_isDigit {c : Char} (h : c.isDigit) : ¬isBlank c := by
  obtain ⟨d, small, rfl⟩ := exists_eq_digitChar h
  decide +revert

namespace Decimal

theorem ofDigits?_eq_some_iff : ofDigits? s = some n ↔ Numeral s n := by
  unfold ofDigits?
  constructor
  · intro h
    obtain ⟨⟨ne, digits⟩, rfl⟩ := by
      simpa only [Option.ite_none_right_eq_some, Option.some.injEq] using h
    exact numeral_ofDigitChars ne (List.all_eq_true.mp digits)
  · intro h
    rw [if_pos ⟨h.ne_nil, List.all_eq_true.mpr h.isDigit⟩, h.ofDigitChars]

theorem unsigned_of_isDigit (h : ∀ c ∈ s, c.isDigit) : unsigned s = s := by
  unfold unsigned
  split
  · exact absurd (h '+' (by simp)) (by decide)
  · rfl

theorem exists_sign (s : List Char) :
    ∃ sign, (sign = [] ∨ sign = ['+']) ∧ s = sign ++ unsigned s := by
  unfold unsigned
  split
  · exact ⟨['+'], .inr rfl, rfl⟩
  · exact ⟨[], .inl rfl, rfl⟩

theorem ofChars?_eq_some_iff {w : UInt64} :
    ofChars? s = some w ↔
      ∃ sign digits, (sign = [] ∨ sign = ['+']) ∧ s = sign ++ digits ∧ Numeral digits w.toNat := by
  constructor
  · intro h
    obtain ⟨n, hn, fits⟩ := Option.bind_eq_some_iff.mp h
    obtain ⟨small, rfl⟩ := by
      simpa only [Option.ite_none_right_eq_some, Option.some.injEq] using fits
    obtain ⟨sign, signed, split⟩ := exists_sign s
    refine ⟨sign, unsigned s, signed, split, ?_⟩
    rw [UInt64.toNat_ofNat_of_lt' small]
    exact ofDigits?_eq_some_iff.mp hn
  · rintro ⟨sign, digits, signed, rfl, numeral⟩
    have bare : unsigned (sign ++ digits) = digits := by
      obtain rfl | rfl := signed
      · exact unsigned_of_isDigit numeral.isDigit
      · rfl
    rw [ofChars?, bare, ofDigits?_eq_some_iff.mpr numeral]
    exact (if_pos w.toNat_lt).trans (congrArg some w.ofNat_toNat)

end Decimal

/-- A text spells a word if it is a numeral of it between blanks, with or without a plus sign. -/
def Spells (value : String) (w : UInt64) : Prop :=
  ∃ front sign digits back, value.toList = front ++ sign ++ digits ++ back ∧
    (∀ c ∈ front, isBlank c) ∧ (∀ c ∈ back, isBlank c) ∧ (sign = [] ∨ sign = ['+']) ∧
    Numeral digits w.toNat

theorem ofChars?_trimBlanks_eq_some_iff {value : String} {w : UInt64} :
    Decimal.ofChars? (trimBlanks value.toList) = some w ↔ Spells value w := by
  rw [Decimal.ofChars?_eq_some_iff]
  constructor
  · rintro ⟨sign, digits, signed, trimmed, numeral⟩
    obtain ⟨front, back, split, hf, hb⟩ := padded_trimBlanks value.toList
    exact ⟨front, sign, digits, back, by grind, hf, hb, signed, numeral⟩
  · rintro ⟨front, sign, digits, back, split, hf, hb, signed, numeral⟩
    have tight : Tight (sign ++ digits) := tight_of_forall fun c hc => by
      obtain hc | hc := List.mem_append.mp hc
      · obtain rfl | rfl := signed
        · simp at hc
        · obtain rfl := List.mem_singleton.mp hc
          decide
      · exact not_isBlank_of_isDigit (numeral.isDigit c hc)
    exact ⟨sign, digits, signed, trimBlanks_of_padded tight ⟨front, back, by grind, hf, hb⟩, numeral⟩

theorem spells_toString (w : UInt64) : Spells (toString w) w :=
  ⟨[], [], Nat.toDigits 10 w.toNat, [], by simp [toString], by simp, by simp, .inl rfl,
    numeral_toDigits w.toNat⟩

end TimedCache
