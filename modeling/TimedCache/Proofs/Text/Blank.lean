import Mathlib.Data.List.DropRight
import TimedCache.Text.Blank

/-!
# Texts between blanks

What is left of a text without the blanks at both ends is the one text with no blank at its ends that
the text has between blanks.
-/
namespace TimedCache

variable {s t u : List Char}

/-- A text is another one with blanks in front and behind. -/
def Padded (t s : List Char) : Prop :=
  ∃ front back, s = front ++ t ++ back ∧ (∀ c ∈ front, isBlank c) ∧ ∀ c ∈ back, isBlank c

/-- No blank stands at either end. -/
structure Tight (t : List Char) : Prop where
  head : ∀ c ∈ t.head?, ¬isBlank c
  last : ∀ c ∈ t.getLast?, ¬isBlank c

theorem tight_of_forall (h : ∀ c ∈ t, ¬isBlank c) : Tight t where
  head c hc := h c (List.mem_of_mem_head? hc)
  last c hc := h c (List.mem_of_getLast? hc)

theorem trimBlanks_eq (s : List Char) :
    trimBlanks s = (s.dropWhile isBlank).rdropWhile isBlank := rfl

theorem padded_trimBlanks (s : List Char) : Padded (trimBlanks s) s := by
  refine ⟨s.takeWhile isBlank, (s.dropWhile isBlank).rtakeWhile isBlank, ?_,
    fun _ => List.mem_takeWhile_imp, fun _ => List.mem_rtakeWhile_imp⟩
  rw [trimBlanks_eq, List.append_assoc, List.rdropWhile_append_rtakeWhile,
    List.takeWhile_append_dropWhile]

theorem tight_trimBlanks (s : List Char) : Tight (trimBlanks s) where
  head c hc := by
    -- What is dropped at the end leaves the first character as it is, unless all is dropped.
    obtain ⟨back, kept⟩ : trimBlanks s <+: s.dropWhile isBlank := List.rdropWhile_prefix _ _
    have first := List.head?_dropWhile_not isBlank s
    rw [← kept, List.head?_append_of_ne_nil _ (by grind), Option.mem_def.mp hc] at first
    simpa using first
  last c hc := by
    have first := List.head?_dropWhile_not isBlank (s.dropWhile isBlank).reverse
    rw [← List.getLast?_reverse] at first
    simp_all [trimBlanks]

theorem trimBlanks_of_padded (tight : Tight t) (padded : Padded t s) : trimBlanks s = t := by
  obtain ⟨front, back, rfl, hf, hb⟩ := padded
  have back_dropped : (t ++ back).rdropWhile isBlank = t := by
    have last : t.rdropWhile isBlank = t :=
      List.rdropWhile_eq_self_iff.mpr fun ne => tight.last _ (List.getLast_mem_getLast? ne)
    rw [List.rdropWhile, List.reverse_append, List.dropWhile_append_of_pos (by simpa using hb)]
    exact last
  rw [trimBlanks_eq, List.append_assoc, List.dropWhile_append_of_pos hf]
  cases t with
  | nil => simp [List.dropWhile_eq_nil_iff.mpr hb]
  | cons c t =>
    rw [List.cons_append, List.dropWhile_cons_of_neg (tight.head c rfl)]
    exact back_dropped

theorem trimBlanks_eq_iff : trimBlanks s = t ↔ Tight t ∧ Padded t s := by
  constructor
  · rintro rfl
    exact ⟨tight_trimBlanks s, padded_trimBlanks s⟩
  · rintro ⟨tight, padded⟩
    exact trimBlanks_of_padded tight padded

theorem Padded.trans (inner : Padded t u) (outer : Padded u s) : Padded t s := by
  obtain ⟨front, back, rfl, hf, hb⟩ := inner
  obtain ⟨front', back', rfl, hf', hb'⟩ := outer
  exact ⟨front' ++ front, back ++ back', by simp, by grind, by grind⟩

/-- More blanks around a text leave what is left of it the same. -/
theorem Padded.trimBlanks_eq (h : Padded t s) : trimBlanks s = trimBlanks t :=
  trimBlanks_of_padded (tight_trimBlanks t) ((padded_trimBlanks t).trans h)

section Map

variable {f : Char → Char} (same : ∀ c, isBlank (f c) = isBlank c)

include same

theorem Padded.map (h : Padded t s) : Padded (t.map f) (s.map f) := by
  obtain ⟨front, back, rfl, hf, hb⟩ := h
  exact ⟨front.map f, back.map f, by simp, by grind, by grind⟩

theorem Tight.map (h : Tight t) : Tight (t.map f) where
  head := by simpa [same] using h.head
  last := by simpa [same] using h.last

theorem trimBlanks_map (s : List Char) : trimBlanks (s.map f) = (trimBlanks s).map f :=
  trimBlanks_of_padded ((tight_trimBlanks s).map same) ((padded_trimBlanks s).map same)

end Map

end TimedCache
