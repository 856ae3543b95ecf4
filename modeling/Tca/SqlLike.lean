import Mathlib.Data.List.Infix

/-!
# The LIKE operator

A pattern is matched character by character: a percent sign stands for any
text, an underscore for any character, and ASCII letters match in either case.
Texts match themselves, and matches can be put together.
-/

namespace Tca.SqlLike

/-- `text LIKE pattern`. -/
def like : List Char → List Char → Bool
  | [], text => text.isEmpty
  | symbol :: pattern, text =>
      if symbol = '%' then text.tails.any fun rest => like pattern rest
      else
        match text with
        | [] => false
        | char :: rest =>
            (symbol = '_' || symbol.toLower = char.toLower) &&
              like pattern rest

variable {pattern other text rest : List Char}

/-- A percent sign stands for the characters before a match of the rest. -/
theorem like_percent_iff :
    like ('%' :: pattern) text = true ↔
      ∃ rest, rest <:+ text ∧ like pattern rest = true := by
  simp [like]

/-- Patterns in sequence match texts in sequence. -/
theorem like_append (matched : like pattern text = true)
    (restMatched : like other rest = true) :
    like (pattern ++ other) (text ++ rest) = true := by
  induction pattern generalizing text with
  | nil =>
      rw [like, List.isEmpty_iff] at matched
      rwa [matched]
  | cons symbol pattern ih =>
      by_cases isPercent : symbol = '%'
      · subst isPercent
        obtain ⟨last, ⟨front, rfl⟩, lastMatched⟩ := like_percent_iff.mp matched
        rw [List.cons_append, List.append_assoc]
        apply like_percent_iff.mpr
        exact ⟨last ++ rest, List.suffix_append front _, ih lastMatched⟩
      · cases text with
        | nil => simp [like, isPercent] at matched
        | cons char text =>
            simp only [like, isPercent, if_false, Bool.and_eq_true] at matched
            rw [List.cons_append, List.cons_append]
            simp only [like, isPercent, if_false, Bool.and_eq_true]
            exact ⟨matched.1, ih matched.2⟩

/-- A text matches itself, wildcards included. -/
theorem like_self (text : List Char) : like text text = true := by
  induction text with
  | nil => rfl
  | cons char text ih =>
      by_cases isPercent : char = '%'
      · subst isPercent
        exact like_percent_iff.mpr ⟨text, List.suffix_cons _ _, ih⟩
      · simp [like, isPercent, ih]

theorem like_any (text : List Char) : like ['%'] text = true :=
  like_percent_iff.mpr ⟨[], List.nil_suffix, rfl⟩

/-- A part of a text is found in it. -/
theorem like_contains {part : List Char} (inside : part <:+: text) :
    like ('%' :: (part ++ ['%'])) text = true := by
  obtain ⟨before, after, rfl⟩ := inside
  have found := like_append (like_append (like_any before) (like_self part))
    (like_any after)
  exact found

end Tca.SqlLike
