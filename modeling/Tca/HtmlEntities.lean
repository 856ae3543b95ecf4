import Tca.MarkupGrammar

/-!
# Character entities

`html.escape` replaces five characters by entities.  A text that is cut after
escaping keeps its entities whole only if the cut is where the escaped form of
some character ends.  The file proves this for every cut, and that removing
tags from a text does not break its entities.
-/

namespace Tca.Markup

/-- The characters that `html.escape` replaces, with their entities. -/
def entities : List (Char × List Char) :=
  [('&', "&amp;".toList), ('<', "&lt;".toList), ('>', "&gt;".toList),
    ('"', "&quot;".toList), ('\'', "&#x27;".toList)]

/-- The escaped form of one character. -/
def escapeChar (char : Char) : List Char :=
  (entities.lookup char).getD [char]

/-- `html.escape`. -/
def htmlEscape (text : List Char) : List Char :=
  text.flatMap escapeChar

/-- Read the entities of `html.escape` back; other characters, also a lonely
`&`, stay.  The number tells how much of an entity is still to be passed. -/
def unescape : Nat → List Char → List Char
  | _, [] => []
  | skip + 1, _ :: text => unescape skip text
  | 0, char :: text =>
      match entities.find? fun entity => entity.2.isPrefixOf (char :: text) with
      | some entity => entity.1 :: unescape (entity.2.length - 1) text
      | none => char :: unescape 0 text

/-- Every `&` starts one of the entities. -/
def EntitiesComplete (text : List Char) : Prop :=
  ∀ tail, '&' :: tail <:+ text →
    ∃ entity ∈ entities, entity.2 <+: '&' :: tail

section Escaping

variable {char : Char} {text first second : List Char}

/-- The form of the entities. -/
theorem entities_shape : ∀ entity ∈ entities, ∃ inner,
    entity.2 = '&' :: (inner ++ [';']) ∧ ';' ∉ '&' :: inner ∧
      '…' ∉ entity.2 ∧ '&' ∉ inner ++ [';'] ∧ IsText entity.2 := by
  have shapes : ∀ entity ∈ entities,
      entity.2 = '&' :: (entity.2.tail.dropLast ++ [';']) ∧
        ';' ∉ '&' :: entity.2.tail.dropLast ∧ '…' ∉ entity.2 ∧
        '&' ∉ entity.2.tail.dropLast ++ [';'] ∧
        ('<' ∉ entity.2 ∧ '>' ∉ entity.2) := by
    decide
  intro entity member
  exact ⟨entity.2.tail.dropLast, shapes entity member⟩

/-- A character is written as its entity, or as itself. -/
theorem escapeChar_cases (char : Char) :
    (∃ entity ∈ entities, entity.1 = char ∧ escapeChar char = entity.2) ∨
      escapeChar char = [char] ∧ char ≠ '&' ∧ IsText [char] := by
  by_cases special : char ∈ entities.map Prod.fst
  · left
    have written : ∀ entity ∈ entities, escapeChar entity.1 = entity.2 := by
      decide
    obtain ⟨entity, member, isChar⟩ := List.mem_map.mp special
    exact ⟨entity, member, isChar, isChar ▸ written entity member⟩
  · right
    have plain : char ≠ '&' ∧ char ≠ '<' ∧ char ≠ '>' ∧ char ≠ '"' ∧
        char ≠ '\'' := by
      simpa [entities] using special
    obtain ⟨noAmpersand, noLess, noGreater, -, -⟩ := plain
    refine ⟨?_, noAmpersand, ?_⟩
    · have none : entities.lookup char = none := by
        rw [List.lookup_eq_none_iff]
        intro entity member
        rw [bne_iff_ne]
        rintro rfl
        exact special (List.mem_map_of_mem member)
      rw [escapeChar, none, Option.getD_none]
    · exact ⟨by simpa using noLess.symm, by simpa using noGreater.symm⟩

theorem htmlEscape_cons :
    htmlEscape (char :: text) = escapeChar char ++ htmlEscape text :=
  rfl

theorem htmlEscape_append :
    htmlEscape (first ++ second) = htmlEscape first ++ htmlEscape second :=
  List.flatMap_append

theorem escapeChar_ne_nil (char : Char) : escapeChar char ≠ [] := by
  rcases escapeChar_cases char with ⟨entity, member, -, written⟩ |
    ⟨written, -⟩
  · obtain ⟨inner, shape, -⟩ := entities_shape entity member
    simp [written, shape]
  · simp [written]

theorem htmlEscape_eq_nil_iff : htmlEscape text = [] ↔ text = [] := by
  cases text with
  | nil => simp [htmlEscape]
  | cons char text => simp [htmlEscape_cons, escapeChar_ne_nil]

theorem isText_escapeChar (char : Char) : IsText (escapeChar char) := by
  rcases escapeChar_cases char with ⟨entity, member, -, written⟩ |
    ⟨written, -, isText⟩
  · obtain ⟨inner, -, -, -, -, isText⟩ := entities_shape entity member
    rwa [written]
  · rwa [written]

/-- Escaped texts have no angle brackets. -/
theorem isText_htmlEscape (text : List Char) : IsText (htmlEscape text) := by
  induction text with
  | nil => simp [htmlEscape, IsText]
  | cons char text ih =>
      rw [htmlEscape_cons]
      exact isText_append.mpr ⟨isText_escapeChar char, ih⟩

/-- Texts without the five characters are not changed. -/
theorem htmlEscape_of_plain
    (plain : ∀ char ∈ text, char ∉ entities.map Prod.fst) :
    htmlEscape text = text := by
  induction text with
  | nil => rfl
  | cons char text ih =>
      obtain ⟨here, later⟩ := List.forall_mem_cons.mp plain
      rw [htmlEscape_cons, ih later]
      rcases escapeChar_cases char with ⟨entity, member, isChar, -⟩ |
        ⟨written, -⟩
      · exact absurd (List.mem_map.mpr ⟨entity, member, isChar⟩) here
      · rw [written, List.singleton_append]

theorem unescape_skip (text rest : List Char) :
    unescape text.length (text ++ rest) = unescape 0 rest := by
  induction text with
  | nil => rfl
  | cons char text ih => simpa [unescape] using ih

/-- An entity at the start of a text is the only one there. -/
theorem find?_entity {entity : Char × List Char} (member : entity ∈ entities)
    (rest : List Char) :
    entities.find? (fun other => other.2.isPrefixOf (entity.2 ++ rest)) =
      some entity := by
  simp only [entities, List.mem_cons, List.not_mem_nil, or_false] at member
  rcases member with rfl | rfl | rfl | rfl | rfl <;> rfl

/-- An escaped character is read back. -/
theorem unescape_escapeChar (char : Char) (rest : List Char) :
    unescape 0 (escapeChar char ++ rest) = char :: unescape 0 rest := by
  rcases escapeChar_cases char with ⟨entity, member, isChar, written⟩ |
    ⟨written, noAmpersand, -⟩
  · obtain ⟨inner, shape, -⟩ := entities_shape entity member
    have found := find?_entity member rest
    rw [written]
    rw [shape, List.cons_append] at found ⊢
    simp only [unescape, found]
    rw [shape, List.length_cons, Nat.add_sub_cancel, unescape_skip, isChar]
  · have none : entities.find? (fun entity =>
        entity.2.isPrefixOf (char :: rest)) = none := by
      rw [List.find?_eq_none]
      intro entity member starts
      obtain ⟨inner, shape, -⟩ := entities_shape entity member
      rw [shape, List.isPrefixOf_cons_cons, Bool.and_eq_true, beq_iff_eq] at starts
      exact noAmpersand starts.1.symm
    simp only [written, List.singleton_append, unescape, none]

/-- An escaped text is read back, whatever follows it. -/
theorem unescape_htmlEscape (text rest : List Char) :
    unescape 0 (htmlEscape text ++ rest) = text ++ unescape 0 rest := by
  induction text with
  | nil => rfl
  | cons char text ih =>
      rw [htmlEscape_cons, List.append_assoc, unescape_escapeChar, ih,
        List.cons_append]

end Escaping

section Completeness

variable {text first second : List Char}

theorem EntitiesComplete.of_append
    (complete : EntitiesComplete (first ++ second)) :
    EntitiesComplete second :=
  fun tail suffix => complete tail (suffix.trans (List.suffix_append _ _))

theorem entitiesComplete_of_notMem (absent : '&' ∉ text) :
    EntitiesComplete text :=
  fun _ suffix => absurd (suffix.subset List.mem_cons_self) absent

theorem EntitiesComplete.append (complete : EntitiesComplete first)
    (alsoSecond : EntitiesComplete second) :
    EntitiesComplete (first ++ second) := by
  induction first with
  | nil => exact alsoSecond
  | cons char first ih =>
      intro tail suffix
      rcases List.suffix_cons_iff.mp suffix with whole | later
      · obtain ⟨isChar, isTail⟩ := List.cons_eq_cons.mp whole
        obtain rfl := isChar
        obtain ⟨entity, member, starts⟩ := complete first List.suffix_rfl
        refine ⟨entity, member, ?_⟩
        rw [isTail]
        exact starts.trans (List.prefix_append ('&' :: first) second)
      · exact ih (@EntitiesComplete.of_append [char] first complete) tail later

theorem EntitiesComplete.ellipsis (complete : EntitiesComplete text) :
    EntitiesComplete ('…' :: text) := by
  have point : EntitiesComplete ['…'] := entitiesComplete_of_notMem (by decide)
  exact point.append complete

theorem entitiesComplete_escapeChar (char : Char) :
    EntitiesComplete (escapeChar char) := by
  rcases escapeChar_cases char with ⟨entity, member, -, written⟩ |
    ⟨written, noAmpersand, -⟩
  · obtain ⟨inner, shape, -, -, once, -⟩ := entities_shape entity member
    intro tail suffix
    rw [written, shape] at suffix
    rcases List.suffix_cons_iff.mp suffix with whole | later
    · exact ⟨entity, member, [], by rw [List.append_nil, shape, whole]⟩
    · exact absurd (later.subset List.mem_cons_self) once
  · rw [written]
    exact entitiesComplete_of_notMem (by simpa using noAmpersand.symm)

theorem entitiesComplete_htmlEscape (text : List Char) :
    EntitiesComplete (htmlEscape text) := by
  induction text with
  | nil => exact entitiesComplete_of_notMem List.not_mem_nil
  | cons char text ih => exact (entitiesComplete_escapeChar char).append ih

/-- What is left of an escaped character by a cut inside of it is no
entity. -/
theorem not_entitiesComplete_of_cut {char : Char} {length : Nat}
    (positive : 0 < length) (inside : length < (escapeChar char).length)
    (rest : List Char) :
    ¬ EntitiesComplete ((escapeChar char).take length ++ '…' :: rest) := by
  intro complete
  rcases escapeChar_cases char with ⟨entity, member, -, written⟩ |
    ⟨written, -⟩
  · obtain ⟨inner, shape, noSemicolon, -⟩ := entities_shape entity member
    obtain ⟨shorter, rfl⟩ := Nat.exists_eq_add_of_lt positive
    rw [written, shape, List.length_cons, List.length_append] at inside
    have cut : (escapeChar char).take (0 + shorter + 1) =
        ('&' :: inner).take (0 + shorter + 1) := by
      rw [written, shape, ← List.cons_append]
      apply List.take_append_of_le_length
      simp only [List.length_cons, List.length_nil] at inside ⊢
      omega
    have free : ';' ∉ ('&' :: inner).take (0 + shorter + 1) :=
      fun present => noSemicolon (List.mem_of_mem_take present)
    rw [cut, List.take_succ_cons] at complete
    rw [List.take_succ_cons] at free
    obtain ⟨other, otherMember, starts⟩ := complete _ List.suffix_rfl
    obtain ⟨otherInner, otherShape, -, noEllipsis, -⟩ :=
      entities_shape other otherMember
    have within : other.2 <+: '&' :: inner.take (0 + shorter) ++ ['…'] := by
      have cutStarts : '&' :: inner.take (0 + shorter) ++ ['…'] <+:
          '&' :: inner.take (0 + shorter) ++ '…' :: rest :=
        ⟨rest, by simp⟩
      rcases List.prefix_or_prefix_of_prefix starts cutStarts with
        before | behind
      · exact before
      · exact absurd (behind.subset (by simp)) noEllipsis
    rcases List.prefix_concat_iff.mp within with same | before
    · exact noEllipsis (by simp [same])
    · exact free (before.subset (by simp [otherShape]))
  · rw [written, List.length_singleton] at inside
    omega

/-- A cut keeps the entities whole exactly if it is behind the text or where
the escaped form of a part of the text ends. -/
theorem entitiesComplete_take_iff (text rest : List Char) (length : Nat)
    (alsoRest : EntitiesComplete rest) :
    EntitiesComplete ((htmlEscape text).take length ++ '…' :: rest) ↔
      (htmlEscape text).length ≤ length ∨
        ∃ part, part <+: text ∧ (htmlEscape part).length = length := by
  induction text generalizing length with
  | nil =>
      refine iff_of_true ?_ (.inl (Nat.zero_le _))
      rw [htmlEscape, List.flatMap_nil, List.take_nil]
      exact alsoRest.ellipsis
  | cons char text ih =>
      rw [htmlEscape_cons]
      by_cases start : length = 0
      · subst start
        refine iff_of_true ?_ (.inr ⟨[], List.nil_prefix, rfl⟩)
        rw [List.take_zero, List.nil_append]
        exact alsoRest.ellipsis
      by_cases inside : length < (escapeChar char).length
      · rw [List.take_append_of_le_length inside.le]
        refine iff_of_false (not_entitiesComplete_of_cut (by omega) inside rest)
          ?_
        rintro (whole | ⟨part, isPart, ends⟩)
        · rw [List.length_append] at whole
          omega
        · cases part with
          | nil => exact start ends.symm
          | cons first part =>
              obtain rfl := (List.cons_prefix_cons.mp isPart).1
              rw [htmlEscape_cons, List.length_append] at ends
              omega
      · obtain ⟨later, rfl⟩ := Nat.exists_eq_add_of_le (not_lt.mp inside)
        rw [List.take_length_add_append, List.append_assoc]
        have here : EntitiesComplete (escapeChar char ++
              ((htmlEscape text).take later ++ '…' :: rest)) ↔
            EntitiesComplete ((htmlEscape text).take later ++ '…' :: rest) :=
          ⟨EntitiesComplete.of_append,
            (entitiesComplete_escapeChar char).append⟩
        rw [here, ih, List.length_append]
        apply or_congr
        · omega
        · constructor
          · rintro ⟨part, isPart, ends⟩
            refine ⟨char :: part, List.cons_prefix_cons.mpr ⟨rfl, isPart⟩, ?_⟩
            rw [htmlEscape_cons, List.length_append, ends]
          · rintro ⟨part, isPart, ends⟩
            cases part with
            | nil =>
                rw [htmlEscape, List.flatMap_nil, List.length_nil] at ends
                omega
            | cons first part =>
                obtain ⟨rfl, isRest⟩ := List.cons_prefix_cons.mp isPart
                rw [htmlEscape_cons, List.length_append] at ends
                exact ⟨part, isRest, by omega⟩

/-- A text that starts with `&` behind the removal of tags starts with it
before, too. -/
theorem exists_suffix_of_removeTags {tail : List Char} (inTag : Bool)
    (suffix : '&' :: tail <:+ removeTags inTag text) :
    ∃ original, '&' :: original <:+ text ∧
      removeTags false ('&' :: original) = '&' :: tail := by
  induction text generalizing inTag with
  | nil =>
      rw [removeTags] at suffix
      exact absurd (List.suffix_nil.mp suffix) (by simp)
  | cons char text ih =>
      have later : ∀ inTag, '&' :: tail <:+ removeTags inTag text →
          ∃ original, '&' :: original <:+ char :: text ∧
            removeTags false ('&' :: original) = '&' :: tail := by
        intro inTag suffix
        obtain ⟨original, isSuffix, removed⟩ := ih inTag suffix
        exact ⟨original, isSuffix.trans (List.suffix_cons _ _), removed⟩
      cases inTag with
      | true =>
          rw [removeTags] at suffix
          split at suffix
          · exact later false suffix
          · exact later true suffix
      | false =>
          rw [removeTags] at suffix
          split at suffix
          · exact later true suffix
          · rcases List.suffix_cons_iff.mp suffix with whole | inside
            · obtain ⟨rfl, isTail⟩ := List.cons_eq_cons.mp whole
              exact ⟨text, List.suffix_rfl, by rw [isTail]; rfl⟩
            · exact later false inside

/-- Removing tags does not break entities. -/
theorem EntitiesComplete.removeTags (complete : EntitiesComplete text) :
    EntitiesComplete (Markup.removeTags false text) := by
  intro tail suffix
  obtain ⟨original, isSuffix, removed⟩ :=
    exists_suffix_of_removeTags false suffix
  obtain ⟨entity, member, starts⟩ := complete original isSuffix
  obtain ⟨inner, -, -, -, -, isText⟩ := entities_shape entity member
  obtain ⟨rest, split⟩ := starts
  refine ⟨entity, member, ?_⟩
  rw [← removed, ← split, removeTags_append_of_isText isText]
  exact List.prefix_append _ _

end Completeness

end Tca.Markup
