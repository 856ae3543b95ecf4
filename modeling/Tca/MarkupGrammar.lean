import Tca.PythonValues

/-!
# Texts with nested elements

A marked-up text consists of characters and of elements, each with a start
tag, a text inside and the end tag of the same name.  The file has this grammar
on lists of characters, texts that stop while some elements are open, and the
texts that remain when the tags are removed.
-/

namespace Tca.Markup

/-- Characters outside of tags. -/
def IsText (text : List Char) : Prop :=
  '<' ∉ text ∧ '>' ∉ text

/-- A lower-case letter or a digit. -/
def isNameChar (char : Char) : Bool :=
  char.isLower || char.isDigit

/-- Names are not empty. -/
def IsName (name : List Char) : Prop :=
  name ≠ [] ∧ ∀ char ∈ name, isNameChar char = true

theorem isName_singleton {char : Char} (isName : isNameChar char = true) :
    IsName [char] :=
  ⟨List.cons_ne_nil _ _, List.forall_mem_singleton.mpr isName⟩

/-- Attributes follow the name after white space.  They do not end in the
slash of an empty element. -/
structure IsAttrs (attrs : List Char) : Prop where
  isText : IsText attrs
  separated : ∀ first ∈ attrs.head?, isPythonSpace first = true
  notEmptyElement : attrs.getLast? ≠ some '/'

/-- There need not be any attributes. -/
theorem isAttrs_nil : IsAttrs [] where
  isText := ⟨List.not_mem_nil, List.not_mem_nil⟩
  separated := fun _ isFirst => absurd isFirst (Option.not_mem_none _)
  notEmptyElement := Option.some_ne_none _ |>.symm

/-- `<name attrs>`. -/
def startTag (name attrs : List Char) : List Char :=
  '<' :: (name ++ attrs ++ ['>'])

/-- `</name>`. -/
def endTag (name : List Char) : List Char :=
  '<' :: '/' :: (name ++ ['>'])

theorem startTag_ne_nil {name attrs : List Char} : startTag name attrs ≠ [] :=
  List.cons_ne_nil _ _

theorem endTag_ne_nil {name : List Char} : endTag name ≠ [] :=
  List.cons_ne_nil _ _

/-- Texts without angle brackets, interleaved with properly nested
elements. -/
inductive WellFormed : List Char → Prop where
  | nil : WellFormed []
  | char {char : Char} {text : List Char} (isText : IsText [char]) :
      WellFormed text → WellFormed (char :: text)
  | element {name attrs inner text : List Char} (isName : IsName name)
      (isAttrs : IsAttrs attrs) :
      WellFormed inner → WellFormed text →
        WellFormed (startTag name attrs ++ inner ++ endTag name ++ text)

section Texts

variable {first second text : List Char}

theorem isText_append :
    IsText (first ++ second) ↔ IsText first ∧ IsText second := by
  simp only [IsText, List.mem_append, not_or]
  tauto

theorem IsText.take (isText : IsText text) (length : Nat) :
    IsText (text.take length) :=
  ⟨fun member => isText.1 (List.mem_of_mem_take member),
    fun member => isText.2 (List.mem_of_mem_take member)⟩

theorem IsText.wellFormed (isText : IsText text) : WellFormed text := by
  induction text with
  | nil => exact .nil
  | cons char text ih =>
      obtain ⟨isChar, isRest⟩ := (@isText_append [char] text).mp isText
      exact .char isChar (ih isRest)

theorem WellFormed.append (wellFormed : WellFormed first)
    (alsoSecond : WellFormed second) : WellFormed (first ++ second) := by
  induction wellFormed with
  | nil => exact alsoSecond
  | char isText _ ih => exact .char isText ih
  | element isName isAttrs inner _ _ ih =>
      rw [List.append_assoc]
      exact .element isName isAttrs inner ih

end Texts

/-- A text that stops while the elements of a stack are open, the innermost
first. -/
inductive Opened : List (List Char) → List Char → Prop where
  | closed {text : List Char} : WellFormed text → Opened [] text
  | enter {stack : List (List Char)} {text name attrs inner : List Char}
      (isName : IsName name) (isAttrs : IsAttrs attrs) :
      Opened stack text → WellFormed inner →
        Opened (name :: stack) (text ++ startTag name attrs ++ inner)

/-- The end tags of the open elements. -/
def closingTags (stack : List (List Char)) : List Char :=
  stack.flatMap endTag

namespace Opened

variable {stack : List (List Char)} {text more name attrs : List Char}

theorem append (opened : Opened stack text) (wellFormed : WellFormed more) :
    Opened stack (text ++ more) := by
  cases opened with
  | closed inner => exact .closed (inner.append wellFormed)
  | enter isName isAttrs outer inner =>
      rw [List.append_assoc]
      exact .enter isName isAttrs outer (inner.append wellFormed)

theorem startTag (opened : Opened stack text) (isName : IsName name)
    (isAttrs : IsAttrs attrs) :
    Opened (name :: stack) (text ++ Markup.startTag name attrs) := by
  have entered := enter isName isAttrs opened WellFormed.nil
  rwa [List.append_nil] at entered

theorem endTag (opened : Opened (name :: stack) text) :
    Opened stack (text ++ Markup.endTag name) := by
  cases opened with
  | enter isName isAttrs outer inner =>
      have element := WellFormed.element isName isAttrs inner WellFormed.nil
      have closed := outer.append element
      simpa only [List.append_assoc, List.append_nil] using closed

/-- Closing the elements one after the other gives a well-formed text. -/
theorem close (opened : Opened stack text) :
    WellFormed (text ++ closingTags stack) := by
  induction stack generalizing text with
  | nil =>
      cases opened with
      | closed wellFormed =>
          rwa [closingTags, List.flatMap_nil, List.append_nil]
  | cons name stack ih =>
      have closed := ih opened.endTag
      rwa [List.append_assoc] at closed

end Opened

/-- A text without its tags; the flag tells whether a tag is being read. -/
def removeTags : Bool → List Char → List Char
  | _, [] => []
  | false, char :: text =>
      if char = '<' then removeTags true text
      else char :: removeTags false text
  | true, char :: text =>
      if char = '>' then removeTags false text else removeTags true text

section Removal

variable {text rest name attrs : List Char}

theorem removeTags_append_of_isText (isText : IsText text) :
    removeTags false (text ++ rest) = text ++ removeTags false rest := by
  induction text with
  | nil => rfl
  | cons char text ih =>
      obtain ⟨isChar, isRest⟩ := (@isText_append [char] text).mp isText
      have outside : char ≠ '<' := by
        rintro rfl
        exact isChar.1 List.mem_cons_self
      rw [List.cons_append, removeTags, if_neg outside, ih isRest,
        List.cons_append]

/-- Inside of a tag everything is dropped, up to its end. -/
theorem removeTags_inside (inside : '>' ∉ text) :
    removeTags true (text ++ '>' :: rest) = removeTags false rest := by
  induction text with
  | nil => simp [removeTags]
  | cons char text ih =>
      obtain ⟨different, later⟩ := List.ne_and_not_mem_of_not_mem_cons inside
      rw [List.cons_append, removeTags, if_neg (Ne.symm different), ih later]

theorem IsName.isText (isName : IsName name) : IsText name := by
  have least := isName.2
  constructor
  · intro member
    exact absurd (least _ member) (by decide)
  · intro member
    exact absurd (least _ member) (by decide)

theorem removeTags_startTag (isName : IsName name) (isAttrs : IsAttrs attrs) :
    removeTags false (startTag name attrs ++ rest) =
      removeTags false rest := by
  have inside : '>' ∉ name ++ attrs :=
    (isText_append.mpr ⟨isName.isText, isAttrs.isText⟩).2
  rw [startTag, List.cons_append, removeTags, if_pos rfl, List.append_assoc]
  exact removeTags_inside inside

theorem removeTags_endTag (isName : IsName name) :
    removeTags false (endTag name ++ rest) = removeTags false rest := by
  have inside : '>' ∉ '/' :: name := by
    rw [List.mem_cons, not_or]
    exact ⟨by decide, isName.isText.2⟩
  rw [endTag, List.cons_append, removeTags, if_pos rfl, ← List.cons_append,
    List.append_assoc]
  exact removeTags_inside inside

end Removal

end Tca.Markup
