import Tca.MarkupGrammar
import Tca.PythonTexts
import Tca.UnicodeTables
import Mathlib.Algebra.Ring.Int.Defs

/-!
# Cutting HTML to a length

`truncate_html` splits a text at its tags and copies tokens as long as the end
tags of the open elements and an ellipsis still fit.  The file proves that the
result of a well-formed text is well formed and fits, whichever kind of token
the loop stops at.
-/

namespace Tca

open Markup

/-- `^</?([a-zA-Z0-9]+)`: the name, and what follows it. -/
def tagName : List Char → Option (List Char × List Char)
  | [] => none
  | char :: text =>
      if char = '<' then
        let named := if text.head? = some '/' then text.tail else text
        if named.takeWhile Char.isAlphanum = [] then none
        else some (named.takeWhile Char.isAlphanum,
          named.dropWhile Char.isAlphanum)
      else none

/-- What follows a match of `</?[a-zA-Z0-9]+(?:\s+[^>]*)*>` at the start of a
text. -/
def afterTag (text : List Char) : Option (List Char) :=
  (tagName text).bind fun named =>
    match named.2 with
    | [] => none
    | char :: rest =>
        if char = '>' then some rest
        else if isPythonSpace char then (PythonTexts.partition '>' rest).2
        else none

/-- `token_pattern.split`: the texts before, between and after the tags, with
the tags.  The number tells how much of a tag is still to be passed, and the
text is what has been read since the last tag. -/
def splitTags : Nat → List Char → List Char → List (List Char)
  | _, text, [] => [text]
  | skip + 1, text, _ :: rest => splitTags skip text rest
  | 0, text, char :: rest =>
      match afterTag (char :: rest) with
      | some later =>
          text :: (char :: rest.take (rest.length - later.length)) ::
            splitTags (rest.length - later.length) [] rest
      | none => splitTags 0 (text ++ [char]) rest

/-- The variables of the loop of `truncate_html`. -/
structure TruncateState where
  openTags : List (List Char)
  resultParts : List (List Char)
  currentLen : Int
  deriving DecidableEq

/-- `sum(len(t) + 3 for t in tags)`. -/
def closingTagsLen (tags : List (List Char)) : Int :=
  (tags.map fun tag => (tag.length : Int) + 3).sum

namespace TruncateState

variable (maxLen : Int) (token : List Char) (state : TruncateState)

/-- Append a tag, unless it does not fit with the tags that are open then. -/
def appendTag (newOpenTags : List (List Char)) : ForInStep TruncateState :=
  if state.currentLen + token.length + closingTagsLen newOpenTags + 1 > maxLen
  then .done state
  else .yield ⟨newOpenTags, state.resultParts ++ [token],
    state.currentLen + token.length⟩

/-- One pass of the loop of `truncate_html`. -/
def step : ForInStep TruncateState :=
  if token = [] then .yield state
  else if token.head? = some '<' ∧ token.getLast? = some '>' then
    match tagName token with
    | none => .yield state
    | some (name, _) =>
        let name := name.map Char.toLower
        if ['<', '/'] <+: token then
          state.appendTag maxLen token
            (if state.openTags.getLast? = some name then
              state.openTags.dropLast
            else state.openTags)
        else
          state.appendTag maxLen token
            (if ['/', '>'] <:+ token then state.openTags
            else state.openTags ++ [name])
  else
    let available :=
      maxLen - 1 - closingTagsLen state.openTags - state.currentLen
    if available ≤ 0 then .done state
    else if token.length > available then
      .done ⟨state.openTags,
        state.resultParts ++ [token.take available.toNat],
        state.currentLen + available⟩
    else
      .yield ⟨state.openTags, state.resultParts ++ [token],
        state.currentLen + token.length⟩

/-- The loop of `truncate_html`. -/
def run : List (List Char) → TruncateState → TruncateState
  | [], state => state
  | token :: tokens, state =>
      match state.step maxLen token with
      | .done last => last
      | .yield next => run tokens next

/-- The parts with an ellipsis and the end tags of the open elements. -/
def finish : List Char :=
  state.resultParts.flatten ++ '…' :: closingTags state.openTags.reverse

end TruncateState

/-- Truncate an HTML string to `max_len` while closing open tags. -/
def truncateHtml (htmlStr : List Char) (maxLen : Int) : List Char :=
  if htmlStr.length ≤ maxLen then htmlStr
  else (TruncateState.run maxLen (splitTags 0 [] htmlStr) ⟨[], [], 0⟩).finish

section Tokens

variable {name attrs text rest : List Char}

theorem code_of_isAlphanum {char : Char} (isAlnum : char.isAlphanum = true) :
    char.toNat < 128 := by
  have cases : (char.isAlpha || char.isDigit) = true := isAlnum
  rw [Bool.or_eq_true] at cases
  rcases cases with letter | digit
  · have codes := UnicodeTables.codes_of_isAlpha letter
    omega
  · have codes := UnicodeTables.codes_of_isDigit digit
    omega

/-- The characters of names are what the patterns expect of them. -/
theorem nameChar_plain {char : Char} (isName : isNameChar char = true) :
    char.isAlphanum = true ∧ char ≠ '/' ∧ char.toLower = char := by
  have isAlnum : ((char.isUpper || char.isLower) || char.isDigit) = true := by
    rw [isNameChar, Bool.or_eq_true] at isName
    rw [Bool.or_eq_true, Bool.or_eq_true]
    rcases isName with lower | digit
    · exact .inl (.inr lower)
    · exact .inr digit
  refine ⟨isAlnum, ?_⟩
  exact @UnicodeTables.ascii_forall
    (fun letter => isNameChar letter = true →
      letter ≠ '/' ∧ letter.toLower = letter)
    (by decide) char (code_of_isAlphanum isAlnum) isName

theorem map_toLower_of_isName (isName : IsName name) :
    name.map Char.toLower = name := by
  rw [List.map_congr_left fun char member =>
    (nameChar_plain (isName.2 char member)).2.2]
  exact List.map_id' name

theorem slash_notMem_name (isName : IsName name) : '/' ∉ name :=
  fun member => (nameChar_plain (isName.2 '/' member)).2.1 rfl

theorem space_notAlphanum {char : Char}
    (isSpace : isPythonSpace char = true) : char.isAlphanum = false := by
  by_contra isAlnum
  rw [Bool.not_eq_false] at isAlnum
  have separated := @UnicodeTables.ascii_forall
    (fun letter => isPythonSpace letter = true → letter.isAlphanum = false)
    (by decide) char (code_of_isAlphanum isAlnum) isSpace
  rw [isAlnum] at separated
  cases separated

/-- A name is read up to a character that is none of its own. -/
theorem takeWhile_name (isName : IsName name)
    (ends : ∀ first ∈ rest.head?, first.isAlphanum = false) :
    (name ++ rest).takeWhile Char.isAlphanum = name ∧
      (name ++ rest).dropWhile Char.isAlphanum = rest := by
  have all : ∀ char ∈ name, char.isAlphanum = true :=
    fun char member => (nameChar_plain (isName.2 char member)).1
  rw [List.takeWhile_append_of_pos all, List.dropWhile_append_of_pos all]
  cases rest with
  | nil => simp
  | cons first rest => simp [ends first rfl]

theorem tagName_of_startTag (isName : IsName name)
    (ends : ∀ first ∈ rest.head?, first.isAlphanum = false) :
    tagName ('<' :: (name ++ rest)) = some (name, rest) := by
  obtain ⟨takes, drops⟩ := takeWhile_name isName ends
  have noSlash : (name ++ rest).head? ≠ some '/' := by
    cases name with
    | nil => exact absurd rfl isName.1
    | cons first name =>
        have plain := nameChar_plain (isName.2 first List.mem_cons_self)
        simpa using plain.2.1
  rw [tagName, if_pos rfl, if_neg noSlash]
  simp only [takes, drops, if_neg isName.1]

theorem tagName_of_endTag (isName : IsName name)
    (ends : ∀ first ∈ rest.head?, first.isAlphanum = false) :
    tagName ('<' :: '/' :: (name ++ rest)) = some (name, rest) := by
  obtain ⟨takes, drops⟩ := takeWhile_name isName ends
  rw [tagName, if_pos rfl, List.head?_cons, if_pos rfl, List.tail_cons]
  simp only [takes, drops, if_neg isName.1]

/-- What follows the name in a start tag is no part of it. -/
theorem attrs_notAlphanum (isAttrs : IsAttrs attrs) :
    ∀ first ∈ (attrs ++ '>' :: rest).head?, first.isAlphanum = false := by
  intro first isFirst
  cases attrs with
  | nil =>
      obtain rfl := Option.some.inj isFirst
      decide
  | cons char attrs =>
      obtain rfl := Option.some.inj isFirst
      exact space_notAlphanum (isAttrs.separated char rfl)

/-- The pattern matches a start tag up to its end. -/
theorem afterTag_startTag (isName : IsName name) (isAttrs : IsAttrs attrs) :
    afterTag (startTag name attrs ++ rest) = some rest := by
  have named : tagName ('<' :: (name ++ (attrs ++ '>' :: rest))) =
      some (name, attrs ++ '>' :: rest) :=
    tagName_of_startTag isName (attrs_notAlphanum isAttrs)
  have shape : startTag name attrs ++ rest =
      '<' :: (name ++ (attrs ++ '>' :: rest)) := by
    simp [startTag]
  rw [shape, afterTag, named, Option.bind_some]
  cases attrs with
  | nil => simp
  | cons first attrs =>
      have isSpace := isAttrs.separated first rfl
      obtain ⟨different, inside⟩ :=
        List.ne_and_not_mem_of_not_mem_cons isAttrs.isText.2
      simp [Ne.symm different, isSpace, PythonTexts.partition_append inside]

theorem afterTag_endTag (isName : IsName name) :
    afterTag (endTag name ++ rest) = some rest := by
  have ends : ∀ first ∈ ('>' :: rest).head?, first.isAlphanum = false := by
    intro first isFirst
    obtain rfl := Option.some.inj isFirst
    decide
  have shape : endTag name ++ rest = '<' :: '/' :: (name ++ '>' :: rest) := by
    simp [endTag]
  rw [shape, afterTag, tagName_of_endTag isName ends, Option.bind_some]
  simp

theorem startTag_noEnd (isName : IsName name) :
    ¬ ['<', '/'] <+: startTag name attrs := by
  intro starts
  rw [startTag, List.cons_prefix_cons] at starts
  cases name with
  | nil => exact isName.1 rfl
  | cons first name =>
      have isFirst := (List.cons_prefix_cons.mp starts.2).1
      exact slash_notMem_name isName (isFirst ▸ List.mem_cons_self)

theorem startTag_noEmptyElement (isName : IsName name)
    (isAttrs : IsAttrs attrs) : ¬ ['/', '>'] <:+ startTag name attrs := by
  rintro ⟨before, ends⟩
  have split : (before ++ ['/']) ++ ['>'] = ('<' :: (name ++ attrs)) ++ ['>'] := by
    simpa [startTag] using ends
  have last : ('<' :: (name ++ attrs)).getLast? = some '/' := by
    rw [← List.append_cancel_right split, List.getLast?_concat]
  rcases List.eq_nil_or_concat attrs with rfl | ⟨front, char, rfl⟩
  · rw [List.append_nil] at last
    rcases List.mem_cons.mp (List.mem_of_getLast? last) with isAngle | inName
    · cases isAngle
    · exact slash_notMem_name isName inName
  · rw [List.concat_eq_append] at last isAttrs
    rw [← List.append_assoc, ← List.cons_append, List.getLast?_concat] at last
    exact isAttrs.notEmptyElement (by rw [List.getLast?_concat, last])

theorem splitTags_skip (passed text rest : List Char) :
    splitTags passed.length text (passed ++ rest) = splitTags 0 text rest := by
  induction passed with
  | nil => rfl
  | cons char passed ih => simpa [splitTags] using ih

/-- A tag is split off from the text before it. -/
theorem splitTags_tag {tag : List Char} (visible : tag ≠ [])
    (matched : afterTag (tag ++ rest) = some rest) :
    splitTags 0 text (tag ++ rest) = text :: tag :: splitTags 0 [] rest := by
  cases tag with
  | nil => exact absurd rfl visible
  | cons char tag =>
      rw [List.cons_append] at matched ⊢
      have length : (tag ++ rest).length - rest.length = tag.length := by
        simp
      simp only [splitTags, matched, length, splitTags_skip,
        List.take_left]

theorem splitTags_text {char : Char} (outside : char ≠ '<') :
    splitTags 0 text (char :: rest) = splitTags 0 (text ++ [char]) rest := by
  simp [splitTags, afterTag, tagName, outside]

end Tokens

/-- Tokens that close a stack of open elements, the innermost first. -/
inductive Nested : List (List Char) → List (List Char) → Prop where
  | nil : Nested [] []
  | text {stack tokens : List (List Char)} {text : List Char}
      (isText : IsText text) : Nested stack tokens →
        Nested stack (text :: tokens)
  | startTag {stack tokens : List (List Char)} {name attrs : List Char}
      (isName : IsName name) (isAttrs : IsAttrs attrs) :
      Nested (name :: stack) tokens →
        Nested stack (Markup.startTag name attrs :: tokens)
  | endTag {stack tokens : List (List Char)} {name : List Char}
      (isName : IsName name) : Nested stack tokens →
        Nested (name :: stack) (Markup.endTag name :: tokens)

/-- Splitting a well-formed text in front of nested tokens gives nested
tokens. -/
theorem nested_splitTags_append {markup : List Char}
    (wellFormed : WellFormed markup) {stack : List (List Char)}
    {rest : List Char}
    (continues : ∀ text, IsText text → Nested stack (splitTags 0 text rest))
    (text : List Char) (isText : IsText text) :
    Nested stack (splitTags 0 text (markup ++ rest)) := by
  induction wellFormed generalizing stack rest text with
  | nil => exact continues text isText
  | char isChar _ ih =>
      rw [List.cons_append, splitTags_text]
      · exact ih continues _ (isText_append.mpr ⟨isText, isChar⟩)
      · rintro rfl
        exact isChar.1 List.mem_cons_self
  | @element name attrs inner later isName isAttrs _ _ ihInner ihText =>
      have emptyText : IsText [] := ⟨List.not_mem_nil, List.not_mem_nil⟩
      have afterInner : ∀ text, IsText text → Nested (name :: stack)
          (splitTags 0 text (Markup.endTag name ++ (later ++ rest))) := by
        intro text isText
        rw [splitTags_tag endTag_ne_nil (afterTag_endTag isName)]
        exact .text isText (.endTag isName (ihText continues [] emptyText))
      simp only [List.append_assoc]
      rw [splitTags_tag startTag_ne_nil (afterTag_startTag isName isAttrs)]
      exact .text isText (.startTag isName isAttrs
        (ihInner afterInner [] emptyText))

theorem nested_splitTags {markup : List Char}
    (wellFormed : WellFormed markup) : Nested [] (splitTags 0 [] markup) := by
  have ends : ∀ text, IsText text → Nested [] (splitTags 0 text []) :=
    fun text isText => .text isText .nil
  have nested := nested_splitTags_append wellFormed ends []
    ⟨List.not_mem_nil, List.not_mem_nil⟩
  rwa [List.append_nil] at nested

namespace TruncateState

variable {maxLen : Int} {state : TruncateState}
  {stack : List (List Char)} {name attrs text : List Char}

/-- The room that is left for text. -/
def available (maxLen : Int) (state : TruncateState) : Int :=
  maxLen - 1 - closingTagsLen state.openTags - state.currentLen

theorem step_text (isText : IsText text) (visible : text ≠ []) :
    state.step maxLen text =
      if state.available maxLen ≤ 0 then .done state
      else if text.length > state.available maxLen then
        .done ⟨state.openTags,
          state.resultParts ++ [text.take (state.available maxLen).toNat],
          state.currentLen + state.available maxLen⟩
      else
        .yield ⟨state.openTags, state.resultParts ++ [text],
          state.currentLen + text.length⟩ := by
  have noTag : ¬ (text.head? = some '<' ∧ text.getLast? = some '>') := by
    rintro ⟨starts, -⟩
    exact isText.1 (List.mem_of_mem_head? starts)
  rw [step, if_neg visible, if_neg noTag]
  rfl

/-- A start tag opens its element. -/
theorem step_startTag (isName : IsName name) (isAttrs : IsAttrs attrs) :
    state.step maxLen (Markup.startTag name attrs) =
      state.appendTag maxLen (Markup.startTag name attrs)
        (state.openTags ++ [name]) := by
  have isTag : (Markup.startTag name attrs).head? = some '<' ∧
      (Markup.startTag name attrs).getLast? = some '>' := by
    constructor
    · rfl
    · rw [Markup.startTag, ← List.cons_append, List.getLast?_concat]
  have named : tagName (Markup.startTag name attrs) =
      some (name, attrs ++ ['>']) := by
    rw [Markup.startTag, List.append_assoc]
    exact tagName_of_startTag isName (attrs_notAlphanum isAttrs)
  rw [step, if_neg startTag_ne_nil, if_pos isTag, named]
  simp only [map_toLower_of_isName isName, if_neg (startTag_noEnd isName),
    if_neg (startTag_noEmptyElement isName isAttrs)]

/-- An end tag closes the innermost element, if it is of its name. -/
theorem step_endTag (isName : IsName name) (tags : List (List Char))
    (isOpen : state.openTags = tags ++ [name]) :
    state.step maxLen (Markup.endTag name) =
      state.appendTag maxLen (Markup.endTag name) tags := by
  have isTag : (Markup.endTag name).head? = some '<' ∧
      (Markup.endTag name).getLast? = some '>' := by
    constructor
    · rfl
    · rw [Markup.endTag, ← List.cons_append, ← List.cons_append,
        List.getLast?_concat]
  have named : tagName (Markup.endTag name) = some (name, ['>']) := by
    apply tagName_of_endTag isName
    intro first isFirst
    obtain rfl := Option.some.inj isFirst
    decide
  have isEnd : ['<', '/'] <+: Markup.endTag name :=
    ⟨name ++ ['>'], rfl⟩
  rw [step, if_neg endTag_ne_nil, if_pos isTag, named]
  simp only [map_toLower_of_isName isName, if_pos isEnd, isOpen, List.getLast?_concat, if_true,
    List.dropLast_concat]

/-- The length of the end tags of the open elements. -/
theorem closingTagsLen_eq (tags : List (List Char)) :
    closingTagsLen tags = (closingTags tags.reverse).length := by
  induction tags with
  | nil => rfl
  | cons tag tags ih =>
      rw [closingTagsLen, List.map_cons, List.sum_cons, ← closingTagsLen, ih]
      simp [closingTags, Markup.endTag]
      omega

theorem closingTagsLen_concat (tags : List (List Char)) (name : List Char) :
    closingTagsLen (tags ++ [name]) =
      closingTagsLen tags + (Markup.endTag name).length := by
  rw [closingTagsLen_eq, closingTagsLen_eq, List.reverse_concat]
  simp only [closingTags, List.flatMap_cons, List.length_append]
  push_cast
  omega

/-- The parts are a text that stops with the elements of the stack open, and
its end tags and the ellipsis fit. -/
structure Fits (maxLen : Int) (stack : List (List Char))
    (state : TruncateState) : Prop where
  isStack : state.openTags.reverse = stack
  currentLen : state.currentLen = state.resultParts.flatten.length
  opened : Opened stack state.resultParts.flatten
  room : 0 ≤ state.available maxLen

namespace Fits

/-- A tag that opens or closes an element is copied or stops the loop. -/
theorem appendTag (fits : Fits maxLen stack state) {tag : List Char}
    {newOpenTags newStack : List (List Char)}
    (isStack : newOpenTags.reverse = newStack)
    (opened : Opened newStack (state.resultParts.flatten ++ tag)) :
    state.appendTag maxLen tag newOpenTags = .done state ∨
      ∃ next, state.appendTag maxLen tag newOpenTags = .yield next ∧
        Fits maxLen newStack next := by
  unfold TruncateState.appendTag
  split
  · exact .inl rfl
  · rename_i fitting
    refine .inr ⟨_, rfl, isStack, ?_, ?_, ?_⟩
    · rw [List.flatten_concat, List.length_append, fits.currentLen]
      push_cast
      rfl
    · rwa [List.flatten_concat]
    · rw [available]
      dsimp only
      omega

/-- A text is copied as far as there is room for it. -/
theorem step_text (fits : Fits maxLen stack state) (isText : IsText text) :
    (∃ last, state.step maxLen text = .done last ∧ Fits maxLen stack last) ∨
      ∃ next, state.step maxLen text = .yield next ∧
        Fits maxLen stack next := by
  by_cases visible : text = []
  · exact .inr ⟨state, by rw [step, if_pos visible], fits⟩
  have room := fits.room
  rw [TruncateState.step_text isText visible]
  split
  · exact .inl ⟨state, rfl, fits⟩
  split
  · rename_i positive longer
    refine .inl ⟨_, rfl, fits.isStack, ?_, ?_, ?_⟩
    · have length := fits.currentLen
      rw [List.flatten_concat, List.length_append,
        List.length_take_of_le (by omega)]
      dsimp only
      omega
    · rw [List.flatten_concat]
      exact fits.opened.append (isText.take _).wellFormed
    · have used : 0 ≤ maxLen - 1 - closingTagsLen state.openTags -
          (state.currentLen + state.available maxLen) := by
        rw [available]
        omega
      exact used
  · rename_i positive short
    refine .inr ⟨_, rfl, fits.isStack, ?_, ?_, ?_⟩
    · rw [List.flatten_concat, List.length_append, fits.currentLen]
      push_cast
      rfl
    · rw [List.flatten_concat]
      exact fits.opened.append isText.wellFormed
    · rw [available] at short ⊢
      dsimp only
      omega

/-- The loop keeps the parts fitting, wherever it stops. -/
theorem run {tokens : List (List Char)} (fits : Fits maxLen stack state)
    (nested : Nested stack tokens) :
    ∃ last, Fits maxLen last (state.run maxLen tokens) := by
  induction nested generalizing state with
  | nil => exact ⟨[], fits⟩
  | @text stack tokens text isText _ ih =>
      rw [TruncateState.run]
      rcases fits.step_text isText with ⟨last, stops, fitsLast⟩ |
        ⟨next, goesOn, fitsNext⟩
      · rw [stops]
        exact ⟨stack, fitsLast⟩
      · rw [goesOn]
        exact ih fitsNext
  | @startTag stack tokens name attrs isName isAttrs _ ih =>
      rw [TruncateState.run, step_startTag isName isAttrs]
      have isStack : (state.openTags ++ [name]).reverse = name :: stack := by
        rw [List.reverse_concat, fits.isStack]
      rcases fits.appendTag isStack (fits.opened.startTag isName isAttrs) with
        stops | ⟨next, goesOn, fitsNext⟩
      · rw [stops]
        exact ⟨stack, fits⟩
      · rw [goesOn]
        exact ih fitsNext
  | @endTag stack tokens name isName _ ih =>
      have isOpen : state.openTags = stack.reverse ++ [name] := by
        rw [← List.reverse_cons, ← fits.isStack, List.reverse_reverse]
      rw [TruncateState.run, step_endTag isName _ isOpen]
      rcases fits.appendTag (List.reverse_reverse stack) fits.opened.endTag with
        stops | ⟨next, goesOn, fitsNext⟩
      · rw [stops]
        exact ⟨name :: stack, fits⟩
      · rw [goesOn]
        exact ih fitsNext

/-- With the ellipsis and the end tags the text is well formed and not too
long. -/
theorem finish (fits : Fits maxLen stack state) :
    WellFormed state.finish ∧ (state.finish.length : Int) ≤ maxLen := by
  have ellipsis : WellFormed ['…'] := by
    apply IsText.wellFormed
    exact ⟨by decide, by decide⟩
  have closed := (fits.opened.append ellipsis).close
  have room := fits.room
  rw [available, closingTagsLen_eq, fits.currentLen] at room
  constructor
  · rw [TruncateState.finish, fits.isStack]
    rwa [List.append_assoc, List.singleton_append] at closed
  · rw [TruncateState.finish, List.length_append, List.length_cons]
    push_cast
    omega

end Fits

end TruncateState

/-- Before the loop nothing is open. -/
theorem TruncateState.fits_initially {maxLen : Int} (positive : 1 ≤ maxLen) :
    TruncateState.Fits maxLen [] ⟨[], [], 0⟩ := by
  refine ⟨rfl, rfl, .closed .nil, ?_⟩
  simp only [TruncateState.available, closingTagsLen, List.map_nil,
    List.sum_nil]
  omega

/-- What is cut from a well-formed text is well formed and not too long. -/
theorem truncateHtml_wellFormed {htmlStr : List Char} {maxLen : Int}
    (wellFormed : WellFormed htmlStr) (positive : 1 ≤ maxLen) :
    WellFormed (truncateHtml htmlStr maxLen) ∧
      ((truncateHtml htmlStr maxLen).length : Int) ≤ maxLen := by
  unfold truncateHtml
  split
  · exact ⟨wellFormed, by assumption⟩
  · obtain ⟨last, fits⟩ := (TruncateState.fits_initially positive).run
      (nested_splitTags wellFormed)
    exact fits.finish

end Tca
