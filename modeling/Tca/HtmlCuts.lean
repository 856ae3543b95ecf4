import Tca.HtmlEntities
import Tca.HtmlTruncation
import Mathlib.Algebra.GroupWithZero.Nat

/-!
# Where the text of HTML is cut

Where all start tags stand in front of a text, the room for the text is what
the tags leave, and the text without the tags is cut exactly there.  The file
follows the loop of `truncate_html` over such texts and says when the cut keeps
the entities whole.
-/

namespace Tca

open Markup

/-- A text, and what remains of it without its tags.  The entities in front of
a tag and inside of it are complete. -/
inductive Shows : List Char → List Char → Prop where
  | nil : Shows [] []
  | text {markup shown text : List Char} (isText : IsText text) :
      Shows markup shown → Shows (markup ++ text) (shown ++ text)
  | startTag {markup shown name attrs : List Char} (isName : IsName name)
      (isAttrs : IsAttrs attrs)
      (complete : EntitiesComplete (Markup.startTag name attrs))
      (before : EntitiesComplete shown) : Shows markup shown →
        Shows (markup ++ Markup.startTag name attrs) shown
  | endTag {markup shown name : List Char} (isName : IsName name)
      (before : EntitiesComplete shown) : Shows markup shown →
        Shows (markup ++ Markup.endTag name) shown

theorem entitiesComplete_endTag {name : List Char} (isName : IsName name) :
    EntitiesComplete (endTag name) := by
  apply entitiesComplete_of_notMem
  intro member
  have inName : '&' ∈ name := by
    simpa [endTag] using member
  exact absurd (isName.2 '&' inName) (by decide)

theorem entitiesComplete_closingTags {stack : List (List Char)}
    (areNames : ∀ name ∈ stack, IsName name) :
    EntitiesComplete (closingTags stack) := by
  induction stack with
  | nil => exact entitiesComplete_of_notMem List.not_mem_nil
  | cons name stack ih =>
      obtain ⟨isName, later⟩ := List.forall_mem_cons.mp areNames
      exact (entitiesComplete_endTag isName).append (ih later)

theorem removeTags_closingTags {stack : List (List Char)}
    (areNames : ∀ name ∈ stack, IsName name) :
    removeTags false (closingTags stack) = [] := by
  induction stack with
  | nil => rfl
  | cons name stack ih =>
      obtain ⟨isName, later⟩ := List.forall_mem_cons.mp areNames
      rw [closingTags, List.flatMap_cons, removeTags_endTag isName]
      exact ih later

namespace Shows

variable {markup shown : List Char}

theorem removeTags (shows : Shows markup shown) (rest : List Char) :
    Markup.removeTags false (markup ++ rest) =
      shown ++ Markup.removeTags false rest := by
  induction shows generalizing rest with
  | nil => rfl
  | text isText _ ih =>
      rw [List.append_assoc, ih, removeTags_append_of_isText isText,
        List.append_assoc]
  | startTag isName isAttrs _ _ _ ih =>
      rw [List.append_assoc, ih, removeTags_startTag isName isAttrs]
  | endTag isName _ _ ih =>
      rw [List.append_assoc, ih, removeTags_endTag isName]

/-- The entities are complete if they are without the tags. -/
theorem entitiesComplete (shows : Shows markup shown) {rest : List Char}
    (complete : EntitiesComplete (shown ++ rest)) :
    EntitiesComplete (markup ++ rest) := by
  induction shows generalizing rest with
  | nil => exact complete
  | text isText _ ih =>
      rw [List.append_assoc] at complete ⊢
      exact ih complete
  | startTag isName isAttrs tagComplete before _ ih =>
      rw [List.append_assoc]
      exact ih (before.append (tagComplete.append complete.of_append))
  | endTag isName before _ ih =>
      rw [List.append_assoc]
      exact ih (before.append
        ((entitiesComplete_endTag isName).append complete.of_append))

end Shows

/-- Tokens without start tags, and the text in them. -/
inductive Closing :
    List (List Char) → List (List Char) → List Char → Prop where
  | nil : Closing [] [] []
  | text {stack tokens : List (List Char)} {text later : List Char}
      (isText : IsText text) (complete : EntitiesComplete text) :
      Closing stack tokens later →
        Closing stack (text :: tokens) (text ++ later)
  | endTag {stack tokens : List (List Char)} {name later : List Char}
      (isName : IsName name) : Closing stack tokens later →
        Closing (name :: stack) (Markup.endTag name :: tokens) later

/-- The length of the tags of some elements. -/
def tagsLength (elements : List (List Char × List Char)) : Nat :=
  (elements.map fun element => (startTag element.1 element.2).length +
    (endTag element.1).length).sum

/-- Elements around a text, and a text behind them. -/
def wrapped (elements : List (List Char × List Char))
    (inner behind : List Char) : List Char :=
  (elements.flatMap fun element => startTag element.1 element.2) ++ inner ++
    closingTags (elements.map Prod.fst).reverse ++ behind

section Splitting

variable {elements : List (List Char × List Char)} {stack : List (List Char)}
  {text rest : List Char}

theorem splitTags_append_of_isText (isText : IsText text)
    (before : List Char) :
    splitTags 0 before (text ++ rest) = splitTags 0 (before ++ text) rest := by
  induction text generalizing before with
  | nil => rw [List.nil_append, List.append_nil]
  | cons char text ih =>
      obtain ⟨isChar, isRest⟩ := (@isText_append [char] text).mp isText
      have outside : char ≠ '<' := by
        rintro rfl
        exact isChar.1 List.mem_cons_self
      rw [List.cons_append, splitTags_text outside, ih isRest,
        List.append_assoc, List.singleton_append]

/-- Start tags at the beginning are split off one after the other. -/
theorem splitTags_startTags
    (valid : ∀ element ∈ elements, IsName element.1 ∧ IsAttrs element.2) :
    splitTags 0 [] ((elements.flatMap fun element =>
        startTag element.1 element.2) ++ rest) =
      (elements.flatMap fun element => [[], startTag element.1 element.2]) ++
        splitTags 0 [] rest := by
  induction elements with
  | nil => rfl
  | cons element elements ih =>
      obtain ⟨⟨isName, isAttrs⟩, later⟩ := List.forall_mem_cons.mp valid
      rw [List.flatMap_cons, List.append_assoc, splitTags_tag startTag_ne_nil
        (afterTag_startTag isName isAttrs), ih later]
      rfl

/-- End tags and the texts around them. -/
theorem closing_splitTags (areNames : ∀ name ∈ stack, IsName name)
    {behind : List Char} (isBehind : IsText behind)
    (behindComplete : EntitiesComplete behind) (isText : IsText text)
    (complete : EntitiesComplete text) :
    Closing stack (splitTags 0 text (closingTags stack ++ behind))
      (text ++ behind) := by
  induction stack generalizing text with
  | nil =>
      have tokens : splitTags 0 text behind = [text ++ behind] := by
        have all := @splitTags_append_of_isText behind [] isBehind text
        rwa [List.append_nil] at all
      have last := Closing.text (isText_append.mpr ⟨isText, isBehind⟩)
        (complete.append behindComplete) Closing.nil
      rw [List.append_nil] at last
      rw [closingTags, List.flatMap_nil, List.nil_append, tokens]
      exact last
  | cons name stack ih =>
      obtain ⟨isName, later⟩ := List.forall_mem_cons.mp areNames
      rw [closingTags, List.flatMap_cons, List.append_assoc,
        splitTags_tag endTag_ne_nil (afterTag_endTag isName)]
      refine .text isText complete (.endTag isName ?_)
      have after := @ih [] later ⟨List.not_mem_nil, List.not_mem_nil⟩
        (entitiesComplete_of_notMem List.not_mem_nil)
      rwa [List.nil_append] at after

end Splitting

theorem Markup.Opened.names {stack : List (List Char)} {text : List Char}
    (opened : Opened stack text) : ∀ name ∈ stack, IsName name := by
  induction opened with
  | closed _ =>
      intro name member
      cases member
  | enter isName _ _ _ ih =>
      rw [List.forall_mem_cons]
      exact ⟨isName, ih⟩

namespace TruncateState

variable {maxLen : Int} {state : TruncateState} {stack tokens : List (List Char)}
  {shown text : List Char}

/-- The end tag of an open element always fits. -/
theorem Fits.appendTag_endTag {name : List Char}
    (fits : Fits maxLen (name :: stack) state) :
    ∃ next, state.appendTag maxLen (Markup.endTag name) stack.reverse =
        .yield next ∧
      Fits maxLen stack next ∧
      next.resultParts.flatten =
        state.resultParts.flatten ++ Markup.endTag name ∧
      next.available maxLen = state.available maxLen := by
  have room := fits.room
  have isOpen : state.openTags = stack.reverse ++ [name] := by
    rw [← List.reverse_cons, ← fits.isStack, List.reverse_reverse]
  have reserved : closingTagsLen state.openTags =
      closingTagsLen stack.reverse + (Markup.endTag name).length := by
    rw [isOpen, closingTagsLen_concat]
  rcases fits.appendTag (List.reverse_reverse stack) fits.opened.endTag with
    stops | ⟨next, goesOn, fitsNext⟩
  · rw [TruncateState.appendTag, if_neg] at stops
    · cases stops
    · rw [available] at room
      omega
  · refine ⟨next, goesOn, fitsNext, ?_⟩
    rw [TruncateState.appendTag, if_neg] at goesOn
    · obtain rfl := ForInStep.yield.inj goesOn
      constructor
      · exact List.flatten_concat
      · rw [available, available]
        dsimp only
        omega
    · rw [available] at room
      omega

/-- A text is left out, cut, or copied whole, as there is room for it. -/
theorem Fits.step_cases (fits : Fits maxLen stack state)
    (isText : IsText text) :
    (state.step maxLen text = .done state ∧ state.available maxLen ≤ 0) ∨
      (∃ last, state.step maxLen text = .done last ∧
        Fits maxLen stack last ∧
        last.resultParts.flatten = state.resultParts.flatten ++
          text.take (state.available maxLen).toNat ∧
        state.available maxLen < text.length) ∨
      ∃ next, state.step maxLen text = .yield next ∧
        Fits maxLen stack next ∧
        next.resultParts.flatten = state.resultParts.flatten ++ text ∧
        next.available maxLen = state.available maxLen - text.length := by
  by_cases visible : text = []
  · refine .inr (.inr ⟨state, by rw [step, if_pos visible], fits, ?_, ?_⟩)
    · rw [visible, List.append_nil]
    · rw [visible, List.length_nil]
      omega
  · have stepIs := @TruncateState.step_text maxLen state text isText visible
    have keeps := fits.step_text isText
    split at stepIs
    · rename_i full
      exact .inl ⟨stepIs, full⟩
    split at stepIs
    · rename_i longer
      rw [stepIs] at keeps ⊢
      rcases keeps with ⟨last, stops, fitsLast⟩ | ⟨next, goesOn, -⟩
      · obtain rfl := ForInStep.done.inj stops
        exact .inr (.inl ⟨_, rfl, fitsLast, List.flatten_concat, longer⟩)
      · cases goesOn
    · rw [stepIs] at keeps ⊢
      rcases keeps with ⟨last, stops, -⟩ | ⟨next, goesOn, fitsNext⟩
      · cases stops
      · obtain rfl := ForInStep.yield.inj goesOn
        refine .inr (.inr ⟨_, rfl, fitsNext, List.flatten_concat, ?_⟩)
        rw [available, available]
        dsimp only
        omega

/-- The loop copies as much of the text as there is room for. -/
theorem run_closing (fits : Fits maxLen stack state)
    (shows : Shows state.resultParts.flatten shown)
    (complete : EntitiesComplete shown) (closing : Closing stack tokens text) :
    ∃ last, Fits maxLen last (state.run maxLen tokens) ∧
      Shows (state.run maxLen tokens).resultParts.flatten
        (shown ++ text.take (state.available maxLen).toNat) := by
  induction closing generalizing state shown with
  | nil =>
      refine ⟨[], fits, ?_⟩
      rwa [List.take_nil, List.append_nil]
  | @text stack tokens text later isText textComplete _ ih =>
      rw [run]
      rcases fits.step_cases isText with ⟨stops, full⟩ |
        ⟨last, stops, fitsLast, parts, longer⟩ |
        ⟨next, goesOn, fitsNext, parts, used⟩
      · have none : (state.available maxLen).toNat = 0 := by omega
        rw [stops, none, List.take_zero, List.append_nil]
        exact ⟨stack, fits, shows⟩
      · rw [stops, List.take_append_of_le_length (by omega)]
        refine ⟨stack, fitsLast, ?_⟩
        rw [parts]
        exact .text (isText.take _) shows
      · have showsNext : Shows next.resultParts.flatten (shown ++ text) := by
          rw [parts]
          exact .text isText shows
        obtain ⟨last, fitsLast, showsLast⟩ :=
          ih fitsNext showsNext (complete.append textComplete)
        have left : (next.available maxLen).toNat =
            (state.available maxLen).toNat - text.length := by
          omega
        have room := fitsNext.room
        rw [goesOn, List.take_append, List.take_of_length_le (by omega),
          ← List.append_assoc, ← left]
        exact ⟨last, fitsLast, showsLast⟩
  | @endTag stack tokens name later isName _ ih =>
      have isOpen : state.openTags = stack.reverse ++ [name] := by
        rw [← List.reverse_cons, ← fits.isStack, List.reverse_reverse]
      obtain ⟨next, goesOn, fitsNext, parts, sameRoom⟩ := fits.appendTag_endTag
      rw [run, step_endTag isName _ isOpen, goesOn, ← sameRoom]
      apply ih fitsNext _ complete
      rw [parts]
      exact .endTag isName complete shows

/-- A start tag is copied with the room for its end tag, or there is no room
left. -/
theorem Fits.appendTag_startTag {name attrs : List Char}
    (fits : Fits maxLen stack state) (isName : IsName name)
    (isAttrs : IsAttrs attrs) :
    (state.appendTag maxLen (Markup.startTag name attrs)
          (state.openTags ++ [name]) = .done state ∧
        state.available maxLen ≤ ((Markup.startTag name attrs).length +
          (Markup.endTag name).length : Nat)) ∨
      ∃ next, state.appendTag maxLen (Markup.startTag name attrs)
          (state.openTags ++ [name]) = .yield next ∧
        Fits maxLen (name :: stack) next ∧
        next.resultParts.flatten =
          state.resultParts.flatten ++ Markup.startTag name attrs ∧
        next.available maxLen = state.available maxLen -
          ((Markup.startTag name attrs).length +
            (Markup.endTag name).length : Nat) := by
  have isStack : (state.openTags ++ [name]).reverse = name :: stack := by
    rw [List.reverse_concat, fits.isStack]
  have opens := closingTagsLen_concat state.openTags name
  have keeps := fits.appendTag isStack (fits.opened.startTag isName isAttrs)
  by_cases fitting : state.currentLen + (Markup.startTag name attrs).length +
      closingTagsLen (state.openTags ++ [name]) + 1 > maxLen
  · left
    rw [TruncateState.appendTag, if_pos fitting, available]
    exact ⟨rfl, by omega⟩
  · right
    rw [TruncateState.appendTag, if_neg fitting] at keeps ⊢
    rcases keeps with stops | ⟨next, goesOn, fitsNext⟩
    · cases stops
    · obtain rfl := ForInStep.yield.inj goesOn
      refine ⟨_, rfl, fitsNext, List.flatten_concat, ?_⟩
      rw [available, available]
      dsimp only
      omega

/-- Start tags are copied as long as they fit with their end tags. -/
theorem run_opening {elements : List (List Char × List Char)}
    (valid : ∀ element ∈ elements, IsName element.1 ∧ IsAttrs element.2 ∧
      EntitiesComplete (Markup.startTag element.1 element.2))
    (fits : Fits maxLen stack state)
    (shows : Shows state.resultParts.flatten shown)
    (complete : EntitiesComplete shown)
    (closing : Closing ((elements.map Prod.fst).reverse ++ stack) tokens
      text) :
    ∃ last, Fits maxLen last (state.run maxLen
        ((elements.flatMap fun element =>
          [[], Markup.startTag element.1 element.2]) ++ tokens)) ∧
      Shows (state.run maxLen ((elements.flatMap fun element =>
          [[], Markup.startTag element.1 element.2]) ++
            tokens)).resultParts.flatten
        (shown ++ text.take
          (state.available maxLen - tagsLength elements).toNat) := by
  induction elements generalizing state stack with
  | nil =>
      have runs := run_closing fits shows complete closing
      simpa [tagsLength] using runs
  | cons element elements ih =>
      obtain ⟨⟨isName, isAttrs, tagComplete⟩, later⟩ :=
        List.forall_mem_cons.mp valid
      have total : tagsLength (element :: elements) =
          (Markup.startTag element.1 element.2).length +
            (Markup.endTag element.1).length + tagsLength elements := by
        simp [tagsLength]
      have emptyToken : state.step maxLen [] = .yield state := by
        rw [step, if_pos rfl]
      rw [List.flatMap_cons, List.append_assoc, List.cons_append,
        List.cons_append, List.nil_append, run, emptyToken]
      simp only [run, step_startTag isName isAttrs]
      rcases fits.appendTag_startTag isName isAttrs with ⟨stops, full⟩ |
        ⟨next, goesOn, fitsNext, parts, left⟩
      · have none : (state.available maxLen -
            tagsLength (element :: elements)).toNat = 0 := by
          omega
        rw [stops, none, List.take_zero, List.append_nil]
        exact ⟨stack, fits, shows⟩
      · have room : next.available maxLen - tagsLength elements =
            state.available maxLen - tagsLength (element :: elements) := by
          omega
        rw [goesOn, ← room]
        apply ih later fitsNext
        · rw [parts]
          exact .startTag isName isAttrs tagComplete complete shows
        · simpa using closing

end TruncateState

section Cuts

variable {elements : List (List Char × List Char)} {inner behind : List Char}

theorem wrapped_nil : wrapped [] inner behind = inner ++ behind := by
  simp [wrapped, closingTags]

theorem wrapped_cons (element : List Char × List Char) :
    wrapped (element :: elements) inner behind =
      startTag element.1 element.2 ++
        wrapped elements inner (endTag element.1 ++ behind) := by
  simp [wrapped, closingTags]

theorem length_wrapped :
    (wrapped elements inner behind).length =
      tagsLength elements + (inner ++ behind).length := by
  induction elements generalizing behind with
  | nil => simp [wrapped, tagsLength, closingTags]
  | cons element elements ih =>
      rw [wrapped_cons, List.length_append, ih]
      simp only [tagsLength, List.map_cons, List.sum_cons, List.length_append]
      omega

/-- Without its tags, a wrapped text is the text inside and behind. -/
theorem removeTags_wrapped
    (valid : ∀ element ∈ elements, IsName element.1 ∧ IsAttrs element.2)
    (isInner : IsText inner) :
    removeTags false (wrapped elements inner behind) =
      inner ++ removeTags false behind := by
  induction elements generalizing behind with
  | nil =>
      rw [wrapped_nil, removeTags_append_of_isText isInner]
  | cons element elements ih =>
      obtain ⟨⟨isName, isAttrs⟩, later⟩ := List.forall_mem_cons.mp valid
      rw [wrapped_cons, removeTags_startTag isName isAttrs, ih later,
        removeTags_endTag isName]

theorem entitiesComplete_wrapped
    (valid : ∀ element ∈ elements, IsName element.1 ∧
      EntitiesComplete (startTag element.1 element.2))
    (innerComplete : EntitiesComplete inner)
    (behindComplete : EntitiesComplete behind) :
    EntitiesComplete (wrapped elements inner behind) := by
  induction elements generalizing behind with
  | nil =>
      rw [wrapped_nil]
      exact innerComplete.append behindComplete
  | cons element elements ih =>
      obtain ⟨⟨isName, complete⟩, later⟩ := List.forall_mem_cons.mp valid
      rw [wrapped_cons]
      exact complete.append (ih later
        ((entitiesComplete_endTag isName).append behindComplete))

/-- Elements around a text are well formed. -/
theorem wellFormed_wrapped
    (valid : ∀ element ∈ elements, IsName element.1 ∧ IsAttrs element.2)
    (isInner : IsText inner) (isBehind : IsText behind) :
    WellFormed (wrapped elements inner behind) := by
  induction elements generalizing behind with
  | nil =>
      rw [wrapped_nil]
      exact (isText_append.mpr ⟨isInner, isBehind⟩).wellFormed
  | cons element elements ih =>
      obtain ⟨⟨isName, isAttrs⟩, later⟩ := List.forall_mem_cons.mp valid
      have split : wrapped (element :: elements) inner behind =
          startTag element.1 element.2 ++ wrapped elements inner [] ++
            endTag element.1 ++ behind := by
        simp [wrapped, closingTags]
      rw [split]
      apply WellFormed.element isName isAttrs _ isBehind.wellFormed
      exact ih later ⟨List.not_mem_nil, List.not_mem_nil⟩

/-- The tokens of elements around a text. -/
theorem splitTags_wrapped
    (valid : ∀ element ∈ elements, IsName element.1 ∧ IsAttrs element.2)
    (isInner : IsText inner) :
    splitTags 0 [] (wrapped elements inner behind) =
      (elements.flatMap fun element => [[], startTag element.1 element.2]) ++
        splitTags 0 inner (closingTags (elements.map Prod.fst).reverse ++
          behind) := by
  rw [wrapped, List.append_assoc, List.append_assoc,
    splitTags_startTags valid, splitTags_append_of_isText isInner,
    List.nil_append]

/-- A wrapped text that is too long is cut where the tags leave no more room,
and the cut alone can break an entity. -/
theorem truncateHtml_wrapped {maxLen : Int}
    (valid : ∀ element ∈ elements, IsName element.1 ∧ IsAttrs element.2 ∧
      EntitiesComplete (startTag element.1 element.2))
    (isInner : IsText inner) (innerComplete : EntitiesComplete inner)
    (isBehind : IsText behind) (behindComplete : EntitiesComplete behind)
    (positive : 1 ≤ maxLen)
    (longer : maxLen < (wrapped elements inner behind).length) :
    removeTags false (truncateHtml (wrapped elements inner behind) maxLen) =
        (inner ++ behind).take (maxLen - 1 - tagsLength elements).toNat ++
          ['…'] ∧
      (EntitiesComplete (truncateHtml (wrapped elements inner behind)
          maxLen) ↔
        EntitiesComplete ((inner ++ behind).take
          (maxLen - 1 - tagsLength elements).toNat ++ ['…'])) := by
  have areNames : ∀ name ∈ (elements.map Prod.fst).reverse, IsName name := by
    intro name member
    obtain ⟨element, isElement, rfl⟩ :=
      List.mem_map.mp (List.mem_reverse.mp member)
    exact (valid element isElement).1
  have closing : Closing ((elements.map Prod.fst).reverse ++ [])
      (splitTags 0 inner (closingTags (elements.map Prod.fst).reverse ++
        behind)) (inner ++ behind) := by
    rw [List.append_nil]
    exact closing_splitTags areNames isBehind behindComplete isInner
      innerComplete
  obtain ⟨stack, fits, shows⟩ := TruncateState.run_opening valid
    (TruncateState.fits_initially positive) Shows.nil
    (entitiesComplete_of_notMem List.not_mem_nil) closing
  have tokens := @splitTags_wrapped elements inner behind
    (fun element member => ⟨(valid element member).1,
      (valid element member).2.1⟩) isInner
  have room : TruncateState.available maxLen ⟨[], [], 0⟩ = maxLen - 1 := by
    simp [TruncateState.available, closingTagsLen]
  rw [← tokens] at fits shows
  rw [room, List.nil_append] at shows
  have names := fits.opened.names
  have tooLong : ¬ ((wrapped elements inner behind).length : Int) ≤ maxLen :=
    Int.not_le.mpr longer
  rw [truncateHtml, if_neg tooLong, TruncateState.finish, fits.isStack]
  have point : IsText ['…'] := ⟨by decide, by decide⟩
  have shown : removeTags false
      ((TruncateState.run maxLen (splitTags 0 [] (wrapped elements inner
        behind)) ⟨[], [], 0⟩).resultParts.flatten ++
          '…' :: closingTags stack) =
      (inner ++ behind).take (maxLen - 1 - tagsLength elements).toNat ++
        ['…'] := by
    rw [shows.removeTags]
    have ellipsis : removeTags false ('…' :: closingTags stack) = ['…'] := by
      have after := @removeTags_append_of_isText ['…'] (closingTags stack)
        point
      rwa [removeTags_closingTags names] at after
    rw [ellipsis]
  refine ⟨shown, ?_, ?_⟩
  · intro complete
    rw [← shown]
    exact complete.removeTags
  · intro complete
    apply shows.entitiesComplete
    have closed := complete.append (entitiesComplete_closingTags names)
    rwa [List.append_assoc, List.singleton_append] at closed

end Cuts

end Tca
