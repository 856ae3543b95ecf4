import Tca.BotDeliveries
import Tca.HtmlCuts

/-!
# The messages of the bot

A message links the title of a cluster's representative and names its channel.
All texts are escaped, and the whole message is cut to the length that Telegram
takes.  The file embeds `format_delivery_message`, proves that every message is
well formed and short enough, and says which cuts break an entity.
-/

namespace Tca

open Markup

section Formatting

variable (entry : BotDeliveryEntryRecord)

/-- The title that is escaped, empty if there is none. -/
def deliveryTitle : List Char :=
  (entry.representativeTitle.getD "").toList

/-- `body[:500]`. -/
def deliveryBody : List Char :=
  (entry.representativeBody.getD "").toList.take 500

def deliveryUrl : List Char :=
  (entry.representativeCanonicalUrl.getD "").toList

def deliveryUsername : List Char :=
  (entry.channelUsername.getD "").toList

/-- `title_html`. -/
def titleHtml : List Char :=
  let escapedTitle := htmlEscape (deliveryTitle entry)
  let escapedUrl := htmlEscape (deliveryUrl entry)
  let titleHtml :=
    if escapedTitle = [] then []
    else "<b>".toList ++ escapedTitle ++ "</b>".toList
  if escapedUrl = [] then titleHtml
  else if titleHtml = [] then
    "<a href=\"".toList ++ escapedUrl ++ "\">".toList ++ escapedUrl ++
      "</a>".toList
  else
    "<a href=\"".toList ++ escapedUrl ++ "\">".toList ++ titleHtml ++
      "</a>".toList

/-- `attr_html`. -/
def attrHtml : List Char :=
  let escapedChannelName := htmlEscape entry.channelName.toList
  let escapedChannelUsername := htmlEscape (deliveryUsername entry)
  let via :=
    if escapedChannelUsername = [] then "via ".toList ++ escapedChannelName
    else "via ".toList ++ escapedChannelName ++ " (@".toList ++
      escapedChannelUsername ++ ")".toList
  let duplicates :=
    if entry.duplicateCount > 1 then
      ["+".toList ++ Nat.toDigits 10 entry.duplicateCount ++
        " duplicates".toList]
    else []
  " ".toList.intercalate (via :: duplicates)

/-- `full_message`. -/
def fullMessage : List Char :=
  let escapedBody := htmlEscape (deliveryBody entry)
  "\n\n".toList.intercalate
    ((if titleHtml entry = [] then [] else [titleHtml entry]) ++
      (if escapedBody = [] then [] else [escapedBody]) ++ [attrHtml entry])

/-- Format a record into a Telegram HTML message of 4096 characters at
most. -/
def formatDeliveryMessage : String :=
  String.ofList (truncateHtml (fullMessage entry) 4096)

/-- The text that is linked: the title, or else the address. -/
def linkText : List Char :=
  if deliveryTitle entry = [] then deliveryUrl entry else deliveryTitle entry

/-- The line with the channel and the number of duplicates. -/
def attrText : List Char :=
  "via ".toList ++ entry.channelName.toList ++
    (if deliveryUsername entry = [] then []
      else " (@".toList ++ deliveryUsername entry ++ ")".toList) ++
    (if entry.duplicateCount > 1 then
      " +".toList ++ Nat.toDigits 10 entry.duplicateCount ++
        " duplicates".toList
      else [])

/-- The text behind the link. -/
def restText : List Char :=
  (if linkText entry = [] then [] else "\n\n".toList) ++
    (if deliveryBody entry = [] then []
      else deliveryBody entry ++ "\n\n".toList) ++ attrText entry

/-- The text of the whole message, as it is before escaping. -/
def plainText : List Char :=
  linkText entry ++ restText entry

/-- The elements around the linked text. -/
def linkElements : List (List Char × List Char) :=
  (if deliveryUrl entry = [] then []
    else [("a".toList, " href=\"".toList ++ htmlEscape (deliveryUrl entry) ++
      "\"".toList)]) ++
    (if deliveryTitle entry = [] then [] else [("b".toList, [])])

/-- The number of characters in the tags of a message. -/
def tagChars : Nat :=
  (if deliveryUrl entry = [] then 0
    else (htmlEscape (deliveryUrl entry)).length + 15) +
    if deliveryTitle entry = [] then 0 else 7

end Formatting

section Parts

variable {entry : BotDeliveryEntryRecord}

theorem htmlEscape_digits (number : Nat) :
    htmlEscape (Nat.toDigits 10 number) = Nat.toDigits 10 number := by
  apply htmlEscape_of_plain
  intro char member
  have digit := Nat.isDigit_of_mem_toDigits (by decide) (by decide) member
  have noDigits : ∀ entity ∈ entities, entity.1.isDigit = false := by
    decide
  intro special
  obtain ⟨entity, isEntity, rfl⟩ := List.mem_map.mp special
  rw [noDigits entity isEntity] at digit
  cases digit

theorem htmlEscape_attrText : htmlEscape (attrText entry) = attrHtml entry := by
  have via : htmlEscape "via ".toList = "via ".toList := by decide
  have opening : htmlEscape " (@".toList = " (@".toList := by decide
  have closing : htmlEscape ")".toList = ")".toList := by decide
  have plus : htmlEscape " +".toList = " ".toList ++ "+".toList := by decide
  have duplicates : htmlEscape " duplicates".toList = " duplicates".toList := by
    decide
  have nothing : htmlEscape [] = [] := rfl
  unfold attrText attrHtml
  by_cases username : deliveryUsername entry = [] <;>
    by_cases several : entry.duplicateCount > 1 <;>
    simp only [username, several, if_true, if_false, htmlEscape_append, via,
      opening, closing, plus, duplicates, nothing, htmlEscape_digits,
      htmlEscape_eq_nil_iff, List.intercalate_singleton,
      List.intercalate_cons_cons, List.append_nil, List.append_assoc]

/-- The linked text stands between its tags. -/
theorem titleHtml_eq_wrapped :
    titleHtml entry =
      wrapped (linkElements entry) (htmlEscape (linkText entry)) [] := by
  unfold titleHtml linkText linkElements wrapped closingTags
  by_cases url : deliveryUrl entry = [] <;>
    by_cases title : deliveryTitle entry = []
  · simp [url, title, htmlEscape]
  · simp [url, title, htmlEscape_eq_nil_iff, startTag, endTag]
  · simp [url, title, htmlEscape_eq_nil_iff, startTag, endTag]
  · simp [url, title, htmlEscape_eq_nil_iff, startTag, endTag]

theorem titleHtml_eq_nil_iff : titleHtml entry = [] ↔ linkText entry = [] := by
  unfold titleHtml linkText
  by_cases url : deliveryUrl entry = [] <;>
    by_cases title : deliveryTitle entry = [] <;>
    simp [url, title, htmlEscape_eq_nil_iff]

/-- A message is a link with its text behind it. -/
theorem fullMessage_eq_wrapped :
    fullMessage entry = wrapped (linkElements entry)
      (htmlEscape (linkText entry)) (htmlEscape (restText entry)) := by
  have nothing : htmlEscape [] = [] := rfl
  have between : htmlEscape "\n\n".toList = "\n\n".toList := by decide
  have behind : wrapped (linkElements entry) (htmlEscape (linkText entry))
      (htmlEscape (restText entry)) =
        titleHtml entry ++ htmlEscape (restText entry) := by
    rw [titleHtml_eq_wrapped, wrapped, wrapped, List.append_nil]
  rw [behind]
  unfold fullMessage restText
  by_cases link : linkText entry = [] <;>
    by_cases body : deliveryBody entry = []
  · simp only [titleHtml_eq_nil_iff.mpr link, link, body, if_true, nothing,
      List.nil_append, htmlEscape_attrText, List.intercalate_singleton]
  · simp only [titleHtml_eq_nil_iff.mpr link, link, body, if_true, if_false,
      htmlEscape_eq_nil_iff, List.nil_append, htmlEscape_append,
      htmlEscape_attrText, between, List.intercalate_singleton,
      List.intercalate_cons_cons, List.cons_append, List.append_assoc]
  · simp only [titleHtml_eq_nil_iff, link, body, if_true, if_false, nothing,
      List.nil_append, List.append_nil, htmlEscape_append, htmlEscape_attrText,
      between, List.intercalate_singleton, List.intercalate_cons_cons,
      List.cons_append, List.append_assoc]
  · simp only [titleHtml_eq_nil_iff, htmlEscape_eq_nil_iff, link, body,
      if_false, List.nil_append, htmlEscape_append, htmlEscape_attrText,
      between, List.intercalate_singleton, List.intercalate_cons_cons,
      List.cons_append, List.append_assoc]

theorem linkElements_valid : ∀ element ∈ linkElements entry,
    IsName element.1 ∧ IsAttrs element.2 ∧
      EntitiesComplete (startTag element.1 element.2) := by
  have link : IsName "a".toList := isName_singleton rfl
  have bold : IsName "b".toList := isName_singleton rfl
  have address : IsAttrs (" href=\"".toList ++
      htmlEscape (deliveryUrl entry) ++ "\"".toList) := by
    refine ⟨?_, ?_, ?_⟩
    · rw [isText_append, isText_append]
      exact ⟨⟨⟨by decide, by decide⟩, isText_htmlEscape _⟩,
        by decide, by decide⟩
    · intro first isFirst
      obtain rfl := Option.some.inj isFirst
      decide
    · have last : "\"".toList = ['"'] := rfl
      rw [last, List.getLast?_concat]
      decide
  have opening : EntitiesComplete "<a href=\"".toList :=
    entitiesComplete_of_notMem (by decide)
  have ending : EntitiesComplete "\">".toList :=
    entitiesComplete_of_notMem (by decide)
  have linkTag : startTag "a".toList (" href=\"".toList ++
      htmlEscape (deliveryUrl entry) ++ "\"".toList) =
        "<a href=\"".toList ++ (htmlEscape (deliveryUrl entry) ++
          "\">".toList) := by
    simp [startTag]
  intro element member
  rcases List.mem_append.mp member with inLink | inTitle
  · split at inLink
    · cases inLink
    · obtain rfl := List.mem_singleton.mp inLink
      refine ⟨link, address, ?_⟩
      rw [linkTag]
      exact opening.append ((entitiesComplete_htmlEscape _).append ending)
  · split at inTitle
    · cases inTitle
    · obtain rfl := List.mem_singleton.mp inTitle
      exact ⟨bold, isAttrs_nil, entitiesComplete_of_notMem (by decide)⟩

theorem tagsLength_linkElements :
    tagsLength (linkElements entry) = tagChars entry := by
  unfold linkElements tagChars tagsLength
  by_cases url : deliveryUrl entry = [] <;>
    by_cases title : deliveryTitle entry = [] <;>
    simp [url, title, startTag, endTag]
  all_goals omega

/-- Every message is well formed before it is cut. -/
theorem wellFormed_fullMessage : WellFormed (fullMessage entry) := by
  rw [fullMessage_eq_wrapped]
  exact wellFormed_wrapped
    (fun element member => ⟨(linkElements_valid element member).1,
      (linkElements_valid element member).2.1⟩)
    (isText_htmlEscape _) (isText_htmlEscape _)

theorem length_fullMessage :
    (fullMessage entry).length =
      tagChars entry + (htmlEscape (plainText entry)).length := by
  rw [fullMessage_eq_wrapped, length_wrapped, tagsLength_linkElements,
    plainText, htmlEscape_append]

end Parts

/-- The result of a well-formed text is well formed and not longer than the
limit, and a text within the limit is not changed.  So every message of the bot
is well formed and has 4096 characters at most. -/
theorem truncated_html_well_formed {htmlStr : List Char} {maxLen : Int}
    (wellFormed : WellFormed htmlStr) (positive : 1 ≤ maxLen)
    (entry : BotDeliveryEntryRecord) :
    (WellFormed (truncateHtml htmlStr maxLen) ∧
        ((truncateHtml htmlStr maxLen).length : Int) ≤ maxLen ∧
        ((htmlStr.length : Int) ≤ maxLen →
          truncateHtml htmlStr maxLen = htmlStr)) ∧
      WellFormed (formatDeliveryMessage entry).toList ∧
      (formatDeliveryMessage entry).toList.length ≤ 4096 := by
  obtain ⟨cut, fits⟩ := truncateHtml_wellFormed wellFormed positive
  have message := truncateHtml_wellFormed (@wellFormed_fullMessage entry)
    (by decide : (1 : Int) ≤ 4096)
  rw [formatDeliveryMessage, String.toList_ofList]
  refine ⟨⟨cut, fits, ?_⟩, message.1, by exact_mod_cast message.2⟩
  intro short
  rw [truncateHtml, if_pos short]

/-- An entry of a channel without a name of its own. -/
def sampleDeliveryEntry (title : String) : BotDeliveryEntryRecord :=
  ⟨1, some title, none, none, none, "n", none, 1⟩

/-- A bold text is cut to a letter, the ellipsis and the end tag. -/
theorem truncated_html_sample :
    truncateHtml "<b>abc</b>".toList 9 = "<b>a…</b>".toList ∧
      WellFormed (truncateHtml "<b>abc</b>".toList 9) ∧
      WellFormed (formatDeliveryMessage (sampleDeliveryEntry "t")).toList := by
  have wellFormed : WellFormed "<b>abc</b>".toList := by
    have inner : WellFormed "abc".toList :=
      IsText.wellFormed ⟨by decide, by decide⟩
    have name : IsName "b".toList := isName_singleton rfl
    exact .element name isAttrs_nil inner .nil
  have both := truncated_html_well_formed wellFormed (by decide : (1 : Int) ≤ 9)
    (sampleDeliveryEntry "t")
  exact ⟨by decide, both.1.1, both.2.1⟩

/-- Without its tags and entities a message is the plain text or a part of it
with an ellipsis, and every `&` starts an entity. -/
def KeepsEntities (message plain : List Char) : Prop :=
  (unescape 0 (removeTags false message) = plain ∨
    ∃ front, front <+: plain ∧
      unescape 0 (removeTags false message) = front ++ ['…']) ∧
    EntitiesComplete message

section Cuts

variable {entry : BotDeliveryEntryRecord}

/-- A message that need not be cut has the whole text. -/
theorem keepsEntities_of_short
    (short : tagChars entry + (htmlEscape (plainText entry)).length ≤ 4096) :
    KeepsEntities (truncateHtml (fullMessage entry) 4096)
      (plainText entry) := by
  have fits : ((fullMessage entry).length : Int) ≤ 4096 := by
    rw [length_fullMessage]
    exact_mod_cast short
  have behind : removeTags false (htmlEscape (restText entry)) =
      htmlEscape (restText entry) := by
    have alone := @removeTags_append_of_isText _ [] (isText_htmlEscape
      (restText entry))
    rwa [List.append_nil, removeTags, List.append_nil] at alone
  have read := unescape_htmlEscape (plainText entry) []
  rw [List.append_nil, unescape, List.append_nil] at read
  rw [truncateHtml, if_pos fits, fullMessage_eq_wrapped]
  constructor
  · left
    rw [removeTags_wrapped (fun element member =>
        ⟨(linkElements_valid element member).1,
          (linkElements_valid element member).2.1⟩)
      (isText_htmlEscape _), behind, ← htmlEscape_append]
    exact read
  · exact entitiesComplete_wrapped (fun element member =>
        ⟨(linkElements_valid element member).1,
          (linkElements_valid element member).2.2⟩)
      (entitiesComplete_htmlEscape _) (entitiesComplete_htmlEscape _)

/-- What a message that is too long shows, and when its entities are whole. -/
theorem cut_of_long
    (long : 4096 < tagChars entry + (htmlEscape (plainText entry)).length) :
    removeTags false (truncateHtml (fullMessage entry) 4096) =
        (htmlEscape (plainText entry)).take (4095 - tagChars entry) ++ ['…'] ∧
      (EntitiesComplete (truncateHtml (fullMessage entry) 4096) ↔
        EntitiesComplete ((htmlEscape (plainText entry)).take
          (4095 - tagChars entry) ++ ['…'])) := by
  have longer : (4096 : Int) < (wrapped (linkElements entry)
      (htmlEscape (linkText entry)) (htmlEscape (restText entry))).length := by
    rw [← fullMessage_eq_wrapped, length_fullMessage]
    exact_mod_cast long
  have room : ((4096 : Int) - 1 - tagsLength (linkElements entry)).toNat =
      4095 - tagChars entry := by
    rw [tagsLength_linkElements]
    omega
  have cut := truncateHtml_wrapped linkElements_valid (isText_htmlEscape _)
    (entitiesComplete_htmlEscape _) (isText_htmlEscape _)
    (entitiesComplete_htmlEscape _) (by decide) longer
  rwa [← fullMessage_eq_wrapped, ← htmlEscape_append, room] at cut

end Cuts

/-- A message keeps its entities exactly if it need not be cut, or if the
room that the tags leave for text is filled by a part of the plain text. -/
theorem delivery_entities_whole_iff (entry : BotDeliveryEntryRecord) :
    KeepsEntities (formatDeliveryMessage entry).toList (plainText entry) ↔
      tagChars entry + (htmlEscape (plainText entry)).length ≤ 4096 ∨
        ∃ front, front <+: plainText entry ∧
          (htmlEscape front).length = 4095 - tagChars entry := by
  rw [formatDeliveryMessage, String.toList_ofList]
  by_cases short : tagChars entry + (htmlEscape (plainText entry)).length ≤
      4096
  · exact iff_of_true (keepsEntities_of_short short) (.inl short)
  · obtain ⟨shown, complete⟩ := cut_of_long (not_le.mp short)
    rw [KeepsEntities, complete, entitiesComplete_take_iff _ _ _
      (entitiesComplete_of_notMem List.not_mem_nil)]
    constructor
    · rintro ⟨-, whole | filled⟩
      · -- The tags alone are longer than the limit.
        refine .inr ⟨[], List.nil_prefix, ?_⟩
        rw [htmlEscape, List.flatMap_nil, List.length_nil]
        omega
      · exact .inr filled
    · rintro (whole | ⟨front, ⟨rest, isPlain⟩, filled⟩)
      · exact absurd whole short
      · refine ⟨.inr ⟨front, ⟨rest, isPlain⟩, ?_⟩,
          .inr ⟨front, ⟨rest, isPlain⟩, filled⟩⟩
        rw [shown, ← isPlain, htmlEscape_append, ← filled, List.take_left,
          unescape_htmlEscape]
        rfl

theorem length_htmlEscape_ampersands (count : Nat) :
    (htmlEscape (List.replicate count '&')).length = 5 * count := by
  induction count with
  | zero => rfl
  | succ count ih =>
      have one : (escapeChar '&').length = 5 := by decide
      rw [List.replicate_succ, htmlEscape_cons, List.length_append, ih]
      omega

/-- An entry whose title consists of ampersands. -/
def ampersandsEntry : BotDeliveryEntryRecord :=
  sampleDeliveryEntry (String.ofList (List.replicate 1000 '&'))

/-- A title of a thousand ampersands is cut inside of an entity. -/
theorem ampersands_are_cut :
    ¬ KeepsEntities (formatDeliveryMessage ampersandsEntry).toList
      (plainText ampersandsEntry) := by
  have title : deliveryTitle ampersandsEntry = List.replicate 1000 '&' :=
    String.toList_ofList
  have visible : deliveryTitle ampersandsEntry ≠ [] := by
    rw [title]
    exact List.cons_ne_nil _ _
  have tags : tagChars ampersandsEntry = 7 := by
    rw [tagChars, if_neg visible]
    rfl
  have text : plainText ampersandsEntry =
      List.replicate 1000 '&' ++ restText ampersandsEntry := by
    rw [plainText, linkText, if_neg visible, title]
  have escaped : 5000 ≤ (htmlEscape (plainText ampersandsEntry)).length := by
    rw [text, htmlEscape_append, List.length_append,
      length_htmlEscape_ampersands]
    omega
  rintro ⟨-, complete⟩
  rw [formatDeliveryMessage, String.toList_ofList,
    (cut_of_long (by omega)).2, entitiesComplete_take_iff _ _ _
      (entitiesComplete_of_notMem List.not_mem_nil), tags] at complete
  rcases complete with whole | ⟨front, isFront, filled⟩
  · omega
  · rw [text] at isFront
    rcases List.prefix_or_prefix_of_prefix isFront
      (List.prefix_append _ _) with inside | ⟨rest, rfl⟩
    · have same : front = List.replicate front.length '&' := by
        apply List.eq_replicate_of_mem
        intro char member
        exact List.eq_of_mem_replicate (inside.subset member)
      rw [same, length_htmlEscape_ampersands] at filled
      omega
    · rw [htmlEscape_append, List.length_append,
        length_htmlEscape_ampersands] at filled
      omega

end Tca
