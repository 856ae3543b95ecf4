import Tca.UiThreadPages
import Tca.SortedSets
import Mathlib.Data.String.Basic

/-!
# Channel names that are joined and split again

The thread page joins the names of the channels of a cluster with commas, and
its decoder splits the text at the commas and trims the parts.  A name that has
a comma, or white space at an end, does not come back; the file proves that
the other ones do.
-/

namespace Tca

open SortedSets

section Splitting

open String

/-- The loop of `split(",")`, with a part that has been begun. -/
theorem splitOnAux_comma (before part rest : List Char)
    (parts : List String) :
    splitOnAux (ofList (before ++ part ++ rest)) "," ⟨utf8Len before⟩
        ⟨utf8Len before + utf8Len part⟩ 0 parts =
      parts.reverse ++
        (List.splitOnPPrepend (· == ',') rest part.reverse).map ofList := by
  induction rest generalizing before part parts with
  | nil =>
      have whole := extract_of_valid before part []
      rw [splitOnAux, if_pos]
      · simpa [-ofList_append] using whole
      · simp [-ofList_append, rawEndPos_ofList]
  | cons char rest ih =>
      have here := get_of_valid (before ++ part) (char :: rest)
      have later := next_of_valid (before ++ part) char rest
      have cut := extract_of_valid before part (char :: rest)
      have comma : Pos.Raw.get "," 0 = ',' := rfl
      have afterComma : Pos.Raw.next "," 0 = ⟨1⟩ := rfl
      have commaEnd : Pos.Raw.atEnd "," ⟨1⟩ = true := rfl
      have notEnd : ¬ Pos.Raw.atEnd (ofList (before ++ part ++ char :: rest))
          ⟨utf8Len before + utf8Len part⟩ = true := by
        have width := char.utf8Size_pos
        simp [-ofList_append, rawEndPos_ofList]
        omega
      rw [utf8Len_append, List.headD_cons] at here
      rw [utf8Len_append] at later
      rw [splitOnAux, if_neg notEnd, here, comma, afterComma, later]
      dsimp only
      rw [List.splitOnPPrepend_cons_eq_if, commaEnd, if_pos rfl]
      by_cases isComma : char = ','
      · subst isComma
        have next := ih (before ++ part ++ [',']) [] (ofList part :: parts)
        have width : Char.utf8Size ',' = 1 := rfl
        have back : Pos.Raw.unoffsetBy ⟨utf8Len before + utf8Len part + 1⟩ ⟨1⟩ =
            ⟨utf8Len before + utf8Len part⟩ := rfl
        have same : (',' == ',') = true := rfl
        rw [if_pos same, if_pos same, width, back, cut]
        simpa [-ofList_append, width, Nat.add_assoc] using next
      · have next := ih before (part ++ [char]) parts
        have stays : Pos.Raw.unoffsetBy ⟨utf8Len before + utf8Len part⟩ 0 =
            ⟨utf8Len before + utf8Len part⟩ := rfl
        rw [if_neg (by simpa using isComma), if_neg (by simpa using isComma),
          stays, later]
        simpa [-ofList_append, Nat.add_assoc] using next

/-- A text is split like the list of its characters. -/
theorem splitOn_comma (text : String) :
    text.splitOn "," = (text.toList.splitOn ',').map ofList := by
  have whole := splitOnAux_comma [] [] text.toList []
  have notEmpty : ("," == "") = false := rfl
  rw [splitOn, notEmpty]
  simpa [List.splitOn_eq_splitOnP] using whole

end Splitting

section Names

/-- The name has no comma and no white space at its ends. -/
structure Legible (name : String) : Prop where
  noComma : ',' ∉ name.toList
  trimmed : pythonStrip name = name
  nonempty : name ≠ ""

variable {name text : String} {names : List String}

theorem parseSourceChannelNames_eq (text : String) :
    parseSourceChannelNames text =
      sortedSet (((text.splitOn ",").map pythonStrip).filter (· ≠ "")) :=
  rfl

theorem mem_parseSourceChannelNames :
    name ∈ parseSourceChannelNames text ↔
      name ≠ "" ∧ ∃ part ∈ text.toList.splitOn ',',
        pythonStrip (String.ofList part) = name := by
  rw [parseSourceChannelNames_eq, mem_sortedSet, splitOn_comma]
  simp [and_comm]

/-- The decoder returns legible names only. -/
theorem legible_of_mem (shown : name ∈ parseSourceChannelNames text) :
    Legible name := by
  obtain ⟨nonempty, part, isPart, rfl⟩ := mem_parseSourceChannelNames.mp shown
  constructor
  · intro comma
    have inPart : ',' ∈ part := by
      rw [pythonStrip_eq, String.toList_ofList, String.toList_ofList] at comma
      exact (PythonTexts.strip_infix part).subset comma
    exact PythonTexts.notMem_of_mem_splitOn isPart inPart
  · exact pythonStrip_pythonStrip _
  · exact nonempty

/-- Legible names are read back from the joined text. -/
theorem mem_parse_intercalate (present : names ≠ [])
    (legible : ∀ name ∈ names, Legible name) :
    name ∈ parseSourceChannelNames (",".intercalate names) ↔ name ∈ names := by
  have separate : ∀ part ∈ names.map String.toList, ',' ∉ part := by
    intro part isPart
    obtain ⟨name, isName, rfl⟩ := List.mem_map.mp isPart
    exact (legible name isName).noComma
  have parts : (",".intercalate names).toList.splitOn ',' =
      names.map String.toList := by
    rw [String.toList_intercalate]
    exact List.splitOn_intercalate ',' separate (by simpa using present)
  rw [mem_parseSourceChannelNames, parts]
  constructor
  · rintro ⟨-, part, isPart, rfl⟩
    obtain ⟨name, isName, rfl⟩ := List.mem_map.mp isPart
    rw [String.ofList_toList, (legible name isName).trimmed]
    exact isName
  · intro isName
    have isLegible := legible name isName
    refine ⟨isLegible.nonempty, name.toList, List.mem_map_of_mem isName, ?_⟩
    rw [String.ofList_toList]
    exact isLegible.trimmed

/-- A text of commas and white space, and no other one, has no names. -/
theorem parse_eq_nil_iff :
    parseSourceChannelNames text = [] ↔
      ∀ char ∈ text.toList, char = ',' ∨ isPythonSpace char = true := by
  constructor
  · intro empty char inText
    have joined : [','].intercalate (text.toList.splitOn ',') = text.toList :=
      List.intercalate_splitOn ','
    rw [← joined] at inText
    rcases PythonTexts.mem_intercalate inText with isComma |
      ⟨part, isPart, inPart⟩
    · exact Or.inl isComma
    · right
      by_contra visible
      have nonempty : pythonStrip (String.ofList part) ≠ "" := by
        apply pythonStrip_ne_empty_iff.mpr
        exact ⟨char, by rwa [String.toList_ofList], by simpa using visible⟩
      have shown := mem_parseSourceChannelNames.mpr
        ⟨nonempty, part, isPart, rfl⟩
      rw [empty] at shown
      cases shown
  · intro blank
    apply List.eq_nil_iff_forall_not_mem.mpr
    intro name shown
    obtain ⟨nonempty, part, isPart, rfl⟩ :=
      mem_parseSourceChannelNames.mp shown
    obtain ⟨char, inPart, visible⟩ := pythonStrip_ne_empty_iff.mp nonempty
    rw [String.toList_ofList] at inPart
    rcases blank char (PythonTexts.mem_of_mem_splitOn isPart inPart) with
      rfl | space
    · exact PythonTexts.notMem_of_mem_splitOn isPart inPart
    · rw [visible] at space
      cases space

end Names

namespace Database

variable (db : Database)

/-- A channel of the name has a member in the cluster. -/
def IsSourceName (clusterId : Int) (name : String) : Prop :=
  ∃ member ∈ db.dedupeMembers, member.clusterId = clusterId ∧
    ∃ item ∈ db.items, item.id = member.itemId ∧
      ∃ channel ∈ db.telegramChannels, channel.id = item.channelId ∧
        channel.name = name

/-- The column `source_channel_names` of the row may hold the text:
`GROUP_CONCAT` joins the distinct names in any order. -/
def ShowsNames (row : ThreadRow) (text : String) : Prop :=
  (db.memberChannelNames row.cluster.id = [] ∧ text = row.channel.name) ∨
    ∃ names, names ≠ [] ∧
      names.Perm (db.memberChannelNames row.cluster.id).dedup ∧
      text = ",".intercalate names

/-- The names of the members' channels are legible.  Without members the name
of the representative's channel is shown in their place, and has to be
blank. -/
def NamesSurvive (row : ThreadRow) : Prop :=
  if db.memberChannelNames row.cluster.id = [] then
    ∀ char ∈ row.channel.name.toList,
      char = ',' ∨ isPythonSpace char = true
  else ∀ name, db.IsSourceName row.cluster.id name → Legible name

variable {db} {row : ThreadRow} {text : String}

theorem mem_memberChannelNames {clusterId : Int} {name : String} :
    name ∈ db.memberChannelNames clusterId ↔
      db.IsSourceName clusterId name := by
  simp only [memberChannelNames, clusterMembers, IsSourceName,
    List.mem_flatMap, List.mem_filter, List.mem_map, decide_eq_true_eq,
    and_assoc]

/-- The text of the model is one of those. -/
theorem showsNames_sourceChannelNames (db : Database) (row : ThreadRow) :
    db.ShowsNames row (db.sourceChannelNames row) := by
  unfold sourceChannelNames ShowsNames
  split
  · rename_i empty
    left
    exact ⟨(List.dedup_eq_nil _).mp empty, rfl⟩
  · rename_i names nonempty
    right
    exact ⟨_, nonempty, List.Perm.refl _, rfl⟩

/-- The shown names are the source names exactly if these survive. -/
theorem ShowsNames.mem_iff (shows : db.ShowsNames row text) :
    (∀ name, name ∈ parseSourceChannelNames text ↔
      db.IsSourceName row.cluster.id name) ↔ db.NamesSurvive row := by
  rcases shows with ⟨noMembers, rfl⟩ | ⟨names, nonempty, sameNames, rfl⟩
  · have noSource : ∀ name, ¬ db.IsSourceName row.cluster.id name := by
      intro name isSource
      have listed := mem_memberChannelNames.mpr isSource
      rw [noMembers] at listed
      cases listed
    rw [NamesSurvive, if_pos noMembers, ← parse_eq_nil_iff,
      List.eq_nil_iff_forall_not_mem]
    exact forall_congr' fun name => by simp only [noSource, iff_false]
  · have isSource : ∀ name, name ∈ names ↔
        db.IsSourceName row.cluster.id name := by
      intro name
      rw [sameNames.mem_iff, List.mem_dedup, mem_memberChannelNames]
    have members : db.memberChannelNames row.cluster.id ≠ [] := by
      intro noMembers
      rw [noMembers, List.dedup_nil] at sameNames
      exact nonempty sameNames.eq_nil
    rw [NamesSurvive, if_neg members]
    constructor
    · intro same name source
      exact legible_of_mem ((same name).mpr source)
    · intro legible name
      rw [← isSource]
      apply mem_parse_intercalate nonempty
      intro other listed
      exact legible other ((isSource other).mp listed)

end Database

/-- For every store and every row of the thread page, whatever order
`GROUP_CONCAT` joins the names in, the shown names are the sorted set of the
names of the channels that have a member in the cluster exactly if all of these
are legible: no comma, no white space at an end.  A cluster without members
shows the name of another channel, unless that name is blank. -/
theorem source_channel_names_shown_iff (db : Database) (row : ThreadRow)
    {text : String} (shows : db.ShowsNames row text) :
    ((parseSourceChannelNames text).Pairwise (· < ·) ∧
        ∀ name, name ∈ parseSourceChannelNames text ↔
          db.IsSourceName row.cluster.id name) ↔
      db.NamesSurvive row := by
  have ascending : (parseSourceChannelNames text).Pairwise (· < ·) := by
    rw [parseSourceChannelNames_eq]
    exact sortedSet_strict _
  rw [← shows.mem_iff]
  exact and_iff_right ascending

/-- A store with one cluster, of a channel whose name has a comma. -/
def commaNamedStore : Database :=
  { Database.empty with
    telegramChannels := [⟨1, 1, 100, "News, Sport", none, true⟩]
    items := [Database.sampleItem 1 1 none]
    dedupeClusters := [⟨1, "key-1", some 1⟩]
    dedupeMembers := [⟨1, 1⟩] }

def commaNamedRow : ThreadRow where
  cluster := ⟨1, "key-1", some 1⟩
  representative := Database.sampleItem 1 1 none
  channel := ⟨1, 1, 100, "News, Sport", none, true⟩

/-- One channel is shown as two. -/
theorem comma_splits_channel_name :
    commaNamedStore.Consistent ∧ commaNamedStore.threadRows = [commaNamedRow] ∧
      (decodeUiThreadEntryRow commaNamedStore
        commaNamedRow).sourceChannelNames = ["News", "Sport"] ∧
      ¬ ∀ name, name ∈ (decodeUiThreadEntryRow commaNamedStore
          commaNamedRow).sourceChannelNames ↔
        commaNamedStore.IsSourceName 1 name := by
  have shown : (decodeUiThreadEntryRow commaNamedStore
      commaNamedRow).sourceChannelNames = ["News", "Sport"] := by
    change parseSourceChannelNames "News, Sport" = _
    rw [parseSourceChannelNames, splitOn_comma]
    decide
  refine ⟨by decide, by decide, shown, ?_⟩
  intro same
  have isSource : commaNamedStore.IsSourceName 1 "News, Sport" := by
    apply Database.mem_memberChannelNames.mp
    decide
  have listed := (same "News, Sport").mpr isSource
  rw [shown] at listed
  revert listed
  decide

/-- The names of the sample store are legible. -/
theorem source_channel_names_sample :
    ((parseSourceChannelNames "first").Pairwise (· < ·) ∧
        ∀ name, name ∈ parseSourceChannelNames "first" ↔
          Database.sampleStore.IsSourceName 1 name) ↔
      Database.sampleStore.NamesSurvive
        ⟨⟨1, "key-1", some 1⟩, Database.sampleItem 1 1 none,
          ⟨1, 1, 100, "first", none, true⟩⟩ := by
  have shows : Database.sampleStore.ShowsNames
      ⟨⟨1, "key-1", some 1⟩, Database.sampleItem 1 1 none,
        ⟨1, 1, 100, "first", none, true⟩⟩ "first" := by
    right
    exact ⟨["first"], by decide, by decide, by decide⟩
  exact source_channel_names_shown_iff Database.sampleStore _ shows

end Tca
