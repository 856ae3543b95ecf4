import Mathlib.Data.List.DropRight

/-!
# Taking texts apart

Texts are lists of characters.  The file has the operations of Python's `str`
that look for a separator or trim the ends of a text, and what they make of a
text that is put together from parts.
-/

namespace Tca.PythonTexts

section Partition

/-- `text.partition(separator)`: what is before the first separator and, if
there is one, what follows it. -/
def partition (separator : Char) : List Char → List Char × Option (List Char)
  | [] => ([], none)
  | char :: text =>
      if char = separator then ([], some text)
      else
        (char :: (partition separator text).1, (partition separator text).2)

/-- `text.rpartition(separator)`: what is before the last separator, if there is
one, and what follows it. -/
def rpartition (separator : Char) (text : List Char) :
    Option (List Char) × List Char :=
  let mirrored := partition separator text.reverse
  (mirrored.2.map List.reverse, mirrored.1.reverse)

variable {separator : Char} {text first second : List Char}

theorem partition_of_notMem (absent : separator ∉ text) :
    partition separator text = (text, none) := by
  induction text with
  | nil => rfl
  | cons char text ih =>
      obtain ⟨different, absentLater⟩ := List.ne_and_not_mem_of_not_mem_cons absent
      rw [partition, if_neg (Ne.symm different), ih absentLater]

theorem partition_append (absent : separator ∉ first) :
    partition separator (first ++ separator :: second) =
      (first, some second) := by
  induction first with
  | nil => simp [partition]
  | cons char first ih =>
      obtain ⟨different, absentLater⟩ := List.ne_and_not_mem_of_not_mem_cons absent
      rw [List.cons_append, partition, if_neg (Ne.symm different),
        ih absentLater]

theorem partition_append_of_notMem (absent : separator ∉ first) :
    partition separator (first ++ second) =
      (first ++ (partition separator second).1,
        (partition separator second).2) := by
  induction first with
  | nil => rfl
  | cons char first ih =>
      obtain ⟨different, absentLater⟩ := List.ne_and_not_mem_of_not_mem_cons absent
      rw [List.cons_append, partition, if_neg (Ne.symm different),
        ih absentLater]
      rfl

/-- A text is what a partition makes of it. -/
theorem partition_cases (separator : Char) (text : List Char) :
    (separator ∉ text ∧ partition separator text = (text, none)) ∨
      ∃ first second, separator ∉ first ∧ text = first ++ separator :: second ∧
        partition separator text = (first, some second) := by
  by_cases present : separator ∈ text
  · obtain ⟨first, second, rfl, absent⟩ := List.eq_append_cons_of_mem present
    exact .inr ⟨first, second, absent, rfl, partition_append absent⟩
  · exact .inl ⟨present, partition_of_notMem present⟩

theorem partition_fst_begins (separator : Char) (text : List Char) :
    (partition separator text).1 <+: text := by
  rcases partition_cases separator text with ⟨-, whole⟩ |
    ⟨first, second, -, rfl, whole⟩
  · simp only [whole, List.prefix_rfl]
  · simp only [whole, List.prefix_append]

theorem partition_snd_suffix (separator : Char) (text : List Char) :
    (partition separator text).2.getD [] <:+ text := by
  rcases partition_cases separator text with ⟨-, whole⟩ |
    ⟨first, second, -, rfl, whole⟩
  · rw [whole]
    exact List.nil_suffix
  · rw [whole]
    exact (List.suffix_cons separator second).trans (List.suffix_append _ _)

theorem notMem_partition_fst (separator : Char) (text : List Char) :
    separator ∉ (partition separator text).1 := by
  rcases partition_cases separator text with ⟨absent, whole⟩ |
    ⟨first, second, absent, rfl, whole⟩
  · rwa [whole]
  · rwa [whole]

theorem rpartition_of_notMem (absent : separator ∉ text) :
    rpartition separator text = (none, text) := by
  have mirrored : separator ∉ text.reverse := by simpa using absent
  simp [rpartition, partition_of_notMem mirrored]

theorem rpartition_append (absent : separator ∉ second) :
    rpartition separator (first ++ separator :: second) =
      (some first, second) := by
  have mirrored : separator ∉ second.reverse := by simpa using absent
  have swapped : (first ++ separator :: second).reverse =
      second.reverse ++ separator :: first.reverse := by simp
  simp [rpartition, swapped, partition_append mirrored]

/-- A text is what a partition from the right makes of it. -/
theorem rpartition_cases (separator : Char) (text : List Char) :
    (separator ∉ text ∧ rpartition separator text = (none, text)) ∨
      ∃ first second, separator ∉ second ∧ text = first ++ separator :: second ∧
        rpartition separator text = (some first, second) := by
  by_cases present : separator ∈ text.reverse
  · obtain ⟨first, second, mirrored, absent⟩ :=
      List.eq_append_cons_of_mem present
    have whole : text = second.reverse ++ separator :: first.reverse := by
      rw [← List.reverse_reverse text, mirrored]
      simp
    have absentLater : separator ∉ first.reverse := by simpa using absent
    exact .inr ⟨_, _, absentLater, whole, whole ▸ rpartition_append absentLater⟩
  · rw [List.mem_reverse] at present
    exact .inl ⟨present, rpartition_of_notMem present⟩

end Partition

section Trimming

variable (isSpace : Char → Bool)

/-- `text.rstrip()` for a notion of white space. -/
def rstrip (text : List Char) : List Char :=
  (text.reverse.dropWhile isSpace).reverse

/-- `text.strip()` for a notion of white space. -/
def strip (text : List Char) : List Char :=
  rstrip isSpace (text.dropWhile isSpace)

variable {isSpace} {char : Char} {first second : List Char}

/-- Nothing before a visible character is trimmed. -/
theorem rstrip_append (visible : isSpace char = false) :
    rstrip isSpace (first ++ char :: second) =
      first ++ char :: rstrip isSpace second := by
  have mirrored : (first ++ char :: second).reverse =
      second.reverse ++ char :: first.reverse := by simp
  rw [rstrip, mirrored, List.dropWhile_append]
  split
  · rename_i allSpace
    rw [List.isEmpty_iff] at allSpace
    simp [rstrip, allSpace, visible]
  · simp [rstrip]

theorem rstrip_append_cons (visible : isSpace char = false) :
    rstrip isSpace (first ++ char :: second) =
      first ++ rstrip isSpace (char :: second) := by
  have alone := @rstrip_append isSpace char [] second visible
  rw [rstrip_append visible, ← List.nil_append (char :: second), alone]
  rfl

theorem rstrip_nil : rstrip isSpace [] = [] :=
  rfl

theorem rstrip_begins (text : List Char) : rstrip isSpace text <+: text := by
  have suffix := @List.dropWhile_suffix _ text.reverse isSpace
  rw [← List.reverse_prefix, List.reverse_reverse] at suffix
  exact suffix

/-- A text that ends visibly is not trimmed at its end. -/
theorem rstrip_concat (visible : isSpace char = false) :
    rstrip isSpace (first ++ [char]) = first ++ [char] := by
  rw [rstrip_append visible, rstrip_nil]

/-- A text that ends in white space is trimmed. -/
theorem rstrip_length_lt (space : isSpace char = true) :
    (rstrip isSpace (first ++ [char])).length < (first ++ [char]).length := by
  have dropped : ((first ++ [char]).reverse.dropWhile isSpace).length ≤
      first.length := by
    rw [List.reverse_append, List.reverse_singleton, List.singleton_append,
      List.dropWhile_cons_of_pos space]
    have shorter := (List.dropWhile_sublist (p := isSpace)
      (l := first.reverse)).length_le
    simpa using shorter
  rw [rstrip, List.length_reverse, List.length_append]
  exact Nat.lt_succ_of_le dropped

theorem strip_eq_rstrip (visible : isSpace char = false) :
    strip isSpace (char :: second) = rstrip isSpace (char :: second) := by
  rw [strip, List.dropWhile_cons_of_neg (by simp [visible])]

/-- What is left of a trimmed text is a part of it. -/
theorem strip_infix (text : List Char) : strip isSpace text <:+: text :=
  (rstrip_begins _).isInfix.trans (List.dropWhile_suffix isSpace).isInfix

theorem rstrip_rstrip (text : List Char) :
    rstrip isSpace (rstrip isSpace text) = rstrip isSpace text := by
  rw [rstrip, rstrip, List.reverse_reverse, List.dropWhile_idempotent]

/-- Trimming again changes nothing. -/
theorem strip_strip (text : List Char) :
    strip isSpace (strip isSpace text) = strip isSpace text := by
  have trimmed : (rstrip isSpace (text.dropWhile isSpace)).dropWhile isSpace =
      rstrip isSpace (text.dropWhile isSpace) := by
    cases remaining : text.dropWhile isSpace with
    | nil => rfl
    | cons char rest =>
        have visible : isSpace char = false := by
          have head := List.head?_dropWhile_not isSpace text
          rw [remaining] at head
          simpa using head
        rw [← List.nil_append (char :: rest), rstrip_append visible,
          List.nil_append, List.dropWhile_cons_of_neg (by simp [visible])]
  rw [strip, strip, trimmed, rstrip_rstrip]

end Trimming

section Joining

variable {separator char : Char} {parts : List (List Char)}

theorem mem_intercalate (member : char ∈ [separator].intercalate parts) :
    char = separator ∨ ∃ part ∈ parts, char ∈ part := by
  induction parts with
  | nil => simp at member
  | cons part parts ih =>
      cases parts with
      | nil =>
          rw [List.intercalate_singleton] at member
          exact .inr ⟨part, by simp, member⟩
      | cons next parts =>
          rw [List.intercalate_cons_cons, List.mem_append,
            List.mem_append, List.mem_singleton] at member
          rcases member with (inPart | isSeparator) | inRest
          · exact .inr ⟨part, by simp, inPart⟩
          · exact .inl isSeparator
          · rcases ih inRest with isSeparator | ⟨other, isPart, inOther⟩
            · exact .inl isSeparator
            · exact .inr ⟨other, List.mem_cons_of_mem _ isPart, inOther⟩

/-- A part is no longer than the whole. -/
theorem length_le_intercalate {part : List Char} (isPart : part ∈ parts) :
    part.length ≤ ([separator].intercalate parts).length := by
  induction parts with
  | nil => simp at isPart
  | cons first parts ih =>
      cases parts with
      | nil => simp [List.mem_singleton.mp isPart]
      | cons next parts =>
          rw [List.intercalate_cons_cons]
          simp only [List.length_append, List.length_singleton]
          rcases List.mem_cons.mp isPart with rfl | later
          · omega
          · have shorter := ih later
            omega

theorem mem_intercalate_of_mem {part : List Char} (isPart : part ∈ parts)
    (member : char ∈ part) : char ∈ [separator].intercalate parts := by
  induction parts with
  | nil => simp at isPart
  | cons first parts ih =>
      cases parts with
      | nil =>
          rw [List.intercalate_singleton, ← List.mem_singleton.mp isPart]
          exact member
      | cons next parts =>
          rw [List.intercalate_cons_cons]
          rcases List.mem_cons.mp isPart with rfl | later
          · exact List.mem_append_left _ (List.mem_append_left _ member)
          · exact List.mem_append_right _ (ih later)

/-- A part is a part of the whole. -/
theorem infix_intercalate {part : List Char} (isPart : part ∈ parts) :
    part <:+: [separator].intercalate parts := by
  induction parts with
  | nil => exact absurd isPart List.not_mem_nil
  | cons first parts ih =>
      cases parts with
      | nil =>
          rw [List.intercalate_singleton]
          exact List.mem_singleton.mp isPart ▸ List.infix_rfl
      | cons next parts =>
          rw [List.intercalate_cons_cons]
          rcases List.mem_cons.mp isPart with rfl | later
          · rw [List.append_assoc]
            exact (List.prefix_append _ _).isInfix
          · exact (ih later).trans (List.suffix_append _ _).isInfix

/-- The parts that a text is split into are parts of it. -/
theorem infix_of_mem_splitOn {text part : List Char}
    (isPart : part ∈ text.splitOn separator) : part <:+: text := by
  have inWhole := @infix_intercalate separator _ _ isPart
  rwa [List.intercalate_splitOn] at inWhole

/-- The parts of a text are made of its characters. -/
theorem mem_of_mem_splitOn {text part : List Char}
    (isPart : part ∈ text.splitOn separator) (member : char ∈ part) :
    char ∈ text := by
  have whole := @mem_intercalate_of_mem separator _ _ _ isPart member
  rwa [List.intercalate_splitOn] at whole

/-- No part of a text has the separator. -/
theorem notMem_of_mem_splitOn {text part : List Char}
    (isPart : part ∈ text.splitOn separator) : separator ∉ part := by
  induction text generalizing part with
  | nil =>
      rw [List.splitOn_nil, List.mem_singleton] at isPart
      simp [isPart]
  | cons char text ih =>
      rw [List.splitOn_cons_eq_if_modifyHead] at isPart
      split at isPart
      · rcases List.mem_cons.mp isPart with rfl | later
        · simp
        · exact ih later
      · rename_i different
        cases split : text.splitOn separator with
        | nil => exact absurd split (List.splitOn_ne_nil _ _)
        | cons first parts =>
            rw [split] at isPart ih
            rcases List.mem_cons.mp isPart with rfl | later
            · have absent := ih List.mem_cons_self
              simp only [beq_iff_eq] at different
              simp only [List.mem_cons, not_or]
              exact ⟨Ne.symm different, absent⟩
            · exact ih (List.mem_cons_of_mem _ later)

end Joining

section Runs

/-- The maximal runs of characters that are kept.  `text.split()` gives the runs
of visible characters. -/
def runs (keep : Char → Bool) (text : List Char) : List (List Char) :=
  (text.splitOnP fun char => !keep char).filter fun run => !run.isEmpty

variable {keep : Char → Bool} {text first second run : List Char}
  {separator : Char}

theorem runs_nil : runs keep [] = [] :=
  rfl

/-- A text without separators is one run. -/
theorem runs_of_kept (kept : ∀ char ∈ text, keep char = true)
    (visible : text ≠ []) : runs keep text = [text] := by
  rw [runs, List.splitOnP_eq_singleton fun char member => by
    simp [kept char member]]
  simp [visible]

theorem runs_append_cons (dropped : keep separator = false) :
    runs keep (first ++ separator :: second) =
      runs keep first ++ runs keep second := by
  rw [runs, List.splitOnP_append_cons _ _ (by simp [dropped]),
    List.filter_append]
  rfl

/-- A separator at the front belongs to no run. -/
theorem runs_cons (dropped : keep separator = false) :
    runs keep (separator :: second) = runs keep second := by
  have split := @runs_append_cons keep [] second separator dropped
  rwa [runs_nil, List.nil_append, List.nil_append] at split

/-- Words that are joined by a separator are the runs of the whole. -/
theorem runs_intercalate (dropped : keep separator = false)
    {words : List (List Char)}
    (proper : ∀ word ∈ words, word ≠ [] ∧ ∀ char ∈ word, keep char = true) :
    runs keep ([separator].intercalate words) = words := by
  induction words with
  | nil => rfl
  | cons word words ih =>
      obtain ⟨⟨visible, kept⟩, properLater⟩ := List.forall_mem_cons.mp proper
      cases words with
      | nil => rw [List.intercalate_singleton, runs_of_kept kept visible]
      | cons next words =>
          rw [List.intercalate_cons_cons, List.append_assoc,
            List.singleton_append, runs_append_cons dropped,
            runs_of_kept kept visible, ih properLater]
          rfl

/-- The runs of texts that are joined by a separator are runs of theirs. -/
theorem mem_runs_intercalate (dropped : keep separator = false)
    {parts : List (List Char)}
    (isRun : run ∈ runs keep ([separator].intercalate parts)) :
    ∃ part ∈ parts, run ∈ runs keep part := by
  induction parts with
  | nil => exact absurd isRun List.not_mem_nil
  | cons part parts ih =>
      cases parts with
      | nil =>
          rw [List.intercalate_singleton] at isRun
          exact ⟨part, List.mem_cons_self, isRun⟩
      | cons next parts =>
          rw [List.intercalate_cons_cons, List.append_assoc,
            List.singleton_append, runs_append_cons dropped,
            List.mem_append] at isRun
          rcases isRun with inPart | later
          · exact ⟨part, List.mem_cons_self, inPart⟩
          · obtain ⟨other, isPart, inOther⟩ := ih later
            exact ⟨other, List.mem_cons_of_mem _ isPart, inOther⟩

/-- A text has no separator, or a first one. -/
theorem kept_or_separated (keep : Char → Bool) (text : List Char) :
    (∀ char ∈ text, keep char = true) ∨
      ∃ first separator second, text = first ++ separator :: second ∧
        (∀ char ∈ first, keep char = true) ∧ keep separator = false := by
  induction text with
  | nil => exact .inl fun _ member => absurd member List.not_mem_nil
  | cons char text ih =>
      by_cases kept : keep char = true
      · rcases ih with all | ⟨first, separator, second, rfl, all, dropped⟩
        · exact .inl (List.forall_mem_cons.mpr ⟨kept, all⟩)
        · exact .inr ⟨char :: first, separator, second, rfl,
            List.forall_mem_cons.mpr ⟨kept, all⟩, dropped⟩
      · exact .inr ⟨[], char, text, rfl,
          fun _ member => absurd member List.not_mem_nil,
          (Bool.not_eq_true _).mp kept⟩

/-- A run is a part of the text and has no separators. -/
theorem mem_runs (isRun : run ∈ runs keep text) :
    run ≠ [] ∧ (∀ char ∈ run, keep char = true) ∧ run <:+: text := by
  induction length : text.length using Nat.strongRecOn
    generalizing text with
  | _ size ih =>
      rcases kept_or_separated keep text with
        kept | ⟨first, separator, second, rfl, kept, dropped⟩
      · by_cases visible : text = []
        · rw [visible, runs_nil] at isRun
          exact absurd isRun List.not_mem_nil
        · rw [runs_of_kept kept visible, List.mem_singleton] at isRun
          subst isRun
          exact ⟨visible, kept, List.infix_rfl⟩
      · rw [runs_append_cons dropped, List.mem_append] at isRun
        rw [List.length_append, List.length_cons] at length
        rcases isRun with inFirst | inSecond
        · obtain ⟨visible, chars, inside⟩ :=
            ih first.length (by omega) inFirst rfl
          exact ⟨visible, chars,
            inside.trans (List.infix_append [] first (separator :: second))⟩
        · obtain ⟨visible, chars, inside⟩ :=
            ih second.length (by omega) inSecond rfl
          exact ⟨visible, chars, inside.trans
            ((List.suffix_cons separator second).trans
              (List.suffix_append first _)).isInfix⟩

/-- A kept character is part of a run. -/
theorem exists_mem_runs {char : Char} (member : char ∈ text)
    (kept : keep char = true) : ∃ run ∈ runs keep text, char ∈ run := by
  induction length : text.length using Nat.strongRecOn
    generalizing text with
  | _ size ih =>
      rcases kept_or_separated keep text with
        all | ⟨first, separator, second, rfl, -, dropped⟩
      · rw [runs_of_kept all (List.ne_nil_of_mem member)]
        exact ⟨text, List.mem_singleton_self text, member⟩
      · rw [List.length_append, List.length_cons] at length
        rw [runs_append_cons dropped]
        rcases List.mem_append.mp member with inFirst | later
        · obtain ⟨run, isRun, inRun⟩ := ih first.length (by omega) inFirst rfl
          exact ⟨run, List.mem_append_left _ isRun, inRun⟩
        · rcases List.mem_cons.mp later with rfl | inSecond
          · rw [dropped] at kept
            cases kept
          · obtain ⟨run, isRun, inRun⟩ :=
              ih second.length (by omega) inSecond rfl
            exact ⟨run, List.mem_append_right _ isRun, inRun⟩

end Runs

section Replacement

variable (pattern replacement : List Char)

/-- `text.replace(pattern, replacement)` behind an occurrence of the pattern, of
which some characters are still to be passed over. -/
def replaceFrom : Nat → List Char → List Char
  | _, [] => []
  | owed + 1, _ :: text => replaceFrom owed text
  | 0, char :: text =>
      if pattern.isPrefixOf (char :: text) then
        replacement ++ replaceFrom (pattern.length - 1) text
      else char :: replaceFrom 0 text

/-- `text.replace(pattern, replacement)` for a pattern with characters. -/
def replace (text : List Char) : List Char :=
  replaceFrom pattern replacement 0 text

theorem replaceFrom_length (text : List Char) :
    replaceFrom pattern replacement text.length text = [] := by
  induction text with
  | nil => rfl
  | cons char text ih => exact ih

/-- A pattern at the end of a text is replaced when it cannot begin earlier. -/
theorem replace_append {first : Char} {rest text : List Char}
    (absent : first ∉ text) :
    replace (first :: rest) replacement (text ++ first :: rest) =
      text ++ replacement := by
  induction text with
  | nil =>
      have whole : (first :: rest).isPrefixOf (first :: rest) = true :=
        List.isPrefixOf_iff_prefix.mpr (List.prefix_refl _)
      rw [List.nil_append, replace, replaceFrom, if_pos whole,
        List.length_cons, Nat.add_sub_cancel, replaceFrom_length]
      exact List.append_nil _
  | cons char text ih =>
      obtain ⟨different, absentLater⟩ :=
        List.ne_and_not_mem_of_not_mem_cons absent
      have noPrefix : ¬(first :: rest).isPrefixOf
          (char :: (text ++ first :: rest)) = true := by
        intro begins
        have prefixed := List.isPrefixOf_iff_prefix.mp begins
        exact different (List.cons_prefix_cons.mp prefixed).1
      rw [List.cons_append, replace, replaceFrom, if_neg noPrefix]
      exact congrArg (char :: ·) (ih absentLater)

end Replacement

end Tca.PythonTexts
