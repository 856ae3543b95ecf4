import Tca.PythonTexts
import Tca.Utf8

/-!
# Percent-encoded texts and query strings

`urllib.parse` writes texts with the bytes of most characters escaped, and
query strings as lists of such texts.  Reading back what was written gives the
same text and the same parameters, and reading never makes a text longer.
-/

namespace Tca.PercentEncoding

open Utf8 PythonTexts

section Escapes

/-- The value of a hexadecimal digit. -/
def hexValue? (char : Char) : Option Nat :=
  let code := char.toNat
  if 48 ≤ code ∧ code ≤ 57 then some (code - 48)
  else if 65 ≤ code ∧ code ≤ 70 then some (code - 55)
  else if 97 ≤ code ∧ code ≤ 102 then some (code - 87)
  else none

/-- The digit that escapes are written with. -/
def hexDigit (value : Nat) : Char :=
  Char.ofNat (if value < 10 then 48 + value else 55 + value)

/-- A character that is no escape is the byte it is encoded by, if it is an
ASCII character, and stays as it is otherwise. -/
def plainPiece (char : Char) : Piece :=
  if char.toNat < 128 then .byte char.toNat else .char char

/-- `unquote_to_bytes` on each run of ASCII characters; the other characters
are kept between the runs. -/
def pieces : List Char → List Piece
  | '%' :: high :: low :: text =>
      match hexValue? high, hexValue? low with
      | some highValue, some lowValue =>
          .byte (16 * highValue + lowValue) :: pieces text
      | _, _ => .byte 37 :: pieces (high :: low :: text)
  | char :: text => plainPiece char :: pieces text
  | [] => []

/-- `unquote`. -/
def unquote (text : List Char) : List Char :=
  decode (pieces text)

/-- Plus signs stand for spaces in a query. -/
def plusToSpace (char : Char) : Char :=
  if char = '+' then ' ' else char

/-- `unquote_plus`. -/
def unquotePlus (text : List Char) : List Char :=
  unquote (text.map plusToSpace)

/-- The characters that are never escaped. -/
def isUnreserved (char : Char) : Bool :=
  let code := char.toNat
  (48 ≤ code && code ≤ 57) || (65 ≤ code && code ≤ 90) ||
    (97 ≤ code && code ≤ 122) || char ∈ ['_', '.', '-', '~']

def quoteByte (value : Nat) : List Char :=
  if value < 128 ∧ isUnreserved (Char.ofNat value) then [Char.ofNat value]
  else ['%', hexDigit (value / 16), hexDigit (value % 16)]

/-- `quote(text, safe="")`. -/
def quote (text : List Char) : List Char :=
  (encode text).flatMap quoteByte

/-- `quote_plus` of one character. -/
def quotePlusChar (char : Char) : List Char :=
  if char = ' ' then ['+'] else (encodeChar char).flatMap quoteByte

/-- `quote_plus`. -/
def quotePlus (text : List Char) : List Char :=
  text.flatMap quotePlusChar

end Escapes

section Reading

theorem hexValue?_hexDigit {value : Nat} (inRange : value < 16) :
    hexValue? (hexDigit value) = some value := by
  have all : ∀ index ∈ List.range 16,
      hexValue? (hexDigit index) = some index := by decide
  exact all value (List.mem_range.mpr inRange)

/-- A character other than the escape character stands for itself. -/
theorem pieces_cons {char : Char} (notEscape : char ≠ '%')
    (text : List Char) :
    pieces (char :: text) = plainPiece char :: pieces text := by
  rw [pieces]
  rintro high low rest rfl
  exact absurd rfl notEscape

theorem pieces_escape {high low : Char} {highValue lowValue : Nat}
    (highRead : hexValue? high = some highValue)
    (lowRead : hexValue? low = some lowValue) (text : List Char) :
    pieces ('%' :: high :: low :: text) =
      .byte (16 * highValue + lowValue) :: pieces text := by
  simp only [pieces, highRead, lowRead]

theorem toNat_ofNat_ascii {value : Nat} (ascii : value < 128) :
    (Char.ofNat value).toNat = value := by
  have valid : value.isValidChar := Or.inl (by omega)
  rw [Char.ofNat, dif_pos valid]
  rfl

theorem plainPiece_ascii {value : Nat} (ascii : value < 128) :
    plainPiece (Char.ofNat value) = .byte value := by
  rw [plainPiece, toNat_ofNat_ascii ascii, if_pos ascii]

/-- An escaped byte is read back. -/
theorem pieces_quoteByte {value : Nat} (inRange : value < 256)
    (text : List Char) :
    pieces (quoteByte value ++ text) = .byte value :: pieces text := by
  unfold quoteByte
  split
  · rename_i plain
    have notEscape : Char.ofNat value ≠ '%' := by
      intro same
      rw [same] at plain
      exact absurd plain.2 (by decide)
    rw [List.singleton_append, pieces_cons notEscape,
      plainPiece_ascii plain.1]
  · simp only [List.cons_append, List.nil_append]
    rw [pieces_escape (hexValue?_hexDigit (by omega))
      (hexValue?_hexDigit (by omega)), Nat.div_add_mod]

theorem encodeChar_lt (char : Char) :
    ∀ value ∈ encodeChar char, value < 256 := by
  have valid : char.toNat < 0xD800 ∨
      0xDFFF < char.toNat ∧ char.toNat < 0x110000 := char.valid
  intro value member
  unfold encodeChar at member
  dsimp only at member
  split at member
  · simp only [List.mem_singleton] at member
    omega
  split at member
  · simp only [List.mem_cons, List.not_mem_nil, or_false] at member
    omega
  split at member
  · simp only [List.mem_cons, List.not_mem_nil, or_false] at member
    omega
  · simp only [List.mem_cons, List.not_mem_nil, or_false] at member
    omega

theorem pieces_quoteBytes {values : List Nat}
    (inRange : ∀ value ∈ values, value < 256) (text : List Char) :
    pieces (values.flatMap quoteByte ++ text) =
      values.map .byte ++ pieces text := by
  induction values with
  | nil => rfl
  | cons value values ih =>
      obtain ⟨here, later⟩ := List.forall_mem_cons.mp inRange
      rw [List.flatMap_cons, List.append_assoc, pieces_quoteByte here,
        ih later]
      rfl

end Reading

section Written

/-- The characters of quoted texts. -/
def isQuoted (char : Char) : Bool :=
  isUnreserved char || char = '%'

theorem isQuoted_hexDigit {value : Nat} (inRange : value < 16) :
    isQuoted (hexDigit value) = true := by
  have all : ∀ index ∈ List.range 16,
      isQuoted (hexDigit index) = true := by decide
  exact all value (List.mem_range.mpr inRange)

theorem isQuoted_quoteByte {value : Nat} (inRange : value < 256) :
    ∀ char ∈ quoteByte value, isQuoted char = true := by
  intro char member
  unfold quoteByte at member
  split at member
  · rename_i plain
    rw [List.mem_singleton.mp member]
    simp [isQuoted, plain.2]
  · simp only [List.mem_cons, List.not_mem_nil, or_false] at member
    rcases member with rfl | rfl | rfl
    · decide
    · exact isQuoted_hexDigit (by omega)
    · exact isQuoted_hexDigit (by omega)

theorem isQuoted_quoteChar (char : Char) :
    ∀ written ∈ (encodeChar char).flatMap quoteByte,
      isQuoted written = true := by
  intro written member
  obtain ⟨value, inChar, inByte⟩ := List.mem_flatMap.mp member
  exact isQuoted_quoteByte (encodeChar_lt char value inChar) written inByte

theorem isQuoted_quotePlus (text : List Char) :
    ∀ written ∈ quotePlus text, isQuoted written = true ∨ written = '+' := by
  intro written member
  obtain ⟨char, -, inChar⟩ := List.mem_flatMap.mp member
  unfold quotePlusChar at inChar
  split at inChar
  · exact .inr (List.mem_singleton.mp inChar)
  · exact .inl (isQuoted_quoteChar char written inChar)

/-- Nothing in a quoted text is taken for a space. -/
theorem map_plusToSpace_quoted {text : List Char}
    (quoted : ∀ char ∈ text, isQuoted char = true) :
    text.map plusToSpace = text := by
  rw [List.map_congr_left (g := id), List.map_id]
  intro char member
  have notPlus : char ≠ '+' := by
    rintro rfl
    exact absurd (quoted _ member) (by decide)
  rw [plusToSpace, if_neg notPlus]
  rfl

theorem pieces_quotePlusChar (char : Char) (text : List Char) :
    pieces ((quotePlusChar char).map plusToSpace ++ text) =
      (encodeChar char).map .byte ++ pieces text := by
  unfold quotePlusChar
  split
  · rename_i isSpace
    subst isSpace
    exact pieces_cons (by decide) text
  · rw [map_plusToSpace_quoted (isQuoted_quoteChar char),
      pieces_quoteBytes (encodeChar_lt char)]

/-- A text quoted for a query is read back. -/
theorem unquotePlus_quotePlus (text : List Char) :
    unquotePlus (quotePlus text) = text := by
  have read : ∀ rest, pieces ((quotePlus text).map plusToSpace ++ rest) =
      (encode text).map .byte ++ pieces rest := by
    intro rest
    induction text with
    | nil => rfl
    | cons char text ih =>
        rw [quotePlus, List.flatMap_cons, List.map_append, List.append_assoc,
          pieces_quotePlusChar, ← quotePlus, ih, encode, encode,
          List.flatMap_cons, List.map_append, List.append_assoc]
  have whole := read []
  rw [List.append_nil] at whole
  rw [unquotePlus, unquote, whole, decode_encode]
  exact List.append_nil text

end Written

section Length

theorem pieces_length_le (text : List Char) :
    (pieces text).length ≤ text.length := by
  fun_induction pieces text with
  | case1 high low text highValue lowValue lowRead highRead ih =>
      simp only [List.length_cons]
      omega
  | case2 high low text noEscape ih =>
      simp only [List.length_cons] at ih ⊢
      omega
  | case3 char text notEscape ih =>
      simp only [List.length_cons]
      omega
  | case4 => exact Nat.le_refl 0

/-- Reading makes no text longer. -/
theorem unquote_length_le (text : List Char) :
    (unquote text).length ≤ text.length :=
  Nat.le_trans (decode_length_le _) (pieces_length_le text)

theorem unquotePlus_length_le (text : List Char) :
    (unquotePlus text).length ≤ text.length := by
  have shorter := unquote_length_le (text.map plusToSpace)
  rwa [List.length_map] at shorter

end Length

section Queries

/-- One parameter of a query: its name and its value, blank if it has none. -/
def parseParam (part : List Char) : List Char × List Char :=
  (unquotePlus (partition '=' part).1,
    unquotePlus ((partition '=' part).2.getD []))

/-- `parse_qsl(query, keep_blank_values=True)`. -/
def parseQsl (query : List Char) : List (List Char × List Char) :=
  ((query.splitOn '&').filter (fun part => !part.isEmpty)).map parseParam

/-- One written parameter. -/
def writeParam (param : List Char × List Char) : List Char :=
  quotePlus param.1 ++ '=' :: quotePlus param.2

/-- `urlencode(params, doseq=True)`. -/
def urlencode (params : List (List Char × List Char)) : List Char :=
  ['&'].intercalate (params.map writeParam)

/-- The characters of written queries. -/
def isQueryChar (char : Char) : Bool :=
  isQuoted char || char ∈ ['+', '=', '&']

theorem notMem_quotePlus {char : Char} (special : isQuoted char = false)
    (notPlus : char ≠ '+') (text : List Char) : char ∉ quotePlus text := by
  intro member
  rcases isQuoted_quotePlus text char member with quoted | isPlus
  · rw [special] at quoted
    cases quoted
  · exact notPlus isPlus

theorem notMem_writeParam (param : List Char × List Char) :
    '&' ∉ writeParam param := by
  simp only [writeParam, List.mem_append, List.mem_cons, not_or]
  exact ⟨notMem_quotePlus (by decide) (by decide) _, by decide,
    notMem_quotePlus (by decide) (by decide) _⟩

theorem parseParam_writeParam (param : List Char × List Char) :
    parseParam (writeParam param) = param := by
  have split : partition '=' (writeParam param) =
      (quotePlus param.1, some (quotePlus param.2)) :=
    partition_append (notMem_quotePlus (by decide) (by decide) _)
  rw [parseParam, split]
  simp [unquotePlus_quotePlus]

/-- Parameters that are joined are read one by one. -/
theorem parseQsl_intercalate {parts : List (List Char)}
    (separate : ∀ part ∈ parts, '&' ∉ part) :
    parseQsl (['&'].intercalate parts) =
      (parts.filter (fun part => !part.isEmpty)).map parseParam := by
  by_cases none : parts = []
  · subst none
    rfl
  · rw [parseQsl, List.splitOn_intercalate '&' separate none]

/-- A written query is read back. -/
theorem parseQsl_urlencode (params : List (List Char × List Char)) :
    parseQsl (urlencode params) = params := by
  rw [urlencode, parseQsl_intercalate]
  · have visible : (params.map writeParam).filter (fun part =>
        !part.isEmpty) = params.map writeParam := by
      refine List.filter_eq_self.mpr fun part member => ?_
      obtain ⟨param, -, rfl⟩ := List.mem_map.mp member
      simp [writeParam]
    rw [visible, List.map_map]
    exact (List.map_congr_left fun param _ => parseParam_writeParam param).trans
      (List.map_id params)
  · intro part member
    obtain ⟨param, -, rfl⟩ := List.mem_map.mp member
    exact notMem_writeParam param

theorem isQueryChar_quotePlus {text : List Char} {char : Char}
    (member : char ∈ quotePlus text) : isQueryChar char = true := by
  rcases isQuoted_quotePlus text char member with quoted | rfl
  · simp [isQueryChar, quoted]
  · decide

theorem isQueryChar_urlencode (params : List (List Char × List Char)) :
    ∀ char ∈ urlencode params, isQueryChar char = true := by
  intro char member
  rcases mem_intercalate member with rfl | ⟨part, isPart, inPart⟩
  · decide
  · obtain ⟨param, -, rfl⟩ := List.mem_map.mp isPart
    rcases List.mem_append.mp inPart with inName | rest
    · exact isQueryChar_quotePlus inName
    · rcases List.mem_cons.mp rest with rfl | inValue
      · decide
      · exact isQueryChar_quotePlus inValue

theorem urlencode_eq_nil_iff {params : List (List Char × List Char)} :
    urlencode params = [] ↔ params = [] := by
  constructor
  · intro nothing
    rw [← parseQsl_urlencode params, nothing]
    rfl
  · rintro rfl
    rfl

/-- A value is no longer than the query it is read from. -/
theorem value_length_le {query name value : List Char}
    (read : (name, value) ∈ parseQsl query) : value.length ≤ query.length := by
  obtain ⟨part, isPart, parsed⟩ := List.mem_map.mp read
  have shorterPart : part.length ≤ query.length := by
    have whole := @length_le_intercalate '&' _ part (List.mem_filter.mp isPart).1
    rwa [List.intercalate_splitOn] at whole
  obtain ⟨-, rfl⟩ := Prod.mk.inj parsed
  refine Nat.le_trans (unquotePlus_length_le _) (Nat.le_trans ?_ shorterPart)
  rcases partition_cases '=' part with ⟨-, split⟩ |
    ⟨first, second, -, rfl, split⟩
  · simp [split]
  · simp [split]
    omega

end Queries

end Tca.PercentEncoding
