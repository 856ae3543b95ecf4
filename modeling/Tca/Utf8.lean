import Mathlib.Data.List.Basic

/-!
# UTF-8 with replacement

Text is encoded to bytes and decoded again.  The decoder never fails: a
sequence that cannot be completed is replaced by one replacement character.
Its input may hold characters between the bytes; a character ends the sequence
before it, as the end of the input does.  Decoding inverts encoding and makes a
text no longer than its bytes.
-/

namespace Tca.Utf8

/-- The bytes of a character. -/
def encodeChar (char : Char) : List Nat :=
  let code := char.toNat
  if code < 0x80 then [code]
  else if code < 0x800 then [0xC0 + code / 64, 0x80 + code % 64]
  else if code < 0x10000 then
    [0xE0 + code / 4096, 0x80 + code / 64 % 64, 0x80 + code % 64]
  else
    [0xF0 + code / 262144, 0x80 + code / 4096 % 64, 0x80 + code / 64 % 64,
      0x80 + code % 64]

/-- The bytes of a text. -/
def encode (text : List Char) : List Nat :=
  text.flatMap encodeChar

/-- A byte, or a character that is not to be decoded. -/
inductive Piece where
  | byte (value : Nat)
  | char (char : Char)
  deriving DecidableEq

/-- A sequence that has been begun: how many bytes it still needs, between
which bounds the next one must be, and the bits that have been read. -/
structure Pending where
  owed : Nat
  low : Nat
  high : Nat
  bits : Nat
  deriving DecidableEq

/-- U+FFFD. -/
def replacement : Char :=
  Char.ofNat 0xFFFD

/-- The sequence that a byte begins. -/
def begins (lead : Nat) : Option Pending :=
  if 0xC2 ≤ lead ∧ lead ≤ 0xDF then some ⟨1, 0x80, 0xBF, lead - 0xC0⟩
  else if 0xE0 ≤ lead ∧ lead ≤ 0xEF then
    some ⟨2, if lead = 0xE0 then 0xA0 else 0x80,
      if lead = 0xED then 0x9F else 0xBF, lead - 0xE0⟩
  else if 0xF0 ≤ lead ∧ lead ≤ 0xF4 then
    some ⟨3, if lead = 0xF0 then 0x90 else 0x80,
      if lead = 0xF4 then 0x8F else 0xBF, lead - 0xF0⟩
  else none

/-- A piece between sequences: what it adds to the text and the sequence it
begins. -/
def start : Piece → List Char × Option Pending
  | .char char => ([char], none)
  | .byte value =>
      if value < 0x80 then ([Char.ofNat value], none)
      else
        match begins value with
        | some pending => ([], some pending)
        | none => ([replacement], none)

/-- The next piece of a sequence.  One that does not fit stands for itself,
after a replacement for the sequence. -/
def proceed (pending : Pending) : Piece → List Char × Option Pending
  | .char char => ([replacement, char], none)
  | .byte value =>
      if pending.low ≤ value ∧ value ≤ pending.high then
        let bits := pending.bits * 64 + (value - 0x80)
        if pending.owed ≤ 1 then ([Char.ofNat bits], none)
        else ([], some ⟨pending.owed - 1, 0x80, 0xBF, bits⟩)
      else (replacement :: (start (.byte value)).1, (start (.byte value)).2)

/-- The text of the pieces, in or between sequences. -/
def decodeFrom : Option Pending → List Piece → List Char
  | none, [] => []
  | some _, [] => [replacement]
  | none, piece :: pieces =>
      (start piece).1 ++ decodeFrom (start piece).2 pieces
  | some pending, piece :: pieces =>
      (proceed pending piece).1 ++ decodeFrom (proceed pending piece).2 pieces

/-- The text of the pieces. -/
def decode (pieces : List Piece) : List Char :=
  decodeFrom none pieces

section RoundTrip

/-- A byte of a sequence that is not its last. -/
theorem decodeFrom_continue {owed low high bits value : Nat}
    (inBounds : low ≤ value ∧ value ≤ high) (pieces : List Piece) :
    decodeFrom (some ⟨owed + 2, low, high, bits⟩) (.byte value :: pieces) =
      decodeFrom (some ⟨owed + 1, 0x80, 0xBF, bits * 64 + (value - 0x80)⟩)
        pieces := by
  simp [decodeFrom, proceed, inBounds]

/-- The last byte of a sequence. -/
theorem decodeFrom_last {low high bits value : Nat}
    (inBounds : low ≤ value ∧ value ≤ high) (pieces : List Piece) :
    decodeFrom (some ⟨1, low, high, bits⟩) (.byte value :: pieces) =
      Char.ofNat (bits * 64 + (value - 0x80)) :: decode pieces := by
  simp [decodeFrom, proceed, inBounds, decode]

theorem decode_begin {lead : Nat} {pending : Pending} (high : 0x80 ≤ lead)
    (begun : begins lead = some pending) (pieces : List Piece) :
    decode (.byte lead :: pieces) = decodeFrom (some pending) pieces := by
  have notAscii : ¬ lead < 0x80 := by omega
  simp [decode, decodeFrom, start, notAscii, begun]

theorem decode_ascii {value : Nat} (ascii : value < 0x80)
    (pieces : List Piece) :
    decode (.byte value :: pieces) = Char.ofNat value :: decode pieces := by
  simp [decode, decodeFrom, start, ascii]

/-- The bytes of a character are decoded to it. -/
theorem decode_encodeChar (char : Char) (pieces : List Piece) :
    decode ((encodeChar char).map .byte ++ pieces) = char :: decode pieces := by
  have valid : char.toNat < 0xD800 ∨
      0xDFFF < char.toNat ∧ char.toNat < 0x110000 := char.valid
  have back : ∀ code, code = char.toNat → Char.ofNat code = char := by
    rintro code rfl
    exact Char.ofNat_toNat char
  generalize codeEq : char.toNat = code at valid back
  unfold encodeChar
  rw [codeEq]
  dsimp only
  split
  · rename_i ascii
    rw [List.map_cons, List.map_nil, List.singleton_append,
      decode_ascii ascii, back code rfl]
  split
  · rename_i large small
    have begun : begins (0xC0 + code / 64) =
        some ⟨1, 0x80, 0xBF, code / 64⟩ := by
      unfold begins
      rw [if_pos (by omega)]
      simp
    simp only [List.map_cons, List.map_nil, List.cons_append, List.nil_append]
    rw [decode_begin (by omega) begun, decodeFrom_last (by omega),
      back _ (by omega)]
  split
  · rename_i large small
    obtain ⟨low, high, begun, inBounds⟩ : ∃ low high,
        begins (0xE0 + code / 4096) = some ⟨2, low, high, code / 4096⟩ ∧
          low ≤ 0x80 + code / 64 % 64 ∧ 0x80 + code / 64 % 64 ≤ high := by
      refine ⟨if 0xE0 + code / 4096 = 0xE0 then 0xA0 else 0x80,
        if 0xE0 + code / 4096 = 0xED then 0x9F else 0xBF, ?_, ?_⟩
      · unfold begins
        rw [if_neg (by omega), if_pos (by omega), Nat.add_sub_cancel_left]
      · split <;> split <;> omega
    simp only [List.map_cons, List.map_nil, List.cons_append, List.nil_append]
    rw [decode_begin (by omega) begun, decodeFrom_continue inBounds,
      decodeFrom_last (by omega), back _ (by omega)]
  · rename_i large
    obtain ⟨low, high, begun, inBounds⟩ : ∃ low high,
        begins (0xF0 + code / 262144) = some ⟨3, low, high, code / 262144⟩ ∧
          low ≤ 0x80 + code / 4096 % 64 ∧
          0x80 + code / 4096 % 64 ≤ high := by
      refine ⟨if 0xF0 + code / 262144 = 0xF0 then 0x90 else 0x80,
        if 0xF0 + code / 262144 = 0xF4 then 0x8F else 0xBF, ?_, ?_⟩
      · unfold begins
        rw [if_neg (by omega), if_neg (by omega), if_pos (by omega),
          Nat.add_sub_cancel_left]
      · split <;> split <;> omega
    simp only [List.map_cons, List.map_nil, List.cons_append, List.nil_append]
    rw [decode_begin (by omega) begun, decodeFrom_continue inBounds,
      decodeFrom_continue (by omega), decodeFrom_last (by omega),
      back _ (by omega)]

/-- Decoding inverts encoding. -/
theorem decode_encode (text : List Char) (pieces : List Piece) :
    decode ((encode text).map .byte ++ pieces) = text ++ decode pieces := by
  induction text with
  | nil => rfl
  | cons char text ih =>
      rw [encode, List.flatMap_cons, List.map_append, List.append_assoc,
        decode_encodeChar, ← encode, ih, List.cons_append]

end RoundTrip

section Length

/-- A sequence that has been begun yields one more character at least. -/
def promised : Option Pending → Nat
  | none => 0
  | some _ => 1

theorem start_length_le (piece : Piece) :
    (start piece).1.length + promised (start piece).2 ≤ 1 := by
  cases piece with
  | char char => exact Nat.le_refl 1
  | byte value =>
      unfold start
      dsimp only
      split
      · exact Nat.le_refl 1
      · split <;> exact Nat.le_refl 1

theorem proceed_length_le (pending : Pending) (piece : Piece) :
    (proceed pending piece).1.length + promised (proceed pending piece).2 ≤
      2 := by
  cases piece with
  | char char => exact Nat.le_refl 2
  | byte value =>
      have begun := start_length_le (.byte value)
      unfold proceed
      dsimp only
      split
      · split <;> simp [promised]
      · dsimp only
        rw [List.length_cons]
        omega

theorem decodeFrom_length_le (pending : Option Pending) (pieces : List Piece) :
    (decodeFrom pending pieces).length ≤ pieces.length + promised pending := by
  induction pieces generalizing pending with
  | nil => cases pending <;> exact Nat.le_refl _
  | cons piece pieces ih =>
      cases pending with
      | none =>
          have begun := start_length_le piece
          have later := ih (start piece).2
          rw [decodeFrom, List.length_append, List.length_cons, promised]
          omega
      | some pending =>
          have continued := proceed_length_le pending piece
          have later := ih (proceed pending piece).2
          rw [decodeFrom, List.length_append, List.length_cons, promised]
          omega

/-- Decoding makes nothing longer. -/
theorem decode_length_le (pieces : List Piece) :
    (decode pieces).length ≤ pieces.length :=
  decodeFrom_length_le none pieces

end Length

end Tca.Utf8
