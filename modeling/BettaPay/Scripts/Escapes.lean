import BettaPay.Scripts.Reader

namespace BettaPay.Scripts

open BettaPay.Host

/-! Text as `decode("utf-8", errors="backslashreplace")` reads it. -/

/-- The character whose encoding the bytes start with. -/
def firstLetter (bytes : Bytes) : Option Char :=
  bytes.toByteArray.utf8DecodeChar? 0

def escapeByte (byte : UInt8) : List Char := '\\' :: 'x' :: hexByte byte

/-- The first `skip` bytes belong to a character already read. A byte with
which no character starts is escaped, and what follows it is read anew. -/
def escapedLetters : Nat → Bytes → List Char
  | _, [] => []
  | skip + 1, _ :: rest => escapedLetters skip rest
  | 0, byte :: rest =>
      match firstLetter (byte :: rest) with
      | some letter =>
          letter :: escapedLetters (letter.utf8Size - 1) rest
      | none => escapeByte byte ++ escapedLetters 0 rest

def utf8DecodeEscaped (raw : Bytes) : String :=
  String.ofList (escapedLetters 0 raw)

theorem firstLetter_encoded {letter : Char} {rest : Bytes} :
    firstLetter (String.utf8EncodeChar letter ++ rest) = some letter := by
  rw [firstLetter, List.toByteArray_append]
  exact ByteArray.utf8DecodeChar?_utf8EncodeChar_append

theorem escapedLetters_skip {front rest : Bytes} :
    escapedLetters front.length (front ++ rest) =
      escapedLetters 0 rest := by
  induction front with
  | nil => rfl
  | cons byte front induction => exact induction

theorem escapedLetters_cons {letter : Char} {rest : Bytes} :
    escapedLetters 0 (String.utf8EncodeChar letter ++ rest) =
      letter :: escapedLetters 0 rest := by
  have first := @firstLetter_encoded letter rest
  have width := String.length_utf8EncodeChar letter
  have positive := letter.utf8Size_pos
  cases encoded : String.utf8EncodeChar letter with
  | nil =>
      rw [encoded, List.length_nil] at width
      omega
  | cons byte others =>
      rw [encoded, List.length_cons] at width
      rw [encoded, List.cons_append] at first
      have left : letter.utf8Size - 1 = others.length := by omega
      rw [List.cons_append, escapedLetters, first]
      simp only [left, escapedLetters_skip]

/-- Well-formed text is read as it is. -/
theorem utf8DecodeEscaped_utf8Encode (text : String) :
    utf8DecodeEscaped (utf8Encode text) = text := by
  have letters : ∀ letters : List Char,
      escapedLetters 0 (letters.flatMap String.utf8EncodeChar) =
        letters := by
    intro letters
    induction letters with
    | nil => rfl
    | cons letter rest induction =>
        rw [List.flatMap_cons, escapedLetters_cons, induction]
  rw [utf8DecodeEscaped, utf8Encode, letters, String.ofList_toList]

end BettaPay.Scripts
