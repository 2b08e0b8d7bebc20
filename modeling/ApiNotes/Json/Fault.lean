import ApiNotes.Text.Lines

/-!
# What can be wrong with a JSON text

A fault has a cause and the number of bytes read when it was noticed. An error has the
place in the text instead; lines count from one, and the column is the number of bytes
read in the line.
-/

namespace ApiNotes

namespace Json

/-- Why a text is no JSON value. -/
inductive Cause where
  | endInValue
  | endInList
  | endInObject
  | endInString
  | wrongWord
  | noValue
  | noColon
  | noListSeparator
  | noObjectSeparator
  | trailingComma
  | keyNotString
  | wrongNumber
  | numberOutOfRange
  | wrongEscape
  | unpairedSurrogate
  | brokenPair
  | controlCharacter
  | tooDeep
  | trailingCharacters
deriving Repr, DecidableEq

/-- The wording of a cause. -/
def Cause.message : Cause → String
  | endInValue => "EOF while parsing a value"
  | endInList => "EOF while parsing a list"
  | endInObject => "EOF while parsing an object"
  | endInString => "EOF while parsing a string"
  | wrongWord => "expected ident"
  | noValue => "expected value"
  | noColon => "expected `:`"
  | noListSeparator => "expected `,` or `]`"
  | noObjectSeparator => "expected `,` or `\x7d`"
  | trailingComma => "trailing comma"
  | keyNotString => "key must be a string"
  | wrongNumber => "invalid number"
  | numberOutOfRange => "number out of range"
  | wrongEscape => "invalid escape"
  | unpairedSurrogate => "lone leading surrogate in hex escape"
  | brokenPair => "unexpected end of hex escape"
  | controlCharacter => "control character (\\u0000-\\u001F) found while parsing a string"
  | tooDeep => "recursion limit exceeded"
  | trailingCharacters => "trailing characters"

/-- A cause, and how many bytes had been read when it was noticed. -/
structure Fault where
  cause : Cause
  read : Nat
deriving Repr, DecidableEq

/-- A cause and the place where it was noticed. -/
structure Error where
  cause : Cause
  place : Text.Place
deriving Repr, DecidableEq

/-- The place of a fault in the text it was found in. -/
def Fault.locate (f : Fault) (text : List Char) : Error :=
  ⟨f.cause, Text.Place.advance ⟨1, 0⟩ f.read text⟩

/-- The wording of an error. -/
def Error.message (e : Error) : String :=
  e.cause.message ++ " at line " ++ toString e.place.line ++ " column " ++ toString e.place.column

end Json

end ApiNotes
