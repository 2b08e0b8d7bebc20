import ApiNotes.Text.Lines
import ApiNotes.Text.Offset

/-!
# Positions in a line

Editors count the characters of a line in units of UTF-16, this library in bytes of UTF-8.
`byte?` and `column` convert between the two; the former has no answer behind the line and
between the two units of one character, the latter rounds down.
-/

namespace ApiNotes

namespace Editor

/-- The number of UTF-16 units of a character. -/
def units (c : Char) : Nat :=
  if c.toNat < 0x10000 then 1 else 2

/-- The byte index of a UTF-16 column. -/
def byte? (col : Nat) : List Char → Option Nat
  | [] => if col = 0 then some 0 else none
  | c :: cs =>
    if col = 0 then some 0
    else if col < units c then none
    else (byte? (col - units c) cs).map (c.utf8Size + ·)

/-- The UTF-16 column of a byte index. -/
def column (byte : Nat) : List Char → Nat
  | [] => 0
  | c :: cs =>
    if byte < c.utf8Size then 0 else units c + column (byte - c.utf8Size) cs

/-- The row and the byte column of a byte offset, which is cut to the length of the text;
`none` inside of a character. -/
def place? (text : List Char) (offset : Nat) : Option Text.Place :=
  (Text.takeBytes? offset text).map Text.endPlace

/-- A position as editors give it. -/
structure Position where
  line : Nat
  character : Nat
deriving Repr, DecidableEq

end Editor

end ApiNotes
