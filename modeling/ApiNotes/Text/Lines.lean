/-!
# Lines

A text has one more *row* than line feeds. Its *lines* are its rows without the
line ending: a carriage return directly before a line feed belongs to the ending,
and an empty last row is no line.
-/

namespace ApiNotes

namespace Text

/-- The text up to the first line feed. -/
def row (cs : List Char) : List Char :=
  cs.takeWhile (· != '\n')

/-- The rows of a text: its parts between line feeds. -/
def rows (cs : List Char) : List (List Char) :=
  cs.splitOn '\n'

/-- Removes one carriage return at the end. -/
def dropReturn : List Char → List Char
  | [] => []
  | [c] => if c = '\r' then [] else [c]
  | c :: d :: cs => c :: dropReturn (d :: cs)

/-- The lines that rows amount to: all but the last lose their carriage return, and
the last one counts only when it is not empty. -/
def linesOfRows : List (List Char) → List (List Char)
  | [] => []
  | [last] => if last = [] then [] else [last]
  | r :: s :: rs => dropReturn r :: linesOfRows (s :: rs)

/-- The lines of a text. -/
def lines (cs : List Char) : List (List Char) :=
  linesOfRows (rows cs)

/-- Joins texts with line feeds between them. -/
def joinRows (rs : List (List Char)) : List Char :=
  ['\n'].intercalate rs

/-- A place in a text: the row, and the bytes before it in that row. -/
structure Place where
  line : Nat
  column : Nat
deriving Repr, DecidableEq

/-- The place that a text leads to from the place `p`. -/
def Place.after (p : Place) : List Char → Place
  | [] => p
  | c :: cs =>
    (if c = '\n' then Place.mk (p.line + 1) 0 else Place.mk p.line (p.column + c.utf8Size)).after cs

/-- The place right behind a text, counted from zero. -/
def endPlace (cs : List Char) : Place :=
  Place.after ⟨0, 0⟩ cs

/-- The place `n` bytes into a text that starts at the place `p`. Inside a character
the bytes of that character count one by one. -/
def Place.advance (p : Place) (n : Nat) : List Char → Place
  | [] => p
  | c :: cs =>
    if n < c.utf8Size then ⟨p.line, p.column + n⟩
    else if c = '\n' then Place.advance ⟨p.line + 1, 0⟩ (n - c.utf8Size) cs
    else Place.advance ⟨p.line, p.column + c.utf8Size⟩ (n - c.utf8Size) cs

end Text

end ApiNotes
