import ApiNotes.Editor.Completion
import ApiNotes.Tag.Scan

/-!
# Hovering

On a comment line, a status code behind a tag that takes one shows what the code means,
and a tag shows its guide. Both ends of a code or a tag belong to it.
-/

namespace ApiNotes

namespace Editor

/-- A part of a line with the byte at which it starts. -/
structure Piece where
  start : Nat
  text : List Char
deriving Repr, DecidableEq

/-- Whether a byte index touches a piece. -/
def Piece.touches (piece : Piece) (byte : Nat) : Bool :=
  piece.start ≤ byte && byte ≤ piece.start + Text.byteLength piece.text

/-- The status code behind the tag that a text begins with. -/
def statusPiece? (offset : Nat) (text : List Char) : Option Piece := do
  let rest ← behindStatusTag? text
  let digits := rest.takeWhile Text.isDigit
  if digits = [] then none
  else some ⟨offset + (Text.byteLength text - Text.byteLength rest), digits⟩

/-- The status codes of a line that starts at byte `offset`. -/
def statusPieces (offset : Nat) : List Char → List Piece
  | [] => []
  | c :: cs =>
    (statusPiece? offset (c :: cs)).toList ++ statusPieces (offset + c.utf8Size) cs

/-- The tags of a line that starts at byte `offset`, as the letters behind their
markers. -/
def tagPieces (offset : Nat) : List Char → List Piece
  | [] => []
  | c :: cs =>
    ((Tag.tagName? (c :: cs)).map fun name => ⟨offset, Tag.marker.toList ++ name⟩).toList ++
      tagPieces (offset + c.utf8Size) cs

/-- The status code at a byte index of a line. -/
def statusAt? (line : List Char) (byte : Nat) : Option Nat := do
  let piece ← (statusPieces 0 line).find? fun piece => piece.touches byte
  Tag.status? piece.text

/-- The kind of the tag at a byte index of a line. -/
def kindAt? (line : List Char) (byte : Nat) : Option Tag.Kind := do
  let piece ← (tagPieces 0 line).find? fun piece => piece.touches byte
  Tag.Kind.ofName? (String.ofList (piece.text.drop 4))

/-- What is shown at a position of a text. -/
def hover? (text : List Char) (p : Position) : Option String := do
  let line ← (Text.lines text)[p.line]?
  if !isCommentLine line then none
  else
    let byte ← byte? p.character line
    match statusAt? line byte with
    | some code => some (statusGuide code)
    | none => (kindAt? line byte).map guide

end Editor

end ApiNotes
