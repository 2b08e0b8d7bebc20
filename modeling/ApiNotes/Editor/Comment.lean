import ApiNotes.Text.Blank

/-!
# Comment lines

An editor knows a comment by its lines: a comment line begins with one of the marks of
the common languages. Tags outside of comment lines are not helped with.
-/

namespace ApiNotes

namespace Editor

/-- What begins a comment line, behind its indentation. -/
def commentMarks : List (List Char) :=
  [['*'], ['/', '*'], ['/', '/'], ['#']]

/-- The marks that are removed from a comment line, longer ones first. -/
def strippedMarks : List (List Char) :=
  [['/', '*', '*'], ['/', '*'], ['/', '/', '/'], ['/', '/'], ['*'], ['#']]

/-- Whether a line belongs to a comment. -/
def isCommentLine (line : List Char) : Bool :=
  commentMarks.any fun mark => mark.isPrefixOf (Text.trimStart line)

/-- A comment line without its mark and the blanks around it. -/
def stripCommentMark (line : List Char) : List Char :=
  let line := Text.trimStart line
  match strippedMarks.findSome? fun mark => Text.dropStart? mark line with
  | some rest => Text.trimStart rest
  | none => line

end Editor

end ApiNotes
