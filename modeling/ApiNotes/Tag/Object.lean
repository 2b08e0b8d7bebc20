import ApiNotes.Json.Reader
import ApiNotes.Text.Blank
import ApiNotes.Text.Lines
import ApiNotes.Text.Offset

/-!
# JSON objects inside comments

An object in a comment is captured before it is read: `objectLength` finds its closing
brace by counting braces outside of strings, and gives up where the comment ends, where
another tag begins, or where a string runs into the end of its line. The captured text
is then freed of the decoration that comments put at the start of each line, and read as
JSON.

The capturing walk carries the depth and whether it is inside a string; it looks at the
text behind the current character only for the two interruptions.
-/

namespace ApiNotes

namespace Tag

/-- Why the closing brace of an object was not found. -/
inductive Interruption where
  /-- The text ended first. -/
  | textEnd
  /-- Another tag began first. -/
  | tag
  /-- The comment was closed first. -/
  | commentEnd
  /-- A string was not closed on its line. -/
  | openString
deriving Repr, DecidableEq

/-- The wording of an interruption. -/
def Interruption.message : Interruption → String
  | textEnd => "JSON object is never closed"
  | tag => "JSON object is not closed before the next @LRD tag"
  | commentEnd => "JSON object is not closed before the end of the comment"
  | openString => "JSON string is not closed on its line"

/-- Where the capturing walk is with respect to strings. -/
inductive Region where
  | outside
  | inString
  /-- In a string, behind a backslash. -/
  | escaped
deriving Repr, DecidableEq

/-- The number of characters up to and with the closing brace, at the given depth. -/
def lengthToClose (region : Region) (depth : Nat) : List Char → Except Interruption Nat
  | [] => .error .textEnd
  | c :: cs =>
    let walk (region : Region) (depth : Nat) := (lengthToClose region depth cs).map (· + 1)
    match region with
    | .escaped => walk .inString depth
    | .inString =>
      if c = '\\' then walk .escaped depth
      else if c = '"' then walk .outside depth
      else if c = '\n' then .error .openString
      else walk .inString depth
    | .outside =>
      if c = '"' then walk .inString depth
      else if c = '{' then walk .outside (depth + 1)
      else if c = '}' then if depth ≤ 1 then .ok 1 else walk .outside (depth - 1)
      else if c = '*' ∧ cs.head? = some '/' then .error .commentEnd
      else if c = '@' ∧ ['L', 'R', 'D'].isPrefixOf cs then .error .tag
      else walk .outside depth

/-- The number of characters of the object that a text begins with. -/
def objectLength (text : List Char) : Except Interruption Nat :=
  lengthToClose .outside 0 text

/-- The byte offset behind the object that opens at byte `start` of a text. Inside a
character the walk begins with the next one. -/
def objectEnd (text : List Char) (start : Nat) : Except Interruption Nat :=
  let rest := Text.dropBytes start text
  (objectLength rest).map fun n =>
    Text.byteLength text - Text.byteLength rest + Text.byteLength (rest.take n)

/-- A row of a comment without its decoration: an asterisk, or two or three slashes, with
the gaps around them. -/
def stripRow (row : List Char) : List Char :=
  match row.dropWhile Text.isGap with
  | '*' :: rest => rest.dropWhile Text.isGap
  | '/' :: '/' :: '/' :: rest => rest.dropWhile Text.isGap
  | '/' :: '/' :: rest => rest.dropWhile Text.isGap
  | _ => row

/-- A text without the decoration of its rows, trimmed. -/
def stripDecoration (text : List Char) : List Char :=
  Text.trim (Text.joinRows ((Text.rows text).map stripRow))

/-- Why a captured text is not an object. -/
inductive ObjectFlaw where
  | notJson (error : Json.Error)
  | notObject
deriving Repr, DecidableEq

/-- The wording of a flaw of an object. -/
def ObjectFlaw.message : ObjectFlaw → String
  | notJson error => "invalid JSON: " ++ error.message
  | notObject => "JSON value is not an object"

/-- The object that a captured text denotes once its decoration is removed. -/
def decodeObject (text : List Char) : Except ObjectFlaw Json :=
  match Json.parse (stripDecoration text) with
  | .error error => .error (.notJson error)
  | .ok v => if v.isObject then .ok v else .error .notObject

end Tag

end ApiNotes
