import ApiNotes.Json.Writer
import ApiNotes.Snippet.Quote

/-!
# JSON values in source code

A JSON value as a literal of PHP and of Python. Containers have an entry a line, four
spaces further in than the line they begin on.
-/

namespace ApiNotes

namespace Snippet

/-- An indentation. -/
def spaces (n : Nat) : List Char :=
  List.replicate n ' '

mutual

/-- A literal of PHP. Objects are arrays with keys there, so an empty object reads like
an empty array. -/
def writePhp (indent : Nat) : Json → List Char
  | .str s => phpQuote s.toList
  | .arr [] => ['[', ']']
  | .arr (v :: items) =>
    '[' :: '\n' :: phpItems (indent + 4) (v :: items) ++ spaces indent ++ [']']
  | .obj [] => ['[', ']']
  | .obj (m :: members) =>
    '[' :: '\n' :: phpMembers (indent + 4) (m :: members) ++ spaces indent ++ [']']
  | v => Json.writeScalar v

/-- Items, each with a comma behind it. -/
def phpItems (indent : Nat) : List Json → List Char
  | [] => []
  | v :: items => spaces indent ++ writePhp indent v ++ ',' :: '\n' :: phpItems indent items

/-- Members, each with a comma behind it. -/
def phpMembers (indent : Nat) : List (String × Json) → List Char
  | [] => []
  | (k, v) :: members =>
    spaces indent ++ phpQuote k.toList ++ ' ' :: '=' :: '>' :: ' ' :: writePhp indent v ++
      ',' :: '\n' :: phpMembers indent members

end

mutual

/-- A literal of Python. -/
def writePython (indent : Nat) : Json → List Char
  | .null => ['N', 'o', 'n', 'e']
  | .bool true => ['T', 'r', 'u', 'e']
  | .bool false => ['F', 'a', 'l', 's', 'e']
  | .arr [] => ['[', ']']
  | .arr (v :: items) =>
    '[' :: '\n' :: pythonItems (indent + 4) (v :: items) ++ '\n' :: spaces indent ++ [']']
  | .obj [] => ['{', '}']
  | .obj (m :: members) =>
    '{' :: '\n' :: pythonMembers (indent + 4) (m :: members) ++ '\n' :: spaces indent ++ ['}']
  | v => Json.writeScalar v

/-- Items with commas between them. -/
def pythonItems (indent : Nat) : List Json → List Char
  | [] => []
  | [v] => spaces indent ++ writePython indent v
  | v :: w :: items =>
    spaces indent ++ writePython indent v ++ ',' :: '\n' :: pythonItems indent (w :: items)

/-- Members with commas between them. -/
def pythonMembers (indent : Nat) : List (String × Json) → List Char
  | [] => []
  | [(k, v)] => spaces indent ++ Json.quote k ++ ':' :: ' ' :: writePython indent v
  | (k, v) :: m :: members =>
    spaces indent ++ Json.quote k ++ ':' :: ' ' :: writePython indent v ++
      ',' :: '\n' :: pythonMembers indent (m :: members)

end

/-- A literal of PHP whose first line is indented by `indent`. -/
def phpLiteral (indent : Nat) (v : Json) : String :=
  String.ofList (writePhp indent v)

/-- A literal of Python whose first line is indented by `indent`. -/
def pythonLiteral (indent : Nat) (v : Json) : String :=
  String.ofList (writePython indent v)

end Snippet

end ApiNotes
