import ApiNotes.Decimal.Layout
import ApiNotes.Json.Basic

/-!
# Writing JSON

Two spellings of a value: `compact`, without any blank, and `pretty`, with every entry
of a container on a line of its own, indented by two spaces a level. Strings escape the
quote, the backslash and the control characters below the space; all other characters
stand for themselves.
-/

namespace ApiNotes

namespace Json

/-- How numbers with a fraction are spelled: positionally from `0.00001` up to sixteen
digits before the point, otherwise with an exponent that always has a sign. -/
def layout : Decimal.Layout where
  positional := Decimal.Layout.sixteenDigits
  rising := ['e', '+']

/-- The spelling of a character inside a string. -/
def escapeChar (c : Char) : List Char :=
  if c = '"' then ['\\', '"']
  else if c = '\\' then ['\\', '\\']
  else if c = '\n' then ['\\', 'n']
  else if c = '\r' then ['\\', 'r']
  else if c = '\t' then ['\\', 't']
  else if c = '\x08' then ['\\', 'b']
  else if c = '\x0c' then ['\\', 'f']
  else if c.toNat < 0x20 then
    ['\\', 'u', '0', '0', Text.hexDigit (c.toNat / 16), Text.hexDigit (c.toNat % 16)]
  else [c]

/-- A string between quotes. -/
def quote (s : String) : List Char :=
  '"' :: s.toList.flatMap escapeChar ++ ['"']

/-- The spelling of an integer. -/
def writeInt (n : Int) : List Char :=
  if n < 0 then '-' :: Text.digits n.natAbs else Text.digits n.natAbs

/-- The spelling of a value that is no container. -/
def writeScalar : Json → List Char
  | null => ['n', 'u', 'l', 'l']
  | bool true => ['t', 'r', 'u', 'e']
  | bool false => ['f', 'a', 'l', 's', 'e']
  | int n => writeInt n
  | real x => layout.writeFloat x
  | str s => quote s
  | arr _ => ['[', ']']
  | obj _ => ['{', '}']

mutual

/-- The spelling without blanks. -/
def write : Json → List Char
  | arr items => '[' :: writeItems items ++ [']']
  | obj members => '{' :: writeMembers members ++ ['}']
  | v => writeScalar v

/-- Items separated by commas. -/
def writeItems : List Json → List Char
  | [] => []
  | [v] => write v
  | v :: w :: rest => write v ++ ',' :: writeItems (w :: rest)

/-- Members separated by commas. -/
def writeMembers : List (String × Json) → List Char
  | [] => []
  | [(k, v)] => quote k ++ ':' :: write v
  | (k, v) :: m :: rest => quote k ++ ':' :: write v ++ ',' :: writeMembers (m :: rest)

end

/-- A line feed and an indentation. -/
def newline (indent : Nat) : List Char :=
  '\n' :: List.replicate indent ' '

mutual

/-- The spelling with one entry a line, inside containers indented by `indent`. -/
def writePretty (indent : Nat) : Json → List Char
  | arr [] => ['[', ']']
  | arr (v :: items) => '[' :: prettyItems (indent + 2) (v :: items) ++ newline indent ++ [']']
  | obj [] => ['{', '}']
  | obj (m :: members) =>
    '{' :: prettyMembers (indent + 2) (m :: members) ++ newline indent ++ ['}']
  | v => writeScalar v

/-- Items, each on a line of its own. -/
def prettyItems (indent : Nat) : List Json → List Char
  | [] => []
  | [v] => newline indent ++ writePretty indent v
  | v :: w :: rest => newline indent ++ writePretty indent v ++ ',' :: prettyItems indent (w :: rest)

/-- Members, each on a line of its own. -/
def prettyMembers (indent : Nat) : List (String × Json) → List Char
  | [] => []
  | [(k, v)] => newline indent ++ quote k ++ ':' :: ' ' :: writePretty indent v
  | (k, v) :: m :: rest =>
    newline indent ++ quote k ++ ':' :: ' ' :: writePretty indent v ++
      ',' :: prettyMembers indent (m :: rest)

end

/-- The spelling without blanks, as a string. -/
def compact (v : Json) : String :=
  String.ofList (write v)

/-- The spelling with one entry a line, as a string. -/
def pretty (v : Json) : String :=
  String.ofList (writePretty 0 v)

end Json

end ApiNotes
