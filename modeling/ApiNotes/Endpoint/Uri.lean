import ApiNotes.Text.Blank

/-!
# URIs of endpoints

A URI is published with one slash before it and none behind it. Parts in braces are
placeholders. Two readings of them are in use: the *parameters* are the placeholders
whose content is an identifier, with an optional question mark behind it, and *routes*
in client code write every placeholder of one path segment with a colon instead of
braces. A placeholder holds no brace, so two of them never overlap, and each can be
recognised at its opening brace.
-/

namespace ApiNotes

namespace Uri

/-- Whether a character is the slash between path segments. -/
def isSlash (c : Char) : Bool :=
  c == '/'

/-- A text without blanks and then slashes at its ends. -/
def core (uri : List Char) : List Char :=
  Text.dropEndWhile isSlash ((Text.trim uri).dropWhile isSlash)

/-- The published form of a URI. -/
def normalize (uri : String) : String :=
  String.ofList ('/' :: core uri.toList)

/-- A base and a URI with exactly one slash between them. -/
def join (base uri : String) : String :=
  String.ofList
    (Text.dropEndWhile isSlash base.toList ++ '/' :: uri.toList.dropWhile isSlash)

/-- The parameter whose placeholder a text begins with. -/
def parameter? : List Char → Option (List Char)
  | '{' :: cs =>
    let name := cs.takeWhile Text.isWordChar
    let isIdentifier := match name with
      | [] => false
      | c :: _ => !c.isDigit
    match cs.dropWhile Text.isWordChar with
    | '}' :: _ => if isIdentifier then some name else none
    | '?' :: '}' :: _ => if isIdentifier then some name else none
    | _ => none
  | _ => none

/-- The parameters of a URI, in order. -/
def parameters : List Char → List String
  | [] => []
  | c :: cs =>
    match parameter? (c :: cs) with
    | some name => String.ofList name :: parameters cs
    | none => parameters cs

/-- The characters that may stand in a placeholder. -/
def isPlaceholderChar (c : Char) : Bool :=
  c != '/' && c != '{' && c != '}'

/-- Whether the text behind an opening brace completes a placeholder. -/
def closes (cs : List Char) : Bool :=
  (cs.takeWhile isPlaceholderChar) != [] && (cs.dropWhile isPlaceholderChar).head? == some '}'

/-- Writes placeholders with a colon; `inside` tells that the next closing brace ends
one. -/
def colonForm (inside : Bool) : List Char → List Char
  | [] => []
  | c :: cs =>
    if c = '{' ∧ closes cs then ':' :: colonForm true cs
    else if inside ∧ c = '}' then colonForm false cs
    else c :: colonForm inside cs

/-- A URI as client code writes it. -/
def route (uri : String) : String :=
  String.ofList (colonForm false uri.toList)

end Uri

end ApiNotes
