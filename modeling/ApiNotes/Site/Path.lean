import ApiNotes.Text.Blank

/-!
# Path patterns

A route has a pattern: a path in which a name in braces is a parameter. A parameter stands
for the rest of its segment; one whose name begins with an asterisk ends the pattern and
stands for all that remains of the path. What a parameter stands for may be empty only when
a slash follows. Doubled braces are literal braces, also within names.

A pattern matches a path in at most one way, so where several patterns match, they are told
apart at the first piece in which they differ: there one of them is literal and the other a
parameter, and the literal one is taken.
-/

namespace ApiNotes

namespace Site

/-- A piece of the spelling of a pattern: a character, or a brace around a name. -/
inductive Mark where
  | char (c : Char)
  | opening
  | closing
deriving Repr, DecidableEq

/-- The character that a piece of the spelling shows. -/
def Mark.shown : Mark → Char
  | char c => c
  | opening => '{'
  | closing => '}'

/-- The pieces of the spelling of a pattern. -/
def marks : List Char → List Mark
  | [] => []
  | '{' :: '{' :: cs => .char '{' :: marks cs
  | '}' :: '}' :: cs => .char '}' :: marks cs
  | '{' :: cs => .opening :: marks cs
  | '}' :: cs => .closing :: marks cs
  | c :: cs => .char c :: marks cs

/-- A piece of a pattern. -/
inductive Piece where
  | char (c : Char)
  | parameter (name : String)
  /-- A parameter for all that remains. -/
  | tail (name : String)
deriving Repr, DecidableEq

/-- A pattern as its pieces. -/
abbrev Pattern := List Piece

/-- The rest of a name, up to its closing brace; asterisks and slashes are no part of
it. -/
def restOfName? : List Mark → Option (List Char)
  | [] => none
  | .closing :: _ => some []
  | m :: ms =>
    if m.shown = '*' ∨ m.shown = '/' then none else (restOfName? ms).map (m.shown :: ·)

/-- The name behind an opening brace, which is not empty. -/
def name? : List Mark → Option (List Char)
  | [] => none
  | m :: ms => if m.shown = '}' then none else (restOfName? ms).map (m.shown :: ·)

/-- The parameter of the given name, if it stands where it may: before a slash or at the
end. -/
def parameter? (name : List Char) (rest : List Mark) : Option Piece :=
  match name, rest with
  | ['*'], _ => none
  | '*' :: name, [] => some (.tail (String.ofList name))
  | '*' :: _, _ => none
  | name, [] => some (.parameter (String.ofList name))
  | name, m :: _ => if m.shown = '/' then some (.parameter (String.ofList name)) else none

/-- The pieces of a pattern; the next `skip` marks belong to a name that was read. -/
def pieces? (skip : Nat) : List Mark → Option Pattern
  | [] => some []
  | m :: ms =>
    match skip, m with
    | skip + 1, _ => pieces? skip ms
    | 0, .char c => (pieces? 0 ms).map (.char c :: ·)
    | 0, .closing => none
    | 0, .opening => do
      let name ← name? ms
      let here ← parameter? name (ms.drop (name.length + 1))
      return here :: (← pieces? (name.length + 1) ms)

/-- Whether a piece is a parameter for the rest of its segment. -/
def Piece.isParameter : Piece → Bool
  | .parameter _ => true
  | _ => false

/-- The most parameters that a pattern may have. -/
def parameterLimit : Nat :=
  25

/-- The pattern that a path denotes. A path begins with a slash, none of its segments
begins with a colon or an asterisk, and there is a limit to its parameters. -/
def Pattern.parse? (path : String) : Option Pattern := do
  let segments := path.toList.splitOn '/'
  if path.toList.head? ≠ some '/' then none
  else if segments.any fun s => s.head? == some ':' || s.head? == some '*' then none
  else
    let pattern ← pieces? 0 (marks path.toList)
    if pattern.countP Piece.isParameter ≤ parameterLimit then some pattern else none

/-- What parameters stand for in a matched path, still percent-encoded. -/
abbrev Captures := List (String × List Char)

/-- Matches a path. -/
def Pattern.match? : Pattern → List Char → Option Captures
  | [], [] => some []
  | .char c :: pattern, d :: path => if c = d then Pattern.match? pattern path else none
  | .parameter name :: pattern, c :: path => do
    let rest ← Pattern.match? pattern ((c :: path).dropWhile (· != '/'))
    return (name, (c :: path).takeWhile (· != '/')) :: rest
  | [.tail name], c :: path => some [(name, c :: path)]
  | _, _ => none

/-- Whether the first of two patterns that match one path is the more literal one. -/
def Pattern.precedes : Pattern → Pattern → Bool
  | .char _ :: p, .char _ :: q => Pattern.precedes p q
  | .parameter _ :: p, .parameter _ :: q => Pattern.precedes p q
  | .char _ :: _, _ => true
  | _, _ => false

/-- Whether two patterns exclude each other: they are the same but for the names of
parameters, or where one goes on with a parameter for all that remains, the other goes on
with a parameter as well. -/
def Pattern.conflicts : Pattern → Pattern → Bool
  | [], [] => true
  | .char c :: p, .char d :: q => c = d && Pattern.conflicts p q
  | .parameter _ :: p, .parameter _ :: q => Pattern.conflicts p q
  | .tail _ :: _, .parameter _ :: _ => true
  | .tail _ :: _, .tail _ :: _ => true
  | .parameter _ :: _, .tail _ :: _ => true
  | _, _ => false

end Site

end ApiNotes
