import ApiNotes.Record.Fault
import ApiNotes.Text.Percent
import ApiNotes.Text.Utf8

/-!
# Queries

The query of a request is a list of pairs in form encoding. The query for a snippet names
a method and a URI, each of them once.
-/

namespace ApiNotes

namespace Site

/-- A component of a query: a plus sign is a space, percent signs introduce bytes, and
malformed bytes are replaced. -/
def formDecode (text : List Char) : String :=
  String.ofList <| Text.utf8Lossy <| Text.percentBytes <|
    text.map fun c => if c = '+' then ' ' else c

/-- The pairs of a query. Empty parts are passed over, and a part without an equals sign
has an empty value. -/
def queryPairs (query : List Char) : List (String × String) :=
  ((query.splitOn '&').filter (· != [])).map fun part =>
    (formDecode (part.takeWhile (· != '=')), formDecode ((part.dropWhile (· != '=')).drop 1))

/-- The query for a snippet. -/
structure SnippetQuery where
  method : String
  uri : String
deriving Repr, DecidableEq

/-- The single value under a key. -/
def queryField (pairs : List (String × String)) (key : String) : Except Record.Fault String :=
  match pairs.lookup key with
  | some v => .ok v
  | none => .error (.missingField key)

/-- The first key among those of interest that is given twice. -/
def repeated? (seen : List String) : List (String × String) → Option String
  | [] => none
  | (key, _) :: pairs =>
    if key = "method" ∨ key = "uri" then
      if seen.contains key then some key else repeated? (key :: seen) pairs
    else repeated? seen pairs

/-- Reads the query for a snippet. -/
def SnippetQuery.parse (query : List Char) : Except Record.Fault SnippetQuery := do
  let pairs := queryPairs query
  match repeated? [] pairs with
  | some key => .error (.duplicateField key)
  | none => return ⟨← queryField pairs "method", ← queryField pairs "uri"⟩

end Site

end ApiNotes
