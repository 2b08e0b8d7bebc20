import ApiNotes.Status
import ApiNotes.Tag.Entry
import ApiNotes.Tag.Object
import ApiNotes.Text.Digit

/-!
# The arguments of a tag

What follows the name of a tag is read by the rule of its kind:

* a response and an error take a status code and a JSON object,
* a request body takes a name and a JSON object,
* an enumeration takes a field, values separated by pipes, and a description,
* a deprecation takes a message.

Objects may span lines; all else ends with the line. Reading yields an entry or a flaw,
and in both cases how many characters behind the name belong to the tag. Readers that
follow one another add up these counts (`Reading.after`), so that no reader knows where
in the comment it stands.
-/

namespace ApiNotes

namespace Tag

/-- What is wrong with a tag. -/
inductive Flaw where
  | unknownTag (name : String)
  | missingStatus (kind : Kind)
  | wrongStatus (digits : String)
  | missingName
  | missingObject (kind : Kind)
  | openObject (kind : Kind) (why : Interruption)
  | wrongObject (why : ObjectFlaw)
  | missingField
  | missingValues (field : String)
deriving Repr, DecidableEq

/-- The wording of a flaw. -/
def Flaw.message : Flaw → String
  | unknownTag name =>
    "Unknown annotation '" ++ marker ++ name ++ "'\nnote: valid annotations are " ++
      String.intercalate ", " (Kind.all.map Kind.tag)
  | missingStatus kind =>
    "Missing status code for " ++ kind.tag ++
      "\nhelp: expected '" ++ kind.tag ++ " <status> <json object>'" ++
      "\nnote: example '" ++ kind.tag ++ " 200 \x7b\"id\": 1\x7d'"
  | wrongStatus digits =>
    "Invalid HTTP status code: " ++ digits ++ ". Must be between 100 and 599."
  | missingName =>
    "Missing example name for " ++ Kind.sample.tag ++
      "\nhelp: expected '" ++ Kind.sample.tag ++ " <name> <json object>'" ++
      "\nnote: names may contain letters, digits and underscores"
  | missingObject kind =>
    "Expected a JSON object after " ++ kind.tag ++
      "\nhelp: the object must start with '\x7b' after whitespace"
  | openObject kind why => "Invalid " ++ kind.tag ++ " annotation: " ++ why.message
  | wrongObject why => why.message
  | missingField =>
    "Missing field name for " ++ Kind.enumeration.tag ++
      "\nhelp: expected '" ++ Kind.enumeration.tag ++ " <field> <value>|<value> [description]'"
  | missingValues field =>
    "Missing values for " ++ Kind.enumeration.tag ++ " " ++ field ++
      "\nhelp: list the allowed values separated by '|'" ++
      "\nnote: example '" ++ Kind.enumeration.tag ++ " " ++ field ++
      " pending|approved|rejected'"

/-- What a reader makes of a text, and how many characters it covers. -/
structure Reading (α : Type) where
  result : Except Flaw α
  reach : Nat

namespace Reading

/-- A reading behind `n` characters that were read before. -/
def after {α : Type} (n : Nat) (r : Reading α) : Reading α :=
  { r with reach := n + r.reach }

/-- A reading with its result changed. -/
def map {α β : Type} (f : α → β) (r : Reading α) : Reading β :=
  ⟨r.result.map f, r.reach⟩

/-- A flaw that covers the rest of the line. -/
def failLine {α : Type} (flaw : Flaw) (text : List Char) : Reading α :=
  ⟨.error flaw, (Text.row text).length⟩

end Reading

/-- The object after the fixed arguments of a tag, with blanks before it. -/
def readObject (kind : Kind) (text : List Char) : Reading Json :=
  let blanks := text.takeWhile Text.isBlank
  let body := text.dropWhile Text.isBlank
  if blanks ≠ [] ∧ body.head? = some '{' then
    .after blanks.length <|
      match objectLength body with
      | .error why => .failLine (.openObject kind why) body
      | .ok n =>
        match decodeObject (body.take n) with
        | .error why => ⟨.error (.wrongObject why), n⟩
        | .ok v => ⟨.ok v, n⟩
  else .failLine (.missingObject kind) text

/-- The status code that a run of digits denotes. -/
def status? (digits : List Char) : Option Nat :=
  (Text.decimal? digits).filter Status.isValid

/-- A status code and an object. -/
def readResponse (kind : Kind) (text : List Char) : Reading ResponseNote :=
  let blanks := text.takeWhile Text.isBlank
  let rest := text.dropWhile Text.isBlank
  let digits := rest.takeWhile Text.isDigit
  if blanks = [] ∨ digits = [] then .failLine (.missingStatus kind) text
  else
    match status? digits with
    | none => .failLine (.wrongStatus (String.ofList digits)) text
    | some status =>
      .after (blanks.length + digits.length) <|
        (readObject kind (rest.dropWhile Text.isDigit)).map fun schema =>
          ⟨status, Status.reason status, schema, none⟩

/-- A name and an object. -/
def readSample (text : List Char) : Reading SampleNote :=
  let blanks := text.takeWhile Text.isBlank
  let rest := text.dropWhile Text.isBlank
  let name := rest.takeWhile Text.isWordChar
  if blanks = [] ∨ name = [] then .failLine .missingName text
  else
    .after (blanks.length + name.length) <|
      (readObject .sample (rest.dropWhile Text.isWordChar)).map fun value =>
        ⟨String.ofList name, value⟩

/-- The values at the start of a text. Gaps belong to them directly behind a pipe and
where a pipe follows; any other blank ends them. -/
def takeValues (afterPipe : Bool) : List Char → List Char
  | [] => []
  | c :: cs =>
    if c = '|' then c :: takeValues true cs
    else if Text.isBlank c then
      if Text.isGap c ∧ (afterPipe ∨ (cs.dropWhile Text.isGap).head? = some '|') then
        c :: takeValues afterPipe cs
      else []
    else c :: takeValues false cs

/-- A text to the end of a line, without the `*/` that may close a comment there. -/
def stripClose (text : List Char) : List Char :=
  let text := Text.trim text
  match text.reverse with
  | '/' :: '*' :: rest => Text.trimEnd rest.reverse
  | _ => text

/-- The description behind the values of an enumeration. -/
def describe (text : List Char) : List Char :=
  match text with
  | c :: _ => if Text.isGap c then stripClose (text.takeWhile (· != '\r')) else []
  | [] => []

/-- The values that a text between pipes lists. -/
def splitValues (text : List Char) : List String :=
  (text.splitOn '|').map fun value => String.ofList (Text.trim value)

/-- A field, its values and a description, all of it on one line. -/
def readEnum (text : List Char) : Reading EnumNote :=
  let line := Text.row text
  let gaps := line.takeWhile Text.isGap
  let rest := line.dropWhile Text.isGap
  let field := rest.takeWhile Text.isWordChar
  if gaps = [] ∨ field = [] then .failLine .missingField text
  else
    let behind := rest.dropWhile Text.isWordChar
    let values := takeValues false (behind.dropWhile Text.isGap)
    if behind.takeWhile Text.isGap = [] ∨ values = [] then
      .failLine (.missingValues (String.ofList field)) text
    else
      ⟨.ok ⟨String.ofList field, splitValues values,
          String.ofList (describe ((behind.dropWhile Text.isGap).drop values.length))⟩,
        line.length⟩

/-- A message to the end of the line. -/
def readDeprecation (text : List Char) : Reading Deprecation :=
  let line := Text.row text
  ⟨.ok (.ofMessage (String.ofList (stripClose line))), line.length⟩

/-- The arguments of a tag of the given kind. -/
def readArguments (kind : Kind) (text : List Char) : Reading Entry :=
  match kind with
  | .response => (readResponse .response text).map .response
  | .error => (readResponse .error text).map .error
  | .sample => (readSample text).map .sample
  | .enumeration => (readEnum text).map .enumeration
  | .deprecated => (readDeprecation text).map .deprecated

end Tag

end ApiNotes
