import ApiNotes.Editor.Comment
import ApiNotes.Editor.Guide
import ApiNotes.Editor.Position
import ApiNotes.Text.Digit

/-!
# Completions

In a comment line, the start of a tag is completed to the tags that begin so, and the
start of a status code to the common ones. Only the text before the cursor counts.
-/

namespace ApiNotes

namespace Editor

/-- What a completion inserts. -/
inductive CompletionKind where
  | value
  | snippet
deriving Repr, DecidableEq

/-- A completion. -/
structure Completion where
  label : String
  kind : CompletionKind
  detail : String
  documentation : String
  insertText : String
deriving Repr, DecidableEq

/-- A tag with places for its arguments. -/
def template : Tag.Kind → String
  | .response => "@LRDresponse $\x7b1:200\x7d \x7b\"$\x7b2:id\x7d\": $\x7b3:1\x7d\x7d"
  | .sample => "@LRDexample $\x7b1:name\x7d \x7b\"$\x7b2:field\x7d\": \"$\x7b3:value\x7d\"\x7d"
  | .error => "@LRDerror $\x7b1:404\x7d \x7b\"$\x7b2:message\x7d\": \"$\x7b3:Not found\x7d\"\x7d"
  | .enumeration => "@LRDenum $\x7b1:field\x7d $\x7b2:first|second\x7d $\x7b3:Description\x7d"
  | .deprecated => "@LRDdeprecated $\x7b1:Use the newer endpoint instead\x7d"

/-- The completion to a tag. -/
def tagCompletion (kind : Tag.Kind) : Completion :=
  ⟨kind.tag, .snippet, summary kind, guide kind, template kind⟩

/-- The completion to a status code. -/
def statusCompletion (code : Nat) : Completion :=
  let label := String.ofList (Text.digits code)
  ⟨label, .value, Status.reason code, statusGuide code, label⟩

/-- Whether a tag is offered for what was typed. A text no longer than the marker cannot tell
tags apart and is held against the marker alone. -/
def isOffered (typed : List Char) (kind : Tag.Kind) : Bool :=
  if Text.byteLength typed ≤ Text.byteLength Tag.marker.toList then
    typed.isPrefixOf Tag.marker.toList
  else typed.isPrefixOf kind.tag.toList

/-- The tags that are offered for what was typed. -/
def tagCompletions (typed : List Char) : List Completion :=
  (Tag.Kind.all.filter (isOffered typed)).map tagCompletion

/-- The common status codes that begin with what was typed. -/
def statusCompletions (typed : List Char) : List Completion :=
  (Status.common.filter fun code => typed.isPrefixOf (Text.digits code)).map statusCompletion

/-- The tags that take a status code. -/
def statusTags : List (List Char) :=
  [Tag.Kind.response.tag.toList, Tag.Kind.error.tag.toList]

/-- What follows a tag that takes a status code, when the text begins with one and gaps
follow it. -/
def behindStatusTag? (text : List Char) : Option (List Char) := do
  let rest ← statusTags.findSome? fun tag => Text.dropStart? tag text
  if rest.head?.any Text.isGap then some (rest.dropWhile Text.isGap) else none

/-- The start of a status code that a text ends in, behind a tag that takes one. -/
def typedStatus? : List Char → Option (List Char)
  | [] => none
  | c :: cs =>
    match behindStatusTag? (c :: cs) with
    | some digits => if digits.all Text.isDigit then some digits else typedStatus? cs
    | none => typedStatus? cs

/-- The last word of a text, empty if it ends in a blank. -/
def lastWord (text : List Char) : List Char :=
  (text.reverse.takeWhile fun c => !Text.isBlank c).reverse

/-- The completions behind the part of a line before the cursor. -/
def completionsAfter (typed : List Char) : List Completion :=
  if !isCommentLine typed then []
  else
    let text := stripCommentMark typed
    match typedStatus? text with
    | some digits => statusCompletions digits
    | none =>
      let word := lastWord text
      if word.head? = some '@' then tagCompletions word else []

/-- The part of a line before a column, all of it if the column is none of the line's. -/
def beforeColumn (line : List Char) (character : Nat) : List Char :=
  match byte? character line with
  | some n => (Text.takeBytes? n line).getD line
  | none => line

/-- The completions at a position of a text. -/
def completions (text : List Char) (p : Position) : List Completion :=
  match (Text.lines text)[p.line]? with
  | none => []
  | some line => completionsAfter (beforeColumn line p.character)

end Editor

end ApiNotes
