import ApiNotes.Editor.Comment
import ApiNotes.Editor.Position
import ApiNotes.Editor.Spelling
import ApiNotes.Tag.Scan

/-!
# Diagnostics

Flawed tags are errors. Unknown tags are warnings, and so are request bodies and
enumerations that repeat a name within one comment. Two tags are in one comment when the
text between them neither closes the comment nor has a line that is no comment line.

The text between two tags is looked at for every tag but the first. There is none when the
previous tag, being flawed, reaches beyond the start of the tag; the text then cannot be
diagnosed at all.
-/

namespace ApiNotes

namespace Editor

/-- How bad a diagnostic is. -/
inductive Severity where
  | error
  | warning
deriving Repr, DecidableEq

/-- A remark about a tag. The columns are bytes of the line. -/
structure Diagnostic where
  line : Nat
  start : Nat
  stop : Nat
  message : String
  severity : Severity
deriving Repr, DecidableEq

/-- Whether a text closes a comment. -/
def closesComment : List Char → Bool
  | [] => false
  | c :: cs => (c == '*' && cs.head? == some '/') || closesComment cs

/-- Whether a text between two tags leads to another comment. -/
def startsNewComment (between : List Char) : Bool :=
  closesComment between || ((Text.lines between).drop 1).any fun line => !isCommentLine line

/-- The text from byte `start` up to byte `stop`. -/
def slice (text : List Char) (start stop : Nat) : List Char :=
  let rest := Text.dropBytes start text
  (Text.takeBytes? (stop - start) rest).getD rest

/-- How many bytes are highlighted for a tag, where `length` bytes of its line are left: at least
those of the marker, if there are that many. -/
def highlightLength (span : Tag.Span) (length : Nat) : Nat :=
  min (max (min (span.stop - span.start) length) (Text.byteLength Tag.marker.toList)) length

/-- A diagnostic about a tag, on the line of its marker. -/
def diagnosticAt (text : List Char) (span : Tag.Span) (severity : Severity) (message : String) :
    Diagnostic :=
  let place := Text.endPlace (slice text 0 span.start)
  let line := Text.row (Text.dropBytes span.start text)
  { line := place.line
    start := place.column
    stop := place.column + highlightLength span (Text.byteLength line)
    message
    severity }

/-- The names that occurred so far in a comment. -/
structure Seen where
  samples : List String
  enums : List String
deriving Repr, DecidableEq

/-- No names. -/
def Seen.empty : Seen :=
  ⟨[], []⟩

/-- The remark about an unknown tag. -/
def unknownMessage (name : String) : String :=
  match suggestion? name with
  | some kind =>
    "Unknown annotation '" ++ Tag.marker ++ name ++ "'\nhelp: did you mean '" ++ kind.tag ++ "'?"
  | none => (Tag.Flaw.unknownTag name).message

/-- The remark about a repeated request body. -/
def repeatedSample (name : String) : String :=
  "Duplicate example '" ++ name ++ "'\nnote: the later example replaces the earlier one"

/-- The remark about a repeated enumeration. -/
def repeatedEnum (field : String) : String :=
  "Duplicate enum field '" ++ field ++ "'\nnote: the later definition replaces the earlier one"

/-- What is remarked about a tag, and the names that occurred with it. -/
def remark (seen : Seen) (o : Tag.Occurrence) : Option (Severity × String) × Seen :=
  match o.result with
  | .error problem =>
    if o.kind.isNone then (some (.warning, unknownMessage o.name), seen)
    else (some (.error, problem.flaw.message), seen)
  | .ok (.sample note) =>
    if seen.samples.contains note.name then (some (.warning, repeatedSample note.name), seen)
    else (none, { seen with samples := note.name :: seen.samples })
  | .ok (.enumeration note) =>
    if seen.enums.contains note.field then (some (.warning, repeatedEnum note.field), seen)
    else (none, { seen with enums := note.field :: seen.enums })
  | .ok _ => (none, seen)

/-- The diagnostics of tags, behind a tag that ends at byte `previous`. -/
def diagnoseFrom? (text : List Char) (previous : Option Nat) (seen : Seen) :
    List Tag.Occurrence → Option (List Diagnostic)
  | [] => some []
  | o :: rest =>
    if previous.any fun stop => o.span.start < stop then none
    else
      let leaves := previous.any fun stop => startsNewComment (slice text stop o.span.start)
      let (found, seen) := remark (if leaves then .empty else seen) o
      (diagnoseFrom? text (some o.span.stop) seen rest).map fun later =>
        match found with
        | some (severity, message) => diagnosticAt text o.span severity message :: later
        | none => later

/-- The diagnostics of a text. -/
def diagnose? (text : List Char) : Option (List Diagnostic) :=
  diagnoseFrom? text none .empty (Tag.scan text)

end Editor

end ApiNotes
