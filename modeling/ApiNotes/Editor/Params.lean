import ApiNotes.Editor.Workspace
import ApiNotes.Record.Shape

/-!
# Parameters that are events

The parameters of the messages to which the workspace reacts. Positions and files stand in
the parameters of requests directly, beside tokens under which an editor may ask for news of
the progress; the tokens are read and have no effect.
-/

namespace ApiNotes

namespace Editor

namespace Form

open Record

/-- A position. -/
def position (inPart : Bool) : Reader Position := fun v => do
  let shape : Shape :=
    { name := "Position", fields := [.of "line" word32, .of "character" word32], inPart }
  let found ← shape.open? v
  return ⟨← given found "line" word32, ← given found "character" word32⟩

/-- A range. -/
def range : Reader Unit :=
  record "Range" [.of "start" (position false), .of "end" (position false)]

/-- The file that a message is about. -/
def file (inPart : Bool) : Reader String := fun v => do
  let shape : Shape :=
    { name := "TextDocumentIdentifier", fields := [.of "uri" address], inPart }
  given (← shape.open? v) "uri" address

/-- A token of an editor. -/
def token : Reader Unit :=
  choice "NumberOrString" [void int32, void string]

/-- A position in a file, as a part of parameters. -/
def place : List Field :=
  [.of "textDocument" (file true), .of "position" (position true)]

/-- The token for news of the progress. -/
def progress : List Field :=
  [.ofOption "workDoneToken" token]

/-- The token for results that come bit by bit. -/
def bitByBit : List Field :=
  [.ofOption "partialResultToken" token]

/-- That a file was opened. -/
def readOpened : Reader Event := fun v => do
  let item : Shape :=
    { name := "TextDocumentItem"
      fields := [.of "uri" address, .of "languageId" string, .of "version" int32,
        .of "text" string] }
  let shape : Shape :=
    { name := "DidOpenTextDocumentParams", fields := [.of "textDocument" item.open?] }
  let file ← given (← shape.open? v) "textDocument" item.open?
  return .opened (← given file "uri" address) (← given file "text" string)
    (← given file "version" int32)

/-- The text of a change. The range that it replaces is read and has no effect. -/
def changedText : Reader String := fun v => do
  let shape : Shape :=
    { name := "TextDocumentContentChangeEvent"
      fields := [.ofOption "range" range, .ofOption "rangeLength" word32, .of "text" string] }
  given (← shape.open? v) "text" string

/-- That a file was changed. -/
def readChanged : Reader Event := fun v => do
  let version : Shape :=
    { name := "VersionedTextDocumentIdentifier"
      fields := [.of "uri" address, .of "version" int32] }
  let shape : Shape :=
    { name := "DidChangeTextDocumentParams"
      fields := [.of "textDocument" version.open?, .of "contentChanges" (list changedText)] }
  let found ← shape.open? v
  let file ← given found "textDocument" version.open?
  return .changed (← given file "uri" address)
    (← given found "contentChanges" (list changedText)) (← given file "version" int32)

/-- That a file was closed. -/
def readClosed : Reader Event := fun v => do
  let shape : Shape :=
    { name := "DidCloseTextDocumentParams", fields := [.of "textDocument" (file false)] }
  return .closed (← given (← shape.open? v) "textDocument" (file false))

/-- How a completion was asked for. -/
def completionContext : Reader Unit :=
  record "CompletionContext" [.of "triggerKind" int32, .ofOption "triggerCharacter" string]

/-- A request for completions. -/
def readCompletion : Reader Event := fun v => do
  let shape : Shape :=
    { name := "CompletionParams", fields := [.ofOption "context" completionContext]
      parts := [place, progress, bitByBit] }
  let found ← shape.open? v
  return .completion (← given found "textDocument" (file true))
    (← given found "position" (position true))

/-- A request for what a position shows. -/
def readHover : Reader Event := fun v => do
  let shape : Shape := { name := "HoverParams", fields := [], parts := [place, progress] }
  let found ← shape.open? v
  return .hover (← given found "textDocument" (file true))
    (← given found "position" (position true))

end Form

end Editor

end ApiNotes
