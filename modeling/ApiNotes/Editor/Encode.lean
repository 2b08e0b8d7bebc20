import ApiNotes.Editor.Workspace
import ApiNotes.Json.Basic

/-!
# The JSON forms that editors read

Diagnostics, completions and hovers in the form of the language server protocol.
-/

namespace ApiNotes

namespace Editor

/-- The number of a severity. -/
def Severity.code : Severity → Nat
  | error => 1
  | warning => 2

/-- A place in a text. -/
def placeJson (line character : Nat) : Json :=
  .obj [("line", .int line), ("character", .int character)]

/-- A diagnostic. -/
def Report.toJson (r : Report) : Json :=
  .obj
    [("range", .obj [("start", placeJson r.line r.start), ("end", placeJson r.line r.stop)]),
      ("severity", .int r.severity.code), ("source", .str "reqdoc-lsp"), ("message", .str r.message)]

/-- A text in Markdown. -/
def markdownJson (text : String) : Json :=
  .obj [("kind", .str "markdown"), ("value", .str text)]

/-- A completion. -/
def Completion.toJson (c : Completion) : Json :=
  let (kind, format) := match c.kind with
    | .value => (12, 1)
    | .snippet => (15, 2)
  .obj
    [("label", .str c.label), ("kind", .int kind), ("detail", .str c.detail),
      ("documentation", markdownJson c.documentation), ("insertText", .str c.insertText),
      ("insertTextFormat", .int format)]

/-- Completions, `null` for none. -/
def completionsJson (items : Option (List Completion)) : Json :=
  .ofOption (items.map fun items => .arr (items.map Completion.toJson))

/-- What a position shows, `null` for nothing. -/
def hoverJson (shown : Option String) : Json :=
  .ofOption (shown.map fun text => .obj [("contents", markdownJson text)])

/-- The parameters of a message that publishes diagnostics. -/
def publishedJson (uri : String) (version : Int) (reports : List Report) : Json :=
  .obj [("uri", .str uri), ("diagnostics", .arr (reports.map Report.toJson)),
    ("version", .int version)]

end Editor

end ApiNotes
