import ApiNotes.Editor.Diagnostic
import ApiNotes.Editor.Hover
import ApiNotes.Table

/-!
# The workspace of an editor

The workspace holds the latest text of every open file. A text that is opened or changed
is diagnosed at once; one that cannot be diagnosed is not taken up. Completions and hovers
are answered from the text that is held.
-/

namespace ApiNotes

namespace Editor

/-- A diagnostic with columns in UTF-16 units. -/
structure Report where
  line : Nat
  start : Nat
  stop : Nat
  message : String
  severity : Severity
deriving Repr, DecidableEq

/-- A count as editors hold it, in 32 bits. -/
def word (n : Nat) : Nat :=
  n % 0x100000000

/-- A diagnostic in the units of the editor, given the lines of the text. -/
def Diagnostic.report (lines : List (List Char)) (d : Diagnostic) : Report :=
  let line := (lines[d.line]?).getD []
  ⟨word d.line, word (column d.start line), word (column d.stop line), d.message, d.severity⟩

/-- The diagnostics of a text in the units of the editor. -/
def reports? (text : List Char) : Option (List Report) :=
  (diagnose? text).map fun ds => ds.map (Diagnostic.report (Text.lines text))

/-- The latest texts of the open files. -/
structure Workspace where
  texts : Table String
deriving Repr

/-- What an editor tells or asks. -/
inductive Event where
  | opened (uri text : String) (version : Int)
  | changed (uri : String) (texts : List String) (version : Int)
  | closed (uri : String)
  | completion (uri : String) (p : Position)
  | hover (uri : String) (p : Position)
deriving Repr

/-- What an editor gets back. -/
inductive Reaction where
  | nothing
  | published (uri : String) (version : Int) (reports : List Report)
  | completions (items : Option (List Completion))
  | hover (shown : Option String)
deriving Repr

namespace Workspace

/-- No open files. -/
def empty : Workspace :=
  ⟨[]⟩

/-- The text of a file. -/
def text? (w : Workspace) (uri : String) : Option String :=
  Table.get? w.texts uri

/-- Takes up a text; `none` if it cannot be diagnosed. -/
def store? (w : Workspace) (uri text : String) (version : Int) : Option (Workspace × Reaction) :=
  (reports? text.toList).map fun reports =>
    (⟨Table.insert uri text w.texts⟩, .published uri version reports)

/-- The completions at a position of a file; `none` if there are none. -/
def completions? (w : Workspace) (uri : String) (p : Position) : Option (List Completion) := do
  let text ← w.text? uri
  match Editor.completions text.toList p with
  | [] => none
  | items => some items

/-- What a position of a file shows. -/
def hover? (w : Workspace) (uri : String) (p : Position) : Option String := do
  let text ← w.text? uri
  Editor.hover? text.toList p

/-- Reacts to an event. Of several changes the last one counts. -/
def handle? (w : Workspace) : Event → Option (Workspace × Reaction)
  | .opened uri text version => w.store? uri text version
  | .changed uri texts version =>
    match texts.getLast? with
    | some text => w.store? uri text version
    | none => some (w, .nothing)
  | .closed uri => some (⟨Table.erase w.texts uri⟩, .nothing)
  | .completion uri p => some (w, .completions (w.completions? uri p))
  | .hover uri p => some (w, .hover (w.hover? uri p))

end Workspace

end Editor

end ApiNotes
