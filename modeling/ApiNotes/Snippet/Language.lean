import ApiNotes.Refusal
import ApiNotes.Text.Blank

/-!
# Languages of snippets

The languages in which client snippets are written, and the names by which they are
asked for.
-/

namespace ApiNotes

namespace Snippet

/-- The language of a snippet. -/
inductive Language where
  | curl
  | javascript
  | php
  | python
deriving Repr, DecidableEq

namespace Language

/-- All languages. -/
def all : List Language :=
  [curl, javascript, php, python]

/-- The name of a language. -/
def name : Language → String
  | curl => "curl"
  | javascript => "javascript"
  | php => "php"
  | python => "python"

/-- The names by which a language is asked for. -/
def names : Language → List String
  | curl => ["curl", "shell", "bash"]
  | javascript => ["javascript", "js"]
  | php => ["php"]
  | python => ["python", "py"]

/-- The language that a text asks for, in any case and with blanks around it. -/
def ofText? (text : String) : Option Language :=
  let name := String.ofList ((Text.trim text.toList).map Char.toLower)
  all.find? fun language => language.names.contains name

/-- The language that a text asks for, or the refusal of the text. -/
def parse (text : String) : Except Refusal Language :=
  match ofText? text with
  | some language => .ok language
  | none => .error (.language text)

end Language

end Snippet

end ApiNotes
