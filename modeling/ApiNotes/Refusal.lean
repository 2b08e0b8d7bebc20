/-!
# Refused choices

The two choices that a caller makes by name and that may be refused: a request method
and a snippet language. Flawed tags are never refused, they are passed over.
-/

namespace ApiNotes

/-- Why a choice is refused. -/
inductive Refusal where
  | language (text : String)
  | method (text : String)
deriving Repr, DecidableEq

/-- The wording of a refusal. -/
def Refusal.message : Refusal → String
  | language text =>
    "Unsupported snippet language '" ++ text ++
      "'\nnote: supported languages are curl, javascript, php, python"
  | method text =>
    "Invalid HTTP method '" ++ text ++
      "'\nnote: expected one of GET, POST, PUT, PATCH, DELETE, HEAD"

end ApiNotes
