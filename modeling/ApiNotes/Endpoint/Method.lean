import ApiNotes.Refusal
import ApiNotes.Text.Blank

/-!
# Request methods

The methods of documented endpoints. A method is given by name, in any case and with
blanks around it.
-/

namespace ApiNotes

/-- The method of a request. -/
inductive Method where
  | get
  | post
  | put
  | patch
  | delete
  | head
deriving Repr, DecidableEq

namespace Method

/-- All methods. -/
def all : List Method :=
  [get, post, put, patch, delete, head]

/-- The name in capitals, as in a request. -/
def upper : Method → String
  | get => "GET"
  | post => "POST"
  | put => "PUT"
  | patch => "PATCH"
  | delete => "DELETE"
  | head => "HEAD"

/-- The name in small letters, as in the call of a client library. -/
def lower : Method → String
  | get => "get"
  | post => "post"
  | put => "put"
  | patch => "patch"
  | delete => "delete"
  | head => "head"

/-- Whether requests with this method carry a body. -/
def carriesBody : Method → Bool
  | post | put | patch => true
  | get | delete | head => false

/-- The method that a text names. -/
def ofText? (text : String) : Option Method :=
  let name := String.ofList ((Text.trim text.toList).map Char.toUpper)
  all.find? fun method => method.upper == name

/-- The method that a text names, or the refusal of the text. -/
def parse (text : String) : Except Refusal Method :=
  match ofText? text with
  | some method => .ok method
  | none => .error (.method text)

theorem mem_all (method : Method) : method ∈ all := by
  cases method <;> simp [all]

end Method

end ApiNotes
