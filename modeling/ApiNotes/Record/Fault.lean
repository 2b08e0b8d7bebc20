import ApiNotes.Json.Writer
import ApiNotes.Text.Escaped
import ApiNotes.Url.Fault

/-!
# Why a JSON value is not the expected record

The faults of reading typed records from JSON, and their wording. A value that does not
fit is named by its type, with its content where that is short.
-/

namespace ApiNotes

namespace Record

/-- Why a JSON value could not be read. -/
inductive Fault where
  | missingField (name : String)
  | duplicateField (name : String)
  | wrongType (got : Json) (want : String)
  | wrongValue (got : Json) (want : String)
  | wrongLength (length : Nat) (want : String)
  | unknownVariant (got : String) (known : List String)
  /-- None of the forms that a value may have. -/
  | noForm (name : String)
  | address (fault : Url.Fault) (text : String)
  /-- Another version of the message format. -/
  | version
deriving Repr

/-- How a value that does not fit is named. -/
def name : Json → String
  | .null => "null"
  | .bool true => "boolean `true`"
  | .bool false => "boolean `false`"
  | .int n => "integer `" ++ toString n ++ "`"
  | .real x => "floating point `" ++ (Json.real x).compact ++ "`"
  | .str s => "string " ++ Text.escaped s
  | .arr _ => "sequence"
  | .obj _ => "map"

/-- The names of which one is expected. -/
def oneOf : List String → String
  | [a] => "`" ++ a ++ "`"
  | [a, b] => "`" ++ a ++ "` or `" ++ b ++ "`"
  | known => "one of " ++ String.intercalate ", " (known.map fun v => "`" ++ v ++ "`")

/-- The wording of a fault. -/
def Fault.message : Fault → String
  | missingField name => "missing field `" ++ name ++ "`"
  | duplicateField name => "duplicate field `" ++ name ++ "`"
  | wrongType got want => "invalid type: " ++ name got ++ ", expected " ++ want
  | wrongValue got want => "invalid value: " ++ name got ++ ", expected " ++ want
  | wrongLength length want => "invalid length " ++ toString length ++ ", expected " ++ want
  | unknownVariant got known =>
    "unknown variant `" ++ got ++ "`, expected " ++ oneOf known
  | noForm name => "data did not match any variant of untagged enum " ++ name
  | address fault text => fault.message ++ ": " ++ Text.escaped text
  | version => "expected JSON-RPC version \"2.0\""

end Record

end ApiNotes
