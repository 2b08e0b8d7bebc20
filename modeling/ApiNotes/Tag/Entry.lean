import ApiNotes.Json.Basic
import ApiNotes.Tag.Kind
import ApiNotes.Text.Blank

/-!
# What a tag says

The content of a well-formed tag, one structure for each thing that can be documented,
and the JSON form of each.
-/

namespace ApiNotes

/-- One documented response, whether of success or of an error. -/
structure ResponseNote where
  status : Nat
  description : String
  schema : Json
  examples : Option (Table Json)
deriving Repr

/-- A named request body. -/
structure SampleNote where
  name : String
  value : Json
deriving Repr

/-- The allowed values of one field. -/
structure EnumNote where
  field : String
  values : List String
  description : String
deriving Repr, DecidableEq

/-- Whether an endpoint is deprecated, and what to tell about it. -/
structure Deprecation where
  active : Bool
  message : String
deriving Repr, DecidableEq

/-- The JSON form of a response; absent examples are left out. -/
def ResponseNote.toJson (note : ResponseNote) : Json :=
  .obj ([("status_code", .int note.status), ("description", .str note.description),
      ("schema", note.schema)] ++
    match note.examples with
    | none => []
    | some examples => [("examples", .obj examples)])

/-- The JSON form of a request body. -/
def SampleNote.toJson (note : SampleNote) : Json :=
  .obj [("name", .str note.name), ("value", note.value)]

/-- The JSON form of the values of a field. -/
def EnumNote.toJson (note : EnumNote) : Json :=
  .obj [("field", .str note.field), ("values", .strings note.values),
    ("description", .str note.description)]

namespace Deprecation

/-- What is told when the author gave no reason. -/
def defaultMessage : String :=
  "This endpoint is deprecated"

/-- A deprecation with the given message, the default one if nothing but blanks is
given. -/
def ofMessage (message : String) : Deprecation :=
  let message := Text.trimmed message
  ⟨true, if message = "" then defaultMessage else message⟩

/-- The JSON form of a deprecation. -/
def toJson (d : Deprecation) : Json :=
  .obj [("is_deprecated", .bool d.active), ("message", .str d.message)]

end Deprecation

namespace Tag

/-- The content of a well-formed tag. -/
inductive Entry where
  | response (note : ResponseNote)
  | sample (note : SampleNote)
  | error (note : ResponseNote)
  | enumeration (note : EnumNote)
  | deprecated (note : Deprecation)
deriving Repr

namespace Entry

/-- The kind of tag that carries an entry. -/
def kind : Entry → Kind
  | response _ => .response
  | sample _ => .sample
  | error _ => .error
  | enumeration _ => .enumeration
  | deprecated _ => .deprecated

/-- The JSON form of an entry. -/
def toJson : Entry → Json
  | response note => note.toJson
  | sample note => note.toJson
  | error note => note.toJson
  | enumeration note => note.toJson
  | deprecated note => note.toJson

end Entry

end Tag

end ApiNotes
