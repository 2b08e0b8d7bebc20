import ApiNotes.Record.Field

/-!
# Reading records

A shape lists the fields of a record. A record is given as an object, or as a list of its
fields in order. `Shape.open?` finds the value of every field that is given, checking each
one on the way: values are checked in the order in which they are given, and missing fields
are looked for afterwards. Keys that no field has are passed over.

A record may have parts, groups of fields that stand in the same object as its own. The
parts are read one after the other, when the fields of the record itself have been read,
and a record with parts is always an object.
-/

namespace ApiNotes

namespace Record

/-- Whether a field must be given. -/
inductive Need where
  | must
  /-- It may be missing in an object, but not in a list. -/
  | may
  /-- It may be missing. -/
  | default
deriving Repr, DecidableEq

/-- A field of a record. -/
structure Field where
  name : String
  /-- Another key under which the field may be given. -/
  alias? : Option String := none
  need : Need := .must
  check : Json → Except Fault Unit

/-- A field whose values are read by `read`. -/
def Field.of {α : Type} (name : String) (read : Reader α) : Field where
  name
  check := void read

/-- A field that need not be given in an object, and may be `null`. -/
def Field.ofOption {α : Type} (name : String) (read : Reader α) : Field :=
  { Field.of name (optional read) with need := .may }

/-- A field that need not be given. -/
def Field.ofDefault {α : Type} (name : String) (read : Reader α) : Field :=
  { Field.of name read with need := .default }

/-- Whether a key stands for a field. -/
def Field.answersTo (field : Field) (key : String) : Bool :=
  field.name == key || field.alias? == some key

/-- The fields of a record. -/
structure Shape where
  name : String
  fields : List Field
  parts : List (List Field) := []
  /-- Whether the record is itself read as a field of a part. -/
  inPart : Bool := false

/-- The given fields of an object, in the order in which they are given. -/
def ofMembers (fields : List Field) (found : Table Json) :
    List (String × Json) → Except Fault (Table Json)
  | [] => .ok found
  | (key, v) :: members =>
    match fields.find? fun field => field.answersTo key with
    | none => ofMembers fields found members
    | some field =>
      if (Table.get? found field.name).isSome then .error (.duplicateField field.name)
      else do
        field.check v
        ofMembers fields (found ++ [(field.name, v)]) members

/-- The given fields of an object, none of which is missing. -/
def ofObject (fields : List Field) (members : List (String × Json)) :
    Except Fault (Table Json) := do
  let found ← ofMembers fields [] members
  match fields.find? fun f => f.need = .must && (Table.get? found f.name).isNone with
  | some field => .error (.missingField field.name)
  | none => .ok found

/-- A number of elements. -/
def elements (n : Nat) : String :=
  toString n ++ (if n = 1 then " element" else " elements")

namespace Shape

/-- The fault of a list that is too long. -/
def tooLong (shape : Shape) (length : Nat) : Fault :=
  .wrongLength length
    (if shape.inPart then elements shape.fields.length ++ " in sequence"
    else "fewer elements in array")

/-- The given fields of a list, of which `index` items were taken before. -/
def ofItems (shape : Shape) (index : Nat) :
    List Field → List Json → Except Fault (Table Json)
  | [], [] => .ok []
  | [], items => .error (shape.tooLong (index + items.length))
  | field :: fields, [] =>
    if field.need = .default then ofItems shape (index + 1) fields []
    else
      .error (.wrongLength index
        ("struct " ++ shape.name ++ " with " ++ elements shape.fields.length))
  | field :: fields, v :: items => do
    field.check v
    return (field.name, v) :: (← ofItems shape (index + 1) fields items)

/-- The values of the fields that a record gives. -/
def open? (shape : Shape) : Json → Except Fault (Table Json)
  | .obj members => do
    let own ← ofObject shape.fields members
    let parts ← shape.parts.mapM fun fields => ofObject fields members
    return own ++ parts.flatten
  | .arr items =>
    if shape.parts = [] then shape.ofItems 0 shape.fields items
    else .error (.wrongType (.arr items) ("struct " ++ shape.name))
  | v => .error (.wrongType v ("struct " ++ shape.name))

end Shape

/-- Reads a record for its form only. -/
def record (name : String) (fields : List Field) (parts : List (List Field) := []) :
    Reader Unit := fun v => do
  let _ ← Shape.open? { name, fields, parts } v
  return ()

/-- The value of a field that must be given. -/
def given {α : Type} (found : Table Json) (name : String) (read : Reader α) : Except Fault α :=
  match Table.get? found name with
  | some v => read v
  | none => .error (.missingField name)

/-- The value of a field that need not be given. -/
def givenOr {α : Type} (found : Table Json) (name : String) (read : Reader α) (default : α) :
    Except Fault α :=
  match Table.get? found name with
  | some v => read v
  | none => .ok default

end Record

end ApiNotes
