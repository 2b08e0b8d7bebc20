import ApiNotes.Record.Fault
import ApiNotes.Url.Parse

/-!
# Reading single values

Readers for the types that fields of records have. A reader takes a JSON value and gives
what it denotes, or a fault.
-/

namespace ApiNotes

namespace Record

/-- A reader of values of type `α`. -/
abbrev Reader (α : Type) := Json → Except Fault α

/-- Any value. -/
def any : Reader Json :=
  fun v => .ok v

/-- A reader for the form only. -/
def void {α : Type} (read : Reader α) : Reader Unit :=
  fun v => (fun _ => ()) <$> read v

/-- A string. -/
def string : Reader String
  | .str s => .ok s
  | v => .error (.wrongType v "a string")

/-- A truth value. -/
def boolean : Reader Bool
  | .bool b => .ok b
  | v => .error (.wrongType v "a boolean")

/-- A whole number from `low` up to, but not including, `high`. -/
def integer (low high : Int) (want : String) : Reader Int
  | .int n => if low ≤ n ∧ n < high then .ok n else .error (.wrongValue (.int n) want)
  | v => .error (.wrongType v want)

/-- A number of sixteen bits. -/
def word16 : Reader Nat :=
  fun v => Int.toNat <$> integer 0 0x10000 "u16" v

/-- A number of thirty-two bits. -/
def word32 : Reader Nat :=
  fun v => Int.toNat <$> integer 0 0x100000000 "u32" v

/-- A number of thirty-two bits, one of which is the sign. -/
def int32 : Reader Int :=
  integer (-0x80000000) 0x80000000 "i32"

/-- Any number. -/
def number : Reader Unit
  | .int _ | .real _ => .ok ()
  | v => .error (.wrongType v "f32")

/-- The normal form of a URL. -/
def address : Reader String
  | .str s =>
    match Url.parse s with
    | .ok url => .ok url.text
    | .error fault => .error (.address fault s)
  | v => .error (.wrongType v "a string representing an URL")

/-- A list of values of one type. -/
def list {α : Type} (read : Reader α) : Reader (List α)
  | .arr items => items.mapM read
  | v => .error (.wrongType v "a sequence")

/-- A table of values of one type. -/
def table {α : Type} (read : Reader α) : Reader (Table α)
  | .obj members => members.mapM fun (k, v) => do return (k, ← read v)
  | v => .error (.wrongType v "a map")

/-- A value that may be `null`. -/
def optional {α : Type} (read : Reader α) : Reader (Option α)
  | .null => .ok none
  | v => some <$> read v

/-- A value of one of several forms. -/
def choice {α : Type} (name : String) (forms : List (Reader α)) : Reader α := fun v =>
  match forms.findSome? fun read => (read v).toOption with
  | some a => .ok a
  | none => .error (.noForm name)

/-- One of finitely many named values: its name, or an object with the name as its only
key and `null` as the value. -/
def variant {α : Type} (all : List α) (label : α → String) : Reader α
  | .str s => pick s
  | .obj [(s, v)] => do
    let a ← pick s
    match v with
    | .null => .ok a
    | v => .error (.wrongType v "unit")
  | .obj members => .error (.wrongValue (.obj members) "map with a single key")
  | v => .error (.wrongType v "string or map")
where
  pick (s : String) : Except Fault α :=
    match all.find? fun a => label a == s with
    | some a => .ok a
    | none => .error (.unknownVariant s (all.map label))

end Record

end ApiNotes
