import ApiNotes.Table

/-!
# JSON values

A JSON value is a tree. Integers are kept apart from numbers with a fraction, because
the two are spelled differently; the members of an object keep the order in which
their keys first appeared.
-/

namespace ApiNotes

/-- A JSON value. -/
inductive Json where
  | null
  | bool (b : Bool)
  | int (n : Int)
  | real (x : Float)
  | str (s : String)
  | arr (items : List Json)
  | obj (members : List (String × Json))
deriving Repr, Inhabited

namespace Json

/-- Along the tree of a value. -/
theorem induction {motive : Json → Prop} (null : motive .null) (bool : ∀ b, motive (.bool b))
    (int : ∀ n, motive (.int n)) (real : ∀ x, motive (.real x)) (str : ∀ s, motive (.str s))
    (arr : ∀ items, (∀ v ∈ items, motive v) → motive (.arr items))
    (obj : ∀ members, (∀ m ∈ members, motive m.2) → motive (.obj members)) : ∀ v, motive v
  | .null => null
  | .bool b => bool b
  | .int n => int n
  | .real x => real x
  | .str s => str s
  | .arr items => arr items fun v _ => induction null bool int real str arr obj v
  | .obj members => obj members fun m hm =>
      have := Table.sizeOf_snd_lt_of_mem hm
      induction null bool int real str arr obj m.2

/-- Whether a value is an object. -/
def isObject : Json → Bool
  | obj _ => true
  | _ => false

/-- The member of an object under a key. -/
def field? : Json → String → Option Json
  | obj members, key => Table.get? members key
  | _, _ => none

/-- A value that may be missing, with `null` for none. -/
def ofOption : Option Json → Json
  | none => null
  | some v => v

/-- A list of strings. -/
def strings (ss : List String) : Json :=
  arr (ss.map str)

end Json

end ApiNotes
