import ApiNotes.Yaml.Scalar

/-!
# Writing YAML

A JSON value in the block style of YAML. Members of a mapping and items of a sequence
have a line each. A mapping under a key is indented by two spaces, a sequence under a key
is not; what follows a dash begins on the line of the dash.
-/

namespace ApiNotes

namespace Yaml

/-- Ends the line of a scalar, unless its own text did so. -/
def endLine (text : List Char) : List Char :=
  if text.getLast?.any isBreak then text else text ++ ['\n']

mutual

/-- What stands behind a dash or another mark, everything that belongs to it being
indented as given. -/
def writeInline (indent : Nat) : Json → List Char
  | .arr (v :: items) => writeItems indent (v :: items)
  | .obj (m :: members) => writeMembers indent (m :: members)
  | v => endLine (writeScalar indent v)

/-- Items of a sequence; the indentation of the first one is written already. -/
def writeItems (indent : Nat) : List Json → List Char
  | [] => []
  | v :: items =>
    '-' :: ' ' :: writeInline (indent + 2) v ++
      (if items.isEmpty then [] else pad indent ++ writeItems indent items)

/-- Members of a mapping; the indentation of the first one is written already. A key that
does not fit on the line of its value has lines of its own. -/
def writeMembers (indent : Nat) : List (String × Json) → List Char
  | [] => []
  | (k, v) :: members =>
    (if isSimpleKey k then writeString (indent + 2) k ++ ':' :: writeUnderKey indent v
      else
        '?' :: ' ' :: endLine (writeString (indent + 2) k) ++ pad indent ++
          ':' :: ' ' :: writeInline (indent + 2) v) ++
      (if members.isEmpty then [] else pad indent ++ writeMembers indent members)

/-- The value behind a key in a mapping indented as given. -/
def writeUnderKey (indent : Nat) : Json → List Char
  | .arr (v :: items) => '\n' :: pad indent ++ writeItems indent (v :: items)
  | .obj (m :: members) => '\n' :: pad (indent + 2) ++ writeMembers (indent + 2) (m :: members)
  | v => ' ' :: endLine (writeScalar (indent + 2) v)

end

/-- A value as a YAML text. -/
def write (v : Json) : String :=
  String.ofList (writeInline 0 v)

end Yaml

end ApiNotes
