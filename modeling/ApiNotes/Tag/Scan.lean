import ApiNotes.Tag.Arguments
import ApiNotes.Text.Offset

/-!
# The tags of a comment

`scan` lists every tag of a text in order, well-formed or not. Behind a well-formed tag
the search goes on after its last character, so what an object holds inside its strings
is no tag; behind a flawed one it goes on right after the name. The walk carries the
current byte offset and the number of characters still to pass over.
-/

namespace ApiNotes

namespace Tag

/-- The bytes from `start` up to `stop`. -/
structure Span where
  start : Nat
  stop : Nat
deriving Repr, DecidableEq

/-- A flaw and the part of the text that it concerns. -/
structure Problem where
  flaw : Flaw
  span : Span
deriving Repr, DecidableEq

/-- A tag as it was found. -/
structure Occurrence where
  name : String
  kind : Option Kind
  span : Span
  result : Except Problem Entry
deriving Repr

/-- The name of the tag that a text begins with: the letters behind the marker. -/
def tagName? : List Char → Option (List Char)
  | '@' :: 'L' :: 'R' :: 'D' :: cs => some (cs.takeWhile Char.isAlpha)
  | _ => none

/-- A found tag, and how many characters behind the start of its marker the search goes
on. -/
structure Found where
  occurrence : Occurrence
  resume : Nat

/-- The tag with the given name that starts at byte `start`, with `text` behind the
name. -/
def examine (start : Nat) (name text : List Char) : Found :=
  let head := 4 + Text.byteLength name
  let upTo (n : Nat) : Span := ⟨start, start + head + Text.byteLength (text.take n)⟩
  match Kind.ofName? (String.ofList name) with
  | none =>
    ⟨⟨String.ofList name, none, upTo (Text.row text).length,
        .error ⟨.unknownTag (String.ofList name), upTo 0⟩⟩,
      4 + name.length⟩
  | some kind =>
    let reading := readArguments kind text
    let span := upTo reading.reach
    match reading.result with
    | .ok entry =>
      ⟨⟨String.ofList name, some kind, span, .ok entry⟩, 4 + name.length + reading.reach⟩
    | .error flaw =>
      ⟨⟨String.ofList name, some kind, span, .error ⟨flaw, span⟩⟩, 4 + name.length⟩

/-- The tags of a text at byte `offset`, after passing over `skip` characters. -/
def scanFrom (skip offset : Nat) : List Char → List Occurrence
  | [] => []
  | c :: cs =>
    match skip with
    | skip + 1 => scanFrom skip (offset + c.utf8Size) cs
    | 0 =>
      match tagName? (c :: cs) with
      | none => scanFrom 0 (offset + c.utf8Size) cs
      | some name =>
        let found := examine offset name (cs.drop (3 + name.length))
        found.occurrence :: scanFrom (found.resume - 1) (offset + c.utf8Size) cs

/-- The tags of a text, in order. -/
def scan (text : List Char) : List Occurrence :=
  scanFrom 0 0 text

/-- The entries of the well-formed tags, in order. -/
def entries (text : List Char) : List Entry :=
  (scan text).filterMap fun o => o.result.toOption

end Tag

end ApiNotes
