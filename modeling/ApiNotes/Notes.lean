import ApiNotes.Tag.Scan

/-!
# The notes of a comment

`Notes` is all that the tags of one comment document. Responses and errors accumulate;
request bodies and enumerations are kept by name, a later one taking the place of an
earlier one; the last deprecation counts. Flawed tags leave no trace.
-/

namespace ApiNotes

/-- What the tags of a comment document. -/
structure Notes where
  responses : List ResponseNote
  samples : Table SampleNote
  errors : List ResponseNote
  enums : Table EnumNote
  deprecation : Option Deprecation
deriving Repr

namespace Notes

/-- No notes. -/
def empty : Notes :=
  ⟨[], [], [], [], none⟩

/-- Whether there are no notes. -/
def isEmpty (notes : Notes) : Bool :=
  notes.responses.isEmpty && notes.samples.isEmpty && notes.errors.isEmpty &&
    notes.enums.isEmpty && notes.deprecation.isNone

/-- Records one more entry. -/
def insert (notes : Notes) : Tag.Entry → Notes
  | .response note => { notes with responses := notes.responses ++ [note] }
  | .error note => { notes with errors := notes.errors ++ [note] }
  | .sample note => { notes with samples := Table.insert note.name note notes.samples }
  | .enumeration note => { notes with enums := Table.insert note.field note notes.enums }
  | .deprecated note => { notes with deprecation := some note }

/-- The notes that entries amount to, in order. -/
def ofEntries (entries : List Tag.Entry) : Notes :=
  entries.foldl insert empty

/-- The notes of a comment. -/
def ofComment (comment : String) : Notes :=
  ofEntries (Tag.entries comment.toList)

/-- The JSON form of the responses. -/
def responsesJson (notes : Notes) : Json :=
  .arr (notes.responses.map ResponseNote.toJson)

/-- The JSON form of the request bodies. -/
def samplesJson (notes : Notes) : Json :=
  .obj (notes.samples.map fun e => (e.1, e.2.toJson))

/-- The JSON form of the errors. -/
def errorsJson (notes : Notes) : Json :=
  .arr (notes.errors.map ResponseNote.toJson)

/-- The JSON form of the enumerations. -/
def enumsJson (notes : Notes) : Json :=
  .obj (notes.enums.map fun e => (e.1, e.2.toJson))

/-- The JSON form of the deprecation, `null` if there is none. -/
def deprecationJson (notes : Notes) : Json :=
  .ofOption (notes.deprecation.map Deprecation.toJson)

theorem ofEntries_append (xs ys : List Tag.Entry) :
    ofEntries (xs ++ ys) = ys.foldl insert (ofEntries xs) := by
  simp [ofEntries]

end Notes

end ApiNotes
