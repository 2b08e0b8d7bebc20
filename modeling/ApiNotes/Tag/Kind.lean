/-!
# Kinds of tags

A tag is written as the marker `@LRD` directly followed by its name. There are five
kinds, each with one name.
-/

namespace ApiNotes

namespace Tag

/-- What a tag documents. -/
inductive Kind where
  /-- The body of a response. -/
  | response
  /-- A named request body. -/
  | sample
  /-- The body of an error response. -/
  | error
  /-- The allowed values of a field. -/
  | enumeration
  /-- That the endpoint is deprecated. -/
  | deprecated
deriving Repr, DecidableEq

namespace Kind

/-- All kinds, in the order in which they are offered. -/
def all : List Kind :=
  [response, sample, error, enumeration, deprecated]

/-- The name after the marker. -/
def name : Kind → String
  | response => "response"
  | sample => "example"
  | error => "error"
  | enumeration => "enum"
  | deprecated => "deprecated"

/-- The kind with the given name. -/
def ofName? (name : String) : Option Kind :=
  all.find? fun kind => kind.name == name

theorem mem_all (kind : Kind) : kind ∈ all := by
  cases kind <;> simp [all]

theorem ofName?_name (kind : Kind) : ofName? kind.name = some kind := by
  cases kind <;> decide

end Kind

/-- What begins every tag. -/
def marker : String :=
  "@LRD"

/-- A tag as it is written: the marker and the name. -/
def Kind.tag (kind : Kind) : String :=
  marker ++ kind.name

end Tag

end ApiNotes
