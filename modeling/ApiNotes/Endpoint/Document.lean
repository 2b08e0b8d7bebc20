import ApiNotes.Endpoint.Method
import ApiNotes.Endpoint.Uri
import ApiNotes.Notes

/-!
# Documents

An endpoint as its application declares it has a URI, the name of a method and a comment.
Its document has the published URI, the method and the notes of the comment.
-/

namespace ApiNotes

/-- An endpoint as it is declared. -/
structure Endpoint where
  uri : String
  method : String
  requiresAuth : Bool
  comment : String
deriving Repr, DecidableEq

/-- The documentation of one endpoint. -/
structure Document where
  uri : String
  method : Method
  requiresAuth : Bool
  comment : String
  notes : Notes
deriving Repr

namespace Document

/-- The document of an endpoint whose notes are given. -/
def ofNotes (uri : String) (method : Method) (requiresAuth : Bool) (comment : String)
    (notes : Notes) : Document :=
  ⟨Uri.normalize uri, method, requiresAuth, comment, notes⟩

/-- The document of an endpoint whose notes are those of the comment. -/
def ofComment (uri : String) (method : Method) (requiresAuth : Bool) (comment : String) :
    Document :=
  ofNotes uri method requiresAuth comment (Notes.ofComment comment)

/-- The parameters of the URI. -/
def parameters (d : Document) : List String :=
  Uri.parameters d.uri.toList

/-- Whether the endpoint is deprecated. -/
def isDeprecated (d : Document) : Bool :=
  d.notes.deprecation.any Deprecation.active

/-- The first request body documented, which snippets send. -/
def firstSample? (d : Document) : Option SampleNote :=
  d.notes.samples.values.head?

/-- The JSON form of a document. -/
def toJson (d : Document) : Json :=
  .obj
    [("uri", .str d.uri), ("http_method", .str d.method.upper),
      ("requires_auth", .bool d.requiresAuth), ("raw_comment_block", .str d.comment),
      ("path_parameters", .strings d.parameters), ("response_schemas", d.notes.responsesJson),
      ("request_examples", d.notes.samplesJson), ("error_schemas", d.notes.errorsJson),
      ("enum_values", d.notes.enumsJson), ("deprecation", d.notes.deprecationJson)]

end Document

namespace Endpoint

/-- The document of a declared endpoint. -/
def document (e : Endpoint) : Except Refusal Document := do
  let method ← Method.parse e.method
  return Document.ofComment e.uri method e.requiresAuth e.comment

/-- The documents of the endpoints whose method is known. -/
def documents (es : List Endpoint) : List Document :=
  es.filterMap fun e => e.document.toOption

end Endpoint

end ApiNotes
