import ApiNotes.Config
import ApiNotes.Endpoint.Document
import ApiNotes.OpenApi.Basic

/-!
# Export of documents

Documents become the operations of an OpenAPI document, the later of two documents with
the same URI and method replacing the earlier one. Documented bodies become examples:
the first body of a status code is the example of its response, further ones are filed
as named variants.
-/

namespace ApiNotes

namespace OpenApi

/-- The runs of letters and digits of a URI. -/
def words (uri : String) : List (List Char) :=
  (uri.toList.splitOnP fun c => !c.isAlphanum).filter (· != [])

/-- The identifier of an operation: the method and the words of the URI. -/
def operationId (method : Method) (uri : String) : String :=
  let slug := ['_'].intercalate (words uri)
  method.lower ++ "_" ++ if slug = [] then "root" else String.ofList slug

/-- The name under which the next body of a known status code is filed. -/
def nextVariant (examples : Table Json) : String :=
  let filed := examples.keys.filter fun name => "variant_".toList.isPrefixOf name.toList
  "variant_" ++ toString (filed.length + 2)

/-- The response that a note documents on its own. -/
def Response.ofNote (note : ResponseNote) : Response :=
  ⟨note.description, some note.schema,
    (note.examples.getD []).foldl (fun t e => Table.insert e.1 e.2 t) []⟩

/-- Files the body of a further note for the same status code. -/
def Response.addVariant (response : Response) (note : ResponseNote) : Response :=
  let examples := response.media.examples
  { response with
    media.examples := Table.insert (nextVariant examples) note.schema examples }

/-- Adds a documented response to those before it. -/
def addResponse (note : ResponseNote) : List (Nat × Response) → List (Nat × Response)
  | [] => [(note.status, .ofNote note)]
  | (code, response) :: rest =>
    if code = note.status then (code, response.addVariant note) :: rest
    else (code, response) :: addResponse note rest

/-- The responses that notes document, in order. -/
def responses (notes : List ResponseNote) : List (Nat × Response) :=
  notes.foldl (fun rs note => addResponse note rs) []

/-- The allowed values of fields, by field. -/
def enumValues (enums : List EnumNote) : Table Json :=
  enums.foldl (fun t note =>
    Table.insert note.field
      (.obj [("values", .strings note.values), ("description", .str note.description)]) t) []

/-- The operation that a document describes. -/
def operation (d : Document) : Operation where
  description := (d.notes.deprecation.filter Deprecation.active).map Deprecation.message
  id := operationId d.method d.uri
  requestBody :=
    if d.method.carriesBody && !d.notes.samples.isEmpty then
      some (d.notes.samples.map fun e => (e.1, e.2.value))
    else none
  responses := responses (d.notes.responses ++ d.notes.errors)
  deprecated := d.isDeprecated
  secured := d.requiresAuth
  enums := enumValues d.notes.enums.values

/-- Adds the operation of a document to the paths. -/
def addDocument (paths : Table PathItem) (d : Document) : Table PathItem :=
  let item := (Table.get? paths d.uri).getD {}
  Table.insert d.uri (item.set d.method (operation d)) paths

/-- The OpenAPI document for documents under the given settings. -/
def ofDocuments (documents : List Document) (config : Config) : Api where
  title := config.title
  description := config.description
  version := config.version
  servers := if config.baseUrl = "" then [] else [config.baseUrl]
  paths := documents.foldl addDocument []
  bearerScheme := documents.any Document.requiresAuth

end OpenApi

end ApiNotes
