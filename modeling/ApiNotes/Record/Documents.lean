import ApiNotes.Config
import ApiNotes.Endpoint.Document
import ApiNotes.Record.Shape

/-!
# The records of this library

Readers for endpoints, notes, settings and documents.
-/

namespace ApiNotes

open Record

namespace ResponseNote

/-- The fields of a response. -/
def shape : Shape where
  name := "ResponseSchemaEntry"
  fields := [.of "status_code" word16, .of "description" string, .of "schema" any,
    .ofDefault "examples" (optional (table any))]

/-- Reads a response. -/
def ofJson : Reader ResponseNote := fun v => do
  let found ← shape.open? v
  return ⟨← given found "status_code" word16, ← given found "description" string,
    ← given found "schema" any, ← givenOr found "examples" (optional (table any)) none⟩

end ResponseNote

namespace SampleNote

/-- The fields of a request body. -/
def shape : Shape where
  name := "RequestExampleEntry"
  fields := [.of "name" string, .of "value" any]

/-- Reads a request body. -/
def ofJson : Reader SampleNote := fun v => do
  let found ← shape.open? v
  return ⟨← given found "name" string, ← given found "value" any⟩

end SampleNote

namespace EnumNote

/-- The fields of an enumeration. -/
def shape : Shape where
  name := "EnumValueEntry"
  fields := [.of "field" string, .of "values" (list string), .ofDefault "description" string]

/-- Reads an enumeration. -/
def ofJson : Reader EnumNote := fun v => do
  let found ← shape.open? v
  return ⟨← given found "field" string, ← given found "values" (list string),
    ← givenOr found "description" string ""⟩

end EnumNote

namespace Deprecation

/-- The fields of a deprecation. -/
def shape : Shape where
  name := "DeprecationInfo"
  fields := [.of "is_deprecated" boolean, .of "message" string]

/-- Reads a deprecation. -/
def ofJson : Reader Deprecation := fun v => do
  let found ← shape.open? v
  return ⟨← given found "is_deprecated" boolean, ← given found "message" string⟩

end Deprecation

/-- Reads the entry of a tag of the given kind. -/
def Tag.Entry.ofJson (kind : Tag.Kind) : Reader Tag.Entry := fun v =>
  match kind with
  | .response => .response <$> ResponseNote.ofJson v
  | .sample => .sample <$> SampleNote.ofJson v
  | .error => .error <$> ResponseNote.ofJson v
  | .enumeration => .enumeration <$> EnumNote.ofJson v
  | .deprecated => .deprecated <$> Deprecation.ofJson v

/-- Reads notes; those that are not given are empty. -/
def Notes.ofJson : Reader Notes := fun v => do
  let part {α : Type} (name : String) (read : Reader α) (absent : α) : Except Fault α :=
    match v.field? name with
    | some w => read w
    | none => .ok absent
  let responses ← part "response_schemas" (list ResponseNote.ofJson) []
  let samples ← part "request_examples" (table SampleNote.ofJson) []
  let errors ← part "error_schemas" (list ResponseNote.ofJson) []
  let enums ← part "enum_values" (table EnumNote.ofJson) []
  let deprecation ← part "deprecation" (optional Deprecation.ofJson) none
  return ⟨responses, samples, errors, enums, deprecation⟩

namespace Endpoint

/-- The fields of an endpoint. -/
def shape : Shape where
  name := "EndpointInput"
  fields := [.of "uri" string, .of "http_method" string, .ofDefault "requires_auth" boolean,
    { Field.ofDefault "raw_comment_block" string with alias? := some "doc_block" }]

/-- Reads an endpoint. -/
def ofJson : Reader Endpoint := fun v => do
  let found ← shape.open? v
  return ⟨← given found "uri" string, ← given found "http_method" string,
    ← givenOr found "requires_auth" boolean false,
    ← givenOr found "raw_comment_block" string ""⟩

end Endpoint

namespace Config

/-- The fields of the settings. -/
def shape : Shape where
  name := "DocsConfig"
  fields := [.ofDefault "title" string, .ofDefault "version" string,
    .ofDefault "description" (optional string), .ofDefault "base_url" string,
    .ofDefault "docs_path" string, .ofDefault "openapi_path" string,
    .ofDefault "openapi_yaml_path" string, .ofDefault "snippets_path" string]

/-- Reads settings. -/
def ofJson : Reader Config := fun v => do
  let found ← shape.open? v
  return {
    title := ← givenOr found "title" string default.title
    version := ← givenOr found "version" string default.version
    description := ← givenOr found "description" (optional string) default.description
    baseUrl := ← givenOr found "base_url" string default.baseUrl
    docsPath := ← givenOr found "docs_path" string default.docsPath
    openApiPath := ← givenOr found "openapi_path" string default.openApiPath
    openApiYamlPath := ← givenOr found "openapi_yaml_path" string default.openApiYamlPath
    snippetsPath := ← givenOr found "snippets_path" string default.snippetsPath }

end Config

/-- Why no document could be made of a JSON value. -/
inductive DocumentFault where
  | record (fault : Record.Fault)
  | refusal (refusal : Refusal)
deriving Repr

/-- Reads an endpoint and makes its document. Notes that come with the endpoint, under
`annotations`, stand in for those of its comment. -/
def Document.ofJson (v : Json) : Except DocumentFault Document := do
  let e ← (Endpoint.ofJson v).mapError .record
  let method ← (Method.parse e.method).mapError .refusal
  match v.field? "annotations" with
  | none => return .ofComment e.uri method e.requiresAuth e.comment
  | some notes =>
    let notes ← (Notes.ofJson notes).mapError .record
    return .ofNotes e.uri method e.requiresAuth e.comment notes

end ApiNotes
