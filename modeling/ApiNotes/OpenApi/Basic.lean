import ApiNotes.Endpoint.Method
import ApiNotes.Json.Basic

/-!
# OpenAPI documents

The part of an OpenAPI document that the export fills in, and its JSON form. What is
absent is left out of the JSON form.
-/

namespace ApiNotes

namespace OpenApi

/-- The body of a response: the first example, and further ones by name. -/
structure Media where
  example? : Option Json
  examples : Table Json
deriving Repr

/-- A response with a JSON body. -/
structure Response where
  description : String
  media : Media
deriving Repr

/-- What one method does at one path. -/
structure Operation where
  description : Option String
  id : String
  /-- The named examples of the request body. -/
  requestBody : Option (Table Json)
  /-- The responses by status code. -/
  responses : List (Nat × Response)
  deprecated : Bool
  secured : Bool
  /-- The allowed values of fields. -/
  enums : Table Json
deriving Repr

/-- The operations at one path. -/
structure PathItem where
  get : Option Operation := none
  put : Option Operation := none
  post : Option Operation := none
  delete : Option Operation := none
  head : Option Operation := none
  patch : Option Operation := none
deriving Repr

namespace PathItem

/-- The operation of a method. -/
def operation? (item : PathItem) : Method → Option Operation
  | .get => item.get
  | .put => item.put
  | .post => item.post
  | .delete => item.delete
  | .head => item.head
  | .patch => item.patch

/-- Sets the operation of a method. -/
def set (item : PathItem) (method : Method) (operation : Operation) : PathItem :=
  match method with
  | .get => { item with get := some operation }
  | .put => { item with put := some operation }
  | .post => { item with post := some operation }
  | .delete => { item with delete := some operation }
  | .head => { item with head := some operation }
  | .patch => { item with patch := some operation }

/-- Setting an operation changes the one of its method and no other. -/
theorem operation?_set (item : PathItem) (m n : Method) (operation : Operation) :
    (item.set m operation).operation? n = if n = m then some operation else item.operation? n := by
  cases m <;> cases n <;> rfl

end PathItem

/-- An OpenAPI document. -/
structure Api where
  title : String
  description : Option String
  version : String
  servers : List String
  paths : Table PathItem
  /-- Whether the security scheme of the secured operations is defined. -/
  bearerScheme : Bool
deriving Repr

/-- The media type of all bodies. -/
def jsonMediaType : String :=
  "application/json"

/-- The name of the security scheme. -/
def schemeName : String :=
  "bearerAuth"

/-- A member that is left out when there is no value. -/
def member? (key : String) : Option Json → List (String × Json)
  | none => []
  | some v => [(key, v)]

/-- Named examples, each with its value. -/
def examplesJson (examples : Table Json) : Json :=
  .obj (examples.map fun e => (e.1, .obj [("value", e.2)]))

/-- The JSON form of a body. -/
def Media.toJson (media : Media) : Json :=
  .obj (member? "example" media.example? ++
    (if media.examples.isEmpty then [] else [("examples", examplesJson media.examples)]))

/-- The JSON form of a response. -/
def Response.toJson (response : Response) : Json :=
  .obj [("description", .str response.description),
    ("content", .obj [(jsonMediaType, response.media.toJson)])]

/-- The JSON form of an operation. -/
def Operation.toJson (operation : Operation) : Json :=
  .obj (member? "description" (operation.description.map .str) ++
    [("operationId", .str operation.id)] ++
    member? "requestBody" (operation.requestBody.map fun examples =>
      .obj [("content", .obj [(jsonMediaType, (Media.mk none examples).toJson)]),
        ("required", .bool true)]) ++
    (if operation.responses.isEmpty then []
      else [("responses",
        .obj (operation.responses.map fun r => (toString r.1, r.2.toJson)))]) ++
    (if operation.deprecated then [("deprecated", .bool true)] else []) ++
    (if operation.secured then [("security", .arr [.obj [(schemeName, .arr [])]])] else []) ++
    (if operation.enums.isEmpty then [] else [("x-enum-values", .obj operation.enums)]))

/-- The JSON form of the operations at a path. -/
def PathItem.toJson (item : PathItem) : Json :=
  .obj (member? "get" (item.get.map Operation.toJson) ++
    member? "put" (item.put.map Operation.toJson) ++
    member? "post" (item.post.map Operation.toJson) ++
    member? "delete" (item.delete.map Operation.toJson) ++
    member? "head" (item.head.map Operation.toJson) ++
    member? "patch" (item.patch.map Operation.toJson))

/-- The definition of the security scheme. -/
def componentsJson : Json :=
  .obj [("securitySchemes",
    .obj [(schemeName, .obj [("type", .str "http"), ("scheme", .str "bearer")])])]

/-- The JSON form of an OpenAPI document. -/
def Api.toJson (api : Api) : Json :=
  .obj ([("openapi", .str "3.1.0"),
      ("info", .obj ([("title", .str api.title)] ++
        member? "description" (api.description.map .str) ++ [("version", .str api.version)]))] ++
    (if api.servers.isEmpty then []
      else [("servers", .arr (api.servers.map fun url => .obj [("url", .str url)]))]) ++
    [("paths", .obj (api.paths.map fun p => (p.1, p.2.toJson)))] ++
    (if api.bearerScheme then [("components", componentsJson)] else []))

end OpenApi

end ApiNotes
