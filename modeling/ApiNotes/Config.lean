import ApiNotes.Json.Basic

/-!
# Settings

What the export and the site need to know beyond the documents. Every setting has a
default.
-/

namespace ApiNotes

/-- The settings of the export and of the site. -/
structure Config where
  title : String := "API Documentation"
  version : String := "1.0.0"
  description : Option String := none
  /-- Where the documented endpoints are served. -/
  baseUrl : String := "http://localhost"
  docsPath : String := "/docs"
  openApiPath : String := "/docs/openapi.json"
  openApiYamlPath : String := "/docs/openapi.yaml"
  snippetsPath : String := "/docs/snippets"
deriving Repr, DecidableEq

namespace Config

/-- The settings when nothing is set. -/
def default : Config := {}

/-- The JSON form of the settings. -/
def toJson (c : Config) : Json :=
  .obj
    [("title", .str c.title), ("version", .str c.version),
      ("description", .ofOption (c.description.map .str)), ("base_url", .str c.baseUrl),
      ("docs_path", .str c.docsPath), ("openapi_path", .str c.openApiPath),
      ("openapi_yaml_path", .str c.openApiYamlPath), ("snippets_path", .str c.snippetsPath)]

/-- Changes the setting with the given name. -/
def set? (c : Config) (name value : String) : Option Config :=
  match name with
  | "title" => some { c with title := value }
  | "version" => some { c with version := value }
  | "description" => some { c with description := some value }
  | "base_url" => some { c with baseUrl := value }
  | "docs_path" => some { c with docsPath := value }
  | "openapi_path" => some { c with openApiPath := value }
  | "openapi_yaml_path" => some { c with openApiYamlPath := value }
  | "snippets_path" => some { c with snippetsPath := value }
  | "reset" => some default
  | _ => none

end Config

end ApiNotes
