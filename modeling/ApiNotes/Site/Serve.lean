import ApiNotes.OpenApi.Export
import ApiNotes.Site.Path
import ApiNotes.Site.Query
import ApiNotes.Site.Target
import ApiNotes.Snippet.Render
import ApiNotes.Yaml.Emit

/-!
# The documentation site

A site answers requests for the documents, for their export as JSON and as YAML, and for
snippets. Its settings say at which paths; settings whose paths exclude each other make no
site.
-/

namespace ApiNotes

/-- Documents and the settings under which they are served. -/
structure Site where
  documents : List Document
  config : Config
deriving Repr

namespace Site

/-- What a route leads to. -/
inductive Resource where
  | documents
  | openApi
  | openApiYaml
  | snippet
deriving Repr, DecidableEq

/-- A pattern and what it leads to. -/
structure Route where
  pattern : Pattern
  resource : Resource
deriving Repr

/-- The path of the route for snippets. -/
def snippetPath (config : Config) : String :=
  String.ofList (Text.dropEndWhile (· == '/') config.snippetsPath.toList) ++ "/\x7blanguage\x7d"

/-- The paths that settings ask for. -/
def paths (config : Config) : List (String × Resource) :=
  [(config.docsPath, .documents), (config.openApiPath, .openApi),
    (config.openApiYamlPath, .openApiYaml), (snippetPath config, .snippet)]

/-- Adds routes one after the other, unless one of them conflicts with an earlier one. -/
def addRoutes? (routes : List Route) : List (String × Resource) → Option (List Route)
  | [] => some routes
  | (path, resource) :: rest => do
    let pattern ← Pattern.parse? path
    if routes.any fun r => r.pattern.conflicts pattern then none
    else addRoutes? (routes ++ [⟨pattern, resource⟩]) rest

/-- The routes that settings ask for; `none` if they cannot all be had. -/
def routes? (config : Config) : Option (List Route) :=
  addRoutes? [] (paths config)

/-- The answer to a request. -/
structure Reply where
  status : Nat
  contentType : Option String
  allow : Option String
  body : String
deriving Repr, DecidableEq

namespace Reply

/-- A plain text. -/
def text (status : Nat) (body : String) : Reply :=
  ⟨status, some "text/plain; charset=utf-8", none, body⟩

/-- A JSON value. -/
def json (v : Json) : Reply :=
  ⟨200, some "application/json", none, v.compact⟩

/-- A YAML text. -/
def yaml (v : Json) : Reply :=
  ⟨200, some "application/yaml", none, Yaml.write v⟩

/-- Nothing is found at the path. -/
def notFound : Reply :=
  ⟨404, none, none, ""⟩

/-- The method is not allowed at the path. -/
def notAllowed : Reply :=
  ⟨405, none, some "GET,HEAD", ""⟩

end Reply

/-- The document that a method and a URI belong to. -/
def find? (site : Site) (method : Method) (uri : String) : Option Document :=
  site.documents.find? fun d => d.method = method ∧ d.uri = uri

/-- The snippet in the language asked for, for the endpoint asked for. -/
def snippet (site : Site) (language : String) (query : SnippetQuery) : Reply :=
  match Snippet.Language.parse language with
  | .error refusal => .text 400 refusal.message
  | .ok language =>
    match Method.parse query.method with
    | .error refusal => .text 400 refusal.message
    | .ok method =>
      let uri := Uri.normalize query.uri
      match site.find? method uri with
      | none => .text 404 ("No documented endpoint for " ++ method.upper ++ " " ++ uri)
      | some d => .text 200 (Snippet.generate d site.config.baseUrl language)

/-- The values of the parameters of a matched path, or the first parameter that is no
text. -/
def decodeCaptures : Captures → Except String (List String)
  | [] => .ok []
  | (name, raw) :: captures =>
    match Text.utf8? (Text.percentBytes raw) with
    | none => .error name
    | some value => do return String.ofList value :: (← decodeCaptures captures)

/-- The answer of the route for snippets. The parameter is looked at first, then the
query. -/
def serveSnippet (site : Site) (captures : Captures) (query : List Char) : Reply :=
  match decodeCaptures captures with
  | .error name => .text 400 ("Invalid URL: Invalid UTF-8 in `" ++ name ++ "`")
  | .ok [language] =>
    match SnippetQuery.parse query with
    | .error fault => .text 400 ("Failed to deserialize query string: " ++ fault.message)
    | .ok query => site.snippet language query
  | .ok values =>
    .text 500 ("Wrong number of path arguments for `Path`. Expected 1 but got " ++
      toString values.length ++ ". Note that multiple parameters must be extracted with a " ++
      "tuple `Path<(_, _)>` or a struct `Path<YourParams>`")

/-- The answer of a route. -/
def serve (site : Site) (resource : Resource) (captures : Captures) (query : List Char) : Reply :=
  match resource with
  | .documents => .json (.arr (site.documents.map Document.toJson))
  | .openApi => .json (OpenApi.ofDocuments site.documents site.config).toJson
  | .openApiYaml => .yaml (OpenApi.ofDocuments site.documents site.config).toJson
  | .snippet => site.serveSnippet captures query

/-- The best of the routes that match a path. -/
def bestRoute? (path : List Char) : List Route → Option (Route × Captures)
  | [] => none
  | route :: routes =>
    match route.pattern.match? path, bestRoute? path routes with
    | none, best => best
    | some captures, none => some (route, captures)
    | some captures, some (other, otherCaptures) =>
      if other.pattern.precedes route.pattern then some (other, otherCaptures)
      else some (route, captures)

/-- The answer to a request with the given method for a target. -/
def respond (site : Site) (routes : List Route) (method : String) (target : Target) : Reply :=
  match bestRoute? target.path routes with
  | none => .notFound
  | some (route, captures) =>
    if method = "GET" then site.serve route.resource captures target.query
    else if method = "HEAD" then
      { site.serve route.resource captures target.query with body := "" }
    else .notAllowed

end Site

end ApiNotes
