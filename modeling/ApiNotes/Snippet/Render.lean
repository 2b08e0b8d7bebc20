import ApiNotes.Snippet.Language
import ApiNotes.Snippet.Literal
import ApiNotes.Snippet.Request

/-!
# Snippets

The source code that makes a request, one rendering for each language.
-/

namespace ApiNotes

namespace Snippet

/-- The words of the `curl` command, a line each. -/
def curlArguments (r : Request) : List String :=
  ["curl -X " ++ r.method.upper,
    "  " ++ shellQuoted r.url,
    "  -H 'Content-Type: application/json'",
    "  -H 'Accept: application/json'"] ++
  (if r.requiresAuth then ["  -H 'Authorization: Bearer " ++ token ++ "'"] else []) ++
  (match r.body with
    | some body => ["  -d " ++ shellQuoted body.pretty]
    | none => [])

/-- A call of `curl`, under a comment with the request line. -/
def renderCurl (r : Request) : String :=
  "# " ++ r.method.upper ++ " " ++ r.url ++ "\n" ++
    String.intercalate " \\\n" (curlArguments r)

/-- The entries for the headers, which JavaScript and Python write alike. -/
def headerEntries (r : Request) : String :=
  String.intercalate ",\n" <|
    ["    'Content-Type': 'application/json'", "    'Accept': 'application/json'"] ++
      if r.requiresAuth then ["    'Authorization': 'Bearer " ++ token ++ "'"] else []

/-- A call of `fetch`. -/
def renderJavaScript (r : Request) : String :=
  let options :=
    ["  method: '" ++ r.method.upper ++ "'",
      "  headers: \x7b\n" ++ headerEntries r ++ "\n  \x7d"] ++
    match r.body with
    | some body => ["  body: JSON.stringify(" ++ indentContinuation 2 body.pretty ++ ")"]
    | none => []
  "fetch(" ++ scriptQuoted r.url ++ ", \x7b\n" ++ String.intercalate ",\n" options ++ "\n\x7d)\n" ++
    "  .then(response => response.json())\n" ++
    "  .then(data => console.log(data))\n" ++
    "  .catch(error => console.error('Error:', error));"

/-- A call of the `Http` facade. With a token the call goes on in a line of its own. -/
def renderPhp (r : Request) : String :=
  let receiver :=
    if r.requiresAuth then "Http::withToken('" ++ token ++ "')\n    ->" else "Http::"
  let indent := if r.requiresAuth then 4 else 0
  let body := match r.body with
    | some body => ", " ++ phpLiteral indent body
    | none => ""
  "use Illuminate\\Support\\Facades\\Http;\n\n" ++
    "$response = " ++ receiver ++ r.method.lower ++ "(" ++ phpQuoted r.url ++ body ++ ");\n\n" ++
    "$data = $response->json();"

/-- A script that uses `requests`. -/
def renderPython (r : Request) : String :=
  let call := "response = requests." ++ r.method.lower ++ "(url, headers=headers"
  "import requests\n\nurl = " ++ scriptQuoted r.url ++
    "\nheaders = \x7b\n" ++ headerEntries r ++ "\n\x7d\n\n" ++
    (match r.body with
      | some body => "data = " ++ pythonLiteral 0 body ++ "\n\n" ++ call ++ ", json=data)\n"
      | none => call ++ ")\n") ++
    "print(response.json())"

/-- The source code for a request. -/
def render : Language → Request → String
  | .curl => renderCurl
  | .javascript => renderJavaScript
  | .php => renderPhp
  | .python => renderPython

/-- The snippet for a documented endpoint. -/
def generate (d : Document) (base : String) (language : Language) : String :=
  render language (.of d base)

/-- The snippet in a language given by name. -/
def generateFor (d : Document) (base language : String) : Except Refusal String := do
  return generate d base (← Language.parse language)

/-- The snippets in all languages. -/
def generateAll (d : Document) (base : String) : List (Language × String) :=
  Language.all.map fun language => (language, generate d base language)

end Snippet

end ApiNotes
