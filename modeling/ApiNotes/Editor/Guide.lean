import ApiNotes.Status
import ApiNotes.Tag.Kind

/-!
# What the editor tells about tags

The guide to each kind of tag, in Markdown, a one-line summary of it, and what is told
about a status code.
-/

namespace ApiNotes

namespace Editor

/-- The lines of the guide to a kind of tag. -/
def guideLines : Tag.Kind → List String
  | .response =>
    ["# @LRDresponse",
      "",
      "Document a success response body for a status code.",
      "",
      "## Syntax",
      "```",
      "@LRDresponse STATUS \x7bJSON\x7d",
      "```",
      "",
      "## Parameters",
      "- `STATUS`: HTTP status code (100-599)",
      "- `JSON`: Example response body, a JSON object that may span several comment lines",
      "",
      "## Examples",
      "```",
      "/**",
      " * @LRDresponse 200 \x7b\"id\": 1, \"name\": \"John\"\x7d",
      " * @LRDresponse 201 \x7b",
      " *     \"id\": 2",
      " * \x7d",
      " */",
      "```",
      "",
      "The same status code may be documented more than once; every entry is kept.",
      ""]
  | .sample =>
    ["# @LRDexample",
      "",
      "Provide a named request body example.",
      "",
      "## Syntax",
      "```",
      "@LRDexample NAME \x7bJSON\x7d",
      "```",
      "",
      "## Parameters",
      "- `NAME`: Identifier made of letters, digits and underscores",
      "- `JSON`: Request body, a JSON object",
      "",
      "## Example",
      "```",
      "/**",
      " * @LRDexample create \x7b\"name\": \"John\", \"email\": \"john@example.com\"\x7d",
      " */",
      "```",
      "",
      "The first example is used as the body of generated client snippets.",
      "A later example with the same name replaces the earlier one.",
      ""]
  | .error =>
    ["# @LRDerror",
      "",
      "Document an error response body for a status code.",
      "",
      "## Syntax",
      "```",
      "@LRDerror STATUS \x7bJSON\x7d",
      "```",
      "",
      "## Parameters",
      "- `STATUS`: HTTP status code (100-599)",
      "- `JSON`: Example error body, a JSON object",
      "",
      "## Example",
      "```",
      "/**",
      " * @LRDerror 422 \x7b\"message\": \"The name field is required.\"\x7d",
      " * @LRDerror 404 \x7b\"message\": \"User not found\"\x7d",
      " */",
      "```",
      ""]
  | .enumeration =>
    ["# @LRDenum",
      "",
      "List the allowed values of a request field.",
      "",
      "## Syntax",
      "```",
      "@LRDenum FIELD VALUE|VALUE|... [DESCRIPTION]",
      "```",
      "",
      "## Parameters",
      "- `FIELD`: Field name",
      "- `VALUE`: Allowed values separated by `|`",
      "- `DESCRIPTION`: Optional text up to the end of the line",
      "",
      "## Example",
      "```",
      "/**",
      " * @LRDenum status pending|approved|rejected Review state of the order",
      " */",
      "```",
      "",
      "A later definition of the same field replaces the earlier one.",
      ""]
  | .deprecated =>
    ["# @LRDdeprecated",
      "",
      "Mark the endpoint as deprecated.",
      "",
      "## Syntax",
      "```",
      "@LRDdeprecated [MESSAGE]",
      "```",
      "",
      "## Parameters",
      "- `MESSAGE`: Optional notice up to the end of the line.",
      "  Defaults to \"This endpoint is deprecated\".",
      "",
      "## Example",
      "```",
      "/**",
      " * @LRDdeprecated Use /api/v2/users instead",
      " */",
      "```",
      ""]

/-- The guide to a kind of tag. -/
def guide (kind : Tag.Kind) : String :=
  String.intercalate "\n" (guideLines kind)

/-- What a kind of tag is for. -/
def summary : Tag.Kind → String
  | .response => "Document a success response body for a status code"
  | .sample => "Provide a named request body example"
  | .error => "Document an error response body for a status code"
  | .enumeration => "List the allowed values of a request field"
  | .deprecated => "Mark the endpoint as deprecated"

/-- The class of a status code. -/
def statusClass (code : Nat) : String :=
  if 100 ≤ code ∧ code ≤ 199 then "Informational"
  else if 200 ≤ code ∧ code ≤ 299 then "Success"
  else if 300 ≤ code ∧ code ≤ 399 then "Redirection"
  else if 400 ≤ code ∧ code ≤ 499 then "Client error"
  else "Server error"

/-- What is told about a status code. -/
def statusGuide (code : Nat) : String :=
  "**" ++ toString code ++ " " ++ Status.reason code ++ "**\n\n" ++ statusClass code ++ " response"

end Editor

end ApiNotes
