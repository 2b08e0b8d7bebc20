import ApiNotes.Endpoint.Document

/-!
# Requests

What all snippets of an endpoint have in common: the method, the full URL, whether a
token is sent, and the body. Only methods that carry a body get one, and it is the first
request body that the endpoint documents.
-/

namespace ApiNotes

namespace Snippet

/-- A request that a snippet makes. -/
structure Request where
  method : Method
  url : String
  requiresAuth : Bool
  body : Option Json
deriving Repr

/-- The request for a documented endpoint under a base URL. -/
def Request.of (d : Document) (base : String) : Request where
  method := d.method
  url := Uri.join base (Uri.route d.uri)
  requiresAuth := d.requiresAuth
  body := if d.method.carriesBody then d.firstSample?.map SampleNote.value else none

/-- What stands for the credential in every snippet. -/
def token : String :=
  "\x7btoken\x7d"

end Snippet

end ApiNotes
