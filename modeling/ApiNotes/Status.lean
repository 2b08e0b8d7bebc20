/-!
# HTTP status codes

The reason phrases of the status codes that notes commonly document, and the codes that
a note may carry.
-/

namespace ApiNotes

namespace Status

/-- The status codes with a reason phrase of their own, in ascending order. -/
def phrases : List (Nat × String) :=
  [(200, "OK"), (201, "Created"), (202, "Accepted"), (204, "No Content"),
   (400, "Bad Request"), (401, "Unauthorized"), (403, "Forbidden"), (404, "Not Found"),
   (422, "Unprocessable Entity"), (429, "Too Many Requests"),
   (500, "Internal Server Error"), (502, "Bad Gateway"), (503, "Service Unavailable")]

/-- The common status codes, in ascending order. -/
def common : List Nat :=
  phrases.map Prod.fst

/-- The reason phrase of a status code, `Response` for the codes without one. -/
def reason (code : Nat) : String :=
  (phrases.lookup code).getD "Response"

/-- The codes that a note may carry. -/
def isValid (code : Nat) : Bool :=
  100 ≤ code && code ≤ 599

end Status

end ApiNotes
