import ApiNotes.Record.Shape

/-!
# Messages

A message to the server names a method and may have parameters. One with an identifier is a
request and is answered, one without is a notification. Identifiers are numbers, strings or
`null`.
-/

namespace ApiNotes

namespace Editor

open Record

/-- A message to the server. -/
structure Message where
  id : Option Json
  method : String
  params : Option Json
deriving Repr

namespace Message

/-- The one version of the message format. -/
def version : Reader Unit := fun v => do
  if (← string v) = "2.0" then return () else throw .version

/-- An identifier. -/
def identifier : Reader Unit :=
  choice "Id"
    [void (integer (-0x8000000000000000) 0x8000000000000000 "i64"), void string,
      void (optional noValue)]
where
  /-- No value at all. -/
  noValue : Reader Unit := fun v => .error (.wrongType v "unit")

/-- The fields of a message. -/
def shape : Shape where
  name := "Request"
  fields := [.of "jsonrpc" version, .ofDefault "method" string, .ofDefault "params" any,
    .ofDefault "id" identifier]

/-- Reads a message. -/
def ofJson : Reader Message := fun v => do
  let found ← shape.open? v
  return ⟨Table.get? found "id", ← givenOr found "method" string "", Table.get? found "params"⟩

end Message

/-- Why a request is refused. -/
inductive RequestError where
  | notInitialized
  | invalidRequest
  | invalidParams (message : String)
  | unknownMethod (method : String)
  | unsupported
deriving Repr, DecidableEq

/-- The JSON form of a refusal. -/
def RequestError.toJson : RequestError → Json
  | notInitialized =>
    .obj [("code", .int (-32002)), ("message", .str "Server not initialized")]
  | invalidRequest => .obj [("code", .int (-32600)), ("message", .str "Invalid request")]
  | invalidParams message => .obj [("code", .int (-32602)), ("message", .str message)]
  | unknownMethod method =>
    .obj [("code", .int (-32601)), ("message", .str "Method not found"), ("data", .str method)]
  | unsupported => .obj [("code", .int (-32601)), ("message", .str "Method not found")]

/-- A response with a result. -/
def resultJson (id result : Json) : Json :=
  .obj [("jsonrpc", .str "2.0"), ("result", result), ("id", id)]

/-- A response that refuses a request. -/
def errorJson (id : Json) (error : RequestError) : Json :=
  .obj [("jsonrpc", .str "2.0"), ("error", error.toJson), ("id", id)]

/-- A notification of the server. -/
def notificationJson (method : String) (params : Json) : Json :=
  .obj [("jsonrpc", .str "2.0"), ("method", .str method), ("params", params)]

end Editor

end ApiNotes
