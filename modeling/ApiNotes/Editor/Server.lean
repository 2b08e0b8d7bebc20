import ApiNotes.Editor.Capability
import ApiNotes.Editor.Encode
import ApiNotes.Editor.Message

/-!
# The language server

The server receives messages one at a time. What is possible depends on the phase: before
`initialize` and after `shutdown` requests are refused and notifications dropped, and after
`exit` nothing is received any more. In between, messages about files go to the workspace.
Methods that no server of the protocol has are refused in every phase.
-/

namespace ApiNotes

namespace Editor

/-- How far the server is. -/
inductive Phase where
  | fresh
  | running
  | stopped
  | exited
deriving Repr, DecidableEq

/-- The state of the server. -/
structure Server where
  phase : Phase
  workspace : Workspace
deriving Repr

/-- A server that has received nothing. -/
def Server.start : Server :=
  ⟨.fresh, .empty⟩

/-- What becomes of a message. -/
inductive Outcome where
  /-- The message was handled: the response to it, and what is sent besides. -/
  | handled (response : Option Json) (sent : List Json)
  /-- The text in the message cannot be diagnosed. -/
  | undiagnosed
  /-- The server has exited before. -/
  | exited
deriving Repr

/-- What the server can do, and who it is. -/
def greetingJson : Json :=
  .obj
    [("capabilities",
        .obj [("textDocumentSync", .int 1), ("hoverProvider", .bool true),
          ("completionProvider", .obj [("triggerCharacters", .strings ["@", " "])])]),
      ("serverInfo", .obj [("name", .str "reqdoc-lsp"), ("version", .str "0.3.0")])]

/-- What the server logs once it is initialized. -/
def initializedJson : Json :=
  notificationJson "window/logMessage"
    (.obj [("type", .int 3), ("message", .str "reqdoc LSP initialized")])

/-- Notifications of the protocol that this server receives without a reaction. -/
def ignoredNotifications : List String :=
  ["textDocument/willSave", "textDocument/didSave", "workspace/didChangeConfiguration",
    "workspace/didChangeWorkspaceFolders", "workspace/didCreateFiles",
    "workspace/didRenameFiles", "workspace/didDeleteFiles", "workspace/didChangeWatchedFiles"]

/-- The result that a reaction gives to a request. -/
def Reaction.result : Reaction → Json
  | completions items => completionsJson items
  | hover shown => hoverJson shown
  | nothing | published _ _ _ => .null

/-- What a reaction sends besides. -/
def Reaction.sent : Reaction → List Json
  | published uri version reports =>
    [notificationJson "textDocument/publishDiagnostics" (publishedJson uri version reports)]
  | nothing | completions _ | hover _ => []

namespace Server

/-- Nothing is answered and nothing is sent. -/
def silence (server : Server) : Server × Outcome :=
  (server, .handled none [])

/-- Refuses a request; a notification is dropped. -/
def refuse (server : Server) (m : Message) (error : RequestError) : Server × Outcome :=
  (server, .handled (m.id.map fun id => errorJson id error) [])

/-- How a message that needs a running server is refused in another phase. -/
def Phase.error : Phase → RequestError
  | .fresh => .notInitialized
  | _ => .invalidRequest

/-- Hands an event to the workspace. -/
def react (server : Server) (id : Option Json) (event : Event) : Server × Outcome :=
  match server.workspace.handle? event with
  | none => (server, .undiagnosed)
  | some (workspace, reaction) =>
    ({ server with workspace },
      .handled (id.map fun id => resultJson id reaction.result) reaction.sent)

/-- Receives a request that needs a running server; as a notification it has no effect. -/
def receiveRequest (server : Server) (m : Message) (handle : Json → Server × Outcome) :
    Server × Outcome :=
  if server.phase ≠ .running then server.refuse m (Phase.error server.phase)
  else
    match m.id with
    | none => server.silence
    | some id => handle id

/-- Receives a notification that needs a running server; as a request it is refused. -/
def receiveNotification (server : Server) (m : Message) (handle : Server × Outcome) :
    Server × Outcome :=
  if server.phase ≠ .running then server.refuse m (Phase.error server.phase)
  else if m.id.isSome then server.refuse m .invalidRequest
  else handle

/-- Reads the parameters of a message, without which it is refused. -/
def withParams {α : Type} (server : Server) (m : Message) (read : Record.Reader α)
    (handle : α → Server × Outcome) : Server × Outcome :=
  match m.params with
  | none => server.refuse m (.invalidParams "Missing params field")
  | some params =>
    match read params with
    | .error fault => server.refuse m (.invalidParams fault.message)
    | .ok a => handle a

/-- Receives the request to initialize. -/
def receiveInitialize (server : Server) (m : Message) : Server × Outcome :=
  if server.phase ≠ .fresh then server.refuse m .invalidRequest
  else
    match m.id with
    | none => server.silence
    | some id =>
      server.withParams m Form.initialization fun _ =>
        ({ server with phase := .running }, .handled (some (resultJson id greetingJson)) [])

/-- Receives the request to shut down. -/
def receiveShutdown (server : Server) (m : Message) : Server × Outcome :=
  if server.phase ≠ .running then server.refuse m (Phase.error server.phase)
  else
    let stopped := { server with phase := .stopped }
    match m.id, m.params with
    | none, _ => stopped.silence
    | some id, none => (stopped, .handled (some (resultJson id .null)) [])
    | some _, some params =>
      stopped.refuse m (.invalidParams ("Unexpected params: " ++ params.compact))

/-- Receives a notification about a file. -/
def receiveNews (server : Server) (m : Message) (read : Record.Reader Event) :
    Server × Outcome :=
  server.receiveNotification m (server.withParams m read (server.react none))

/-- Receives a request about a file. -/
def receiveQuestion (server : Server) (m : Message) (read : Record.Reader Event) :
    Server × Outcome :=
  server.receiveRequest m fun id => server.withParams m read (server.react (some id))

/-- Receives a message of a method to which this server does not react. -/
def receiveOther (server : Server) (m : Message) : Server × Outcome :=
  match Form.otherRequest? m.method with
  | some read =>
    server.receiveRequest m fun _ =>
      server.withParams m read fun _ => server.refuse m .unsupported
  | none =>
    if ignoredNotifications.contains m.method then server.receiveNotification m server.silence
    else if ['$', '/'].isPrefixOf m.method.toList then server.silence
    else server.refuse m (.unknownMethod m.method)

/-- Receives a message of the given method. -/
def receiveMethod (server : Server) (m : Message) : Server × Outcome :=
  match m.method with
  | "initialize" => server.receiveInitialize m
  | "initialized" =>
    server.receiveNotification m <|
      server.withParams m Form.initialized fun _ => (server, .handled none [initializedJson])
  | "shutdown" => server.receiveShutdown m
  | "exit" => ({ server with phase := .exited }, .handled none [])
  | "$/cancelRequest" => server.refuse m .invalidRequest
  | "textDocument/didOpen" => server.receiveNews m Form.readOpened
  | "textDocument/didChange" => server.receiveNews m Form.readChanged
  | "textDocument/didClose" => server.receiveNews m Form.readClosed
  | "textDocument/completion" => server.receiveQuestion m Form.readCompletion
  | "textDocument/hover" => server.receiveQuestion m Form.readHover
  | _ => server.receiveOther m

/-- Receives a message. -/
def receive (server : Server) (m : Message) : Server × Outcome :=
  if server.phase = .exited then (server, .exited) else server.receiveMethod m

/-- What becomes of messages, one after the other. -/
def run (server : Server) : List Message → List Outcome
  | [] => []
  | m :: ms =>
    let (server, outcome) := server.receive m
    outcome :: server.run ms

end Server

end Editor

end ApiNotes
