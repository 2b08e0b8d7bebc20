import ApiNotes.Editor.Params

/-!
# Requests without an answer

The requests of the language server protocol that this server does not support. Their
parameters are checked all the same, since a request with other parameters is refused for
these.
-/

namespace ApiNotes

namespace Editor

namespace Form

open Record

/-- Parameters that are records with parts. -/
def params (name : String) (fields : List Field) (parts : List (List Field)) : Reader Unit :=
  record name fields parts

/-- The field for a file. -/
def fileField : Field :=
  .of "textDocument" (file false)

/-- The field for a range. -/
def rangeField : Field :=
  .of "range" range

/-- A range in a file. -/
def location : Reader Unit :=
  record "Location" [.of "uri" address, .of "range" range]

/-- A command. -/
def command : Reader Unit :=
  record "Command"
    [.of "title" string, .of "command" string, .ofOption "arguments" (list any)]

/-- A change of a range. -/
def textEdit : Reader Unit :=
  record "TextEdit" [rangeField, .of "newText" string]

/-- The kinds of marked text. -/
def markupKind : Reader String :=
  variant ["plaintext", "markdown"] id

/-- A marked text. -/
def markup : Reader Unit :=
  record "MarkupContent" [.of "kind" markupKind, .of "value" string]

/-- A plain or marked text. -/
def prose (name : String) : Reader Unit :=
  choice name [void string, markup]

/-- A diagnostic. -/
def diagnostic : Reader Unit :=
  record "Diagnostic"
    [rangeField, .ofOption "severity" int32, .ofOption "code" token,
      .ofOption "codeDescription" (record "CodeDescription" [.of "href" address]),
      .ofOption "source" string, .of "message" string,
      .ofOption "relatedInformation" (list (record "DiagnosticRelatedInformation"
        [.of "location" location, .of "message" string])),
      .ofOption "tags" (list int32), .ofOption "data" any]

/-- A symbol in a hierarchy of calls or types. -/
def hierarchyItem (name : String) (tags : Reader Unit) : Reader Unit :=
  record name
    [.of "name" string, .of "kind" int32, .ofOption "tags" tags, .ofOption "detail" string,
      .of "uri" address, rangeField, .of "selectionRange" range, .ofOption "data" any]

/-- A symbol in a hierarchy of calls. -/
def callItem : Reader Unit :=
  hierarchyItem "CallHierarchyItem" (void (list int32))

/-- A symbol in a hierarchy of types. -/
def typeItem : Reader Unit :=
  hierarchyItem "TypeHierarchyItem" (void int32)

/-- A setting of a formatter beyond the common ones. -/
def formattingProperty : Reader Unit :=
  choice "FormattingProperty" [void boolean, void int32, void string]

/-- The settings of a formatter. -/
def formattingOptions : Reader Unit := fun v => do
  let fields : List Field :=
    [.of "tabSize" word32, .of "insertSpaces" boolean,
      .ofOption "trimTrailingWhitespace" boolean, .ofOption "insertFinalNewline" boolean,
      .ofOption "trimFinalNewlines" boolean]
  record "FormattingOptions" fields [[]] v
  match v with
  | .obj members =>
    (members.filter fun m => !fields.any fun f => f.name == m.1).forM fun m =>
      formattingProperty m.2
  | _ => return ()

/-- The changes that an edit makes. -/
def workspaceEdit : Reader Unit :=
  record "WorkspaceEdit"
    [.ofDefault "changes" (optional (table (list textEdit))),
      .ofOption "documentChanges" (choice "DocumentChanges" [list any]),
      .ofOption "changeAnnotations" (table (record "ChangeAnnotation"
        [.of "label" string, .ofOption "needsConfirmation" boolean,
          .ofOption "description" string]))]

/-- An action on code. -/
def codeAction : Reader Unit :=
  record "CodeAction"
    [.of "title" string, .ofOption "kind" string, .ofOption "diagnostics" (list diagnostic),
      .ofOption "edit" workspaceEdit, .ofOption "command" command,
      .ofOption "isPreferred" boolean,
      .ofOption "disabled" (record "CodeActionDisabled" [.of "reason" string]),
      .ofOption "data" any]

/-- The context of an action on code. -/
def codeActionContext : Reader Unit :=
  record "CodeActionContext"
    [.of "diagnostics" (list diagnostic), .ofOption "only" (list string),
      .ofOption "triggerKind" int32]

/-- A completion that is to be completed itself. -/
def completionItem : Reader Unit :=
  record "CompletionItem"
    [.of "label" string,
      .ofOption "labelDetails" (record "CompletionItemLabelDetails"
        [.ofOption "detail" string, .ofOption "description" string]),
      .ofOption "kind" int32, .ofOption "detail" string,
      .ofOption "documentation" (prose "Documentation"), .ofOption "deprecated" boolean,
      .ofOption "preselect" boolean, .ofOption "sortText" string,
      .ofOption "filterText" string, .ofOption "insertText" string,
      .ofOption "insertTextFormat" int32, .ofOption "insertTextMode" int32,
      .ofOption "textEdit" (choice "CompletionTextEdit"
        [textEdit, record "InsertReplaceEdit"
          [.of "newText" string, .of "insert" range, .of "replace" range]]),
      .ofOption "additionalTextEdits" (list textEdit), .ofOption "command" command,
      .ofOption "commitCharacters" (list string), .ofOption "data" any,
      .ofOption "tags" (list int32)]

/-- A part of the label of a hint. -/
def hintPart : Reader Unit :=
  record "InlayHintLabelPart"
    [.of "value" string, .ofOption "tooltip" (prose "InlayHintLabelPartTooltip"),
      .ofOption "location" location, .ofOption "command" command]

/-- A hint within a line. -/
def inlayHint : Reader Unit :=
  record "InlayHint"
    [.of "position" (position false),
      .of "label" (choice "InlayHintLabel" [void string, void (list hintPart)]),
      .ofOption "kind" int32, .ofOption "textEdits" (list textEdit),
      .ofOption "tooltip" (prose "InlayHintTooltip"), .ofOption "paddingLeft" boolean,
      .ofOption "paddingRight" boolean, .ofOption "data" any]

/-- A signature of a function. -/
def signature : Reader Unit :=
  record "SignatureInformation"
    [.of "label" string, .ofOption "documentation" (prose "Documentation"),
      .ofOption "parameters" (list any), .ofOption "activeParameter" word32]

/-- The context of a request for signatures. -/
def signatureContext : Reader Unit :=
  record "SignatureHelpContext"
    [.of "triggerKind" int32, .ofOption "triggerCharacter" string, .of "isRetrigger" boolean,
      .ofOption "activeSignatureHelp" (record "SignatureHelp"
        [.of "signatures" (list signature), .ofOption "activeSignature" word32,
          .ofOption "activeParameter" word32])]

/-- A symbol of a workspace. -/
def workspaceSymbol : Reader Unit :=
  record "WorkspaceSymbol"
    [.of "name" string, .of "kind" int32, .ofOption "tags" (list int32),
      .ofOption "containerName" string,
      .of "location" (choice "OneOf"
        [location, record "WorkspaceLocation" [.of "uri" address]]),
      .ofOption "data" any]

/-- The files that are created, renamed or deleted. -/
def files (name item : String) (keys : List String) : Reader Unit :=
  record name [.of "files" (list (record item (keys.map fun key => .of key string)))]

/-- The requests about a position. -/
def placeRequests : List (String × Reader Unit) :=
  let goto := params "GotoDefinitionParams" [] [place, progress, bitByBit]
  [("textDocument/declaration", goto), ("textDocument/definition", goto),
    ("textDocument/typeDefinition", goto), ("textDocument/implementation", goto),
    ("textDocument/references", params "ReferenceParams"
      [.of "context" (record "ReferenceContext" [.of "includeDeclaration" boolean])]
      [place, progress, bitByBit]),
    ("textDocument/prepareCallHierarchy",
      params "CallHierarchyPrepareParams" [] [place, progress]),
    ("textDocument/prepareTypeHierarchy",
      params "TypeHierarchyPrepareParams" [] [place, progress]),
    ("textDocument/documentHighlight",
      params "DocumentHighlightParams" [] [place, progress, bitByBit]),
    ("textDocument/moniker", params "MonikerParams" [] [place, progress, bitByBit]),
    ("textDocument/signatureHelp", params "SignatureHelpParams"
      [.ofOption "context" signatureContext] [place, progress]),
    ("textDocument/onTypeFormatting", params "DocumentOnTypeFormattingParams"
      [.of "ch" string, .of "options" formattingOptions] [place]),
    ("textDocument/rename", params "RenameParams" [.of "newName" string] [place, progress]),
    ("textDocument/prepareRename", record "TextDocumentPositionParams"
      [fileField, .of "position" (position false)]),
    ("textDocument/linkedEditingRange",
      params "LinkedEditingRangeParams" [] [place, progress])]

/-- The requests about a file. -/
def fileRequests : List (String × Reader Unit) :=
  [("textDocument/willSaveWaitUntil", record "WillSaveTextDocumentParams"
      [fileField, .of "reason" int32]),
    ("textDocument/documentLink",
      params "DocumentLinkParams" [fileField] [progress, bitByBit]),
    ("textDocument/codeLens", params "CodeLensParams" [fileField] [progress, bitByBit]),
    ("textDocument/foldingRange",
      params "FoldingRangeParams" [fileField] [progress, bitByBit]),
    ("textDocument/selectionRange", params "SelectionRangeParams"
      [fileField, .of "positions" (list (position false))] [progress, bitByBit]),
    ("textDocument/documentSymbol",
      params "DocumentSymbolParams" [fileField] [progress, bitByBit]),
    ("textDocument/semanticTokens/full",
      params "SemanticTokensParams" [fileField] [progress, bitByBit]),
    ("textDocument/semanticTokens/full/delta", params "SemanticTokensDeltaParams"
      [fileField, .of "previousResultId" string] [progress, bitByBit]),
    ("textDocument/semanticTokens/range", params "SemanticTokensRangeParams"
      [fileField, rangeField] [progress, bitByBit]),
    ("textDocument/inlineValue", params "InlineValueParams"
      [fileField, rangeField, .of "context" (record "InlineValueContext"
        [.of "frameId" int32, .of "stoppedLocation" range])] [progress]),
    ("textDocument/inlayHint", params "InlayHintParams" [fileField, rangeField] [progress]),
    ("textDocument/diagnostic", params "DocumentDiagnosticParams"
      [fileField, .ofOption "identifier" string, .ofOption "previousResultId" string]
      [progress, bitByBit]),
    ("textDocument/codeAction", params "CodeActionParams"
      [fileField, rangeField, .of "context" codeActionContext] [progress, bitByBit]),
    ("textDocument/documentColor",
      params "DocumentColorParams" [fileField] [progress, bitByBit]),
    ("textDocument/colorPresentation", params "ColorPresentationParams"
      [fileField, .of "color" (record "Color"
        [.of "red" number, .of "green" number, .of "blue" number, .of "alpha" number]),
        rangeField] [progress, bitByBit]),
    ("textDocument/formatting", params "DocumentFormattingParams"
      [fileField, .of "options" formattingOptions] [progress]),
    ("textDocument/rangeFormatting", params "DocumentRangeFormattingParams"
      [fileField, rangeField, .of "options" formattingOptions] [progress])]

/-- The requests about something that the server gave out, and those about the workspace. -/
def workspaceRequests : List (String × Reader Unit) :=
  [("callHierarchy/incomingCalls", params "CallHierarchyIncomingCallsParams"
      [.of "item" callItem] [progress, bitByBit]),
    ("callHierarchy/outgoingCalls", params "CallHierarchyOutgoingCallsParams"
      [.of "item" callItem] [progress, bitByBit]),
    ("typeHierarchy/supertypes", params "TypeHierarchySupertypesParams"
      [.of "item" typeItem] [progress, bitByBit]),
    ("typeHierarchy/subtypes", params "TypeHierarchySubtypesParams"
      [.of "item" typeItem] [progress, bitByBit]),
    ("documentLink/resolve", record "DocumentLink"
      [rangeField, .ofOption "target" address, .ofOption "tooltip" string,
        .ofOption "data" any]),
    ("codeLens/resolve", record "CodeLens"
      [rangeField, .ofOption "command" command, .ofOption "data" any]),
    ("inlayHint/resolve", inlayHint), ("completionItem/resolve", completionItem),
    ("codeAction/resolve", codeAction),
    ("workspace/diagnostic", params "WorkspaceDiagnosticParams"
      [.ofOption "identifier" string, .of "previousResultIds" (list (record "PreviousResultId"
        [.of "uri" address, .of "value" string]))] [progress, bitByBit]),
    ("workspace/symbol", params "WorkspaceSymbolParams"
      [.of "query" string] [bitByBit, progress]),
    ("workspaceSymbol/resolve", workspaceSymbol),
    ("workspace/willCreateFiles", files "CreateFilesParams" "FileCreate" ["uri"]),
    ("workspace/willRenameFiles", files "RenameFilesParams" "FileRename" ["oldUri", "newUri"]),
    ("workspace/willDeleteFiles", files "DeleteFilesParams" "FileDelete" ["uri"]),
    ("workspace/executeCommand", params "ExecuteCommandParams"
      [.of "command" string, .ofDefault "arguments" (list any)] [progress])]

/-- The form of the parameters of a request that is known but not supported. -/
def otherRequest? (method : String) : Option (Reader Unit) :=
  (placeRequests ++ fileRequests ++ workspaceRequests).lookup method

end Form

end Editor

end ApiNotes
