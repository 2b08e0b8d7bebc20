import ApiNotes.Editor.Request

/-!
# What an editor tells about itself

The parameters of the request that initializes the server. They tell what the editor can do;
the server makes no use of it, but the form is checked.
-/

namespace ApiNotes

namespace Editor

namespace Form

open Record

/-- A field that may say yes or no. -/
def flag (name : String) : Field :=
  .ofOption name boolean

/-- A feature that can be registered later. -/
def dynamic : Field :=
  flag "dynamicRegistration"

/-- A record of yes and no. -/
def flags (name : String) (names : List String) : Reader Unit :=
  record name (names.map flag)

/-- A feature about which nothing else is told. -/
def plain : Reader Unit :=
  record "DynamicRegistrationClientCapabilities" [dynamic]

/-- A feature that can be refreshed. -/
def refreshed (name : String) : Reader Unit :=
  flags name ["refreshSupport"]

/-- A way to ask for what is left out. -/
def resolved (name : String) : Reader Unit :=
  record name [.of "properties" (list string)]

/-- The values that are known beyond the first ones. -/
def valueSet (name : String) : Reader Unit :=
  record name [.ofOption "valueSet" (list int32)]

/-- Edits of a workspace. -/
def workspaceEditCapability : Reader Unit :=
  record "WorkspaceEditClientCapabilities"
    [flag "documentChanges",
      .ofOption "resourceOperations" (list (variant ["create", "rename", "delete"] id)),
      .ofOption "failureHandling" (variant
        ["abort", "transactional", "textOnlyTransactional", "undo"] id),
      flag "normalizesLineEndings",
      .ofOption "changeAnnotationSupport" (flags "ChangeAnnotationWorkspaceEditClientCapabilities"
        ["groupsOnLabel"])]

/-- Symbols of a workspace. -/
def workspaceSymbolCapability : Reader Unit :=
  record "WorkspaceSymbolClientCapabilities"
    [dynamic, .ofOption "symbolKind" (valueSet "SymbolKindCapability"),
      .ofDefault "tagSupport" any,
      .ofOption "resolveSupport" (resolved "WorkspaceSymbolResolveSupportCapability")]

/-- What an editor can do with a workspace. -/
def workspaceCapability : Reader Unit :=
  record "WorkspaceClientCapabilities"
    [flag "applyEdit", .ofOption "workspaceEdit" workspaceEditCapability,
      .ofOption "didChangeConfiguration" plain,
      .ofOption "didChangeWatchedFiles" (flags "DidChangeWatchedFilesClientCapabilities"
        ["dynamicRegistration", "relativePatternSupport"]),
      .ofOption "symbol" workspaceSymbolCapability, .ofOption "executeCommand" plain,
      flag "workspaceFolders", flag "configuration",
      .ofOption "semanticTokens" (refreshed "SemanticTokensWorkspaceClientCapabilities"),
      .ofOption "codeLens" (refreshed "CodeLensWorkspaceClientCapabilities"),
      .ofOption "fileOperations" (flags "WorkspaceFileOperationsClientCapabilities"
        ["dynamicRegistration", "didCreate", "willCreate", "didRename", "willRename",
          "didDelete", "willDelete"]),
      .ofOption "inlineValue" (refreshed "InlineValueWorkspaceClientCapabilities"),
      .ofOption "inlayHint" (refreshed "InlayHintWorkspaceClientCapabilities"),
      .ofOption "diagnostic" (refreshed "DiagnosticWorkspaceClientCapabilities")]

/-- Single completions. -/
def completionItemCapability : Reader Unit :=
  record "CompletionItemCapability"
    [flag "snippetSupport", flag "commitCharactersSupport",
      .ofOption "documentationFormat" (list markupKind), flag "deprecatedSupport",
      flag "preselectSupport", .ofDefault "tagSupport" any, flag "insertReplaceSupport",
      .ofOption "resolveSupport" (resolved "CompletionItemCapabilityResolveSupport"),
      .ofOption "insertTextModeSupport" (record "InsertTextModeSupport"
        [.of "valueSet" (list int32)]),
      flag "labelDetailsSupport"]

/-- Completions. -/
def completionCapability : Reader Unit :=
  record "CompletionClientCapabilities"
    [dynamic, .ofOption "completionItem" completionItemCapability,
      .ofOption "completionItemKind" (valueSet "CompletionItemKindCapability"),
      flag "contextSupport", .ofOption "insertTextMode" int32,
      .ofOption "completionList" (record "CompletionListCapability"
        [.ofOption "itemDefaults" (list string)])]

/-- Signatures. -/
def signatureCapability : Reader Unit :=
  record "SignatureHelpClientCapabilities"
    [dynamic, .ofOption "signatureInformation" (record "SignatureInformationSettings"
      [.ofOption "documentationFormat" (list markupKind),
        .ofOption "parameterInformation" (flags "ParameterInformationSettings"
          ["labelOffsetSupport"]),
        flag "activeParameterSupport"]),
      flag "contextSupport"]

/-- Actions on code. -/
def codeActionCapability : Reader Unit :=
  record "CodeActionClientCapabilities"
    [dynamic, .ofOption "codeActionLiteralSupport" (record "CodeActionLiteralSupport"
      [.of "codeActionKind" (record "CodeActionKindLiteralSupport"
        [.of "valueSet" (list string)])]),
      flag "isPreferredSupport", flag "disabledSupport", flag "dataSupport",
      .ofOption "resolveSupport" (resolved "CodeActionCapabilityResolveSupport"),
      flag "honorsChangeAnnotations"]

/-- Ranges that fold. -/
def foldingCapability : Reader Unit :=
  record "FoldingRangeClientCapabilities"
    [dynamic, .ofOption "rangeLimit" word32, flag "lineFoldingOnly",
      .ofOption "foldingRangeKind" (record "FoldingRangeKindCapability"
        [.ofOption "valueSet" (list (variant ["comment", "imports", "region"] id))]),
      .ofOption "foldingRange" (flags "FoldingRangeCapability" ["collapsedText"])]

/-- Tokens that are highlighted. -/
def semanticTokensCapability : Reader Unit :=
  record "SemanticTokensClientCapabilities"
    [dynamic, .of "requests" (record "SemanticTokensClientCapabilitiesRequests"
      [flag "range", .ofOption "full" (choice "SemanticTokensFullOptions"
        [void boolean, flags "SemanticTokensFullOptions" ["delta"]])]),
      .of "tokenTypes" (list string), .of "tokenModifiers" (list string),
      .of "formats" (list (variant ["relative"] id)), flag "overlappingTokenSupport",
      flag "multilineTokenSupport", flag "serverCancelSupport", flag "augmentsSyntaxTokens"]

/-- Places that an editor can go to. -/
def goto : Reader Unit :=
  flags "GotoCapability" ["dynamicRegistration", "linkSupport"]

/-- What an editor can do with a text. -/
def textCapability : Reader Unit :=
  record "TextDocumentClientCapabilities"
    [.ofOption "synchronization" (flags "TextDocumentSyncClientCapabilities"
        ["dynamicRegistration", "willSave", "willSaveWaitUntil", "didSave"]),
      .ofOption "completion" completionCapability,
      .ofOption "hover" (record "HoverClientCapabilities"
        [dynamic, .ofOption "contentFormat" (list markupKind)]),
      .ofOption "signatureHelp" signatureCapability, .ofOption "references" plain,
      .ofOption "documentHighlight" plain,
      .ofOption "documentSymbol" (record "DocumentSymbolClientCapabilities"
        [dynamic, .ofOption "symbolKind" (valueSet "SymbolKindCapability"),
          flag "hierarchicalDocumentSymbolSupport", .ofDefault "tagSupport" any]),
      .ofOption "formatting" plain, .ofOption "rangeFormatting" plain,
      .ofOption "onTypeFormatting" plain, .ofOption "declaration" goto,
      .ofOption "definition" goto, .ofOption "typeDefinition" goto,
      .ofOption "implementation" goto, .ofOption "codeAction" codeActionCapability,
      .ofOption "codeLens" plain,
      .ofOption "documentLink" (flags "DocumentLinkClientCapabilities"
        ["dynamicRegistration", "tooltipSupport"]),
      .ofOption "colorProvider" plain,
      .ofOption "rename" (record "RenameClientCapabilities"
        [dynamic, flag "prepareSupport", .ofOption "prepareSupportDefaultBehavior" int32,
          flag "honorsChangeAnnotations"]),
      .ofOption "publishDiagnostics" (record "PublishDiagnosticsClientCapabilities"
        [flag "relatedInformation", .ofDefault "tagSupport" any, flag "versionSupport",
          flag "codeDescriptionSupport", flag "dataSupport"]),
      .ofOption "foldingRange" foldingCapability,
      .ofOption "selectionRange" (record "SelectionRangeClientCapabilities" [dynamic]),
      .ofOption "linkedEditingRange" plain, .ofOption "callHierarchy" plain,
      .ofOption "semanticTokens" semanticTokensCapability, .ofOption "moniker" plain,
      .ofOption "typeHierarchy" plain, .ofOption "inlineValue" plain,
      .ofOption "inlayHint" (record "InlayHintClientCapabilities"
        [dynamic, .ofOption "resolveSupport" (resolved "InlayHintResolveClientCapabilities")]),
      .ofOption "diagnostic" (flags "DiagnosticClientCapabilities"
        ["dynamicRegistration", "relatedDocumentSupport"])]

/-- What an editor can do with windows. -/
def windowCapability : Reader Unit :=
  record "WindowClientCapabilities"
    [flag "workDoneProgress",
      .ofOption "showMessage" (record "ShowMessageRequestClientCapabilities"
        [.ofOption "messageActionItem" (flags "MessageActionItemCapabilities"
          ["additionalPropertiesSupport"])]),
      .ofOption "showDocument" (record "ShowDocumentClientCapabilities"
        [.of "support" boolean])]

/-- What an editor can do in general. -/
def generalCapability : Reader Unit :=
  record "GeneralClientCapabilities"
    [.ofOption "regularExpressions" (record "RegularExpressionsClientCapabilities"
        [.of "engine" string, .ofOption "version" string]),
      .ofOption "markdown" (record "MarkdownClientCapabilities"
        [.of "parser" string, .ofOption "version" string,
          .ofOption "allowedTags" (list string)]),
      .ofOption "staleRequestSupport" (record "StaleRequestSupportClientCapabilities"
        [.of "cancel" boolean, .of "retryOnContentModified" (list string)]),
      .ofOption "positionEncodings" (list string)]

/-- What an editor can do. -/
def capabilities : Reader Unit :=
  record "ClientCapabilities"
    [.ofOption "workspace" workspaceCapability, .ofOption "textDocument" textCapability,
      .ofOption "window" windowCapability, .ofOption "general" generalCapability,
      .ofOption "experimental" any]

/-- The parameters of the request that initializes the server. -/
def initialization : Reader Unit :=
  record "InitializeParams"
    [.ofOption "processId" word32, .ofOption "rootPath" string,
      .ofDefault "rootUri" (optional address), .ofOption "initializationOptions" any,
      .of "capabilities" capabilities,
      .ofDefault "trace" (optional (variant ["off", "messages", "verbose"] id)),
      .ofOption "workspaceFolders" (list (record "WorkspaceFolder"
        [.of "uri" address, .of "name" string])),
      .ofOption "clientInfo" (record "ClientInfo"
        [.of "name" string, .ofOption "version" string]),
      .ofOption "locale" string]

/-- The parameters of the message that follows the initialization. -/
def initialized : Reader Unit :=
  record "InitializedParams" []

end Form

end Editor

end ApiNotes
