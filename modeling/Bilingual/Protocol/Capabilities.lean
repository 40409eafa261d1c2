import Bilingual.Protocol.Shape

/-!
What an editor says it can do. Nothing here depends on it, but it has to be
well-formed.
-/

namespace Bilingual.Shape.Capabilities

def dynamic : List (String × Shape) := [("dynamicRegistration", flag)]

def refresh : Shape := options [("refreshSupport", flag)]

def properties : Shape := record [.required "properties" (listOf text)]

def valueSet (shape : Shape) : Shape := options [("valueSet", listOf shape)]

/-- Older editors tell with a flag whether they know tags. -/
def tags : Member :=
  .defaulted "tagSupport" (orNull (either flag (record [.required "valueSet" (listOf integer)])))

def markup : Shape := word ["plaintext", "markdown"]

def workspaceEdit : Shape := options [
  ("documentChanges", flag),
  ("resourceOperations", listOf (word ["create", "rename", "delete"])),
  ("failureHandling", word ["abort", "transactional", "textOnlyTransactional", "undo"]),
  ("normalizesLineEndings", flag),
  ("changeAnnotationSupport", options [("groupsOnLabel", flag)])]

def workspaceSymbol : Shape := record [
  .optional "dynamicRegistration" flag,
  .optional "symbolKind" (valueSet integer),
  tags,
  .optional "resolveSupport" properties]

def workspace : Shape := options [
  ("applyEdit", flag),
  ("workspaceEdit", workspaceEdit),
  ("didChangeConfiguration", options dynamic),
  ("didChangeWatchedFiles", options (dynamic ++ [("relativePatternSupport", flag)])),
  ("symbol", workspaceSymbol),
  ("executeCommand", options dynamic),
  ("workspaceFolders", flag),
  ("configuration", flag),
  ("semanticTokens", refresh),
  ("codeLens", refresh),
  ("fileOperations", options (dynamic ++ [("didCreate", flag), ("willCreate", flag),
    ("didRename", flag), ("willRename", flag), ("didDelete", flag), ("willDelete", flag)])),
  ("inlineValue", refresh),
  ("inlayHint", refresh),
  ("diagnostic", refresh)]

def completionItem : Shape := record [
  .optional "snippetSupport" flag,
  .optional "commitCharactersSupport" flag,
  .optional "documentationFormat" (listOf markup),
  .optional "deprecatedSupport" flag,
  .optional "preselectSupport" flag,
  tags,
  .optional "insertReplaceSupport" flag,
  .optional "resolveSupport" properties,
  .optional "insertTextModeSupport" (record [.required "valueSet" (listOf integer)]),
  .optional "labelDetailsSupport" flag]

def completion : Shape := options (dynamic ++ [
  ("completionItem", completionItem),
  ("completionItemKind", valueSet integer),
  ("contextSupport", flag),
  ("insertTextMode", integer),
  ("completionList", options [("itemDefaults", listOf text)])])

def signatureHelp : Shape := options (dynamic ++ [
  ("signatureInformation", options [
    ("documentationFormat", listOf markup),
    ("parameterInformation", options [("labelOffsetSupport", flag)]),
    ("activeParameterSupport", flag)]),
  ("contextSupport", flag)])

def documentSymbol : Shape := record [
  .optional "dynamicRegistration" flag,
  .optional "symbolKind" (valueSet integer),
  .optional "hierarchicalDocumentSymbolSupport" flag,
  tags]

def goto : Shape := options (dynamic ++ [("linkSupport", flag)])

def codeAction : Shape := options (dynamic ++ [
  ("codeActionLiteralSupport", record [
    .required "codeActionKind" (record [.required "valueSet" (listOf text)])]),
  ("isPreferredSupport", flag),
  ("disabledSupport", flag),
  ("dataSupport", flag),
  ("resolveSupport", properties),
  ("honorsChangeAnnotations", flag)])

def publishDiagnostics : Shape := record [
  .optional "relatedInformation" flag,
  tags,
  .optional "versionSupport" flag,
  .optional "codeDescriptionSupport" flag,
  .optional "dataSupport" flag]

def foldingRange : Shape := options (dynamic ++ [
  ("rangeLimit", count),
  ("lineFoldingOnly", flag),
  ("foldingRangeKind", valueSet (word ["comment", "imports", "region"])),
  ("foldingRange", options [("collapsedText", flag)])])

def semanticTokens : Shape := record [
  .optional "dynamicRegistration" flag,
  .required "requests" (options [
    ("range", flag),
    ("full", either flag (object [.optional "delta" flag]))]),
  .required "tokenTypes" (listOf text),
  .required "tokenModifiers" (listOf text),
  .required "formats" (listOf text),
  .optional "overlappingTokenSupport" flag,
  .optional "multilineTokenSupport" flag,
  .optional "serverCancelSupport" flag,
  .optional "augmentsSyntaxTokens" flag]

def textDocument : Shape := options [
  ("synchronization", options (dynamic ++ [
    ("willSave", flag), ("willSaveWaitUntil", flag), ("didSave", flag)])),
  ("completion", completion),
  ("hover", options (dynamic ++ [("contentFormat", listOf markup)])),
  ("signatureHelp", signatureHelp),
  ("references", options dynamic),
  ("documentHighlight", options dynamic),
  ("documentSymbol", documentSymbol),
  ("formatting", options dynamic),
  ("rangeFormatting", options dynamic),
  ("onTypeFormatting", options dynamic),
  ("declaration", goto),
  ("definition", goto),
  ("typeDefinition", goto),
  ("implementation", goto),
  ("codeAction", codeAction),
  ("codeLens", options dynamic),
  ("documentLink", options (dynamic ++ [("tooltipSupport", flag)])),
  ("colorProvider", options dynamic),
  ("rename", options (dynamic ++ [("prepareSupport", flag),
    ("prepareSupportDefaultBehavior", integer), ("honorsChangeAnnotations", flag)])),
  ("publishDiagnostics", publishDiagnostics),
  ("foldingRange", foldingRange),
  ("selectionRange", options dynamic),
  ("linkedEditingRange", options dynamic),
  ("callHierarchy", options dynamic),
  ("semanticTokens", semanticTokens),
  ("moniker", options dynamic),
  ("typeHierarchy", options dynamic),
  ("inlineValue", options dynamic),
  ("inlayHint", options (dynamic ++ [("resolveSupport", properties)])),
  ("diagnostic", options (dynamic ++ [("relatedDocumentSupport", flag)]))]

def window : Shape := options [
  ("workDoneProgress", flag),
  ("showMessage", options [
    ("messageActionItem", options [("additionalPropertiesSupport", flag)])]),
  ("showDocument", record [.required "support" flag])]

def general : Shape := options [
  ("regularExpressions", record [.required "engine" text, .optional "version" text]),
  ("markdown", record [.required "parser" text, .optional "version" text,
    .optional "allowedTags" (listOf text)]),
  ("staleRequestSupport", record [.required "cancel" flag,
    .required "retryOnContentModified" (listOf text)]),
  ("positionEncodings", listOf text)]

/-- All groups of capabilities. -/
def all : Shape := options [
  ("workspace", workspace),
  ("textDocument", textDocument),
  ("window", window),
  ("general", general),
  ("experimental", any)]

end Bilingual.Shape.Capabilities
