import Bilingual.Protocol.Shape

/-!
Requests that editors know and that are not served here, with the shapes of what
they hold.
-/

namespace Bilingual.Shape

def document : Shape := fun j => (Uri.ofDocument? j).isSome

def location : Shape := record [.required "uri" uri, .required "range" range]

def textEdit : Shape := record [.required "range" range, .required "newText" text]

def command : Shape :=
  record [.required "title" text, .required "command" text, .optional "arguments" (listOf any)]

/-- What names a progress or a code. -/
def token : Shape := either integer text

def markup : Shape :=
  record [.required "kind" (word ["plaintext", "markdown"]), .required "value" text]

def documentation : Shape := either text markup

namespace Requests

def progress : Member := .optional "workDoneToken" token

/-- Progress, and results that come in parts. -/
def progresses : List Member := [progress, .optional "partialResultToken" token]

def inDocument : Member := .required "textDocument" document

def inRange : Member := .required "range" range

def atPosition : List Member := [inDocument, .required "position" position]

def diagnostic : Shape := record [
  .required "range" range,
  .optional "severity" integer,
  .optional "code" token,
  .optional "codeDescription" (record [.required "href" uri]),
  .optional "source" text,
  .required "message" text,
  .optional "relatedInformation"
    (listOf (record [.required "location" location, .required "message" text])),
  .optional "tags" (listOf integer),
  .optional "data" any]

/-- A place in a hierarchy. Those of calls have a list of tags. -/
def hierarchyItem (tags : Shape) : Member := .required "item" (record [
  .required "name" text,
  .required "kind" integer,
  .optional "tags" tags,
  .optional "detail" text,
  .required "uri" uri,
  .required "range" range,
  .required "selectionRange" range,
  .optional "data" any])

def callItem : Member := hierarchyItem (listOf integer)

def typeItem : Member := hierarchyItem integer

def signature : Shape := record [
  .required "label" text,
  .optional "documentation" documentation,
  .optional "parameters" (listOf (record [
    .required "label" (either text (pairOf count)),
    .optional "documentation" documentation])),
  .optional "activeParameter" count]

def signatureContext : Shape := record [
  .required "triggerKind" integer,
  .optional "triggerCharacter" text,
  .required "isRetrigger" flag,
  .optional "activeSignatureHelp" (record [
    .required "signatures" (listOf signature),
    .optional "activeSignature" count,
    .optional "activeParameter" count])]

/-- Options for the layout, of which an editor may add its own. -/
def formatting : Shape
  | .object members =>
      let known : List Member := [
        .required "tabSize" count,
        .required "insertSpaces" flag,
        .optional "trimTrailingWhitespace" flag,
        .optional "insertFinalNewline" flag,
        .optional "trimFinalNewlines" flag]
      object known (.object members) &&
        members.all fun (name, j) =>
          known.any (·.name = name) || either flag token j
  | _ => false

def options : Member := .required "options" formatting

def resourceOperation : Shape := tagged "kind" [
  ("create", record [
    .required "uri" uri,
    .optional "options" (Shape.options [("overwrite", flag), ("ignoreIfExists", flag)]),
    .optional "annotationId" text]),
  ("rename", record [
    .required "oldUri" uri,
    .required "newUri" uri,
    .optional "options" (Shape.options [("overwrite", flag), ("ignoreIfExists", flag)]),
    .optional "annotationId" text]),
  ("delete", record [
    .required "uri" uri,
    .optional "options" (Shape.options [("recursive", flag), ("ignoreIfNotExists", flag),
      ("annotationId", text)])])]

def documentEdit : Shape := record [
  .required "textDocument" (record [.required "uri" uri, .optional "version" integer]),
  .required "edits" (listOf textEdit)]

def workspaceEdit : Shape := record [
  .defaulted "changes" (orNull (mapOf uri (listOf textEdit))),
  .optional "documentChanges"
    (either (listOf documentEdit) (listOf (either resourceOperation documentEdit))),
  .optional "changeAnnotations" (mapOf text (record [
    .required "label" text,
    .optional "needsConfirmation" flag,
    .optional "description" text]))]

def completionItem : Shape := record [
  .required "label" text,
  .optional "labelDetails" (Shape.options [("detail", text), ("description", text)]),
  .optional "kind" integer,
  .optional "detail" text,
  .optional "documentation" documentation,
  .optional "deprecated" flag,
  .optional "preselect" flag,
  .optional "sortText" text,
  .optional "filterText" text,
  .optional "insertText" text,
  .optional "insertTextFormat" integer,
  .optional "insertTextMode" integer,
  .optional "textEdit" (either textEdit (record [
    .required "newText" text, .required "insert" range, .required "replace" range])),
  .optional "additionalTextEdits" (listOf textEdit),
  .optional "command" command,
  .optional "commitCharacters" (listOf text),
  .optional "data" any,
  .optional "tags" (listOf integer)]

def codeAction : Shape := record [
  .required "title" text,
  .optional "kind" text,
  .optional "diagnostics" (listOf diagnostic),
  .optional "edit" workspaceEdit,
  .optional "command" command,
  .optional "isPreferred" flag,
  .optional "disabled" (record [.required "reason" text]),
  .optional "data" any]

def inlayHint : Shape := record [
  .required "position" position,
  .required "label" (either text (listOf (record [
    .required "value" text,
    .optional "tooltip" documentation,
    .optional "location" location,
    .optional "command" command]))),
  .optional "kind" integer,
  .optional "textEdits" (listOf textEdit),
  .optional "tooltip" documentation,
  .optional "paddingLeft" flag,
  .optional "paddingRight" flag,
  .optional "data" any]

def workspaceSymbol : Shape := record [
  .required "name" text,
  .required "kind" integer,
  .optional "tags" (listOf integer),
  .optional "containerName" text,
  .required "location" (either location (record [.required "uri" uri])),
  .optional "data" any]

/-- Files that an operation is about, by the names of the members that tell where
they are. -/
def files (names : List String) : Shape :=
  record [.required "files" (listOf (record (names.map (.required · text))))]

def goto : Shape := object (atPosition ++ progresses)

def look : Shape := object (atPosition ++ [progress])

def whole : Shape := object (inDocument :: progresses)

def color : Shape := record [
  .required "red" number, .required "green" number, .required "blue" number,
  .required "alpha" number]

def textRequests : List (String × Shape) := [
  ("textDocument/declaration", goto),
  ("textDocument/definition", goto),
  ("textDocument/typeDefinition", goto),
  ("textDocument/implementation", goto),
  ("textDocument/documentHighlight", goto),
  ("textDocument/moniker", goto),
  ("textDocument/references", object (atPosition ++ progresses ++
    [.required "context" (record [.required "includeDeclaration" flag])])),
  ("textDocument/hover", look),
  ("textDocument/linkedEditingRange", look),
  ("textDocument/prepareCallHierarchy", look),
  ("textDocument/prepareTypeHierarchy", look),
  ("textDocument/prepareRename", record atPosition),
  ("textDocument/rename", object (atPosition ++ [.required "newName" text, progress])),
  ("textDocument/completion", object (atPosition ++ progresses ++
    [.optional "context" (record [
      .required "triggerKind" integer, .optional "triggerCharacter" text])])),
  ("textDocument/signatureHelp", object (atPosition ++
    [progress, .optional "context" signatureContext])),
  ("textDocument/documentLink", whole),
  ("textDocument/codeLens", whole),
  ("textDocument/foldingRange", whole),
  ("textDocument/documentSymbol", whole),
  ("textDocument/documentColor", whole),
  ("textDocument/colorPresentation", object ([inDocument, .required "color" color, inRange] ++
    progresses)),
  ("textDocument/selectionRange", object ([inDocument, .required "positions" (listOf position)] ++
    progresses)),
  ("textDocument/semanticTokens/full", whole),
  ("textDocument/semanticTokens/full/delta", object ([inDocument,
    .required "previousResultId" text] ++ progresses)),
  ("textDocument/semanticTokens/range", object ([inDocument, inRange] ++ progresses)),
  ("textDocument/inlineValue", object [inDocument, inRange, progress,
    .required "context" (record [
      .required "frameId" integer, .required "stoppedLocation" range])]),
  ("textDocument/inlayHint", object [inDocument, inRange, progress]),
  ("textDocument/diagnostic", object ([inDocument, .optional "identifier" text,
    .optional "previousResultId" text] ++ progresses)),
  ("textDocument/codeAction", object ([inDocument, inRange,
    .required "context" (record [
      .required "diagnostics" (listOf diagnostic),
      .optional "only" (listOf text),
      .optional "triggerKind" integer])] ++ progresses)),
  ("textDocument/formatting", object [inDocument, options, progress]),
  ("textDocument/rangeFormatting", object [inDocument, inRange, options, progress]),
  ("textDocument/onTypeFormatting", object (atPosition ++ [.required "ch" text, options])),
  ("textDocument/willSaveWaitUntil", record [inDocument, .required "reason" integer])]

def otherRequests : List (String × Shape) := [
  ("callHierarchy/incomingCalls", object (callItem :: progresses)),
  ("callHierarchy/outgoingCalls", object (callItem :: progresses)),
  ("typeHierarchy/supertypes", object (typeItem :: progresses)),
  ("typeHierarchy/subtypes", object (typeItem :: progresses)),
  ("completionItem/resolve", completionItem),
  ("codeAction/resolve", codeAction),
  ("codeLens/resolve", record [
    .required "range" range, .optional "command" command, .optional "data" any]),
  ("documentLink/resolve", record [
    .required "range" range, .optional "target" uri, .optional "tooltip" text,
    .optional "data" any]),
  ("inlayHint/resolve", inlayHint),
  ("workspaceSymbol/resolve", workspaceSymbol),
  ("workspace/symbol", object (.required "query" text :: progresses)),
  ("workspace/diagnostic", object ([.optional "identifier" text,
    .required "previousResultIds"
      (listOf (record [.required "uri" uri, .required "value" text]))] ++ progresses)),
  ("workspace/executeCommand", object [
    .required "command" text, .defaulted "arguments" (listOf any), progress]),
  ("workspace/willCreateFiles", files ["uri"]),
  ("workspace/willRenameFiles", files ["oldUri", "newUri"]),
  ("workspace/willDeleteFiles", files ["uri"])]

/-- The shape of what a request holds, by its method. -/
def shape? (method : String) : Option Shape :=
  textRequests.lookup method <|> otherRequests.lookup method

end Requests

end Bilingual.Shape
