import Bilingual.Proofs.Session.Run

/-!
Messages as an editor writes them: the first request, and the reports on documents.
-/

namespace Bilingual

/-- A document right below the root of the files. -/
def Uri.atRoot (name : String) : Uri := ⟨"file", some ⟨"", "", none⟩, "/" ++ name, none, none⟩

/-- What the first request holds, from an editor that tells no more than the root of its
workspace, if it has one. -/
def Startup.params (root : Option String) : Json :=
  .object (("capabilities", .object []) :: (root.map fun uri => ("rootUri", .string uri)).toList)

def OpenedDocument.toJson (d : OpenedDocument) : Json :=
  .object [("textDocument", .object [("uri", d.uri.toJson), ("languageId", .string d.languageId),
    ("version", .number d.version.toInt), ("text", .string d.text)])]

def ChangedDocument.toJson (d : ChangedDocument) : Json :=
  .object [("textDocument", .object [("uri", d.uri.toJson), ("version", .number d.version.toInt)]),
    ("contentChanges", .array (d.texts.map fun text => .object [("text", .string text)]))]

namespace Happening

def startup (root : Option String) : Happening :=
  .incoming (.message "initialize" (some (.number 1)) (some (Startup.params root)))

def opened (d : OpenedDocument) : Happening :=
  .incoming (.message "textDocument/didOpen" none (some d.toJson))

def changed (d : ChangedDocument) : Happening :=
  .incoming (.message "textDocument/didChange" none (some d.toJson))

def closed (uri : Uri) : Happening :=
  .incoming (.message "textDocument/didClose" none
    (some (.object [("textDocument", uri.toDocument)])))

def selected (m : SelectionChanged) : Happening :=
  .incoming (.message "retag/selectionChanged" none (some m.toJson))

def viewed (m : VisibleRangesChanged) : Happening :=
  .incoming (.message "retag/visibleRangesChanged" none (some m.toJson))

end Happening

end Bilingual
