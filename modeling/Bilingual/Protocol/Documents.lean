import Bilingual.Protocol.Notification

/-!
What an editor tells about the documents that are open in it. A change carries
the whole text, perhaps more than once; ranges in it are read but say nothing.
-/

namespace Bilingual

/-- A document as it is opened. -/
structure OpenedDocument where
  uri : Uri
  languageId : String
  version : Int32
  text : String
  deriving DecidableEq, Repr

/-- New texts of a document that is open. -/
structure ChangedDocument where
  uri : Uri
  version : Int32
  texts : List String
  deriving DecidableEq, Repr

namespace OpenedDocument

def ofItem? (j : Json) : Option OpenedDocument := do
  match ← j.record? ["uri", "languageId", "version", "text"] with
  | [uri, languageId, version, text] =>
      return ⟨← Json.required Uri.ofJson? uri, ← Json.required Json.string? languageId,
        ← Json.required Json.int32? version, ← Json.required Json.string? text⟩
  | _ => none

def ofJson? (j : Json) : Option OpenedDocument := do
  match ← j.record? ["textDocument"] with
  | [document] => Json.required ofItem? document
  | _ => none

end OpenedDocument

namespace ChangedDocument

/-- A document as changes name it, with its new version. -/
def versioned? (j : Json) : Option (Uri × Int32) := do
  match ← j.record? ["uri", "version"] with
  | [uri, version] =>
      return (← Json.required Uri.ofJson? uri, ← Json.required Json.int32? version)
  | _ => none

/-- The text of one change. -/
def change? (j : Json) : Option String := do
  match ← j.record? ["range", "rangeLength", "text"] with
  | [range, length, text] =>
      let _ ← Json.optional PositionRange.ofJson? range
      let _ ← Json.optional Json.uint32? length
      Json.required Json.string? text
  | _ => none

def ofJson? (j : Json) : Option ChangedDocument := do
  match ← j.record? ["textDocument", "contentChanges"] with
  | [document, changes] =>
      let (uri, version) ← Json.required versioned? document
      return ⟨uri, version, ← Json.required (Json.list? change?) changes⟩
  | _ => none

end ChangedDocument

/-- The document that is closed. -/
def closedDocument? (j : Json) : Option Uri := do
  match ← j.record? ["textDocument"] with
  | [document] => Json.required Uri.ofDocument? document
  | _ => none

end Bilingual
