import Bilingual.Json
import Bilingual.Text.Lines
import Bilingual.Uri.Parse

/-!
What an editor extension and the server tell each other about cursors,
viewports and languages: the contents of the three messages, and their JSON.
-/

namespace Bilingual

namespace Uri

def ofJson? (j : Json) : Option Uri := do
  (parse (← j.string?)).toOption

def toJson (u : Uri) : Json := .string u.text

/-- A document, as messages name it. -/
def ofDocument? (j : Json) : Option Uri := do
  match ← j.record? ["uri"] with
  | [uri] => Json.required ofJson? uri
  | _ => none

def toDocument (u : Uri) : Json := .object [("uri", u.toJson)]

end Uri

namespace Position

def ofJson? (j : Json) : Option Position := do
  match ← j.record? ["line", "character"] with
  | [line, character] =>
      return ⟨← Json.required Json.uint32? line, ← Json.required Json.uint32? character⟩
  | _ => none

def toJson (p : Position) : Json :=
  .object [("line", .ofNat p.line.toNat), ("character", .ofNat p.character.toNat)]

end Position

namespace PositionRange

def ofJson? (j : Json) : Option PositionRange := do
  match ← j.record? ["start", "end"] with
  | [start, stop] =>
      return ⟨← Json.required Position.ofJson? start, ← Json.required Position.ofJson? stop⟩
  | _ => none

def toJson (r : PositionRange) : Json :=
  .object [("start", r.start.toJson), ("end", r.stop.toJson)]

end PositionRange

/-- The cursor of an editor moved. -/
structure SelectionChanged where
  document : Uri
  position : Position
  deriving DecidableEq, Repr

/-- An editor shows other parts of a document. The position is that of its
cursor. -/
structure VisibleRangesChanged where
  document : Uri
  visible : List PositionRange
  position : Position
  deriving DecidableEq, Repr

/-- The language that an editor is to take a document for. -/
structure SetLanguage where
  document : Uri
  languageId : String
  deriving DecidableEq, Repr

namespace SelectionChanged

def ofJson? (j : Json) : Option SelectionChanged := do
  match ← j.record? ["textDocument", "position"] with
  | [document, position] =>
      return ⟨← Json.required Uri.ofDocument? document, ← Json.required Position.ofJson? position⟩
  | _ => none

def toJson (m : SelectionChanged) : Json :=
  .object [("textDocument", m.document.toDocument), ("position", m.position.toJson)]

end SelectionChanged

namespace VisibleRangesChanged

def ofJson? (j : Json) : Option VisibleRangesChanged := do
  match ← j.record? ["textDocument", "visibleRanges", "position"] with
  | [document, visible, position] =>
      return ⟨← Json.required Uri.ofDocument? document,
        ← Json.required (Json.list? PositionRange.ofJson?) visible,
        ← Json.required Position.ofJson? position⟩
  | _ => none

def toJson (m : VisibleRangesChanged) : Json :=
  .object [("textDocument", m.document.toDocument),
    ("visibleRanges", .array (m.visible.map PositionRange.toJson)),
    ("position", m.position.toJson)]

end VisibleRangesChanged

namespace SetLanguage

def ofJson? (j : Json) : Option SetLanguage := do
  match ← j.record? ["textDocument", "languageId"] with
  | [document, languageId] =>
      return ⟨← Json.required Uri.ofDocument? document, ← Json.required Json.string? languageId⟩
  | _ => none

def toJson (m : SetLanguage) : Json :=
  .object [("textDocument", m.document.toDocument), ("languageId", .string m.languageId)]

end SetLanguage

end Bilingual
