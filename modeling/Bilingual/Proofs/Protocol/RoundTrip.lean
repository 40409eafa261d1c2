import Bilingual.Proofs.Protocol.Rewriting
import Bilingual.Protocol.Notification

/-!
The messages between editor and server in JSON. What has been written is read back,
and a message is read alike however its records are written.
-/

namespace Bilingual

/-- The written form of the URI is read back as the URI. -/
def Uri.Stable (u : Uri) : Prop := Uri.parse u.text = .ok u

namespace Json

/-- Reading and writing of messages about documents. What is written is read back, so
that it is a normal form of all that the message may have been read from; and a message
is read alike however its records are written. -/
structure Faithful {α : Type} (document : α → Uri) (form : Form) (read : Json → Option α)
    (write : α → Json) : Prop where
  read_write : ∀ m, (document m).Stable → read (write m) = some m
  normal : ∀ j m, read j = some m → (document m).Stable →
    (read (write m)).map write = some (write m)
  same : ∀ j j' m, SameRecords form j j' → read j = some m → read j' = some m

theorem faithful {α : Type} {document : α → Uri} {form : Form} {read : Json → Option α}
    {write : α → Json} (hread : ∀ m, (document m).Stable → read (write m) = some m)
    (hrespects : Respects form read) : Faithful document form read write where
  read_write := hread
  normal _ m _ hstable := by rw [hread m hstable, Option.map_some]
  same _ _ _ hsame h := (hrespects.eq_of_sameRecords hsame).symm.trans h

theorem required_some {α : Type} (read : Json → Option α) (j : Json) :
    required read (some j) = read j := rfl

theorem uint32?_ofNat (n : UInt32) : (ofNat n.toNat).uint32? = some n := by
  have hlt := n.toNat_lt
  simp only [uint32?, ofNat]
  rw [if_pos (by omega), Int.toNat_natCast, UInt32.ofNat_toNat]

end Json

open Json

variable {j : Json} {x y z : Option Json}

namespace Uri

def form : Form := .record [("uri", .any)]

theorem ofDocument?_of_members (h : j.record? ["uri"] = some [x]) :
    ofDocument? j = required ofJson? x := by
  rw [ofDocument?, h]
  rfl

theorem ofDocument?_toDocument {u : Uri} (h : u.Stable) : ofDocument? u.toDocument = some u := by
  have hmembers : u.toDocument.record? ["uri"] = some [some u.toJson] :=
    record?_zip _ [u.toJson] (by decide) rfl
  have hparse : parse u.text = .ok u := h
  rw [ofDocument?_of_members hmembers, required_some, toJson, ofJson?, string?]
  simp only [bind, Option.bind_some, hparse, Except.toOption]

theorem respects_ofDocument? : Respects form ofDocument? := by
  intro j j' h
  obtain ⟨_, _, hx, hx', _ | ⟨huri, ⟨⟩⟩⟩ := record?_of_rewrite (by decide) h
  rw [ofDocument?_of_members hx, ofDocument?_of_members hx', (respects_any ofJson?).required_eq huri]

end Uri

namespace Position

def form : Form := .record [("line", .any), ("character", .any)]

theorem ofJson?_of_members (h : j.record? ["line", "character"] = some [x, y]) :
    ofJson? j = do return ⟨← required uint32? x, ← required uint32? y⟩ := by
  rw [ofJson?, h]
  rfl

theorem ofJson?_toJson (p : Position) : ofJson? p.toJson = some p := by
  have hmembers : p.toJson.record? ["line", "character"] =
      some [some (.ofNat p.line.toNat), some (.ofNat p.character.toNat)] :=
    record?_zip _ [.ofNat p.line.toNat, .ofNat p.character.toNat] (by decide) rfl
  rw [ofJson?_of_members hmembers, required_some, required_some, uint32?_ofNat, uint32?_ofNat]
  rfl

theorem respects_ofJson? : Respects form ofJson? := by
  intro j j' h
  obtain ⟨_, _, hx, hx', _ | ⟨hline, _ | ⟨hcharacter, ⟨⟩⟩⟩⟩ := record?_of_rewrite (by decide) h
  rw [ofJson?_of_members hx, ofJson?_of_members hx', (respects_any uint32?).required_eq hline,
    (respects_any uint32?).required_eq hcharacter]

end Position

namespace PositionRange

def form : Form := .record [("start", Position.form), ("end", Position.form)]

theorem ofJson?_of_members (h : j.record? ["start", "end"] = some [x, y]) :
    ofJson? j =
      do return ⟨← required Position.ofJson? x, ← required Position.ofJson? y⟩ := by
  rw [ofJson?, h]
  rfl

theorem ofJson?_toJson (r : PositionRange) : ofJson? r.toJson = some r := by
  have hmembers : r.toJson.record? ["start", "end"] = some [some r.start.toJson, some r.stop.toJson] :=
    record?_zip _ [r.start.toJson, r.stop.toJson] (by decide) rfl
  rw [ofJson?_of_members hmembers, required_some, required_some, Position.ofJson?_toJson,
    Position.ofJson?_toJson]
  rfl

theorem respects_ofJson? : Respects form ofJson? := by
  intro j j' h
  obtain ⟨_, _, hx, hx', _ | ⟨hstart, _ | ⟨hstop, ⟨⟩⟩⟩⟩ := record?_of_rewrite (by decide) h
  rw [ofJson?_of_members hx, ofJson?_of_members hx', Position.respects_ofJson?.required_eq hstart,
    Position.respects_ofJson?.required_eq hstop]

theorem list?_map_toJson (rs : List PositionRange) :
    list? ofJson? (.array (rs.map toJson)) = some rs := by
  simp only [list?, array?, bind, Option.bind_some]
  induction rs with
  | nil => rfl
  | cons r rs ih => simp [ofJson?_toJson, ih]

end PositionRange

namespace SelectionChanged

def form : Form := .record [("textDocument", Uri.form), ("position", Position.form)]

theorem ofJson?_of_members (h : j.record? ["textDocument", "position"] = some [x, y]) :
    ofJson? j =
      do return ⟨← required Uri.ofDocument? x, ← required Position.ofJson? y⟩ := by
  rw [ofJson?, h]
  rfl

theorem ofJson?_toJson {m : SelectionChanged} (h : m.document.Stable) :
    ofJson? m.toJson = some m := by
  have hmembers : m.toJson.record? ["textDocument", "position"] =
      some [some m.document.toDocument, some m.position.toJson] :=
    record?_zip _ [m.document.toDocument, m.position.toJson] (by decide) rfl
  rw [ofJson?_of_members hmembers, required_some, required_some, Uri.ofDocument?_toDocument h,
    Position.ofJson?_toJson]
  rfl

theorem respects_ofJson? : Respects form ofJson? := by
  intro j j' h
  obtain ⟨_, _, hx, hx', _ | ⟨hdocument, _ | ⟨hposition, ⟨⟩⟩⟩⟩ :=
    record?_of_rewrite (by decide) h
  rw [ofJson?_of_members hx, ofJson?_of_members hx',
    Uri.respects_ofDocument?.required_eq hdocument, Position.respects_ofJson?.required_eq hposition]

end SelectionChanged

namespace VisibleRangesChanged

def form : Form :=
  .record [("textDocument", Uri.form), ("visibleRanges", .list PositionRange.form),
    ("position", Position.form)]

theorem ofJson?_of_members
    (h : j.record? ["textDocument", "visibleRanges", "position"] = some [x, y, z]) :
    ofJson? j =
      do return ⟨← required Uri.ofDocument? x, ← required (list? PositionRange.ofJson?) y,
        ← required Position.ofJson? z⟩ := by
  rw [ofJson?, h]
  rfl

theorem ofJson?_toJson {m : VisibleRangesChanged} (h : m.document.Stable) :
    ofJson? m.toJson = some m := by
  have hmembers : m.toJson.record? ["textDocument", "visibleRanges", "position"] =
      some [some m.document.toDocument, some (.array (m.visible.map PositionRange.toJson)),
        some m.position.toJson] :=
    record?_zip _ [m.document.toDocument, .array (m.visible.map PositionRange.toJson),
      m.position.toJson] (by decide) rfl
  rw [ofJson?_of_members hmembers, required_some, required_some, required_some,
    Uri.ofDocument?_toDocument h, PositionRange.list?_map_toJson, Position.ofJson?_toJson]
  rfl

theorem respects_ofJson? : Respects form ofJson? := by
  intro j j' h
  obtain ⟨_, _, hx, hx', _ | ⟨hdocument, _ | ⟨hvisible, _ | ⟨hposition, ⟨⟩⟩⟩⟩⟩ :=
    record?_of_rewrite (by decide) h
  rw [ofJson?_of_members hx, ofJson?_of_members hx',
    Uri.respects_ofDocument?.required_eq hdocument,
    PositionRange.respects_ofJson?.list.required_eq hvisible,
    Position.respects_ofJson?.required_eq hposition]

end VisibleRangesChanged

namespace SetLanguage

def form : Form := .record [("textDocument", Uri.form), ("languageId", .any)]

theorem ofJson?_of_members (h : j.record? ["textDocument", "languageId"] = some [x, y]) :
    ofJson? j =
      do return ⟨← required Uri.ofDocument? x, ← required Json.string? y⟩ := by
  rw [ofJson?, h]
  rfl

theorem ofJson?_toJson {m : SetLanguage} (h : m.document.Stable) : ofJson? m.toJson = some m := by
  have hmembers : m.toJson.record? ["textDocument", "languageId"] =
      some [some m.document.toDocument, some (.string m.languageId)] :=
    record?_zip _ [m.document.toDocument, .string m.languageId] (by decide) rfl
  rw [ofJson?_of_members hmembers, required_some, required_some, Uri.ofDocument?_toDocument h]
  rfl

theorem respects_ofJson? : Respects form ofJson? := by
  intro j j' h
  obtain ⟨_, _, hx, hx', _ | ⟨hdocument, _ | ⟨hlanguage, ⟨⟩⟩⟩⟩ :=
    record?_of_rewrite (by decide) h
  rw [ofJson?_of_members hx, ofJson?_of_members hx',
    Uri.respects_ofDocument?.required_eq hdocument, (respects_any string?).required_eq hlanguage]

end SetLanguage

/-- Messages are read back from what is written of them, whose JSON is a normal form;
and they are read alike whatever the order of members in a record, whatever other members
it has, and where it is written as the array of its members. -/
theorem notifications_round_trip :
    Faithful SelectionChanged.document SelectionChanged.form SelectionChanged.ofJson?
        SelectionChanged.toJson ∧
      Faithful VisibleRangesChanged.document VisibleRangesChanged.form
        VisibleRangesChanged.ofJson? VisibleRangesChanged.toJson ∧
      Faithful SetLanguage.document SetLanguage.form SetLanguage.ofJson? SetLanguage.toJson :=
  ⟨faithful (fun _ => SelectionChanged.ofJson?_toJson) SelectionChanged.respects_ofJson?,
    faithful (fun _ => VisibleRangesChanged.ofJson?_toJson) VisibleRangesChanged.respects_ofJson?,
    faithful (fun _ => SetLanguage.ofJson?_toJson) SetLanguage.respects_ofJson?⟩

/-- The cursor as an array, in front of all other members, one of which is unknown. -/
theorem notifications_round_trip_of_an_array :
    let uri : Uri := ⟨"file", some ⟨"", "", none⟩, "/v/a.blade.php", none, none⟩
    let m : VisibleRangesChanged := ⟨uri, [⟨⟨0, 0⟩, ⟨9, 2⟩⟩, ⟨⟨12, 0⟩, ⟨12, 7⟩⟩], ⟨1, 4294967295⟩⟩
    let document := ("textDocument", m.document.toDocument)
    let ranges := ("visibleRanges", Json.array (m.visible.map PositionRange.toJson))
    let cursor := ("position", Json.array [.number 1, .number 4294967295])
    let j : Json := .object [cursor, document, ranges, ("version", .null)]
    m.document.Stable ∧ VisibleRangesChanged.ofJson? m.toJson = some m ∧
      SameRecords VisibleRangesChanged.form m.toJson j ∧ VisibleRangesChanged.ofJson? j = some m := by
  intro uri m document ranges cursor j
  have hstable : m.document.Stable := by
    unfold Uri.Stable
    decide +kernel
  obtain ⟨-, ⟨hread, -, hsame⟩, -⟩ := notifications_round_trip
  have hspread : Rewrite Position.form m.position.toJson (.array [.number 1, .number 4294967295]) :=
    .spread rfl
  have hcursor : Rewrite VisibleRangesChanged.form
      (.object ([document, ranges] ++ ("position", m.position.toJson) :: []))
      (.object ([document, ranges] ++ cursor :: [])) :=
    .member (by simp) hspread
  have hunknown : Rewrite VisibleRangesChanged.form (.object ([document, ranges, cursor] ++ []))
      (.object ([document, ranges, cursor] ++ ("version", .null) :: [])) :=
    .unknown .null (by decide)
  have hpermute : Rewrite VisibleRangesChanged.form
      (.object [document, ranges, cursor, ("version", .null)]) j :=
    .permute (List.Perm.trans (.cons _ (.swap _ _ _)) (.swap _ _ _)) (by decide)
  have hrecords : SameRecords VisibleRangesChanged.form m.toJson j :=
    .trans _ _ _ (.rel _ _ hcursor) (.trans _ _ _ (.rel _ _ hunknown) (.rel _ _ hpermute))
  exact ⟨hstable, hread m hstable, hrecords, hsame _ _ m hrecords (hread m hstable)⟩

end Bilingual
