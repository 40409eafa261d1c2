import Bilingual.Region
import Bilingual.Text.Size

/-!
Lines of a document and the conversion of editor positions. An editor reports a
line and a column in UTF-16 units; everything else counts bytes, so positions
are converted before any decision. A line ends at a line feed and nowhere else.
-/

namespace Bilingual

/-- A place in a document as an editor reports it. -/
structure Position where
  line : UInt32
  character : UInt32
  deriving DecidableEq, Repr

/-- A pair of places as an editor reports it. -/
structure PositionRange where
  start : Position
  stop : Position
  deriving DecidableEq, Repr

/-- The text of a document, and the places in it where lines start. -/
structure LinedText where
  text : String
  starts : Array text.Pos

namespace Text

variable {text : String}

/-- Adds the places behind `p` where lines start. -/
def startsFrom (p : text.Pos) (starts : Array text.Pos) : Array text.Pos :=
  if h : p = text.endPos then starts
  else
    let next := p.next h
    startsFrom next (if p.get h = '\n' then starts.push next else starts)
termination_by p.remainingBytes
decreasing_by exact (String.Pos.lt_iff_remainingBytes_lt _ _).1 String.Pos.lt_next

/-- The offset of the first character at or behind the column `character`, of those from
`p` up to `stop`; and `stop` where there is none. The place `p` is at column `column`. -/
def columnFrom (character : UInt32) (stop : Nat) (p : text.Pos) (column : UInt32) : Nat :=
  if h : p = text.endPos then stop
  else if stop ≤ p.offset.byteIdx then stop
  else if character ≤ column then p.offset.byteIdx
  else columnFrom character stop (p.next h) (column + units (p.get h))
termination_by p.remainingBytes
decreasing_by exact (String.Pos.lt_iff_remainingBytes_lt _ _).1 String.Pos.lt_next

end Text

namespace LinedText

def ofText (text : String) : LinedText :=
  ⟨text, Text.startsFrom text.startPos #[text.startPos]⟩

def size (t : LinedText) : Nat := t.text.utf8ByteSize

/-- Where a line ends: in front of its line feed, or with the text. -/
def stop (t : LinedText) (line : Nat) : Nat :=
  match t.starts[line + 1]? with
  | some next => next.offset.byteIdx - 1
  | none => t.size

/-- There is no offset where the line does not exist. A column past the end of the line
stands for that end. -/
def offset? (t : LinedText) (p : Position) : Option Nat :=
  t.starts[p.line.toNat]?.map fun start =>
    Text.columnFrom p.character (t.stop p.line.toNat) start 0

/-- Both ends have to exist. -/
def range? (t : LinedText) (r : PositionRange) : Option ByteRange := do
  let start ← t.offset? r.start
  let stop ← t.offset? r.stop
  return ⟨start, stop⟩

end LinedText

end Bilingual
