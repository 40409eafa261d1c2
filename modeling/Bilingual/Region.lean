/-!
Spans of embedded script, and the tests that relate them to a cursor and to a
visible range. Offsets count bytes from the start of the document.
-/

namespace Bilingual

/-- A stretch of a document, as an editor shows it. It need not be ordered. -/
structure ByteRange where
  start : Nat
  stop : Nat
  deriving DecidableEq, Repr

/-- One block of embedded script, from its opening delimiter to the end of its
closing delimiter. -/
structure Region where
  start : Nat
  stop : Nat
  deriving DecidableEq, Repr

namespace Region

/-- Both ends count, so a cursor right behind the closing delimiter is still
in the block. -/
def contains (r : Region) (offset : Nat) : Bool :=
  r.start ≤ offset && offset ≤ r.stop

/-- Touching at a boundary is no overlap. -/
def overlaps (r : Region) (range : ByteRange) : Bool :=
  range.start < r.stop && r.start < range.stop

def covers (r : Region) (range : ByteRange) : Bool :=
  r.start ≤ range.start && range.stop ≤ r.stop

variable {r : Region} {offset : Nat} {range : ByteRange}

theorem contains_iff : r.contains offset = true ↔ r.start ≤ offset ∧ offset ≤ r.stop := by
  simp [contains]

theorem overlaps_iff :
    r.overlaps range = true ↔ range.start < r.stop ∧ r.start < range.stop := by
  simp [overlaps]

theorem covers_iff : r.covers range = true ↔ r.start ≤ range.start ∧ range.stop ≤ r.stop := by
  simp [covers]

end Region

end Bilingual
