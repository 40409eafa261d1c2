import Bilingual.Proofs.Text.Lines

/-!
The conversion of positions as one that keeps nothing but the offsets where lines
start, and that takes a line out of the text between two offsets. Each step of it
asks for offsets that fit, and none of them ever fails.
-/

namespace Bilingual

namespace Text

/-- Cuts a text at an offset, unless that is inside a character or behind the end. -/
def cut? : List Char → Nat → Option (List Char × List Char)
  | [], offset => if offset = 0 then some ([], []) else none
  | c :: cs, offset =>
      if offset = 0 then some ([], c :: cs)
      else if c.utf8Size ≤ offset then
        (cut? cs (offset - c.utf8Size)).map fun (front, rest) => (c :: front, rest)
      else none

/-- The text between two offsets. Each has to lie between characters, and the first
not behind the second. -/
def slice? (cs : List Char) (start stop : Nat) : Option (List Char) :=
  if start ≤ stop then do
    let (_, rest) ← cut? cs start
    let (content, _) ← cut? rest (stop - start)
    return content
  else none

/-- What a conversion by slices may stumble over. -/
inductive Fault
  | belowZero
  | badSlice (start stop : Nat)

/-- The offset of a position from the starts of lines alone. A line reaches up to the
byte in front of the next start, or to the end of the text. -/
def offsetBySlices (text : String) (p : Position) : Except Fault (Option Nat) :=
  let starts := lineStarts text.toList
  match starts[p.line.toNat]? with
  | none => .ok none
  | some start => do
      let stop ← match starts[p.line.toNat + 1]? with
        | none => .ok text.utf8ByteSize
        | some 0 => .error .belowZero
        | some (next + 1) => .ok next
      match slice? text.toList start stop with
      | none => .error (.badSlice start stop)
      | some content => .ok (some (columnOffset p.character content start 0))

theorem cut?_append (front rest : List Char) :
    cut? (front ++ rest) (byteSize front) = some (front, rest) := by
  induction front with
  | nil => cases rest <;> simp [cut?]
  | cons c front ih =>
      have hpos := c.utf8Size_pos
      simp only [List.cons_append, byteSize_cons, cut?]
      rw [if_neg (by omega), if_pos (by omega), Nat.add_sub_cancel_left, ih]
      rfl

theorem slice?_append (before content after : List Char) :
    slice? (before ++ (content ++ after)) (byteSize before) (byteSize before + byteSize content) =
      some content := by
  simp [slice?, cut?_append]

end Text

namespace LinedText

open Text

/-- Slicing a line out of the text never fails, and it makes no difference. -/
theorem offsetBySlices_eq (text : String) (p : Position) :
    offsetBySlices text p = .ok ((ofText text).offset? p) := by
  rcases Nat.lt_or_ge (text.toList.count '\n') p.line.toNat with hlt | hge
  · have hnone : (lineStarts text.toList)[p.line.toNat]? = none := by
      rwa [getElem?_lineStarts_eq_none_iff]
    rw [offset?_eq_none_iff.2 hlt, offsetBySlices]
    simp only [hnone]
  · obtain ⟨before, content, after, h⟩ := exists_isLine hge
    have hslice : slice? text.toList (byteSize before) (byteSize before + byteSize content) =
        some content := h.split ▸ slice?_append before content after
    rw [offset?_of_isLine h, offsetBySlices]
    simp only [h.getElem?_lineStarts]
    rcases h.stop_eq with ⟨hnone, hsize⟩ | hnext
    · have hstop : text.utf8ByteSize = byteSize before + byteSize content := by
        rw [hsize, byteSize_toList]
      simp only [hnone, hstop]
      simp [bind, Except.bind, hslice]
    · simp only [hnext]
      simp [bind, Except.bind, hslice]

end LinedText

end Bilingual
