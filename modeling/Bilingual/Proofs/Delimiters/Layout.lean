import Bilingual.Proofs.Delimiters.Blocks
import Bilingual.Proofs.Delimiters.Scan
import Bilingual.Proofs.Text.Borders

/-!
Texts put together from blocks with gaps between them, and whether the scan finds
these blocks again. It does for all of them exactly if neither delimiter has a border:
with a border, a delimiter can begin in a gap or in a body and end in the delimiter
that stands there.
-/

namespace Bilingual.Delimiters

open Text (HasBorder)

/-- The body of a block and the gap behind it. The body does not hold the closing
delimiter, and the gap does not hold the opening one. -/
structure Piece (d : Delimiters) where
  body : String
  gap : String
  body_clear : ¬ d.closing.toList <:+: body.toList
  gap_clear : ¬ d.opening.toList <:+: gap.toList

/-- A gap, and blocks with the gaps behind them. -/
structure Layout (d : Delimiters) where
  lead : String
  pieces : List (Piece d)
  lead_clear : ¬ d.opening.toList <:+: lead.toList

variable {d : Delimiters}

namespace Piece

def block (p : Piece d) : String := d.opening ++ p.body ++ d.closing

/-- The blocks and gaps one behind another. -/
def join : List (Piece d) → String
  | [] => ""
  | p :: ps => p.block ++ p.gap ++ join ps

/-- Where the blocks stand when the first one starts at `here`. -/
def spans : Nat → List (Piece d) → List Region
  | _, [] => []
  | here, p :: ps =>
      ⟨here, here + p.block.utf8ByteSize⟩ ::
        spans (here + p.block.utf8ByteSize + p.gap.utf8ByteSize) ps

theorem length_spans (ps : List (Piece d)) (here : Nat) : (spans here ps).length = ps.length := by
  induction ps generalizing here with
  | nil => rfl
  | cons p ps ih => rw [spans, List.length_cons, ih, List.length_cons]

end Piece

namespace Layout

def text (l : Layout d) : String := l.lead ++ Piece.join l.pieces

def spans (l : Layout d) : List Region := Piece.spans l.lead.utf8ByteSize l.pieces

end Layout

/-- Without borders the scan goes from gap to gap and takes one block at a time. -/
theorem scanFrom_join (hopening : ¬ HasBorder d.opening.toList)
    (hclosing : ¬ HasBorder d.closing.toList) (ps : List (Piece d)) {gap : String}
    (hgap : ¬ d.opening.toList <:+: gap.toList) (here : Nat) :
    d.scanFrom (gap.toList ++ (Piece.join ps).toList) here =
      Piece.spans (here + gap.utf8ByteSize) ps := by
  induction ps generalizing gap here with
  | nil =>
      rw [Piece.join, String.toList_empty, List.append_nil]
      exact scanFrom_of_unopened (Text.find?_eq_none_of_not_infix hgap here)
  | cons p ps ih =>
      have hjoin : (Piece.join (p :: ps)).toList = d.opening.toList ++
          (p.body.toList ++ (d.closing.toList ++ (p.gap.toList ++ (Piece.join ps).toList))) := by
        simp only [Piece.join, Piece.block, String.toList_append, List.append_assoc]
      have hopen := Text.find?_behind_gap hopening hgap
        (p.body.toList ++ (d.closing.toList ++ (p.gap.toList ++ (Piece.join ps).toList))) here
      have hclose := Text.find?_behind_gap hclosing p.body_clear
        (p.gap.toList ++ (Piece.join ps).toList)
        (here + Text.byteSize gap.toList + d.opening.utf8ByteSize)
      have hsize : here + Text.byteSize gap.toList + d.opening.utf8ByteSize +
          Text.byteSize p.body.toList + d.closing.utf8ByteSize =
          here + gap.utf8ByteSize + p.block.utf8ByteSize := by
        simp only [Piece.block, String.utf8ByteSize_append, Text.byteSize_toList]
        omega
      rw [hjoin, scanFrom_of_block hopen hclose, hsize, ih p.gap_clear, Piece.spans,
        Text.byteSize_toList]

theorem scan_layout (hopening : ¬ HasBorder d.opening.toList)
    (hclosing : ¬ HasBorder d.closing.toList) (l : Layout d) : d.scan l.text = l.spans := by
  rw [scan, Layout.text, String.toList_append,
    scanFrom_join hopening hclosing l.pieces l.lead_clear, Nat.zero_add, Layout.spans]

/-- A text that is shorter than a pattern does not hold it. -/
theorem not_infix_of_length_lt {pattern cs : List Char} (h : cs.length < pattern.length) :
    ¬ pattern <:+: cs :=
  fun hinfix => Nat.not_le.2 h hinfix.length_le

theorem not_infix_empty {pattern : String} (h : pattern ≠ "") :
    ¬ pattern.toList <:+: "".toList :=
  not_infix_of_length_lt (List.length_pos_iff.2 (mt String.toList_eq_nil_iff.1 h))

/-- A part of a delimiter that a border sets off: not empty, and too short to hold
the delimiter. -/
theorem front_of_border {delimiter : String} {front border : List Char} (hfront : front ≠ [])
    (hborder : border ≠ []) (hsplit : delimiter.toList = front ++ border) :
    0 < (String.ofList front).utf8ByteSize ∧
      ¬ delimiter.toList <:+: (String.ofList front).toList := by
  have hne : String.ofList front ≠ "" := by
    rw [ne_eq, ← String.toList_eq_nil_iff, String.toList_ofList]
    exact hfront
  refine ⟨Text.utf8ByteSize_pos hne, not_infix_of_length_lt ?_⟩
  have := List.length_pos_iff.2 hborder
  rw [hsplit, String.toList_ofList, List.length_append]
  omega

/-- The front of the opening delimiter in a gap makes a delimiter there that ends inside
the real one. -/
theorem exists_of_opening_border (h : HasBorder d.opening.toList) :
    ∃ l : Layout d, d.scan l.text ≠ l.spans := by
  obtain ⟨front, border, back, hfront, hborder, hsplit, hsplit'⟩ := Text.hasBorder_iff.1 h
  obtain ⟨hpos, hclear⟩ := front_of_border hfront hborder hsplit
  let piece : Piece d := ⟨"", "", not_infix_empty d.closing_ne, not_infix_empty d.opening_ne⟩
  let l : Layout d := ⟨String.ofList front, [piece], hclear⟩
  refine ⟨l, fun hscan => ?_⟩
  have htext : l.text.toList = d.opening.toList ++ (back ++ d.closing.toList) := by
    calc l.text.toList
        = front ++ d.opening.toList ++ d.closing.toList := by
          simp [l, piece, Layout.text, Piece.join, Piece.block]
      _ = d.opening.toList ++ back ++ d.closing.toList := by
          rw [Text.append_eq_append_of_border hsplit hsplit']
      _ = d.opening.toList ++ (back ++ d.closing.toList) := List.append_assoc ..
  have hle := (isNext_of_scan_eq hscan).isFirst.least 0 (Text.occursAt_zero htext) (Nat.le_refl 0)
  exact Nat.not_le.2 hpos hle

/-- The front of the closing delimiter in a body makes a delimiter there that ends inside
the real one. -/
theorem exists_of_closing_border (h : HasBorder d.closing.toList) :
    ∃ l : Layout d, d.scan l.text ≠ l.spans := by
  obtain ⟨front, border, back, hfront, hborder, hsplit, hsplit'⟩ := Text.hasBorder_iff.1 h
  obtain ⟨hpos, hclear⟩ := front_of_border hfront hborder hsplit
  let piece : Piece d := ⟨String.ofList front, "", hclear, not_infix_empty d.opening_ne⟩
  let l : Layout d := ⟨"", [piece], not_infix_empty d.opening_ne⟩
  refine ⟨l, fun hscan => ?_⟩
  have htext : l.text.toList = d.opening.toList ++ (d.closing.toList ++ back) := by
    calc l.text.toList
        = d.opening.toList ++ (front ++ d.closing.toList) := by
          simp [l, piece, Layout.text, Piece.join, Piece.block]
      _ = d.opening.toList ++ (d.closing.toList ++ back) := by
          rw [Text.append_eq_append_of_border hsplit hsplit']
  have hcloses : Text.OccursAt d.closing l.text (Text.byteSize d.opening.toList) :=
    (Text.occursAt_iff_head htext).2 (List.prefix_append _ _)
  rw [Text.byteSize_toList] at hcloses
  have hblock : d.IsBlock l.text ⟨0, d.opening.utf8ByteSize + d.closing.utf8ByteSize⟩ :=
    ⟨Text.occursAt_zero htext, ⟨_, hcloses, rfl⟩, by simp⟩
  have hle := (isNext_of_scan_eq hscan).stops_first _ hblock rfl
  simp only [l, piece, Piece.block, String.utf8ByteSize_append, String.utf8ByteSize_empty] at hle
  omega

/-- Blocks come back from a text in which gaps do not hold the opening delimiter and
bodies do not hold the closing one, if neither delimiter has a border, like the standard
ones. If one has a border, then blocks of some such text do not come back. -/
theorem blocks_come_back (d : Delimiters) :
    (¬ HasBorder d.opening.toList → ¬ HasBorder d.closing.toList → ∀ l : Layout d,
      d.scan l.text = l.spans ∧ (d.scan l.text).length = l.pieces.length) ∧
    (HasBorder d.opening.toList ∨ HasBorder d.closing.toList →
      ∃ l : Layout d, d.scan l.text ≠ l.spans) ∧
    ¬ HasBorder standard.opening.toList ∧ ¬ HasBorder standard.closing.toList := by
  refine ⟨fun hopening hclosing l => ?_, ?_, ?_, ?_⟩
  · have hscan := scan_layout hopening hclosing l
    exact ⟨hscan, hscan ▸ Piece.length_spans l.pieces _⟩
  · rintro (hopening | hclosing)
    · exact exists_of_opening_border hopening
    · exact exists_of_closing_border hclosing
  · exact Text.not_hasBorder_cons (by decide)
  · exact Text.not_hasBorder_cons (by decide)

/-- Parts of delimiters in a gap and in a body do no harm to the standard delimiters.
Doubled parentheses have a border. -/
theorem blocks_come_back_but_for_parentheses :
    let doubled : Delimiters := ⟨"((", "))", by decide, by decide⟩
    let l : Layout standard := ⟨"<<?", [⟨"1?", "<?ph", by decide +kernel, by decide +kernel⟩,
      ⟨"<?php>", "", by decide +kernel, by decide +kernel⟩], by decide +kernel⟩
    ¬ HasBorder standard.opening.toList ∧ ¬ HasBorder standard.closing.toList ∧
      l.text = "<<?<?php1??><?ph<?php<?php>?>" ∧ standard.scan l.text = [⟨3, 12⟩, ⟨16, 29⟩] ∧
      HasBorder doubled.opening.toList ∧ ∃ l : Layout doubled, doubled.scan l.text ≠ l.spans := by
  intro doubled l
  obtain ⟨hfound, -, hopening, hclosing⟩ := blocks_come_back standard
  obtain ⟨-, hlost, -⟩ := blocks_come_back doubled
  have hborder : HasBorder doubled.opening.toList :=
    ⟨['('], by decide, by decide, by decide, by decide⟩
  have hspans : l.spans = [⟨3, 12⟩, ⟨16, 29⟩] := by decide +kernel
  exact ⟨hopening, hclosing, by decide +kernel, (hfound hopening hclosing l).1.trans hspans,
    hborder, hlost (Or.inl hborder)⟩

end Bilingual.Delimiters
