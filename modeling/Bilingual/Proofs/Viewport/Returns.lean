import Bilingual.Proofs.Delimiters.Returns
import Bilingual.Proofs.Text.Order

/-!
The decisions for a text with a carriage return in front of each line feed. A cursor and
visible ranges that are on their lines lead to the same languages as in the text without.
-/

namespace Bilingual

open Text

theorem keepsOrder_moves (cs : List Char) : KeepsOrder (Moves cs) :=
  fun _ _ _ _ h h' => h.le_iff h'

namespace LinedText

variable {text : String}

theorem exists_related (hshort : ShortLines text) {r : PositionRange} (hstart : OnLine text r.start)
    (hstop : OnLine text r.stop) :
    ∃ range range', range.Related (Moves text.toList) range' ∧
      (ofText text).range? r = some range ∧ (ofText (returned text)).range? r = some range' := by
  obtain ⟨start, start', hmoves, hfirst, hfirst'⟩ := exists_moves hshort hstart
  obtain ⟨stop, stop', hmoves', hlast, hlast'⟩ := exists_moves hshort hstop
  exact ⟨⟨start, stop⟩, ⟨start', stop'⟩, ⟨hmoves, hmoves'⟩, range?_eq_some_iff.2 ⟨hfirst, hlast⟩,
    range?_eq_some_iff.2 ⟨hfirst', hlast'⟩⟩

theorem exists_all_related (hshort : ShortLines text) {visible : List PositionRange}
    (hvisible : ∀ r ∈ visible, OnLine text r.start ∧ OnLine text r.stop) :
    ∃ ranges ranges', List.Forall₂ (ByteRange.Related (Moves text.toList)) ranges ranges' ∧
      visible.mapM (ofText text).range? = some ranges ∧
      visible.mapM (ofText (returned text)).range? = some ranges' := by
  induction visible with
  | nil => exact ⟨[], [], .nil, rfl, rfl⟩
  | cons r visible ih =>
      obtain ⟨hr, hvisible⟩ := List.forall_mem_cons.1 hvisible
      obtain ⟨range, range', hrelated, hrange, hrange'⟩ := exists_related hshort hr.1 hr.2
      obtain ⟨ranges, ranges', hall, hranges, hranges'⟩ := ih hvisible
      exact ⟨range :: ranges, range' :: ranges', .cons hrelated hall,
        by simp [List.mapM_cons, hrange, hranges], by simp [List.mapM_cons, hrange', hranges']⟩

end LinedText

/-- Whether lines end with a line feed or with a carriage return and a line feed makes no
difference: not to the language at a cursor, to what a viewport shows and to its language,
for positions on their lines and delimiters with neither of the two. -/
theorem line_endings_indifferent (d : Delimiters) (hd : d.Inline) (text : String)
    (hshort : ShortLines text) (cursor : Position) (hcursor : OnLine text cursor)
    (visible : List PositionRange)
    (hvisible : ∀ r ∈ visible, OnLine text r.start ∧ OnLine text r.stop) :
    let t := LinedText.ofText text
    let t' := LinedText.ofText (returned text)
    let regions := d.scan text
    let regions' := d.scan (returned text)
    ∃ offset offset' ranges ranges',
      t.offset? cursor = some offset ∧ t'.offset? cursor = some offset' ∧
      visible.mapM t.range? = some ranges ∧ visible.mapM t'.range? = some ranges' ∧
      Tag.atCursor regions offset = Tag.atCursor regions' offset' ∧
      View.ofRanges regions ranges = View.ofRanges regions' ranges' ∧
      Tag.inView regions ranges offset = Tag.inView regions' ranges' offset' := by
  intro t t' regions regions'
  obtain ⟨offset, offset', hmoves, hoffset, hoffset'⟩ := LinedText.exists_moves hshort hcursor
  obtain ⟨ranges, ranges', hall, hranges, hranges'⟩ := LinedText.exists_all_related hshort hvisible
  have hR := keepsOrder_moves text.toList
  have hregions := Delimiters.scan_returned hd text
  exact ⟨offset, offset', ranges, ranges', hoffset, hoffset', hranges, hranges',
    Tag.atCursor_eq_of_related hR hregions hmoves, View.ofRanges_eq_of_related hR hregions hall,
    Tag.inView_eq_of_related hR hregions hall hmoves⟩

/-- A block over three lines, and a cursor right behind it. -/
theorem line_endings_indifferent_behind_a_block :
    let d := Delimiters.standard
    let text := "é\n<?php 1\n\n?>\n😀"
    let t := LinedText.ofText text
    let t' := LinedText.ofText (returned text)
    let cursor : Position := ⟨3, 2⟩
    let visible : List PositionRange := [⟨⟨1, 2⟩, cursor⟩, ⟨cursor, ⟨4, 2⟩⟩]
    d.Inline ∧ ShortLines text ∧ OnLine text cursor ∧
      (∀ r ∈ visible, OnLine text r.start ∧ OnLine text r.stop) ∧
      (returned text).toList = "é\r\n<?php 1\r\n\r\n?>\r\n😀".toList ∧
      ∃ offset offset' ranges ranges',
        t.offset? cursor = some offset ∧ t'.offset? cursor = some offset' ∧
        offset = 14 ∧ offset' = 17 ∧
        visible.mapM t.range? = some ranges ∧ visible.mapM t'.range? = some ranges' ∧
        View.ofRanges (d.scan text) ranges = ⟨true, true⟩ ∧
        View.ofRanges (d.scan (returned text)) ranges' = ⟨true, true⟩ ∧
        Tag.inView (d.scan text) ranges offset = .script ∧
        Tag.inView (d.scan (returned text)) ranges' offset' = .script := by
  intro d text t t' cursor visible
  have hd : d.Inline := ⟨by decide +kernel, by decide +kernel, by decide +kernel, by decide +kernel⟩
  have hshort : ShortLines text := shortLines_of_unitSize (by decide +kernel)
  have hopening : OnLine text ⟨1, 2⟩ := ⟨"é\n".toList, "<?php 1".toList, "\n\n?>\n😀".toList,
    ⟨by decide +kernel, by decide +kernel, by simp, by decide +kernel, by simp⟩,
    by decide +kernel⟩
  have hcursor : OnLine text cursor := ⟨"é\n<?php 1\n\n".toList, "?>".toList, "\n😀".toList,
    ⟨by decide +kernel, by decide +kernel, by simp, by decide +kernel, by simp⟩,
    by decide +kernel⟩
  have hlast : OnLine text ⟨4, 2⟩ := ⟨"é\n<?php 1\n\n?>\n".toList, "😀".toList, [],
    ⟨by decide +kernel, by decide +kernel, by simp, by decide +kernel, by simp⟩,
    by decide +kernel⟩
  have hvisible : ∀ r ∈ visible, OnLine text r.start ∧ OnLine text r.stop := by
    simp only [visible, List.forall_mem_cons]
    exact ⟨⟨hopening, hcursor⟩, ⟨hcursor, hlast⟩, by simp⟩
  obtain ⟨offset, offset', ranges, ranges', hoffset, hoffset', hranges, hranges', -, hview, htag⟩ :=
    line_endings_indifferent d hd text hshort cursor hcursor visible hvisible
  have hboth : View.ofRanges (d.scan text) ranges = ⟨true, true⟩ := by
    obtain rfl : [⟨5, 14⟩, ⟨14, 19⟩] = ranges :=
      Option.some.inj (Eq.trans (by decide +kernel) hranges)
    decide +kernel
  have hscript : Tag.inView (d.scan text) ranges offset = .script := by
    obtain rfl : [⟨5, 14⟩, ⟨14, 19⟩] = ranges :=
      Option.some.inj (Eq.trans (by decide +kernel) hranges)
    obtain rfl : 14 = offset := Option.some.inj (Eq.trans (by decide +kernel) hoffset)
    decide +kernel
  exact ⟨hd, hshort, hcursor, hvisible, by decide +kernel, offset, offset', ranges, ranges',
    hoffset, hoffset', Option.some.inj (hoffset.symm.trans (by decide +kernel)),
    Option.some.inj (hoffset'.symm.trans (by decide +kernel)), hranges, hranges', hboth,
    hview ▸ hboth, hscript, htag ▸ hscript⟩

end Bilingual
