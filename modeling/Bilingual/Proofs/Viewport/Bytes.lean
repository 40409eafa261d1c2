import Mathlib.Data.List.Pairwise
import Bilingual.Proofs.Delimiters.Blocks
import Bilingual.Proofs.Viewport.Scan

/-!
What a viewport shows of a scanned text, told byte by byte. Two blocks may meet
without a byte between them, and a range that looks across such a seam lies in no
single block, although each of its bytes lies in one.
-/

namespace Bilingual

/-- The byte at an offset lies in a visible range. -/
def IsVisible (visible : List ByteRange) (byte : Nat) : Prop :=
  ∃ range ∈ visible, range.start ≤ byte ∧ byte < range.stop

/-- The byte at an offset lies in a block. -/
def IsScript (regions : List Region) (byte : Nat) : Prop :=
  ∃ r ∈ regions, r.start ≤ byte ∧ byte < r.stop

/-- One block ends at an offset and the next one starts there. -/
def IsSeam (regions : List Region) (offset : Nat) : Prop :=
  ∃ before r s after, regions = before ++ r :: s :: after ∧ r.stop = offset ∧ s.start = offset

/-- A visible range looks across a seam. -/
def ShowsSeam (regions : List Region) (visible : List ByteRange) : Prop :=
  ∃ range ∈ visible, ∃ offset, range.start < offset ∧ offset < range.stop ∧
    IsSeam regions offset

/-- Blocks as a scan lists them: in order, apart and not empty. -/
structure InOrder (regions : List Region) : Prop where
  apart : regions.Pairwise fun r s => r.stop ≤ s.start
  start_lt_stop : ∀ r ∈ regions, r.start < r.stop

theorem inOrder_scan (d : Delimiters) (text : String) : InOrder (d.scan text) :=
  have hscan := d.blocks_scan text
  ⟨hscan.pairwise, fun r hr => (hscan.isBlock r hr).1.start_lt_stop⟩

/-- No byte lies in both. -/
def Region.Apart (r s : Region) : Prop := r.stop ≤ s.start ∨ s.stop ≤ r.start

instance : Std.Symm Region.Apart := ⟨fun _ _ => Or.symm⟩

/-- A range overlaps a block exactly if they share a byte. -/
theorem Region.overlaps_iff_byte {r : Region} {range : ByteRange} (hr : r.start < r.stop)
    (hrange : range.start < range.stop) :
    r.overlaps range = true ↔
      ∃ byte, (range.start ≤ byte ∧ byte < range.stop) ∧ r.start ≤ byte ∧ byte < r.stop := by
  rw [overlaps_iff]
  constructor
  · intro h
    exact ⟨max range.start r.start, by omega, by omega⟩
  · rintro ⟨byte, hrange, hr⟩
    omega

namespace InOrder

variable {regions : List Region} {r s : Region} {range : ByteRange} {offset : Nat}

theorem apart_of_ne (h : InOrder regions) (hr : r ∈ regions) (hs : s ∈ regions) (hne : r ≠ s) :
    r.stop ≤ s.start ∨ s.stop ≤ r.start := by
  have hapart : regions.Pairwise Region.Apart := h.apart.imp Or.inl
  exact hapart.forall hr hs hne

/-- Of two blocks that meet one is next to the other. -/
theorem isSeam_of_eq (h : InOrder regions) (hr : r ∈ regions) (hs : s ∈ regions)
    (hmeet : r.stop = s.start) : IsSeam regions r.stop := by
  obtain ⟨before, after, rfl⟩ := List.append_of_mem hr
  have hpos := h.start_lt_stop
  obtain ⟨-, hafter, hbefore⟩ := List.pairwise_append.1 h.apart
  obtain ⟨hbehind, hafter⟩ := List.pairwise_cons.1 hafter
  have := hpos r hr
  have := hpos s hs
  rcases List.mem_append.1 hs with hs | hs
  · have := hbefore s hs r (by simp)
    omega
  · rcases List.mem_cons.1 hs with rfl | hs
    · omega
    · cases after with
      | nil => exact absurd hs List.not_mem_nil
      | cons t after =>
          rcases List.mem_cons.1 hs with rfl | hs
          · exact ⟨before, r, s, after, rfl, rfl, hmeet.symm⟩
          · -- A block between the two would be empty.
            have := hbehind t (by simp)
            have := (List.pairwise_cons.1 hafter).1 s hs
            have := hpos t (by simp)
            omega

/-- No block reaches across a seam. -/
theorem not_across (h : InOrder regions) (hseam : IsSeam regions offset) (hr : r ∈ regions) :
    ¬ (r.start < offset ∧ offset < r.stop) := by
  obtain ⟨before, s, t, after, heq, hs, ht⟩ := hseam
  rintro ⟨hstart, hstop⟩
  have hmem : s ∈ regions := by simp [heq]
  have hmem' : t ∈ regions := by simp [heq]
  have := h.start_lt_stop s hmem
  have := h.start_lt_stop t hmem'
  have hne : r ≠ s := by
    rintro rfl
    omega
  have hne' : r ≠ t := by
    rintro rfl
    omega
  have := h.apart_of_ne hr hmem hne
  have := h.apart_of_ne hr hmem' hne'
  omega

/-- A range all of whose bytes are script lies in one block, or it looks across the
seam where the first of its blocks ends. -/
theorem covers_or_seam (h : InOrder regions) (hrange : range.start < range.stop)
    (hscript : ∀ byte, range.start ≤ byte → byte < range.stop → IsScript regions byte) :
    (∃ r ∈ regions, r.covers range = true) ∨
      ∃ offset, range.start < offset ∧ offset < range.stop ∧ IsSeam regions offset := by
  obtain ⟨r, hr, hstart, hstop⟩ := hscript range.start (Nat.le_refl _) hrange
  rcases Nat.lt_or_ge r.stop range.stop with hlt | hge
  · -- The byte behind the block is visible, and the block that has it can start no earlier.
    obtain ⟨s, hs, hs_start, hs_stop⟩ := hscript r.stop (Nat.le_of_lt hstop) hlt
    have hne : r ≠ s := by
      rintro rfl
      omega
    have := h.start_lt_stop r hr
    have hmeet : r.stop = s.start := by
      have := h.apart_of_ne hr hs hne
      omega
    exact Or.inr ⟨r.stop, hstop, hlt, h.isSeam_of_eq hr hs hmeet⟩
  · exact Or.inl ⟨r, hr, Region.covers_iff.2 ⟨hstart, hge⟩⟩

end InOrder

namespace View

variable {regions : List Region} {visible : List ByteRange}

theorem script_iff_byte (h : InOrder regions)
    (hvisible : ∀ range ∈ visible, range.start < range.stop) :
    (ofRanges regions visible).script = true ↔
      ∃ byte, IsVisible visible byte ∧ IsScript regions byte := by
  rw [ofRanges_eq_exhaustive, exhaustive_script]
  constructor
  · rintro ⟨range, hrange, r, hr, hoverlaps⟩
    obtain ⟨byte, hin, hscript⟩ :=
      (Region.overlaps_iff_byte (h.start_lt_stop r hr) (hvisible range hrange)).1 hoverlaps
    exact ⟨byte, ⟨range, hrange, hin⟩, r, hr, hscript⟩
  · rintro ⟨byte, ⟨range, hrange, hin⟩, r, hr, hscript⟩
    exact ⟨range, hrange, r, hr, (Region.overlaps_iff_byte (h.start_lt_stop r hr)
      (hvisible range hrange)).2 ⟨byte, hin, hscript⟩⟩

theorem template_iff_byte (h : InOrder regions)
    (hvisible : ∀ range ∈ visible, range.start < range.stop) :
    (ofRanges regions visible).template = true ↔
      (∃ byte, IsVisible visible byte ∧ ¬ IsScript regions byte) ∨ ShowsSeam regions visible := by
  rw [ofRanges_eq_exhaustive, exhaustive_template]
  constructor
  · rintro ⟨range, hrange, hnone⟩
    by_cases hbare : ∃ byte, (range.start ≤ byte ∧ byte < range.stop) ∧ ¬ IsScript regions byte
    · obtain ⟨byte, hin, hnot⟩ := hbare
      exact Or.inl ⟨byte, ⟨range, hrange, hin⟩, hnot⟩
    · have hscript (byte : Nat) (hstart : range.start ≤ byte) (hstop : byte < range.stop) :
          IsScript regions byte :=
        Classical.byContradiction fun hnot => hbare ⟨byte, ⟨hstart, hstop⟩, hnot⟩
      rcases h.covers_or_seam (hvisible range hrange) hscript with ⟨r, hr, hcovers⟩ | hseam
      · exact absurd hcovers (by simp [hnone r hr])
      · exact Or.inr ⟨range, hrange, hseam⟩
  · rintro (⟨byte, ⟨range, hrange, hstart, hstop⟩, hnot⟩ |
      ⟨range, hrange, offset, hstart, hstop, hseam⟩)
    · refine ⟨range, hrange, fun r hr => Bool.eq_false_iff.2 fun hcovers => hnot ?_⟩
      have := Region.covers_iff.1 hcovers
      exact ⟨r, hr, by omega⟩
    · refine ⟨range, hrange, fun r hr => Bool.eq_false_iff.2 fun hcovers => ?_⟩
      have := Region.covers_iff.1 hcovers
      exact h.not_across hseam hr (by omega)

end View

/-- A viewport of a scanned text shows script where one of its bytes lies in a block.
It shows template where one lies in no block, and also where a range looks across a
seam. -/
theorem view_of_scan_by_byte (d : Delimiters) (text : String) (visible : List ByteRange)
    (hvisible : ∀ range ∈ visible, range.start < range.stop) :
    let regions := d.scan text
    let seen := View.ofRanges regions visible
    (seen.script = true ↔ ∃ byte, IsVisible visible byte ∧ IsScript regions byte) ∧
      (seen.template = true ↔
        (∃ byte, IsVisible visible byte ∧ ¬ IsScript regions byte) ∨
          ∃ range ∈ visible, ∃ offset, range.start < offset ∧ offset < range.stop ∧
            IsSeam regions offset) :=
  ⟨View.script_iff_byte (inOrder_scan d text) hvisible,
    View.template_iff_byte (inOrder_scan d text) hvisible⟩

theorem view_of_scan_by_byte_across_a_seam :
    let regions := Delimiters.standard.scan "é<?php ?><?php ?>"
    let visible : List ByteRange := [⟨4, 12⟩, ⟨17, 18⟩]
    (∀ range ∈ visible, range.start < range.stop) ∧
      (∀ byte, IsVisible visible byte → IsScript regions byte) ∧
      (View.ofRanges regions visible).script = true ∧
      (View.ofRanges regions visible).template = true := by
  intro regions visible
  have hregions : regions = [⟨2, 10⟩, ⟨10, 18⟩] := by decide +kernel
  have hvisible : ∀ range ∈ visible, range.start < range.stop := by decide
  have hscript (byte : Nat) (h : IsVisible visible byte) : IsScript regions byte := by
    obtain ⟨range, hrange, hstart, hstop⟩ := h
    have hin : ∀ range ∈ visible, 4 ≤ range.start ∧ range.stop ≤ 18 := by decide
    have := hin range hrange
    rw [hregions]
    rcases Nat.lt_or_ge byte 10 with hlt | hge
    · exact ⟨⟨2, 10⟩, by simp, by simp only; omega, hlt⟩
    · exact ⟨⟨10, 18⟩, by simp, hge, by simp only; omega⟩
  have hseam : IsSeam regions 10 := ⟨[], ⟨2, 10⟩, ⟨10, 18⟩, [], hregions, rfl, rfl⟩
  have hfirst : IsVisible visible 4 := ⟨⟨4, 12⟩, by decide, by decide⟩
  obtain ⟨hsees, hshows⟩ := view_of_scan_by_byte Delimiters.standard _ visible hvisible
  exact ⟨hvisible, hscript, hsees.2 ⟨4, hfirst, hscript 4 hfirst⟩,
    hshows.2 (Or.inr ⟨⟨4, 12⟩, by decide, 10, by decide, by decide, hseam⟩)⟩

end Bilingual
