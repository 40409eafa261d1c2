import Bilingual.Viewport

/-!
The look at the visible ranges, which ends early, against one that leaves no range
out. What is seen depends only on which ranges and which regions there are.
-/

namespace Bilingual

namespace View

/-- What the visible ranges show when each of them is looked at. -/
def exhaustive (regions : List Region) (visible : List ByteRange) : View :=
  visible.foldl (see regions) nothing

variable {regions regions' : List Region} {visible visible' : List ByteRange}

theorem see_of_hasBoth {v : View} (h : v.hasBoth = true) (range : ByteRange) :
    v.see regions range = v := by
  obtain ⟨script, template⟩ := v
  obtain ⟨rfl, rfl⟩ : script = true ∧ template = true := by simpa [hasBoth] using h
  rfl

theorem foldl_see_of_hasBoth {v : View} (h : v.hasBoth = true) :
    visible.foldl (see regions) v = v := by
  induction visible with
  | nil => rfl
  | cons range visible ih =>
      rw [List.foldl_cons, see_of_hasBoth h, ih]

/-- Wherever the look ends early, the ranges left out would have added nothing. -/
theorem seeAll_eq_foldl (v : View) :
    v.seeAll regions visible = visible.foldl (see regions) v := by
  induction visible generalizing v with
  | nil => rfl
  | cons range visible ih =>
      rw [List.foldl_cons, seeAll]
      split
      · next h => exact (foldl_see_of_hasBoth h).symm
      · exact ih _

/-- Each language is seen from the start, or in a range. -/
theorem foldl_see (v : View) :
    visible.foldl (see regions) v =
      ⟨v.script || visible.any fun range => regions.any (·.overlaps range),
        v.template || visible.any fun range => !regions.any (·.covers range)⟩ := by
  induction visible generalizing v with
  | nil => simp
  | cons range visible ih =>
      rw [List.foldl_cons, ih]
      simp only [see, List.any_cons, Bool.or_assoc]

theorem ofRanges_eq_exhaustive (regions : List Region) (visible : List ByteRange) :
    ofRanges regions visible = exhaustive regions visible :=
  seeAll_eq_foldl nothing

theorem exhaustive_script :
    (exhaustive regions visible).script = true ↔
      ∃ range ∈ visible, ∃ r ∈ regions, r.overlaps range = true := by
  simp [exhaustive, foldl_see, nothing]

theorem exhaustive_template :
    (exhaustive regions visible).template = true ↔
      ∃ range ∈ visible, ∀ r ∈ regions, r.covers range = false := by
  simp [exhaustive, foldl_see, nothing]

theorem eq_of_flags {v v' : View} (hscript : v.script = true ↔ v'.script = true)
    (htemplate : v.template = true ↔ v'.template = true) : v = v' := by
  obtain ⟨script, template⟩ := v
  obtain ⟨script', template'⟩ := v'
  obtain rfl : script = script' := Bool.eq_iff_iff.2 hscript
  obtain rfl : template = template' := Bool.eq_iff_iff.2 htemplate
  rfl

theorem exhaustive_congr (hregions : ∀ r, r ∈ regions' ↔ r ∈ regions)
    (hvisible : ∀ range, range ∈ visible' ↔ range ∈ visible) :
    exhaustive regions' visible' = exhaustive regions visible := by
  apply eq_of_flags
  · simp only [exhaustive_script, hregions, hvisible]
  · simp only [exhaustive_template, hregions, hvisible]

end View

namespace Tag

theorem atCursor_congr {regions regions' : List Region}
    (h : ∀ r, r ∈ regions' ↔ r ∈ regions) (cursor : Nat) :
    atCursor regions' cursor = atCursor regions cursor := by
  have hany : regions'.any (·.contains cursor) = regions.any (·.contains cursor) := by
    rw [Bool.eq_iff_iff]
    simp only [List.any_eq_true, h]
  rw [atCursor, atCursor, hany]

/-- The language of a viewport all of whose ranges are looked at. -/
def inWholeView (regions : List Region) (visible : List ByteRange) (cursor : Nat) : Tag :=
  (View.exhaustive regions visible).settled?.getD (atCursor regions cursor)

theorem inWholeView_congr {regions regions' : List Region} {visible visible' : List ByteRange}
    (hregions : ∀ r, r ∈ regions' ↔ r ∈ regions)
    (hvisible : ∀ range, range ∈ visible' ↔ range ∈ visible) (cursor : Nat) :
    inWholeView regions' visible' cursor = inWholeView regions visible cursor := by
  rw [inWholeView, View.exhaustive_congr hregions hvisible, atCursor_congr hregions, inWholeView]

theorem inView_eq_inWholeView (regions : List Region) (visible : List ByteRange) (cursor : Nat) :
    inView regions visible cursor = inWholeView regions visible cursor := by
  rw [inView, View.ofRanges_eq_exhaustive, inWholeView]

end Tag

/-- A viewport shows script where a range overlaps a region, and template where no
single region covers a range. To end the look early changes neither this nor the
language chosen, and nor does another order of the ranges and regions, or one of
them told twice. -/
theorem viewport_scan_exhaustive (regions : List Region) (visible : List ByteRange) :
    let seen := View.ofRanges regions visible
    (seen.script = true ↔ ∃ range ∈ visible, ∃ r ∈ regions, r.overlaps range = true) ∧
    (seen.template = true ↔ ∃ range ∈ visible, ∀ r ∈ regions, r.covers range = false) ∧
    seen = View.exhaustive regions visible ∧
    (∀ cursor, Tag.inView regions visible cursor = Tag.inWholeView regions visible cursor) ∧
    ∀ regions' visible', (∀ r, r ∈ regions' ↔ r ∈ regions) →
      (∀ range, range ∈ visible' ↔ range ∈ visible) →
      View.ofRanges regions' visible' = seen ∧
      View.exhaustive regions' visible' = View.exhaustive regions visible ∧
      ∀ cursor, Tag.inView regions' visible' cursor = Tag.inView regions visible cursor ∧
        Tag.inWholeView regions' visible' cursor = Tag.inWholeView regions visible cursor := by
  intro seen
  have hseen : seen = View.exhaustive regions visible := View.ofRanges_eq_exhaustive _ _
  refine ⟨?_, ?_, hseen, Tag.inView_eq_inWholeView regions visible, ?_⟩
  · rw [hseen]
    exact View.exhaustive_script
  · rw [hseen]
    exact View.exhaustive_template
  · intro regions' visible' hregions hvisible
    have hcongr := View.exhaustive_congr hregions hvisible
    refine ⟨?_, hcongr, fun cursor => ?_⟩
    · rw [View.ofRanges_eq_exhaustive, hcongr, hseen]
    · have hwhole := Tag.inWholeView_congr hregions hvisible cursor
      refine ⟨?_, hwhole⟩
      rw [Tag.inView_eq_inWholeView, Tag.inView_eq_inWholeView, hwhole]

theorem viewport_scan_exhaustive_any_order :
    let regions : List Region := [⟨2, 6⟩, ⟨4, 9⟩, ⟨7, 5⟩]
    let visible : List ByteRange := [⟨3, 5⟩, ⟨8, 12⟩, ⟨1, 0⟩]
    let regions' : List Region := [⟨7, 5⟩, ⟨4, 9⟩, ⟨2, 6⟩, ⟨4, 9⟩]
    let visible' : List ByteRange := [⟨1, 0⟩, ⟨1, 0⟩, ⟨8, 12⟩, ⟨3, 5⟩]
    (∀ r, r ∈ regions' ↔ r ∈ regions) ∧ (∀ range, range ∈ visible' ↔ range ∈ visible) ∧
      View.ofRanges regions visible = ⟨true, true⟩ ∧
      View.ofRanges regions' visible' = ⟨true, true⟩ ∧
      Tag.inView regions visible 6 = .script ∧ Tag.inView regions' visible' 6 = .script ∧
      Tag.inView regions visible 10 = .template ∧ Tag.inView regions' visible' 10 = .template := by
  intro regions visible regions' visible'
  have hregions (r : Region) : r ∈ regions' ↔ r ∈ regions := by
    grind
  have hvisible (range : ByteRange) : range ∈ visible' ↔ range ∈ visible := by
    grind
  obtain ⟨-, -, -, -, hsame⟩ := viewport_scan_exhaustive regions visible
  obtain ⟨hview, -, htag⟩ := hsame regions' visible' hregions hvisible
  have hboth : View.ofRanges regions visible = ⟨true, true⟩ := by decide
  have hscript : Tag.inView regions visible 6 = .script := by decide
  have htemplate : Tag.inView regions visible 10 = .template := by decide
  exact ⟨hregions, hvisible, hboth, hview.trans hboth, hscript, (htag 6).1.trans hscript,
    htemplate, (htag 10).1.trans htemplate⟩

end Bilingual
