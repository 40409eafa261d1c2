import Bilingual.Proofs.Viewport.Scan

/-!
The language of a viewport against the language at a cursor that is visible. A
cursor between the ends of a visible range settles both alike. At an end of one it
may touch a block that does not reach into view.
-/

namespace Bilingual

namespace Region

variable {r : Region} {range : ByteRange} {cursor : Nat}

theorem contains_of_covers (h : r.covers range = true) (hstart : range.start ≤ cursor)
    (hstop : cursor ≤ range.stop) : r.contains cursor = true := by
  have hcovers := covers_iff.1 h
  exact contains_iff.2 ⟨Nat.le_trans hcovers.1 hstart, Nat.le_trans hstop hcovers.2⟩

/-- A block at a visible cursor reaches into view, or else it stops or starts
where the range does the opposite. -/
theorem overlaps_or_touches (h : r.contains cursor = true) (hstart : range.start ≤ cursor)
    (hstop : cursor ≤ range.stop) :
    r.overlaps range = true ∨
      (cursor = r.stop ∧ cursor = range.start) ∨ (cursor = r.start ∧ cursor = range.stop) := by
  have hcontains := contains_iff.1 h
  rw [overlaps_iff]
  omega

end Region

namespace Tag

variable {regions : List Region} {visible : List ByteRange} {cursor : Nat}

theorem atCursor_eq_script_iff :
    atCursor regions cursor = .script ↔ ∃ r ∈ regions, r.contains cursor = true := by
  rw [atCursor, ← List.any_eq_true]
  split <;> simp_all

theorem atCursor_eq_of_iff {regions' : List Region}
    (h : (∃ r ∈ regions', r.contains cursor = true) ↔ ∃ r ∈ regions, r.contains cursor = true) :
    atCursor regions' cursor = atCursor regions cursor := by
  have hany : regions'.any (·.contains cursor) = regions.any (·.contains cursor) := by
    rw [Bool.eq_iff_iff, List.any_eq_true, List.any_eq_true]
    exact h
  rw [atCursor, atCursor, hany]

end Tag

namespace View

variable {regions : List Region} {visible : List ByteRange} {cursor : Nat}

theorem ofRanges_script_eq_false :
    (ofRanges regions visible).script = false ↔
      ∀ range ∈ visible, ∀ r ∈ regions, r.overlaps range = false := by
  rw [ofRanges_eq_exhaustive]
  simp [exhaustive, foldl_see, nothing]

theorem ofRanges_template_eq_false :
    (ofRanges regions visible).template = false ↔
      ∀ range ∈ visible, ∃ r ∈ regions, r.covers range = true := by
  rw [ofRanges_eq_exhaustive]
  simp [exhaustive, foldl_see, nothing]

/-- Where both languages are seen the cursor decides. Otherwise the viewport is
script exactly if it shows some. -/
theorem settled?_getD (v : View) (tag : Tag) :
    (v.hasBoth = true ∧ v.settled?.getD tag = tag) ∨
      (v.script = true ∧ v.template = false ∧ v.settled?.getD tag = .script) ∨
      (v.script = false ∧ v.settled?.getD tag = .template) := by
  obtain ⟨script, template⟩ := v
  cases script <;> cases template <;> simp [settled?, hasBoth]

end View

namespace Tag

variable {regions : List Region} {visible : List ByteRange} {cursor : Nat} {range : ByteRange}

theorem inView_of_script_eq_false (h : (View.ofRanges regions visible).script = false) :
    inView regions visible cursor = .template := by
  rcases (View.ofRanges regions visible).settled?_getD (atCursor regions cursor) with
    ⟨hboth, -⟩ | ⟨hscript, -, -⟩ | ⟨-, htag⟩
  · simp [View.hasBoth, h] at hboth
  · exact absurd (h.symm.trans hscript) (by decide)
  · exact htag

/-- At a visible cursor only a block that stays out of view makes a difference. -/
theorem inView_eq_or (hrange : range ∈ visible) (hstart : range.start ≤ cursor)
    (hstop : cursor ≤ range.stop) :
    inView regions visible cursor = atCursor regions cursor ∨
      (inView regions visible cursor = .template ∧ atCursor regions cursor = .script ∧
        (View.ofRanges regions visible).script = false) := by
  rcases (View.ofRanges regions visible).settled?_getD (atCursor regions cursor) with
    ⟨-, h⟩ | ⟨-, htemplate, h⟩ | ⟨hscript, h⟩
  · exact Or.inl h
  · -- The block that covers the range holds the cursor too.
    obtain ⟨r, hr, hcovers⟩ := View.ofRanges_template_eq_false.1 htemplate range hrange
    have hcontains := Region.contains_of_covers hcovers hstart hstop
    exact Or.inl (h.trans (atCursor_eq_script_iff.2 ⟨r, hr, hcontains⟩).symm)
  · cases hat : atCursor regions cursor with
    | template => exact Or.inl (hat ▸ h)
    | script => exact Or.inr ⟨h, rfl, hscript⟩

/-- Where the two differ, a block stops at the start of the range or starts at its
end, and the cursor stands there. -/
theorem touches_of_ne (hrange : range ∈ visible) (hstart : range.start ≤ cursor)
    (hstop : cursor ≤ range.stop)
    (hne : inView regions visible cursor ≠ atCursor regions cursor) :
    inView regions visible cursor = .template ∧ atCursor regions cursor = .script ∧
      (View.ofRanges regions visible).script = false ∧
      ∃ r ∈ regions, (cursor = r.stop ∧ cursor = range.start) ∨
        (cursor = r.start ∧ cursor = range.stop) := by
  rcases inView_eq_or hrange hstart hstop with h | ⟨hviewed, hpointed, hscript⟩
  · exact absurd h hne
  · obtain ⟨r, hr, hcontains⟩ := atCursor_eq_script_iff.1 hpointed
    have hout := View.ofRanges_script_eq_false.1 hscript range hrange r hr
    refine ⟨hviewed, hpointed, hscript, r, hr, ?_⟩
    rcases Region.overlaps_or_touches hcontains hstart hstop with hin | htouches
    · exact absurd (hout.symm.trans hin) (by decide)
    · exact htouches

end Tag

/-- A viewport with a cursor between the ends of a range has the language of that
cursor. With the cursor at an end it may be template where the cursor is script, and
is so exactly if no block reaches into view; the cursor then stands at the start or
the end of a block. -/
theorem viewport_agrees_with_cursor (regions : List Region) (visible : List ByteRange)
    (cursor : Nat) :
    let viewed := Tag.inView regions visible cursor
    let pointed := Tag.atCursor regions cursor
    (∀ range ∈ visible, range.start < cursor → cursor < range.stop → viewed = pointed) ∧
    ∀ range ∈ visible, range.start ≤ cursor → cursor ≤ range.stop →
      (viewed ≠ pointed ↔ (∃ r ∈ regions, r.contains cursor = true) ∧
        ∀ other ∈ visible, ∀ r ∈ regions, r.overlaps other = false) ∧
      (viewed ≠ pointed → viewed = .template ∧ pointed = .script ∧
        ∃ r ∈ regions, cursor = r.start ∨ cursor = r.stop) := by
  intro viewed pointed
  refine ⟨fun range hrange hstart hstop => Decidable.byContradiction fun hne => ?_,
    fun range hrange hstart hstop => ⟨⟨fun hne => ?_, ?_⟩, fun hne => ?_⟩⟩
  · obtain ⟨-, -, -, r, -, htouches⟩ :=
      Tag.touches_of_ne hrange (Nat.le_of_lt hstart) (Nat.le_of_lt hstop) hne
    omega
  · obtain ⟨-, hpointed, hscript, -⟩ := Tag.touches_of_ne hrange hstart hstop hne
    exact ⟨Tag.atCursor_eq_script_iff.1 hpointed, View.ofRanges_script_eq_false.1 hscript⟩
  · rintro ⟨hcontains, hout⟩ heq
    have hviewed : viewed = .template :=
      Tag.inView_of_script_eq_false (View.ofRanges_script_eq_false.2 hout)
    have hpointed : pointed = .script := Tag.atCursor_eq_script_iff.2 hcontains
    exact absurd (hviewed.symm.trans (heq.trans hpointed)) (by decide)
  · obtain ⟨hviewed, hpointed, -, r, hr, htouches⟩ := Tag.touches_of_ne hrange hstart hstop hne
    refine ⟨hviewed, hpointed, r, hr, ?_⟩
    rcases htouches with ⟨h, -⟩ | ⟨h, -⟩
    · exact Or.inr h
    · exact Or.inl h

theorem viewport_agrees_with_cursor_at_a_boundary :
    let regions : List Region := [⟨4, 9⟩, ⟨9, 14⟩, ⟨20, 17⟩]
    let whole : ByteRange := ⟨0, 30⟩
    let front : ByteRange := ⟨0, 4⟩
    (whole.start < 9 ∧ 9 < whole.stop ∧
      Tag.inView regions [front, whole] 9 = Tag.atCursor regions 9) ∧
    (front.start ≤ 4 ∧ 4 ≤ front.stop ∧ Tag.inView regions [front] 4 ≠ Tag.atCursor regions 4 ∧
      Tag.inView regions [front] 4 = .template ∧ Tag.atCursor regions 4 = .script) := by
  intro regions whole front
  have hne : Tag.inView regions [front] 4 ≠ Tag.atCursor regions 4 := by decide
  have hboundary := (viewport_agrees_with_cursor regions [front] 4).2 front (by simp) (by decide)
    (by decide)
  obtain ⟨hviewed, hpointed, -⟩ := hboundary.2 hne
  exact ⟨⟨by decide, by decide, (viewport_agrees_with_cursor regions [front, whole] 9).1 whole
    (by simp) (by decide) (by decide)⟩, by decide, by decide, hne, hviewed, hpointed⟩

end Bilingual
