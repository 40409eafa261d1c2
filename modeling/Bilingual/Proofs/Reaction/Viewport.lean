import Bilingual.Proofs.Cache.Entries
import Bilingual.Proofs.Viewport.Bytes
import Bilingual.Reaction

/-!
The language asked for when nothing but script is visible. It is script, unless a
visible range looks across a seam between two blocks: then the cursor decides, and
without one nothing is asked for.
-/

namespace Bilingual

namespace View

variable {regions : List Region} {visible : List ByteRange}

/-- Where all that is visible is script, only a seam passes for template. -/
theorem ofRanges_of_script (h : InOrder regions) (hne : visible ≠ [])
    (hvisible : ∀ range ∈ visible, range.start < range.stop)
    (hscript : ∀ byte, IsVisible visible byte → IsScript regions byte) :
    (ofRanges regions visible).script = true ∧
      ((ofRanges regions visible).template = true ↔ ShowsSeam regions visible) := by
  obtain ⟨range, hrange⟩ := List.exists_mem_of_ne_nil visible hne
  have hbyte : IsVisible visible range.start := ⟨range, hrange, Nat.le_refl _, hvisible range hrange⟩
  refine ⟨(script_iff_byte h hvisible).2 ⟨_, hbyte, hscript _ hbyte⟩, ?_⟩
  rw [template_iff_byte h hvisible]
  refine ⟨?_, Or.inr⟩
  rintro (⟨byte, hshown, hnot⟩ | hseam)
  · exact absurd (hscript byte hshown) hnot
  · exact hseam

end View

namespace Reaction

variable {scan : Finder} {cache : Cache} {d : Document} {visible : List ByteRange}

theorem tag_toViewport (hne : visible ≠ []) (cursor : Option Nat) :
    let regions := (cache.lookUp scan d.uri d.version d.text).regions
    (toViewport scan cache d visible cursor).tag =
      ((View.ofRanges regions visible).settled? <|> cursor.map (Tag.atCursor regions)) := by
  simp only [toViewport, List.isEmpty_eq_false_iff.2 hne, Bool.false_eq_true, if_false]
  split
  · next h => exact h.symm
  · next h => exact h.symm

end Reaction

/-- A look-up is answered with the scan of the text, unless an entry of the same
revision says otherwise. -/
theorem Cache.lookUp_regions_eq {cache : Cache} {scan : Finder} {document : Uri}
    {revision : Int32} {text : String}
    (h : ∀ e ∈ cache.entries, e.document = document → e.revision = revision →
      e.regions = scan text) :
    (cache.lookUp scan document revision text).regions = scan text := by
  rcases cache.lookUp_regions id scan document revision text with
    ⟨-, hregions⟩ | ⟨-, e, he, hdocument, hrevision, hregions⟩
  · exact hregions
  · exact hregions.trans (h e he hdocument hrevision)

/-- A viewport that shows nothing but script is script to every cursor, and without
one, as long as no range looks across a seam. Across a seam it counts as showing both
languages. -/
theorem viewport_of_script (d : Delimiters) (text : String) (visible : List ByteRange)
    (hne : visible ≠ []) (hvisible : ∀ range ∈ visible, range.start < range.stop)
    (hscript : ∀ byte, IsVisible visible byte → IsScript (d.scan text) byte) :
    ((View.ofRanges (d.scan text) visible).template = false ↔
      ¬ ShowsSeam (d.scan text) visible) ∧
    ∀ (cache : Cache) (uri : Uri) (version : Int32) (cursor : Option Nat),
      (∀ e ∈ cache.entries, e.document = uri → e.revision = version →
        e.regions = d.scan text) →
      let reaction := Reaction.toViewport d.scan cache (.ofText uri version text) visible cursor
      (¬ ShowsSeam (d.scan text) visible → reaction.tag = some .script) ∧
        (ShowsSeam (d.scan text) visible →
          reaction.tag = cursor.map (Tag.atCursor (d.scan text))) := by
  obtain ⟨hsees, hshows⟩ := View.ofRanges_of_script (inOrder_scan d text) hne hvisible hscript
  refine ⟨by rw [← hshows, Bool.not_eq_true], fun cache uri version cursor hcache => ?_⟩
  intro reaction
  have htag : reaction.tag = ((View.ofRanges (d.scan text) visible).settled? <|>
      cursor.map (Tag.atCursor (d.scan text))) := by
    rw [← Cache.lookUp_regions_eq hcache]
    exact Reaction.tag_toViewport hne cursor
  refine ⟨fun hseam => ?_, fun hseam => ?_⟩
  · have hview : View.ofRanges (d.scan text) visible = ⟨true, false⟩ :=
      View.eq_of_flags (by simp [hsees]) (by simp [hshows, hseam])
    rw [htag, hview]
    rfl
  · have hview : View.ofRanges (d.scan text) visible = ⟨true, true⟩ :=
      View.eq_of_flags (by simp [hsees]) (by simp [hshows, hseam])
    rw [htag, hview]
    rfl

theorem viewport_of_script_behind_an_edit :
    let text := "<?php 1 ?> <?php 2 ?>"
    let regions := Delimiters.standard.scan text
    let visible : List ByteRange := [⟨1, 4⟩, ⟨12, 21⟩]
    let uri : Uri := ⟨"file", none, "/a", none, none⟩
    let cache : Cache := ⟨[⟨uri, 3, [⟨0, 21⟩], 0⟩], none, 1⟩
    visible ≠ [] ∧ (∀ range ∈ visible, range.start < range.stop) ∧
      (∀ byte, IsVisible visible byte → IsScript regions byte) ∧
      (∀ e ∈ cache.entries, e.document = uri → e.revision = 4 → e.regions = regions) ∧
      ¬ ShowsSeam regions visible ∧
      (Reaction.toViewport Delimiters.standard.scan cache (.ofText uri 4 text) visible none).tag =
        some .script := by
  intro text regions visible uri cache
  have hregions : regions = [⟨0, 10⟩, ⟨11, 21⟩] := by decide +kernel
  have hvisible : ∀ range ∈ visible, range.start < range.stop := by decide
  have hscript (byte : Nat) (h : IsVisible visible byte) : IsScript regions byte := by
    obtain ⟨range, hrange, hstart, hstop⟩ := h
    have hin : ∀ range ∈ visible,
        0 ≤ range.start ∧ range.stop ≤ 10 ∨ 11 ≤ range.start ∧ range.stop ≤ 21 := by decide
    rw [hregions]
    rcases hin range hrange with hfirst | hsecond
    · exact ⟨⟨0, 10⟩, by simp, by simp only; omega⟩
    · exact ⟨⟨11, 21⟩, by simp, by simp only; omega⟩
  have hcache : ∀ e ∈ cache.entries, e.document = uri → e.revision = 4 → e.regions = regions := by
    intro e he _ hrevision
    obtain rfl := List.mem_singleton.1 he
    exact absurd hrevision (by decide)
  obtain ⟨htemplate, htag⟩ := viewport_of_script Delimiters.standard text visible (by decide)
    hvisible hscript
  have hseamless : ¬ ShowsSeam regions visible := htemplate.1 (by decide +kernel)
  exact ⟨by decide, hvisible, hscript, hcache, hseamless,
    (htag cache uri 4 none hcache).1 hseamless⟩

/-- Two blocks that meet pass for both languages, and without a cursor nothing is
asked for, although no byte of template is visible. -/
theorem adjoining_blocks_pass_for_both :
    let text := "<?php ?><?php ?>"
    let regions := Delimiters.standard.scan text
    let visible : List ByteRange := [⟨0, 16⟩]
    let uri : Uri := ⟨"file", none, "/a", none, none⟩
    visible ≠ [] ∧ (∀ range ∈ visible, range.start < range.stop) ∧
      (∀ byte, IsVisible visible byte → IsScript regions byte) ∧
      (View.ofRanges regions visible).template = true ∧
      (Reaction.toViewport Delimiters.standard.scan (.ofCapacity none) (.ofText uri 1 text)
        visible none).tag = none := by
  intro text regions visible uri
  have hregions : regions = [⟨0, 8⟩, ⟨8, 16⟩] := by decide +kernel
  refine ⟨by decide, by decide, ?_, by decide +kernel, by decide +kernel⟩
  rintro byte ⟨range, hrange, -, hstop⟩
  obtain rfl := List.mem_singleton.1 hrange
  rw [hregions]
  rcases Nat.lt_or_ge byte 8 with hlt | hge
  · exact ⟨⟨0, 8⟩, by simp, Nat.zero_le _, hlt⟩
  · exact ⟨⟨8, 16⟩, by simp, hge, hstop⟩

end Bilingual
