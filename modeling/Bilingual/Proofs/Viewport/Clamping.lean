import Bilingual.Proofs.Text.Endings
import Bilingual.Proofs.Viewport.Bytes
import Bilingual.Proofs.Viewport.Cursor

/-!
The language at a cursor past the end of a line that a block ends. At a line feed the
cursor stands right behind the block and still belongs to it. At a carriage return it
stands one byte further on, and the block is left.
-/

namespace Bilingual

open Text

namespace Tag

variable {d : Delimiters} {text : String} {r : Region} {before after : List Char}

/-- Right behind a block the language is that of the block. -/
theorem atCursor_stop (hr : r ∈ d.scan text) : atCursor (d.scan text) r.stop = .script := by
  have := (inOrder_scan d text).start_lt_stop r hr
  exact atCursor_eq_script_iff.2 ⟨r, hr, Region.contains_iff.2 ⟨by omega, Nat.le_refl _⟩⟩

/-- Between a carriage return behind a block and its line feed there is no block that
opens without them. -/
theorem atCursor_past_return (hreturn : '\r' ∉ d.opening.toList) (hfeed : '\n' ∉ d.opening.toList)
    (ht : text.toList = before ++ '\r' :: '\n' :: after) (hr : r ∈ d.scan text)
    (hstop : r.stop = byteSize before) :
    atCursor (d.scan text) (byteSize before + 1) = .template := by
  cases hat : atCursor (d.scan text) (byteSize before + 1) with
  | template => rfl
  | script =>
      obtain ⟨s, hs, hcontains⟩ := atCursor_eq_script_iff.1 hat
      have hcontains := Region.contains_iff.1 hcontains
      have hinOrder := inOrder_scan d text
      have hopens := ((d.blocks_scan text).isBlock s hs).1.opens
      have := hinOrder.start_lt_stop r hr
      have hne : r ≠ s := by
        rintro rfl
        omega
      have hapart := hinOrder.apart_of_ne hr hs hne
      rcases (by omega : s.start = byteSize before ∨ s.start = byteSize before + 1) with
        hstart | hstart
      · exact absurd ((hstart ▸ hopens).mem d.opening_ne ht) hreturn
      · have hsize : byteSize before + 1 = byteSize (before ++ ['\r']) := by
          rw [byteSize_append]
          rfl
        have ht' : text.toList = (before ++ ['\r']) ++ '\n' :: after := by
          rw [ht, List.append_assoc]
          rfl
        rw [hstart, hsize] at hopens
        exact absurd (hopens.mem d.opening_ne ht') hfeed

end Tag

/-- A column at or past the end of what is written on a line stands for that end, and
with a block that ends there it is script. Where a carriage return and a line feed end the
line this is so for the end itself. A column further to the right then stands for the
offset between the two, which no block holds unless it opens with one of them. -/
theorem clamping_by_ending (text : String) (p : Position) :
    (p.line.toNat ≤ text.toList.count '\n' → ∃ before content ending after,
      IsEndedLine text.toList p.line.toNat before content ending after) ∧
    ∀ before content ending after,
      IsEndedLine text.toList p.line.toNat before content ending after →
      unitSize content ≤ p.character.toNat →
      let stop := byteSize (before ++ content)
      let offset := (LinedText.ofText text).offset? p
      ((ending = .returnFeed → p.character.toNat ≤ unitSize content) → offset = some stop ∧
        ∀ d : Delimiters, ∀ r ∈ d.scan text, r.stop = stop →
          Tag.atCursor (d.scan text) stop = .script) ∧
      (ending = .returnFeed → unitSize content < p.character.toNat → offset = some (stop + 1) ∧
        ∀ d : Delimiters, '\r' ∉ d.opening.toList → '\n' ∉ d.opening.toList →
          ∀ r ∈ d.scan text, r.stop = stop →
            Tag.atCursor (d.scan text) (stop + 1) = .template) := by
  refine ⟨fun hle => ?_, fun before content ending after h hle => ⟨fun hreturn => ?_, ?_⟩⟩
  · obtain ⟨before, line, behind, hline⟩ := exists_isLine hle
    obtain ⟨content, ending, after, h⟩ := hline.exists_isEndedLine
    exact ⟨before, content, ending, after, h⟩
  · refine ⟨LinedText.offset?_of_past_content h hle hreturn, fun d r hr hstop => ?_⟩
    exact hstop ▸ Tag.atCursor_stop hr
  · rintro rfl hlt
    have ht : text.toList = before ++ content ++ '\r' :: '\n' :: after := by
      rw [h.split, List.append_assoc before content]
      rfl
    exact ⟨LinedText.offset?_of_past_return h hlt, fun d hreturn hfeed r hr hstop =>
      Tag.atCursor_past_return hreturn hfeed ht hr hstop⟩

/-- A block at the end of a line, which is ended in both ways. -/
theorem clamping_by_ending_behind_a_block :
    let d := Delimiters.standard
    let text := "é\n<?php ?>\r\n<?php ?>\n"
    let t := LinedText.ofText text
    let block := "<?php ?>".toList
    IsEndedLine text.toList 1 "é\n".toList block .returnFeed "<?php ?>\n".toList ∧
      unitSize block < 99 ∧ '\r' ∉ d.opening.toList ∧ '\n' ∉ d.opening.toList ∧
      ⟨3, 11⟩ ∈ d.scan text ∧ t.offset? ⟨1, 99⟩ = some 12 ∧
      Tag.atCursor (d.scan text) 12 = .template ∧
      IsEndedLine text.toList 2 "é\n<?php ?>\r\n".toList block .feed [] ∧
      ⟨13, 21⟩ ∈ d.scan text ∧ t.offset? ⟨2, 99⟩ = some 21 ∧
      Tag.atCursor (d.scan text) 21 = .script := by
  intro d text t block
  have hreturned : IsEndedLine text.toList 1 "é\n".toList block .returnFeed "<?php ?>\n".toList :=
    ⟨by decide +kernel, by decide +kernel, by simp, by decide +kernel, nofun, nofun⟩
  have hfed : IsEndedLine text.toList 2 "é\n<?php ?>\r\n".toList block .feed [] :=
    ⟨by decide +kernel, by decide +kernel, by simp, by decide +kernel, fun _ => by simp [block],
      nofun⟩
  have hpast : unitSize block < 99 := by decide +kernel
  have hreturn : '\r' ∉ d.opening.toList := by decide +kernel
  have hfeed : '\n' ∉ d.opening.toList := by decide +kernel
  have hfirst : ⟨3, 11⟩ ∈ d.scan text := by decide +kernel
  have hsecond : ⟨13, 21⟩ ∈ d.scan text := by decide +kernel
  have hstop : byteSize ("é\n".toList ++ block) = 11 := by decide +kernel
  have hstop' : byteSize ("é\n<?php ?>\r\n".toList ++ block) = 21 := by decide +kernel
  obtain ⟨hoffset, htag⟩ := ((clamping_by_ending text ⟨1, 99⟩).2 _ _ _ _ hreturned
    (Nat.le_of_lt hpast)).2 rfl hpast
  obtain ⟨hoffset', htag'⟩ := ((clamping_by_ending text ⟨2, 99⟩).2 _ _ _ _ hfed
    (Nat.le_of_lt hpast)).1 nofun
  rw [hstop] at hoffset htag
  rw [hstop'] at hoffset' htag'
  exact ⟨hreturned, hpast, hreturn, hfeed, hfirst, hoffset, htag d hreturn hfeed _ hfirst rfl,
    hfed, hsecond, hoffset', htag' d _ hsecond rfl⟩

/-- The end of a line is missed where a carriage return stands there. A cursor past the
end of a block's last line is script with a line feed behind it, and template with a
carriage return and a line feed. -/
theorem carriage_return_moves_the_end :
    let d := Delimiters.standard
    let returned := "<?php ?>\r\nx"
    let fed := "<?php ?>\nx"
    (¬ ∀ (text : String) (p : Position) before content ending after,
      IsEndedLine text.toList p.line.toNat before content ending after →
        unitSize content ≤ p.character.toNat →
        (LinedText.ofText text).offset? p = some (byteSize (before ++ content))) ∧
      (LinedText.ofText returned).offset? ⟨0, 99⟩ = some 9 ∧
      Tag.atCursor (d.scan returned) 9 = .template ∧
      (LinedText.ofText fed).offset? ⟨0, 99⟩ = some 8 ∧
      Tag.atCursor (d.scan fed) 8 = .script := by
  intro d returned fed
  have hoffset : (LinedText.ofText returned).offset? ⟨0, 99⟩ = some 9 := by decide +kernel
  refine ⟨fun hclamps => ?_, hoffset, by decide +kernel, by decide +kernel, by decide +kernel⟩
  have hended : IsEndedLine returned.toList 0 [] "<?php ?>".toList .returnFeed "x".toList :=
    ⟨by decide +kernel, rfl, by simp, by decide +kernel, nofun, nofun⟩
  have hend := hclamps returned ⟨0, 99⟩ _ _ _ _ hended (by decide +kernel)
  have hstop : byteSize ([] ++ "<?php ?>".toList) = 8 := by decide +kernel
  rw [hoffset, hstop] at hend
  exact absurd hend (by decide)

end Bilingual
