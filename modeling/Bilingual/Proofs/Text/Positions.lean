import Mathlib.Data.List.DropRight
import Bilingual.Proofs.Text.Columns
import Bilingual.Proofs.Text.Slices

/-!
Positions against offsets, in both directions. A position leads to a boundary on its
line, and every boundary is got back from its own position.
-/

namespace Bilingual

namespace Text

/-- Line and column of an offset: line feeds in front of it, and units behind the last
of them. -/
def position? (text : String) (offset : Nat) : Option (Nat × Nat) :=
  (cut? text.toList offset).map fun (before, _) =>
    (before.count '\n', unitSize (before.rtakeWhile (· ≠ '\n')))

/-- No line is too long for its units to be counted in 32 bits. -/
def ShortLines (text : String) : Prop :=
  ∀ number before content after,
    IsLine text.toList number before content after → unitSize content < 2 ^ 32

variable {text : String} {before after : List Char}

theorem shortLines_of_unitSize (h : unitSize text.toList < 2 ^ 32) :
    ShortLines text := by
  intro number before content after hline
  rw [hline.split, unitSize_append, unitSize_append] at h
  omega

theorem position?_append (h : text.toList = before ++ after) :
    position? text (byteSize before) =
      some (before.count '\n', unitSize (before.rtakeWhile (· ≠ '\n'))) := by
  rw [position?, h, cut?_append]
  rfl

/-- What stands behind the last line feed is the beginning of a line. -/
theorem exists_isLine_of_append (before after : List Char) :
    ∃ front more behind, before = front ++ before.rtakeWhile (· ≠ '\n') ∧
      IsLine (before ++ after) (before.count '\n') front
        (before.rtakeWhile (· ≠ '\n') ++ more) behind := by
  let lead := before.rtakeWhile (· ≠ '\n')
  let front := before.rdropWhile (· ≠ '\n')
  have hsplit : before = front ++ lead := List.rdropWhile_append_rtakeWhile.symm
  have hlead : '\n' ∉ lead := fun hmem => by simpa using List.mem_rtakeWhile_imp hmem
  have hopens : ∀ c ∈ front.getLast?, c = '\n' := by
    intro c hc
    obtain ⟨hne, rfl⟩ := List.mem_getLast?_eq_getLast hc
    have hlast := List.rdropWhile_last_not _ _ hne
    exact Decidable.of_not_not fun hc => hlast (decide_eq_true hc)
  have hcount : before.count '\n' = front.count '\n' := by
    rw [hsplit, List.count_append, List.count_eq_zero.2 hlead, Nat.add_zero]
  obtain ⟨more, behind, hline⟩ := exists_isLine_append hopens hlead after
  rw [← List.append_assoc, ← hsplit, ← hcount] at hline
  exact ⟨front, more, behind, hsplit, hline⟩

end Text

namespace LinedText

open Text

variable {text : String} {p : Position} {before content after : List Char}

/-- The offset of a position is that of its column on its line. -/
theorem exists_column (h : IsLine text.toList p.line.toNat before content after)
    (hshort : unitSize content < 2 ^ 32) :
    ∃ front, IsColumn p.character.toNat content front ∧
      (ofText text).offset? p = some (byteSize (before ++ front)) := by
  obtain ⟨front, hfront, hoffset⟩ := exists_isColumn p.character hshort
  refine ⟨front, hfront, ?_⟩
  rw [offset?_of_isLine h, hoffset, byteSize_append]

/-- The position of a boundary leads back to it. -/
theorem offset?_of_append (hshort : ShortLines text) (ht : text.toList = before ++ after)
    (hline : p.line.toNat = before.count '\n')
    (hcolumn : p.character.toNat = unitSize (before.rtakeWhile (· ≠ '\n'))) :
    (ofText text).offset? p = some (byteSize before) := by
  obtain ⟨front, more, behind, hsplit, h⟩ := exists_isLine_of_append before after
  rw [← ht, ← hline] at h
  obtain ⟨found, hfound, hoffset⟩ := exists_column h (hshort _ _ _ _ h)
  rw [hcolumn] at hfound
  have hsize := hfound.byteSize_eq (isColumn_unitSize _ more)
  rw [hoffset, byteSize_append, hsize, ← byteSize_append, ← hsplit]

end LinedText

/-- Positions have offsets exactly where their line exists. The offset is the first
boundary on the line with at least so many units in front of it, and the end of the
line where there is none. Offsets of boundaries are got back from their positions. -/
theorem position_conversion_exact (text : String) (hshort : Text.ShortLines text) :
    (∀ p : Position,
      ((LinedText.ofText text).offset? p = none ↔ text.toList.count '\n' < p.line.toNat) ∧
      (p.line.toNat ≤ text.toList.count '\n' →
        ∃ before content after front,
          Text.IsLine text.toList p.line.toNat before content after ∧
          Text.IsColumn p.character.toNat content front ∧
          (LinedText.ofText text).offset? p = some (Text.byteSize (before ++ front))) ∧
      Text.offsetBySlices text p = .ok ((LinedText.ofText text).offset? p)) ∧
    ∀ offset, Text.IsBoundary text offset →
      ∃ line column, Text.position? text offset = some (line, column) ∧
        (line < 2 ^ 32 → column < 2 ^ 32 →
          (LinedText.ofText text).offset? ⟨.ofNat line, .ofNat column⟩ = some offset) := by
  refine ⟨fun p => ⟨LinedText.offset?_eq_none_iff, fun hle => ?_, LinedText.offsetBySlices_eq text p⟩,
    fun offset hboundary => ?_⟩
  · obtain ⟨before, content, after, hline⟩ := Text.exists_isLine hle
    obtain ⟨front, hfront, hoffset⟩ := LinedText.exists_column hline (hshort _ _ _ _ hline)
    exact ⟨before, content, after, front, hline, hfront, hoffset⟩
  · obtain ⟨before, after, ht, rfl⟩ := Text.isBoundary_iff.1 hboundary
    refine ⟨_, _, Text.position?_append ht, fun hline hcolumn => ?_⟩
    exact LinedText.offset?_of_append hshort ht (UInt32.toNat_ofNat_of_lt hline)
      (UInt32.toNat_ofNat_of_lt hcolumn)

theorem position_conversion_exact_inside_a_pair :
    let text := "a😀b\n\nγ"
    let t := LinedText.ofText text
    Text.ShortLines text ∧ t.offset? ⟨3, 0⟩ = none ∧
      (∃ before content after front, Text.IsLine text.toList 0 before content after ∧
        Text.IsColumn 2 content front ∧ t.offset? ⟨0, 2⟩ = some (Text.byteSize (before ++ front)) ∧
        Text.byteSize (before ++ front) = 5) ∧
      Text.IsBoundary text 10 ∧ Text.position? text 10 = some (2, 1) ∧
      t.offset? ⟨2, 1⟩ = some 10 := by
  intro text t
  have hshort : Text.ShortLines text := Text.shortLines_of_unitSize (by decide +kernel)
  obtain ⟨hthere, hback⟩ := position_conversion_exact text hshort
  have hpair : t.offset? ⟨0, 2⟩ = some 5 := by decide +kernel
  obtain ⟨before, content, after, front, hline, hcolumn, hoffset⟩ :=
    (hthere ⟨0, 2⟩).2.1 (Nat.zero_le _)
  have hend : Text.IsBoundary text 10 :=
    Text.isBoundary_iff.2 ⟨text.toList, [], by simp, by decide +kernel⟩
  have hposition : Text.position? text 10 = some (2, 1) := by decide +kernel
  obtain ⟨line, column, h, hoffset'⟩ := hback 10 hend
  obtain ⟨rfl, rfl⟩ : line = 2 ∧ column = 1 := by simpa [hposition, eq_comm] using h
  exact ⟨hshort, (hthere ⟨3, 0⟩).1.2 (by decide +kernel),
    ⟨before, content, after, front, hline, hcolumn, hoffset,
      Option.some.inj (hoffset.symm.trans hpair)⟩,
    hend, hposition, hoffset' (by decide) (by decide)⟩

end Bilingual
