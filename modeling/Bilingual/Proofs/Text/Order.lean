import Bilingual.Proofs.Text.Positions

/-!
Positions in the order of a reader: by line, and by column on one line. The conversion
keeps the order, and strictly so from a line to a later one.
-/

namespace Bilingual

/-- On an earlier line, or on the same line and no further to the right. -/
instance : LE Position :=
  ⟨fun p q => p.line < q.line ∨ p.line = q.line ∧ p.character ≤ q.character⟩

instance (p q : Position) : Decidable (p ≤ q) :=
  inferInstanceAs (Decidable (p.line < q.line ∨ p.line = q.line ∧ p.character ≤ q.character))

namespace Position

variable {p q : Position}

theorem le_iff :
    p ≤ q ↔ p.line.toNat < q.line.toNat ∨
      p.line.toNat = q.line.toNat ∧ p.character.toNat ≤ q.character.toNat := by
  rw [← UInt32.lt_iff_toNat_lt, UInt32.toNat_inj, ← UInt32.le_iff_toNat_le]
  rfl

theorem line_le_of_le (h : p ≤ q) : p.line.toNat ≤ q.line.toNat := by
  have := le_iff.1 h
  omega

end Position

namespace Text

variable {cs before content after before' content' after' : List Char} {number number' : Nat}

/-- A line ends in front of the start of each later one. -/
theorem IsLine.stop_lt_start (h : IsLine cs number before content after)
    (h' : IsLine cs number' before' content' after') (hlt : number < number') :
    byteSize (before ++ content) < byteSize before' := by
  have hcount : (before ++ content).count '\n' = number := by
    rw [List.count_append, h.number_eq, List.count_eq_zero.2 h.whole, Nat.add_zero]
  have hprefix : before ++ content <+: cs := ⟨after, by rw [h.split, List.append_assoc]⟩
  have hprefix' : before' <+: cs := ⟨content' ++ after', h'.split.symm⟩
  rcases List.prefix_or_prefix_of_prefix hprefix hprefix' with ⟨rest, hrest⟩ | hback
  · -- What lies between has a line feed at least.
    have hne : byteSize rest ≠ 0 := by
      intro hzero
      rw [eq_nil_of_byteSize_eq_zero hzero, List.append_nil] at hrest
      have := h'.number_eq
      rw [← hrest] at this
      omega
    rw [← hrest, byteSize_append (before ++ content)]
    omega
  · have := hback.sublist.count_le '\n'
    have := h'.number_eq
    omega

end Text

namespace LinedText

open Text

variable {text : String} {p q : Position} {offset offset' : Nat}

theorem exists_offset?_iff :
    (∃ offset, (ofText text).offset? p = some offset) ↔
      p.line.toNat ≤ text.toList.count '\n' := by
  rw [← Option.isSome_iff_exists, ← Option.ne_none_iff_isSome, ne_eq, offset?_eq_none_iff,
    Nat.not_lt]

/-- The line and the column that an offset was got from. -/
theorem exists_line_of_offset? (hshort : ShortLines text)
    (h : (ofText text).offset? p = some offset) :
    ∃ before content after front, IsLine text.toList p.line.toNat before content after ∧
      IsColumn p.character.toNat content front ∧ offset = byteSize (before ++ front) := by
  obtain ⟨before, content, after, hline⟩ := exists_isLine (exists_offset?_iff.1 ⟨offset, h⟩)
  obtain ⟨front, hfront, hoffset⟩ := exists_column hline (hshort _ _ _ _ hline)
  exact ⟨before, content, after, front, hline, hfront, Option.some.inj (h.symm.trans hoffset)⟩

theorem isBoundary_of_offset? (hshort : ShortLines text)
    (h : (ofText text).offset? p = some offset) : IsBoundary text offset := by
  obtain ⟨before, content, after, front, hline, hfront, rfl⟩ := exists_line_of_offset? hshort h
  obtain ⟨more, hmore⟩ := hfront.isPrefix
  refine isBoundary_iff.2 ⟨before ++ front, more ++ after, ?_, rfl⟩
  rw [hline.split, ← hmore]
  simp only [List.append_assoc]

theorem le_size_of_offset? (hshort : ShortLines text)
    (h : (ofText text).offset? p = some offset) : offset ≤ (ofText text).size :=
  String.Pos.Raw.le_iff.1 (isBoundary_of_offset? hshort h).le_rawEndPos

theorem offset?_lt_of_line_lt (hshort : ShortLines text) (hlt : p.line.toNat < q.line.toNat)
    (hp : (ofText text).offset? p = some offset) (hq : (ofText text).offset? q = some offset') :
    offset < offset' := by
  obtain ⟨before, content, after, front, hline, hfront, rfl⟩ := exists_line_of_offset? hshort hp
  obtain ⟨before', content', after', front', hline', -, rfl⟩ := exists_line_of_offset? hshort hq
  have hstop := hline.stop_lt_start hline' hlt
  have hle := byteSize_le_of_prefix hfront.isPrefix
  rw [byteSize_append] at hstop ⊢
  rw [byteSize_append]
  omega

theorem offset?_mono (hshort : ShortLines text) (hle : p ≤ q)
    (hp : (ofText text).offset? p = some offset) (hq : (ofText text).offset? q = some offset') :
    offset ≤ offset' := by
  rcases Position.le_iff.1 hle with hlt | ⟨hline_eq, hcharacter⟩
  · exact Nat.le_of_lt (offset?_lt_of_line_lt hshort hlt hp hq)
  · obtain ⟨before, content, after, hline⟩ := exists_isLine (exists_offset?_iff.1 ⟨offset, hp⟩)
    have hsmall := hshort _ _ _ _ hline
    obtain ⟨front, hfront, hoffset⟩ := exists_column hline hsmall
    obtain ⟨front', hfront', hoffset'⟩ := exists_column (hline_eq ▸ hline) hsmall
    obtain rfl := Option.some.inj (hp.symm.trans hoffset)
    obtain rfl := Option.some.inj (hq.symm.trans hoffset')
    have := hfront.mono hfront' hcharacter
    rw [byteSize_append, byteSize_append]
    omega

variable {r : PositionRange} {range : ByteRange}

theorem range?_eq_some_iff :
    (ofText text).range? r = some range ↔
      (ofText text).offset? r.start = some range.start ∧
        (ofText text).offset? r.stop = some range.stop := by
  obtain ⟨start, stop⟩ := range
  unfold range?
  cases (ofText text).offset? r.start <;> cases (ofText text).offset? r.stop <;> simp

/-- A range in order has offsets exactly where its last line exists, and they are in
order. -/
theorem exists_range?_iff (hle : r.start ≤ r.stop) :
    (∃ range, (ofText text).range? r = some range) ↔
      r.stop.line.toNat ≤ text.toList.count '\n' := by
  constructor
  · rintro ⟨range, hrange⟩
    exact exists_offset?_iff.1 ⟨range.stop, (range?_eq_some_iff.1 hrange).2⟩
  · intro hline
    obtain ⟨stop, hstop⟩ := exists_offset?_iff.2 hline
    obtain ⟨start, hstart⟩ :=
      exists_offset?_iff.2 (Nat.le_trans (Position.line_le_of_le hle) hline)
    exact ⟨⟨start, stop⟩, range?_eq_some_iff.2 ⟨hstart, hstop⟩⟩

end LinedText

open Text in
/-- A position in front of one that has an offset has an offset too, and it is no later;
it is earlier where the line is. Both are boundaries of the text. A range in order has
offsets exactly where its last line exists, which are then in order, and what lies within
a range of positions lies within it in bytes. -/
theorem position_conversion_monotone (text : String) (hshort : ShortLines text) :
    let t := LinedText.ofText text
    (∀ p q : Position, p ≤ q → ∀ later, t.offset? q = some later →
      ∃ earlier, t.offset? p = some earlier ∧ earlier ≤ later ∧ later ≤ t.size ∧
        IsBoundary text earlier ∧ IsBoundary text later ∧
        (p.line < q.line → earlier < later)) ∧
    (∀ r : PositionRange, r.start ≤ r.stop →
      ((∃ range, t.range? r = some range) ↔ r.stop.line.toNat ≤ text.toList.count '\n') ∧
      ∀ range, t.range? r = some range → range.start ≤ range.stop) ∧
    ∀ outer inner : PositionRange, outer.start ≤ inner.start → inner.stop ≤ outer.stop →
      ∀ whole, t.range? outer = some whole →
        (inner.start ≤ inner.stop → ∃ part, t.range? inner = some part) ∧
        ∀ part, t.range? inner = some part →
          whole.start ≤ part.start ∧ part.stop ≤ whole.stop := by
  intro t
  refine ⟨fun p q hle later hlater => ?_, fun r hle => ⟨?_, fun range hrange => ?_⟩,
    fun outer inner hstart hstop whole hwhole => ⟨fun hle => ?_, fun part hpart => ?_⟩⟩
  · have hline := LinedText.exists_offset?_iff.1 ⟨later, hlater⟩
    obtain ⟨earlier, hearlier⟩ :=
      LinedText.exists_offset?_iff.2 (Nat.le_trans (Position.line_le_of_le hle) hline)
    exact ⟨earlier, hearlier, LinedText.offset?_mono hshort hle hearlier hlater,
      LinedText.le_size_of_offset? hshort hlater, LinedText.isBoundary_of_offset? hshort hearlier,
      LinedText.isBoundary_of_offset? hshort hlater, fun hlt =>
        LinedText.offset?_lt_of_line_lt hshort (UInt32.lt_iff_toNat_lt.1 hlt) hearlier hlater⟩
  · exact LinedText.exists_range?_iff hle
  · obtain ⟨hfirst, hlast⟩ := LinedText.range?_eq_some_iff.1 hrange
    exact LinedText.offset?_mono hshort hle hfirst hlast
  · obtain ⟨-, hlast⟩ := LinedText.range?_eq_some_iff.1 hwhole
    have hline := LinedText.exists_offset?_iff.1 ⟨whole.stop, hlast⟩
    exact (LinedText.exists_range?_iff hle).2
      (Nat.le_trans (Position.line_le_of_le hstop) hline)
  · obtain ⟨hfirst, hlast⟩ := LinedText.range?_eq_some_iff.1 hwhole
    obtain ⟨hfirst', hlast'⟩ := LinedText.range?_eq_some_iff.1 hpart
    exact ⟨LinedText.offset?_mono hshort hstart hfirst hfirst',
      LinedText.offset?_mono hshort hstop hlast' hlast⟩

/-- A column inside a pair stands for the offset behind it, as the next column does. -/
theorem position_conversion_monotone_inside_a_pair :
    let text := "a😀b\nγδ\n"
    let t := LinedText.ofText text
    let inside : Position := ⟨0, 2⟩
    let behind : Position := ⟨0, 3⟩
    let outer : PositionRange := ⟨inside, ⟨2, 9⟩⟩
    let inner : PositionRange := ⟨behind, ⟨1, 1⟩⟩
    Text.ShortLines text ∧ inside ≤ behind ∧ t.offset? behind = some 5 ∧
      (∃ earlier, t.offset? inside = some earlier ∧ earlier ≤ 5) ∧
      behind ≤ inner.stop ∧ behind.line < inner.stop.line ∧ t.offset? inner.stop = some 9 ∧
      5 < 9 ∧ inner.stop ≤ outer.stop ∧ t.range? outer = some ⟨5, 12⟩ ∧
      ∃ part, t.range? inner = some part ∧ 5 ≤ part.start ∧ part.stop ≤ 12 := by
  intro text t inside behind outer inner
  have hshort : Text.ShortLines text := Text.shortLines_of_unitSize (by decide +kernel)
  have hinside : inside ≤ behind := by decide
  have hbehind : behind ≤ inner.stop := by decide
  have hstop : inner.stop ≤ outer.stop := by decide
  have hlater : t.offset? behind = some 5 := by decide +kernel
  have hlast : t.offset? inner.stop = some 9 := by decide +kernel
  have houter : t.range? outer = some ⟨5, 12⟩ := by decide +kernel
  obtain ⟨hpositions, -, hnested⟩ := position_conversion_monotone text hshort
  obtain ⟨earlier, hearlier, hle, -⟩ := hpositions inside behind hinside 5 hlater
  obtain ⟨first, hfirst, -, -, -, -, hlt⟩ := hpositions behind inner.stop hbehind 9 hlast
  obtain rfl := Option.some.inj (hlater.symm.trans hfirst)
  obtain ⟨hexists, hwithin⟩ := hnested outer inner hinside hstop ⟨5, 12⟩ houter
  obtain ⟨part, hpart⟩ := hexists hbehind
  exact ⟨hshort, hinside, hlater, ⟨earlier, hearlier, hle⟩, hbehind, by decide, hlast,
    hlt (by decide), hstop, houter, part, hpart, hwithin part hpart⟩

end Bilingual
