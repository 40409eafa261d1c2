import Mathlib.Algebra.Group.Nat.Defs
import Bilingual.Text.Lines

/-!
Columns of a line. A column stands for the shortest beginning of the line that has
at least so many units, and for the whole line where there is none. Columns are
counted in 32 bits, which is enough for a line of fewer than `2 ^ 32` units.
-/

namespace Bilingual.Text

/-- The offset of the first character at or behind the column `character`, if the line
has one, and the end of the line if not. The line `cs` begins at offset `here` and column
`column`. -/
def columnOffset (character : UInt32) : List Char → Nat → UInt32 → Nat
  | [], here, _ => here
  | c :: cs, here, column =>
      if character ≤ column then here
      else columnOffset character cs (here + c.utf8Size) (column + units c)

variable {c : Char} {cs front other : List Char} {column : Nat}

theorem units_toNat (c : Char) : (units c).toNat = 1 ∨ (units c).toNat = 2 := by
  unfold units
  split
  · exact Or.inl rfl
  · exact Or.inr rfl

/-- `front` is what a column of the line `cs` stands behind. -/
structure IsColumn (column : Nat) (cs front : List Char) : Prop where
  isPrefix : front <+: cs
  reached :
    (column ≤ unitSize front ∧
      ∀ other, other <+: cs → column ≤ unitSize other → byteSize front ≤ byteSize other) ∨
    (front = cs ∧ ∀ other, other <+: cs → unitSize other < column)

theorem byteSize_le_of_prefix (h : front <+: cs) : byteSize front ≤ byteSize cs := by
  obtain ⟨more, rfl⟩ := h
  simp

theorem isColumn_zero (cs : List Char) : IsColumn 0 cs [] :=
  ⟨List.nil_prefix, Or.inl ⟨Nat.le_refl _, fun _ _ _ => Nat.zero_le _⟩⟩

theorem isColumn_nil (h : 0 < column) : IsColumn column [] [] :=
  ⟨List.prefix_refl _, Or.inr ⟨rfl, fun other ho => by
    obtain rfl := List.prefix_nil.1 ho
    exact h⟩⟩

/-- A column behind the first character is one of what stands behind it. -/
theorem IsColumn.cons (h : IsColumn (column - (units c).toNat) cs front) (hpos : 0 < column) :
    IsColumn column (c :: cs) (c :: front) := by
  refine ⟨(List.prefix_cons_inj c).2 h.isPrefix, ?_⟩
  rcases h.reached with ⟨hreached, hleast⟩ | ⟨rfl, hnone⟩
  · refine Or.inl ⟨by simp only [unitSize_cons]; omega, fun other ho hle => ?_⟩
    cases other with
    | nil => exact absurd hle (Nat.not_le.2 hpos)
    | cons d other =>
        obtain ⟨rfl, htail⟩ := List.cons_prefix_cons.1 ho
        have := hleast other htail (by simp only [unitSize_cons] at hle; omega)
        simpa using this
  · refine Or.inr ⟨rfl, fun other ho => ?_⟩
    cases other with
    | nil => exact hpos
    | cons d other =>
        obtain ⟨rfl, htail⟩ := List.cons_prefix_cons.1 ho
        have := hnone other htail
        simp only [unitSize_cons]
        omega

/-- A counter that stays below the units of a line does not go round. -/
theorem toNat_add_units (c : Char) {column : UInt32}
    (h : column.toNat + (units c).toNat < 2 ^ 32) :
    (column + units c).toNat = column.toNat + (units c).toNat := by
  rw [UInt32.toNat_add, Nat.mod_eq_of_lt h]

/-- The conversion finds the column, as long as the counter does not go round. -/
theorem isColumn_columnOffset (character : UInt32) (cs : List Char) (column : UInt32)
    (h : column.toNat + unitSize cs < 2 ^ 32) :
    ∃ front, IsColumn (character.toNat - column.toNat) cs front ∧
      ∀ here, columnOffset character cs here column = here + byteSize front := by
  induction cs generalizing column with
  | nil =>
      refine ⟨[], ?_, fun _ => rfl⟩
      rcases Nat.eq_zero_or_pos (character.toNat - column.toNat) with hzero | hpos
      · rw [hzero]
        exact isColumn_zero []
      · exact isColumn_nil hpos
  | cons c cs ih =>
      by_cases hle : character ≤ column
      · have hzero : character.toNat - column.toNat = 0 :=
          Nat.sub_eq_zero_of_le (UInt32.le_iff_toNat_le.1 hle)
        exact ⟨[], hzero ▸ isColumn_zero (c :: cs), fun _ => if_pos hle⟩
      · have hlt : column.toNat < character.toNat :=
          Nat.lt_of_not_le fun h => hle (UInt32.le_iff_toNat_le.2 h)
        rw [unitSize_cons] at h
        have hsum := toNat_add_units c (show column.toNat + (units c).toNat < 2 ^ 32 by omega)
        obtain ⟨front, hfront, hoffset⟩ := ih (column + units c) (by omega)
        rw [hsum, ← Nat.sub_sub] at hfront
        refine ⟨c :: front, hfront.cons (by omega), fun here => ?_⟩
        rw [columnOffset, if_neg hle, hoffset, byteSize_cons, Nat.add_assoc]

/-- Each column of a short line has its front, wherever the line stands. -/
theorem exists_isColumn (character : UInt32) (h : unitSize cs < 2 ^ 32) :
    ∃ front, IsColumn character.toNat cs front ∧
      ∀ here, columnOffset character cs here 0 = here + byteSize front := by
  obtain ⟨front, hfront, hoffset⟩ :=
    isColumn_columnOffset character cs 0 (by rwa [UInt32.toNat_zero, Nat.zero_add])
  exact ⟨front, by rwa [UInt32.toNat_zero, Nat.sub_zero] at hfront, hoffset⟩

/-- A column further to the right stands for no earlier offset. -/
theorem IsColumn.mono {column' : Nat} (h : IsColumn column cs front)
    (h' : IsColumn column' cs other) (hle : column ≤ column') :
    byteSize front ≤ byteSize other := by
  rcases h'.reached with ⟨hreached', -⟩ | ⟨rfl, -⟩
  · rcases h.reached with ⟨-, hleast⟩ | ⟨-, hnone⟩
    · exact hleast other h'.isPrefix (Nat.le_trans hle hreached')
    · exact absurd (hnone other h'.isPrefix) (Nat.not_lt.2 (Nat.le_trans hle hreached'))
  · exact byteSize_le_of_prefix h.isPrefix

/-- A column stands for one offset. -/
theorem IsColumn.byteSize_eq (h : IsColumn column cs front) (h' : IsColumn column cs other) :
    byteSize front = byteSize other :=
  Nat.le_antisymm (h.mono h' (Nat.le_refl _)) (h'.mono h (Nat.le_refl _))

theorem eq_nil_of_unitSize_eq_zero (h : unitSize cs = 0) : cs = [] := by
  cases cs with
  | nil => rfl
  | cons c cs =>
      rw [unitSize_cons] at h
      have := units_toNat c
      omega

/-- A beginning of a line is found at the column behind it. -/
theorem isColumn_unitSize (front more : List Char) :
    IsColumn (unitSize front) (front ++ more) front := by
  refine ⟨List.prefix_append _ _, Or.inl ⟨Nat.le_refl _, fun other ho hle => ?_⟩⟩
  rcases List.prefix_or_prefix_of_prefix (List.prefix_append front more) ho with h | h
  · exact byteSize_le_of_prefix h
  · obtain ⟨rest, rfl⟩ := h
    rw [unitSize_append] at hle
    obtain rfl : rest = [] := eq_nil_of_unitSize_eq_zero (by omega)
    simp

/-- A column past the end is found at the end. -/
theorem isColumn_of_unitSize_le (h : unitSize cs ≤ column) : IsColumn column cs cs := by
  rcases Nat.eq_or_lt_of_le h with rfl | hlt
  · simpa using isColumn_unitSize cs []
  · refine ⟨List.prefix_refl cs, Or.inr ⟨rfl, fun other ho => ?_⟩⟩
    obtain ⟨more, rfl⟩ := ho
    rw [unitSize_append] at hlt
    omega

theorem columnOffset_of_unitSize_le {character : UInt32} (h : unitSize cs ≤ character.toNat)
    (here : Nat) : columnOffset character cs here 0 = here + byteSize cs := by
  obtain ⟨front, hfront, hoffset⟩ :=
    exists_isColumn character (Nat.lt_of_le_of_lt h character.toNat_lt)
  rw [hoffset, hfront.byteSize_eq (isColumn_of_unitSize_le h)]

/-- A column that a line reaches is not moved by what is added to the line. -/
theorem columnOffset_append_of_le {character column : UInt32} (more : List Char)
    (hsmall : column.toNat + unitSize front < 2 ^ 32)
    (hle : character.toNat ≤ column.toNat + unitSize front) (here : Nat) :
    columnOffset character (front ++ more) here column =
      columnOffset character front here column := by
  induction front generalizing here column with
  | nil =>
      have hreached : character ≤ column := UInt32.le_iff_toNat_le.2 hle
      cases more with
      | nil => rfl
      | cons c more => exact if_pos hreached
  | cons c front ih =>
      rw [unitSize_cons] at hsmall hle
      rw [List.cons_append, columnOffset, columnOffset]
      split
      · rfl
      · have hsum := toNat_add_units c (show column.toNat + (units c).toNat < 2 ^ 32 by omega)
        exact ih (by omega) (by omega) (here + c.utf8Size)

/-- What is added to a short line moves none of its columns. -/
theorem columnOffset_append {character : UInt32} (more : List Char)
    (hsmall : unitSize front < 2 ^ 32) (hle : character.toNat ≤ unitSize front) (here : Nat) :
    columnOffset character (front ++ more) here 0 = columnOffset character front here 0 :=
  columnOffset_append_of_le more (by rwa [UInt32.toNat_zero, Nat.zero_add])
    (by rwa [UInt32.toNat_zero, Nat.zero_add]) here

end Bilingual.Text
