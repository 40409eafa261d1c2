import Bilingual.Text.Search

/-!
Texts that begin and end alike. Where a pattern does not, it cannot begin in front of
an occurrence of itself and end inside it, so that the search passes over whatever
does not hold the pattern.
-/

namespace Bilingual.Text

/-- A shorter text, not empty, stands both at the head and at the end. -/
def HasBorder (cs : List Char) : Prop :=
  ∃ border, border ≠ [] ∧ border ≠ cs ∧ border <+: cs ∧ border <:+ cs

variable {pattern cs rest gap : List Char}

theorem hasBorder_iff :
    HasBorder cs ↔ ∃ front border back, front ≠ [] ∧ border ≠ [] ∧ cs = front ++ border ∧
      cs = border ++ back := by
  constructor
  · rintro ⟨border, hne, hproper, ⟨back, hback⟩, ⟨front, hfront⟩⟩
    refine ⟨front, border, back, ?_, hne, hfront.symm, hback.symm⟩
    rintro rfl
    exact hproper hfront
  · rintro ⟨front, border, back, hfront, hne, hsplit, hsplit'⟩
    refine ⟨border, hne, ?_, ⟨back, hsplit'.symm⟩, ⟨front, hsplit.symm⟩⟩
    rintro rfl
    exact hfront (List.self_eq_append_left.1 hsplit)

/-- What a border sets off in front moves a text along itself. -/
theorem append_eq_append_of_border {front border back : List Char} (h : cs = front ++ border)
    (h' : cs = border ++ back) : front ++ cs = cs ++ back := by
  calc front ++ cs = front ++ (border ++ back) := by rw [← h']
    _ = front ++ border ++ back := (List.append_assoc ..).symm
    _ = cs ++ back := by rw [← h]

/-- A border would begin with the first character once more. -/
theorem not_hasBorder_cons {c : Char} (h : c ∉ cs) : ¬ HasBorder (c :: cs) := by
  rw [hasBorder_iff]
  rintro ⟨front, border, back, hfront, hne, hsplit, hsplit'⟩
  obtain ⟨first, front, rfl⟩ := List.exists_cons_of_ne_nil hfront
  obtain ⟨head, border, rfl⟩ := List.exists_cons_of_ne_nil hne
  obtain ⟨-, htail⟩ := List.cons.inj hsplit
  obtain ⟨rfl, -⟩ := List.cons.inj hsplit'
  exact h (by simp [htail])

theorem find?_of_after? (h : after? pattern cs = some rest) (here : Nat) :
    find? pattern cs here = some (here, rest) := by
  cases cs with
  | nil => simp [find?, h]
  | cons c cs => simp [find?, h]

theorem find?_eq_none_of_not_infix (h : ¬ pattern <:+: cs) (here : Nat) :
    find? pattern cs here = none := by
  rw [Option.eq_none_iff_forall_not_mem]
  rintro ⟨start, rest⟩ hfound
  obtain ⟨before, hsplit, -⟩ := eq_append_of_find? hfound
  exact h ⟨before, rest, hsplit.symm⟩

/-- An occurrence that begins in a gap and is not over with it makes a border. -/
theorem infix_or_hasBorder {more : List Char} (hgap : gap ≠ [])
    (h : pattern <+: gap ++ (pattern ++ more)) : pattern <:+: gap ∨ HasBorder pattern := by
  rcases List.prefix_or_prefix_of_prefix h (List.prefix_append gap _) with hin | ⟨border, hborder⟩
  · exact Or.inl hin.isInfix
  · cases border with
    | nil =>
        rw [List.append_nil] at hborder
        exact Or.inl (hborder ▸ List.infix_refl gap)
    | cons c border =>
        have hhead : c :: border <+: pattern ++ more := by
          rw [← List.prefix_append_right_inj gap, hborder]
          exact h
        have hshort : (c :: border).length ≤ pattern.length := by
          rw [← hborder, List.length_append]
          omega
        obtain ⟨back, hback⟩ :=
          List.prefix_of_prefix_length_le hhead (List.prefix_append pattern more) hshort
        exact Or.inr (hasBorder_iff.2
          ⟨gap, c :: border, back, hgap, List.cons_ne_nil c border, hborder.symm, hback.symm⟩)

/-- A gap without the pattern hides no occurrence that follows it. -/
theorem find?_behind_gap (hborder : ¬ HasBorder pattern) (hgap : ¬ pattern <:+: gap)
    (more : List Char) (here : Nat) :
    find? pattern (gap ++ (pattern ++ more)) here = some (here + byteSize gap, more) := by
  induction gap generalizing here with
  | nil => exact find?_of_after? (after?_eq_some_iff.2 rfl) here
  | cons c gap ih =>
      have hnone : after? pattern (c :: (gap ++ (pattern ++ more))) = none := by
        rw [Option.eq_none_iff_forall_not_mem]
        intro behind hbehind
        have hprefix : pattern <+: c :: gap ++ (pattern ++ more) :=
          ⟨behind, (after?_eq_some_iff.1 hbehind).symm⟩
        exact (infix_or_hasBorder (List.cons_ne_nil c gap) hprefix).elim hgap hborder
      have hrest : ¬ pattern <:+: gap := fun h => hgap (h.trans (List.suffix_cons c gap).isInfix)
      rw [List.cons_append, find?, hnone]
      rw [ih hrest, byteSize_cons, Nat.add_assoc]

end Bilingual.Text
