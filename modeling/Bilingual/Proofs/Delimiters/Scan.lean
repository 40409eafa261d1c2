import Bilingual.Delimiters
import Bilingual.Proofs.Text.Occurrence

/-!
The scan step by step, and what it and the search make of a text that stands further
on or that goes on at its end.
-/

namespace Bilingual

/-- The same block further on. -/
def Region.shift (distance : Nat) (r : Region) : Region :=
  ⟨r.start + distance, r.stop + distance⟩

namespace Text

theorem find?_add (pattern cs : List Char) (here distance : Nat) :
    find? pattern cs (here + distance) =
      (find? pattern cs here).map fun (start, rest) => (start + distance, rest) := by
  induction cs generalizing here with
  | nil =>
      simp only [find?, Option.map_map]
      rfl
  | cons c cs ih =>
      simp only [find?]
      split
      · rfl
      · rw [Nat.add_right_comm, ih]

/-- No occurrence comes in front of the first one when the text goes on. One that
reached into what is added would stop behind the first one, and they are equally long. -/
theorem find?_append {pattern cs rest : List Char} {here start : Nat}
    (h : find? pattern cs here = some (start, rest)) (more : List Char) :
    find? pattern (cs ++ more) here = some (start, rest ++ more) := by
  induction cs generalizing here with
  | nil =>
      obtain ⟨front, hfront, hsome⟩ := Option.map_eq_some_iff.1 h
      cases hsome
      have hsplit : [] = pattern ++ rest := after?_eq_some_iff.1 hfront
      obtain ⟨rfl, rfl⟩ := List.append_eq_nil_iff.1 hsplit.symm
      cases more <;> rfl
  | cons c cs ih =>
      simp only [find?] at h
      rw [List.cons_append, find?]
      split at h
      · next front hfront =>
          cases h
          have hafter : after? pattern (c :: (cs ++ more)) = some (rest ++ more) := by
            rw [after?_eq_some_iff, ← List.cons_append, after?_eq_some_iff.1 hfront,
              List.append_assoc]
          rw [hafter]
      · next hnone =>
          have hlength := length_of_find? h
          have hafter : after? pattern (c :: (cs ++ more)) = none := by
            rw [Option.eq_none_iff_forall_not_mem]
            intro behind hbehind
            have hprefix : pattern <+: (c :: cs) ++ more :=
              ⟨behind, (after?_eq_some_iff.1 hbehind).symm⟩
            have hshort : pattern <+: c :: cs :=
              List.prefix_of_prefix_length_le hprefix (List.prefix_append _ _)
                (by rw [List.length_cons]; omega)
            obtain ⟨behind', hbehind'⟩ := hshort
            exact absurd (after?_eq_some_iff.2 hbehind'.symm) (by simp [hnone])
          rw [hafter]
          exact ih h

end Text

namespace Delimiters

variable {d : Delimiters} {cs body rest : List Char} {here start inner : Nat}

theorem scanFrom_of_unopened (h : Text.find? d.opening.toList cs here = none) :
    d.scanFrom cs here = [] := by
  rw [scanFrom]
  split
  · rfl
  · next ho => cases ho.symm.trans h

theorem scanFrom_of_unclosed (ho : Text.find? d.opening.toList cs here = some (start, body))
    (hc : Text.find? d.closing.toList body (start + d.opening.utf8ByteSize) = none) :
    d.scanFrom cs here = [] := by
  rw [scanFrom]
  split
  · rfl
  · next ho' =>
      cases ho'.symm.trans ho
      split
      · rfl
      · next hc' => cases hc'.symm.trans hc

theorem scanFrom_of_block (ho : Text.find? d.opening.toList cs here = some (start, body))
    (hc : Text.find? d.closing.toList body (start + d.opening.utf8ByteSize) =
      some (inner, rest)) :
    d.scanFrom cs here =
      ⟨start, inner + d.closing.utf8ByteSize⟩ ::
        d.scanFrom rest (inner + d.closing.utf8ByteSize) := by
  rw [scanFrom]
  split
  · next ho' => cases ho'.symm.trans ho
  · next ho' =>
      cases ho'.symm.trans ho
      split
      · next hc' => cases hc'.symm.trans hc
      · next hc' =>
          cases hc'.symm.trans hc
          rfl

/-- Where a text begins makes no difference to its blocks, other than their place. -/
theorem scanFrom_add (d : Delimiters) (cs : List Char) (here distance : Nat) :
    d.scanFrom cs (here + distance) = (d.scanFrom cs here).map (Region.shift distance) := by
  fun_induction d.scanFrom cs here with
  | case1 cs here ho =>
      exact scanFrom_of_unopened (by rw [Text.find?_add, ho]; rfl)
  | case2 cs here start body ho hc =>
      have hopen : Text.find? d.opening.toList cs (here + distance) =
          some (start + distance, body) := by
        rw [Text.find?_add, ho]
        rfl
      have hclose : Text.find? d.closing.toList body
          (start + distance + d.opening.utf8ByteSize) = none := by
        rw [Nat.add_right_comm, Text.find?_add, hc]
        rfl
      exact scanFrom_of_unclosed hopen hclose
  | case3 cs here start body ho inner rest hc ih =>
      have hopen : Text.find? d.opening.toList cs (here + distance) =
          some (start + distance, body) := by
        rw [Text.find?_add, ho]
        rfl
      have hclose : Text.find? d.closing.toList body
          (start + distance + d.opening.utf8ByteSize) = some (inner + distance, rest) := by
        rw [Nat.add_right_comm, Text.find?_add, hc]
        rfl
      rw [scanFrom_of_block hopen hclose, Nat.add_right_comm, ih]
      rfl

end Delimiters

end Bilingual
