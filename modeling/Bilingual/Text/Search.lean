import Bilingual.Text.Size

/-!
Looking for literal text. A search reports where the first occurrence starts,
as a byte offset, together with the text behind it, so that the next search
goes on from there.
-/

namespace Bilingual.Text

/-- The text behind `pattern`, if `pattern` stands at the head. -/
def after? : List Char → List Char → Option (List Char)
  | [], cs => some cs
  | _ :: _, [] => none
  | p :: ps, c :: cs => if p = c then after? ps cs else none

/-- The first occurrence of `pattern`: its offset, where the head of the text
stands at offset `here`, and the text behind it. -/
def find? (pattern : List Char) : List Char → Nat → Option (Nat × List Char)
  | [], here => (after? pattern []).map (here, ·)
  | c :: cs, here =>
      match after? pattern (c :: cs) with
      | some rest => some (here, rest)
      | none => find? pattern cs (here + c.utf8Size)

theorem after?_eq_some_iff {pattern cs rest : List Char} :
    after? pattern cs = some rest ↔ cs = pattern ++ rest := by
  induction pattern generalizing cs with
  | nil => simp [after?, eq_comm]
  | cons p ps ih =>
      cases cs with
      | nil => simp [after?]
      | cons c cs =>
          by_cases h : p = c
          · simp [after?, h, ih]
          · simp [after?, h, Ne.symm h]

/-- What is found splits the text, and the offset counts what lies before. -/
theorem eq_append_of_find? {pattern cs rest : List Char} {here start : Nat}
    (h : find? pattern cs here = some (start, rest)) :
    ∃ before, cs = before ++ pattern ++ rest ∧ start = here + byteSize before := by
  induction cs generalizing here with
  | nil =>
      obtain ⟨r, hr, he⟩ := Option.map_eq_some_iff.1 h
      cases he
      exact ⟨[], by simpa using after?_eq_some_iff.1 hr, by simp⟩
  | cons c cs ih =>
      simp only [find?] at h
      split at h
      · next hr =>
          cases h
          exact ⟨[], by simpa using after?_eq_some_iff.1 hr, by simp⟩
      · obtain ⟨before, hs, hn⟩ := ih h
        exact ⟨c :: before, by simp [hs], by simp [hn]; omega⟩

theorem length_of_find? {pattern cs rest : List Char} {here start : Nat}
    (h : find? pattern cs here = some (start, rest)) :
    rest.length + pattern.length ≤ cs.length := by
  obtain ⟨before, rfl, -⟩ := eq_append_of_find? h
  simp; omega

end Bilingual.Text
