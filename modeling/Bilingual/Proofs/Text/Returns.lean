import Bilingual.Proofs.Text.Positions

/-!
A text with a carriage return put in front of each line feed. Offsets grow by the number
of line feeds in front of them, which keeps their order, and a position that is on a line
stands in front of the same character as before.
-/

namespace Bilingual

namespace Text

/-- The text with a carriage return in front of each line feed. -/
def withReturns (cs : List Char) : List Char :=
  cs.flatMap fun c => if c = '\n' then ['\r', '\n'] else [c]

def returned (text : String) : String := String.ofList (withReturns text.toList)

/-- Two offsets in front of the same character of the text `cs`, one of them counted with
the carriage returns. -/
def Moves (cs : List Char) (offset offset' : Nat) : Prop :=
  ∃ before after, cs = before ++ after ∧ byteSize before = offset ∧
    byteSize (withReturns before) = offset'

variable {cs before content after : List Char} {c : Char} {number : Nat}

@[simp] theorem toList_returned (text : String) :
    (returned text).toList = withReturns text.toList :=
  String.toList_ofList

@[simp] theorem withReturns_nil : withReturns [] = [] := rfl

@[simp] theorem withReturns_append (a b : List Char) :
    withReturns (a ++ b) = withReturns a ++ withReturns b :=
  List.flatMap_append

@[simp] theorem withReturns_feed (cs : List Char) :
    withReturns ('\n' :: cs) = '\r' :: '\n' :: withReturns cs := rfl

theorem withReturns_cons_of_ne (h : c ≠ '\n') (cs : List Char) :
    withReturns (c :: cs) = c :: withReturns cs := by
  simp [withReturns, h]

theorem withReturns_of_not_mem (h : '\n' ∉ cs) : withReturns cs = cs := by
  induction cs with
  | nil => rfl
  | cons c cs ih =>
      obtain ⟨hc, hcs⟩ := not_or.1 (mt List.mem_cons.2 h)
      rw [withReturns_cons_of_ne (Ne.symm hc), ih hcs]

theorem count_withReturns (cs : List Char) : (withReturns cs).count '\n' = cs.count '\n' := by
  induction cs with
  | nil => rfl
  | cons c cs ih =>
      by_cases hc : c = '\n'
      · subst hc
        simp [ih]
      · simp [withReturns_cons_of_ne hc, ih, hc]

theorem byteSize_le_withReturns (cs : List Char) : byteSize cs ≤ byteSize (withReturns cs) := by
  induction cs with
  | nil => exact Nat.le_refl _
  | cons c cs ih =>
      by_cases hc : c = '\n'
      · subst hc
        simp only [withReturns_feed, byteSize_cons]
        omega
      · simp only [withReturns_cons_of_ne hc, byteSize_cons]
        omega

/-- Offsets keep their order. -/
theorem Moves.le_iff {offset offset' other other' : Nat} (h : Moves cs offset offset')
    (h' : Moves cs other other') : offset ≤ other ↔ offset' ≤ other' := by
  obtain ⟨before, after, hsplit, rfl, rfl⟩ := h
  obtain ⟨before', after', hsplit', rfl, rfl⟩ := h'
  have hprefix : before <+: cs := ⟨after, hsplit.symm⟩
  have hprefix' : before' <+: cs := ⟨after', hsplit'.symm⟩
  rcases List.prefix_or_prefix_of_prefix hprefix hprefix' with ⟨rest, rfl⟩ | ⟨rest, rfl⟩
  · simp
  · have hgrows := byteSize_le_withReturns rest
    have hnone : byteSize rest = 0 → byteSize (withReturns rest) = 0 := by
      intro hzero
      rw [eq_nil_of_byteSize_eq_zero hzero]
      rfl
    simp only [withReturns_append, byteSize_append]
    omega

/-- A line keeps what is written on it and gets a carriage return at most. -/
theorem IsLine.withReturns (h : IsLine cs number before content after) :
    ∃ more after', IsLine (withReturns cs) number (withReturns before) (content ++ more) after' := by
  have hsplit : Text.withReturns cs =
      Text.withReturns before ++ (content ++ Text.withReturns after) := by
    rw [h.split, withReturns_append, withReturns_append, withReturns_of_not_mem h.whole]
  have hnumber : (Text.withReturns before).count '\n' = number := by
    rw [count_withReturns, h.number_eq]
  have hopens : ∀ c ∈ (Text.withReturns before).getLast?, c = '\n' := by
    rcases before.eq_nil_or_concat with rfl | ⟨front, c, rfl⟩
    · simp
    · obtain rfl := h.opens c (by simp)
      simp
  obtain rfl | ⟨rest, rfl⟩ := h.after_cases
  · exact ⟨[], [], by simpa using hsplit, hnumber, hopens, by simpa using h.whole, by simp⟩
  · refine ⟨['\r'], '\n' :: Text.withReturns rest, by simpa using hsplit, hnumber, hopens, ?_,
      by simp⟩
    simp [h.whole]

/-- A position on a line that exists, and not beyond what is written there. -/
def OnLine (text : String) (p : Position) : Prop :=
  ∃ before content after, IsLine text.toList p.line.toNat before content after ∧
    p.character.toNat ≤ unitSize content

end Text

namespace LinedText

open Text

variable {text : String} {p : Position} {r : PositionRange}

/-- A position on a line stands in front of the same character in both texts. -/
theorem exists_moves (hshort : ShortLines text) (hp : OnLine text p) :
    ∃ offset offset', Moves text.toList offset offset' ∧
      (ofText text).offset? p = some offset ∧
      (ofText (returned text)).offset? p = some offset' := by
  obtain ⟨before, content, after, hline, hle⟩ := hp
  have hsmall := hshort _ _ _ _ hline
  obtain ⟨front, hfront, hoffset⟩ := exists_isColumn p.character hsmall
  obtain ⟨rest, hrest⟩ := hfront.isPrefix
  have hwhole : '\n' ∉ front := fun hmem => hline.whole (hrest ▸ List.mem_append_left _ hmem)
  obtain ⟨more, after', hline'⟩ := hline.withReturns
  rw [← toList_returned] at hline'
  refine ⟨byteSize before + byteSize front, byteSize (withReturns before) + byteSize front,
    ⟨before ++ front, rest ++ after, ?_, byteSize_append before front, ?_⟩, ?_, ?_⟩
  · rw [hline.split, ← hrest]
    simp only [List.append_assoc]
  · rw [withReturns_append, withReturns_of_not_mem hwhole, byteSize_append]
  · rw [offset?_of_isLine hline, hoffset]
  · rw [offset?_of_isLine hline', columnOffset_append more hsmall hle, hoffset]

end LinedText

end Bilingual
