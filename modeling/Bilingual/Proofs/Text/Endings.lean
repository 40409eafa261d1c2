import Bilingual.Proofs.Text.Columns
import Bilingual.Proofs.Text.Lines

/-!
Lines with what ends them. The conversion of positions counts a carriage return to its
line, and so a column past the end of what is written on a line may stand for the offset
between a carriage return and its line feed.
-/

namespace Bilingual

namespace Text

/-- What ends a line, other than the end of the text. -/
inductive Ending
  | feed
  | returnFeed
  | none
  deriving DecidableEq, Repr

namespace Ending

/-- What the conversion counts to the line. -/
def onLine : Ending → List Char
  | .returnFeed => ['\r']
  | .feed | .none => []

/-- What sets the line off from the next one. -/
def behind : Ending → List Char
  | .returnFeed | .feed => ['\n']
  | .none => []

end Ending

/-- The text `cs` has `content` as a line, which excludes what ends the line. -/
structure IsEndedLine (cs : List Char) (number : Nat) (before content : List Char)
    (ending : Ending) (after : List Char) : Prop where
  split : cs = before ++ (content ++ (ending.onLine ++ ending.behind ++ after))
  number_eq : before.count '\n' = number
  opens : ∀ c ∈ before.getLast?, c = '\n'
  whole : '\n' ∉ content
  bare : ending = .feed → ∀ c ∈ content.getLast?, c ≠ '\r'
  complete : ending = .none → after = []

variable {cs before content after line : List Char} {number : Nat} {ending : Ending}

theorem IsEndedLine.isLine (h : IsEndedLine cs number before content ending after) :
    IsLine cs number before (content ++ ending.onLine) (ending.behind ++ after) := by
  refine ⟨by simp [h.split], h.number_eq, h.opens, ?_, ?_⟩
  · cases ending <;> simp [Ending.onLine, h.whole]
  · cases ending with
    | feed | returnFeed => simp [Ending.behind]
    | none => simp [Ending.behind, h.complete rfl]

/-- Each line is ended in one of the three ways. -/
theorem IsLine.exists_isEndedLine (h : IsLine cs number before line after) :
    ∃ content ending after', IsEndedLine cs number before content ending after' := by
  obtain rfl | ⟨rest, rfl⟩ := h.after_cases
  · exact ⟨line, .none, [], by simpa [Ending.onLine, Ending.behind] using h.split, h.number_eq,
      h.opens, h.whole, nofun, fun _ => rfl⟩
  · by_cases hreturn : line.getLast? = some '\r'
    · obtain ⟨content, rfl⟩ := List.getLast?_eq_some_iff.1 hreturn
      have hwhole : '\n' ∉ content := fun hmem => h.whole (List.mem_append_left _ hmem)
      exact ⟨content, .returnFeed, rest, by simpa [Ending.onLine, Ending.behind] using h.split,
        h.number_eq, h.opens, hwhole, nofun, nofun⟩
    · refine ⟨line, .feed, rest, by simpa [Ending.onLine, Ending.behind] using h.split,
        h.number_eq, h.opens, h.whole, fun _ c hc => ?_, nofun⟩
      rintro rfl
      exact hreturn hc

end Text

namespace LinedText

open Text

variable {text : String} {p : Position} {before content after : List Char} {ending : Ending}

/-- A column past the end of what is written on a line stands for that end, unless a
carriage return stands there. -/
theorem offset?_of_past_content
    (h : IsEndedLine text.toList p.line.toNat before content ending after)
    (hle : unitSize content ≤ p.character.toNat)
    (hreturn : ending = .returnFeed → p.character.toNat ≤ unitSize content) :
    (ofText text).offset? p = some (byteSize (before ++ content)) := by
  have hshort : columnOffset p.character content (byteSize before) 0 =
      byteSize (before ++ content) := by
    rw [columnOffset_of_unitSize_le hle, byteSize_append]
  rw [offset?_of_isLine h.isLine]
  cases ending with
  | feed | none => simpa [Ending.onLine] using hshort
  | returnFeed =>
      have hsmall := Nat.lt_of_le_of_lt hle p.character.toNat_lt
      rw [columnOffset_append _ hsmall (hreturn rfl), hshort]

/-- A column that is further to the right than the carriage return stands for the offset
between it and its line feed. -/
theorem offset?_of_past_return
    (h : IsEndedLine text.toList p.line.toNat before content .returnFeed after)
    (hlt : unitSize content < p.character.toNat) :
    (ofText text).offset? p = some (byteSize (before ++ content) + 1) := by
  have hunits : unitSize (content ++ Ending.returnFeed.onLine) = unitSize content + 1 := by
    rw [unitSize_append]
    rfl
  have hbytes : byteSize (content ++ Ending.returnFeed.onLine) = byteSize content + 1 := by
    rw [byteSize_append]
    rfl
  rw [offset?_of_isLine h.isLine, columnOffset_of_unitSize_le (by omega), hbytes, byteSize_append,
    Nat.add_assoc]

end LinedText

end Bilingual
