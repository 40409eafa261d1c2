import Bilingual.Reaction

/-!
The language that a viewport calls for, with a cursor and without one, and the
reaction to a viewport told by it.
-/

namespace Bilingual

/-- The language of a viewport. A cursor that is nowhere leaves it open where both
languages are seen, and else it does not matter. -/
def viewTag? (regions : List Region) (visible : List ByteRange) : (cursor : Option Nat) → Option Tag
  | some cursor => some (.inView regions visible cursor)
  | none =>
      if (View.ofRanges regions visible).hasBoth then none else some (.inView regions visible 0)

theorem View.settled?_cases (v : View) :
    (v.hasBoth = true ∧ v.settled? = none) ∨
      (v.hasBoth = false ∧ ∃ tag, v.settled? = some tag) := by
  cases hboth : v.hasBoth with
  | true => exact Or.inl ⟨rfl, by simp [settled?, hboth]⟩
  | false =>
      refine Or.inr ⟨rfl, if v.script then .script else .template, ?_⟩
      cases hscript : v.script <;> simp [settled?, hboth, hscript]

/-- Where one language is seen the cursor does not matter. -/
theorem inView_of_not_hasBoth {regions : List Region} {visible : List ByteRange}
    (h : (View.ofRanges regions visible).hasBoth = false) (cursor other : Nat) :
    Tag.inView regions visible cursor = Tag.inView regions visible other := by
  rcases (View.ofRanges regions visible).settled?_cases with ⟨hboth, -⟩ | ⟨-, tag, htag⟩
  · exact absurd (hboth.symm.trans h) (by decide)
  · simp only [Tag.inView, htag, Option.getD_some]

theorem viewTag?_eq (regions : List Region) (visible : List ByteRange) (cursor : Option Nat) :
    ((View.ofRanges regions visible).settled? <|> cursor.map (Tag.atCursor regions)) =
      viewTag? regions visible cursor := by
  rcases (View.ofRanges regions visible).settled?_cases with ⟨hboth, hnone⟩ | ⟨hboth, tag, htag⟩
  · cases cursor <;> simp [viewTag?, Tag.inView, hboth, hnone]
  · cases cursor <;> simp [viewTag?, Tag.inView, hboth, htag]

theorem toViewport_spec (scan : Finder) (cache : Cache) (d : Document) (visible : List ByteRange)
    (cursor : Option Nat) :
    let found := cache.lookUp scan d.uri d.version d.text
    let r := Reaction.toViewport scan cache d visible cursor
    (visible = [] ∧ r.cache = cache ∧ r.requests = [] ∧ r.tag = none ∧ r.scanned = false) ∨
      (visible ≠ [] ∧ r.cache = found.cache ∧
        r.requests = ((viewTag? found.regions visible cursor).map (⟨d.uri, ·⟩)).toList ∧
        r.tag = viewTag? found.regions visible cursor ∧ r.scanned = found.scanned) := by
  cases visible with
  | nil => exact Or.inl ⟨rfl, rfl, rfl, rfl, rfl⟩
  | cons range ranges =>
      refine Or.inr ⟨by simp, ?_⟩
      simp only [Reaction.toViewport, List.isEmpty_cons, viewTag?_eq]
      generalize cache.lookUp scan d.uri d.version d.text = found
      cases viewTag? found.regions (range :: ranges) cursor with
      | none => exact ⟨rfl, rfl, rfl, rfl⟩
      | some tag => exact ⟨rfl, rfl, rfl, rfl⟩

end Bilingual
