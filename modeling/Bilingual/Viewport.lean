import Bilingual.Region

/-!
Which of the two languages of a document is in force, at a cursor and for a
viewport made of several visible ranges.
-/

namespace Bilingual

/-- The two languages of a document. -/
inductive Tag
  | script
  | template
  deriving DecidableEq, Repr

def Tag.text : Tag → String
  | .script => "script"
  | .template => "template"

/-- What a viewport shows. -/
structure View where
  script : Bool
  template : Bool
  deriving DecidableEq, Repr

namespace View

def nothing : View := ⟨false, false⟩

def hasBoth (v : View) : Bool := v.script && v.template

/-- The language that a viewport settles on by itself. One with both leaves the
choice to the cursor. -/
def settled? (v : View) : Option Tag :=
  if v.hasBoth then none else if v.script then some .script else some .template

/-- A range shows script if it overlaps a region, and template unless a single
region covers it. -/
def see (regions : List Region) (v : View) (range : ByteRange) : View where
  script := v.script || regions.any (·.overlaps range)
  template := v.template || !regions.any (·.covers range)

/-- Looks at the ranges in turn, and no further once both languages were seen. -/
def seeAll (regions : List Region) : View → List ByteRange → View
  | v, [] => v
  | v, range :: ranges =>
      let seen := v.see regions range
      if seen.hasBoth then seen else seen.seeAll regions ranges

/-- What the visible ranges show together. -/
def ofRanges (regions : List Region) (visible : List ByteRange) : View :=
  nothing.seeAll regions visible

end View

namespace Tag

/-- The language at a cursor. -/
def atCursor (regions : List Region) (cursor : Nat) : Tag :=
  if regions.any (·.contains cursor) then .script else .template

/-- The language of a viewport, with the cursor deciding where it shows both. An
empty viewport is template. -/
def inView (regions : List Region) (visible : List ByteRange) (cursor : Nat) : Tag :=
  (View.ofRanges regions visible).settled?.getD (atCursor regions cursor)

end Tag

end Bilingual
