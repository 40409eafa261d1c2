import Bilingual.Cache
import Bilingual.Document

/-!
Reactions to what happens in an editor: the regions of the document are looked
up, a language is chosen, and the editor is asked to take the document for it.
-/

namespace Bilingual

/-- A request to take a document for one of its languages. -/
structure Retag where
  document : Uri
  tag : Tag
  deriving DecidableEq, Repr

/-- What came of an event. -/
structure Reaction where
  cache : Cache
  tag : Option Tag
  requests : List Retag
  scanned : Bool
  log : List Event

namespace Reaction

/-- The cursor moved to an offset. -/
def toCursor (scan : Finder) (cache : Cache) (d : Document) (cursor : Nat) : Reaction :=
  let found := cache.lookUp scan d.uri d.version d.text
  let tag := Tag.atCursor found.regions cursor
  { cache := found.cache, tag := some tag, requests := [⟨d.uri, tag⟩], scanned := found.scanned
    log := found.log ++ [.cursorDecided d.uri cursor tag] }

/-- Other parts of the document are visible. The cursor decides only where both
languages are; a viewport without ranges, and one with both languages but no
cursor, is left alone. -/
def toViewport (scan : Finder) (cache : Cache) (d : Document) (visible : List ByteRange)
    (cursor : Option Nat) : Reaction :=
  if visible.isEmpty then
    { cache, tag := none, requests := [], scanned := false, log := [] }
  else
    let found := cache.lookUp scan d.uri d.version d.text
    let seen := View.ofRanges found.regions visible
    match seen.settled? <|> cursor.map (Tag.atCursor found.regions) with
    | none =>
        { cache := found.cache, tag := none, requests := [], scanned := found.scanned
          log := found.log ++ [.viewportUndecided d.uri] }
    | some tag =>
        { cache := found.cache, tag := some tag, requests := [⟨d.uri, tag⟩]
          scanned := found.scanned
          log := found.log ++ [.viewportDecided d.uri visible cursor tag] }

/-- A document was closed. -/
def toClosing (cache : Cache) (document : Uri) : Reaction :=
  let (cache, log) := cache.forget document
  { cache, tag := none, requests := [], scanned := false, log }

/-- Nothing more will be asked. -/
def toEnd (cache : Cache) : Reaction :=
  { cache := cache.forgetAll, tag := none, requests := [], scanned := false, log := [] }

end Reaction

end Bilingual
