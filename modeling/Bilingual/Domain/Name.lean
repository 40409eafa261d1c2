import Bilingual.Domain.Label

/-!
Domain names in the form that they are looked up in: lower case, composed, and
ASCII.
-/

namespace Bilingual.Domain.Name

/-- Characters that no name may have. -/
def isForbidden (c : Char) : Bool :=
  c.val ≤ 0x20 || c.val = 0x7F || "#%/:<>?@[\\]^|".toList.contains c

/-- The name that a text is brought to, if it is one. -/
def ofText? (s : String) : Option String := do
  let mapped ← s.toList.mapM Mapping.ofChar?
  let name := Unicode.Normal.ofText mapped.flatten
  if name.any isForbidden then none
  let labels ← (Text.split (· = '.') name).mapM Label.read?
  if labels.all Label.isSound && (labels.all Label.keepsDirection || !labels.any Label.turns) then
    let written ← labels.mapM Label.write?
    some (String.ofList (['.'].intercalate written))
  else none

end Bilingual.Domain.Name
