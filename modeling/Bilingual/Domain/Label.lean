import Bilingual.Domain.Mapping
import Bilingual.Domain.Punycode
import Bilingual.Unicode.Direction
import Bilingual.Unicode.Joining
import Bilingual.Unicode.Mark
import Bilingual.Unicode.Normal

/-!
Labels of domain names: the parts between dots. A label outside ASCII is written
in Punycode behind `xn--`.
-/

namespace Bilingual.Domain.Label

open Unicode

def isAscii (label : List Char) : Bool := label.all (·.toNat < 0x80)

/-- Whether a character stands for itself. -/
def isSettled (c : Char) : Bool := Mapping.ofChar? c = some [c]

/-- The characters of a label that may be written in Punycode. What it stands for
has to be in the form that names are brought into, and is not in ASCII. -/
def read? : List Char → Option (List Char)
  | 'x' :: 'n' :: '-' :: '-' :: code => do
      if code.isEmpty || code.getLast? = some '-' || 2000 < code.length || !isAscii code then none
      let label ← Punycode.decode? code
      if label.all isSettled && Normal.ofText label = label then some label else none
  | label => some label

/-- The written form of a label. -/
def write? (label : List Char) : Option (List Char) :=
  if isAscii label then some label
  else if 1000 < label.length then none
  else some ("xn--".toList ++ Punycode.encode label)

/-- Whether a joiner may stand behind `before`, which is given backwards, and in
front of `after`. It belongs behind a sign that takes a vowel away, and the one
that parts letters also between two that would join. -/
def isJoinerAllowed (c : Char) (before after : List Char) : Bool :=
  let joins := fun (how : Char → Bool) (cs : List Char) =>
    (cs.dropWhile Joining.isTransparent).head?.any how
  before.head?.any (Combining.ofChar · = Combining.virama) ||
    c = '\u200C' && joins Joining.joinsBehind before && joins Joining.joinsInFront after

/-- Whether all joiners may stand where they do. -/
def joinersAllowed (before : List Char) : List Char → Bool
  | [] => true
  | c :: cs =>
      (!(c = '\u200C' || c = '\u200D') || isJoinerAllowed c before cs) &&
        joinersAllowed (c :: before) cs

/-- Whether a label is sound by itself. -/
def isSound (label : List Char) : Bool :=
  isAscii label || !(label.head?.any Mark.isMark) && joinersAllowed [] label

/-- Whether a label makes the name run from right to left. -/
def turns (label : List Char) : Bool :=
  label.any fun c => Direction.ofChar c ∈ [.rightToLeft, .arabicNumber]

/-- Whether a label of a name that runs from right to left begins with a letter,
ends with a letter or a number, and keeps one direction between. -/
def keepsDirection (label : List Char) : Bool :=
  match label.map Direction.ofChar with
  | [] => true
  | first :: others =>
      let trimmed := others.reverse.dropWhile (· = .mark)
      let numbers := [Direction.europeanNumber, .arabicNumber]
      match first with
      | .leftToRight =>
          trimmed.head?.all (· ∈ [.leftToRight, .europeanNumber]) &&
            trimmed.all (· ∉ [.rightToLeft, .arabicNumber])
      | .rightToLeft =>
          trimmed.head?.all (· ∈ .rightToLeft :: numbers) &&
            trimmed.all (· ≠ .leftToRight) && !numbers.all (trimmed.contains ·)
      | _ => false

end Bilingual.Domain.Label
