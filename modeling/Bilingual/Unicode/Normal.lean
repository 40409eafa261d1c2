import Bilingual.Unicode.Combining
import Bilingual.Unicode.Composition

/-!
The composed normal form of a text. Texts that differ in what is composed, or in
the order of marks whose order does not matter, have the same one.
-/

namespace Bilingual.Unicode.Normal

/-- A character without its marks, and the marks. Compositions are nested `depth`
times at most. -/
def decompose (depth : Nat) (c : Char) : List Char :=
  match depth with
  | 0 => [c]
  | depth + 1 =>
      match Composition.parts? c with
      | some (first, second) => decompose depth first ++ [second]
      | none => [c]

/-- Puts a character in front of sorted marks, among those it belongs behind. -/
def place (c : Char) : List Char → List Char
  | [] => [c]
  | d :: ds =>
      if 0 < Combining.ofChar d ∧ Combining.ofChar d < Combining.ofChar c then d :: place c ds
      else c :: d :: ds

/-- Sorts the marks of each character by class. -/
def arrange (cs : List Char) : List Char := cs.foldr place []

/-- Composes `base` with the marks behind it. Those kept so far are in `kept`,
the last one first. A mark is hidden by one of its own class. -/
def composeWith (base : Char) (kept : List Char) : List Char → List Char
  | [] => base :: kept.reverse
  | c :: cs =>
      let hidden := match kept with
        | [] => false
        | d :: _ => Combining.ofChar c ≤ Combining.ofChar d
      match if hidden then none else Composition.whole? base c with
      | some whole => composeWith whole kept cs
      | none =>
          if Combining.ofChar c = 0 then base :: (kept.reverse ++ composeWith c [] cs)
          else composeWith base (c :: kept) cs

def compose : List Char → List Char
  | [] => []
  | c :: cs => if Combining.ofChar c = 0 then composeWith c [] cs else c :: compose cs

def ofText (cs : List Char) : List Char := compose (arrange (cs.flatMap (decompose 3)))

end Bilingual.Unicode.Normal
