/-!
Cutting a list at marks, which belong to none of the pieces.
-/

namespace Bilingual.Text

/-- Pieces between separators. There is at least one. -/
def split {α : Type} (isSeparator : α → Bool) : List α → List (List α)
  | [] => [[]]
  | c :: cs =>
      if isSeparator c then [] :: split isSeparator cs
      else
        match split isSeparator cs with
        | [] => [[c]]
        | s :: ss => (c :: s) :: ss

/-- Pieces of a text between blanks and line breaks, of which none is empty. -/
def words (cs : List Char) : List (List Char) :=
  (split (fun c => c = ' ' || c = '\n') cs).filter (!·.isEmpty)

/-- Cuts a text at the first `mark`, if it has one. -/
def cut (mark : Char) (cs : List Char) : List Char × Option (List Char) :=
  match cs.dropWhile (· ≠ mark) with
  | [] => (cs, none)
  | _ :: rest => (cs.takeWhile (· ≠ mark), some rest)

end Bilingual.Text
