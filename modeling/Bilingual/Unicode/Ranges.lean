import Bilingual.Text.Digits
import Bilingual.Text.Pieces

/-!
Sets of characters, written as text: code points and ranges of them in
hexadecimal, apart by blanks.
-/

namespace Bilingual.Unicode

/-- A code point in hexadecimal. -/
def codePoint (digits : List Char) : Nat := (Text.number? 16 digits).getD 0

/-- The first and the last code point of a stretch. -/
structure Range where
  first : Nat
  last : Nat
  deriving DecidableEq, Repr

def Range.contains (r : Range) (c : Char) : Bool := r.first ≤ c.toNat && c.toNat ≤ r.last

def Range.read (word : List Char) : Range :=
  match Text.cut '-' word with
  | (one, none) => ⟨codePoint one, codePoint one⟩
  | (first, some last) => ⟨codePoint first, codePoint last⟩

abbrev Ranges := List Range

def Ranges.contains (rs : Ranges) (c : Char) : Bool := rs.any (Range.contains · c)

def Ranges.read (words : List (List Char)) : Ranges := words.map Range.read

def Ranges.ofText (s : String) : Ranges := .read (Text.words s.toList)

end Bilingual.Unicode
