/-!
What a TOML document holds. Tables remember how they came about, because that
decides how the rest of the document may add to them.
-/

namespace Bilingual.Toml

/-- How a table came about. -/
inductive Origin
  /-- Written out between braces. Nothing may be added. -/
  | inline
  /-- Named by a header of its own. -/
  | header
  /-- Passed by the header of a table inside it. -/
  | passed
  /-- Passed by a key with dots. -/
  | dotted
  deriving DecidableEq, Repr

/-- Numbers with a fraction or an exponent, and dates, are kept without their
value: nothing here computes with them. -/
inductive Item
  | string (s : String)
  | integer (n : Int)
  | float
  | boolean (b : Bool)
  | date
  | array (items : List Item)
  | table (origin : Origin) (entries : List (String × Item))
  /-- The tables named by headers in double brackets. -/
  | tables (elements : List (List (String × Item)))
  deriving Repr, Inhabited

abbrev Entries := List (String × Item)

end Bilingual.Toml
