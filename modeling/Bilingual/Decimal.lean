/-!
Decimals, and the two ways to write them.
-/

namespace Bilingual

/-- The number `digits * 10 ^ exponent`. -/
structure Decimal where
  digits : Nat
  exponent : Int
  deriving DecidableEq, Repr

namespace Decimal

def digitText (d : Decimal) : List Char := (toString d.digits).toList

/-- The power of ten that the first digit stands for. -/
def order (d : Decimal) : Int := d.digitText.length - 1 + d.exponent

/-- The text with the point in its place, and at least one digit on either side of
it. -/
def positional (d : Decimal) : String :=
  let zeros := fun n => List.replicate n '0'
  if 0 ≤ d.exponent then String.ofList (d.digitText ++ zeros d.exponent.toNat) ++ ".0"
  else
    let places := (-d.exponent).toNat
    let all := zeros (places + 1 - d.digitText.length) ++ d.digitText
    let whole := all.length - places
    String.ofList (all.take whole) ++ "." ++ String.ofList (all.drop whole)

/-- The text with the point behind the first digit, and the order of that digit. -/
def scientific (d : Decimal) : String :=
  let digits := match d.digitText with
    | first :: more => if more.isEmpty then [first] else first :: '.' :: more
    | [] => []
  String.ofList digits ++ "e" ++ (if d.order < 0 then "-" else "+") ++ toString d.order.natAbs

end Decimal

end Bilingual
