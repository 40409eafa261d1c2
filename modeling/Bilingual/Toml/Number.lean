import Bilingual.Toml.Quoted

/-!
Numbers of TOML. An integer has to fit 64 bits with a sign, and a positive
number with a fraction or an exponent has to stay below the largest double.
-/

namespace Bilingual.Toml

/-- Digits behind the first one, each of which an underscore may precede. -/
def moreDigits (isDigit : Char → Bool) : List Char → List Char × List Char
  | '_' :: c :: rest =>
      if isDigit c then
        let (digits, rest) := moreDigits isDigit rest
        (c :: digits, rest)
      else ([], '_' :: c :: rest)
  | c :: rest =>
      if isDigit c then
        let (digits, rest) := moreDigits isDigit rest
        (c :: digits, rest)
      else ([], c :: rest)
  | [] => ([], [])

/-- A run of digits. -/
def digits? (isDigit : Char → Bool) : List Char → Option (List Char × List Char)
  | c :: rest =>
      if isDigit c then
        let (digits, rest) := moreDigits isDigit rest
        some (c :: digits, rest)
      else none
  | [] => none

def sign : List Char → Bool × List Char
  | '+' :: rest => (false, rest)
  | '-' :: rest => (true, rest)
  | cs => (false, cs)

/-- A decimal number: whether it is negative, and its digits. A zero at the head
stands alone. -/
def decimal? (cs : List Char) : Option (Bool × List Char × List Char) :=
  let (negative, cs) := sign cs
  match cs with
  | '0' :: rest => some (negative, ['0'], rest)
  | _ => (digits? Char.isDigit cs).map (negative, ·)

/-- An integer in a base that a letter names. -/
def based? (base : Nat) (cs : List Char) : Option (Int × List Char) := do
  let (digits, rest) ← digits? (fun c => (Text.digit? c).any (· < base)) cs
  let n ← Text.number? base digits
  if n < 9223372036854775808 then some (n, rest) else none

def integer? (cs : List Char) : Option (Int × List Char) :=
  match cs with
  | '0' :: 'x' :: rest => based? 16 rest
  | '0' :: 'o' :: rest => based? 8 rest
  | '0' :: 'b' :: rest => based? 2 rest
  | _ => do
      let (negative, digits, rest) ← decimal? cs
      let n : Int := if negative then -Text.decimal digits else Text.decimal digits
      if -9223372036854775808 ≤ n ∧ n < 9223372036854775808 then some (n, rest) else none

/-- Half a unit above the largest double: what rounds to infinity is at least
this much. -/
def overflow : Nat := Nat.pow 2 1024 - Nat.pow 2 970

/-- Whether the digits, with the point moved by `exponent` places, are too large
for a double. -/
def overflows (digits : List Char) (exponent : Int) : Bool :=
  let significant := digits.dropWhile (· = '0')
  let magnitude := significant.length + exponent
  if significant.isEmpty || magnitude < 309 then false
  else if 309 < magnitude then true
  else if 0 ≤ exponent then overflow ≤ Text.decimal significant * Nat.pow 10 exponent.toNat
  else overflow * Nat.pow 10 (-exponent).toNat ≤ Text.decimal significant

def infinite? (cs : List Char) : Option (List Char) :=
  match (sign cs).2 with
  | 'i' :: 'n' :: 'f' :: rest | 'n' :: 'a' :: 'n' :: rest => some rest
  | _ => none

/-- The fraction of a number, if there is one. -/
def fraction? : List Char → Option (List Char × List Char)
  | '.' :: rest => digits? Char.isDigit rest
  | _ => none

/-- The exponent of a number, if there is one. -/
def exponent? (cs : List Char) : Option (Int × List Char) :=
  match cs with
  | 'e' :: rest | 'E' :: rest => do
      let (negative, rest) := sign rest
      let (digits, rest) ← digits? Char.isDigit rest
      some (if negative then -Text.decimal digits else Text.decimal digits, rest)
  | _ => none

/-- What follows a number with a fraction, an exponent or both. -/
def float? (cs : List Char) : Option (List Char) :=
  match decimal? cs with
  | none => infinite? cs
  | some (negative, whole, rest) =>
      let settle := fun (digits : List Char) (exponent : Int) (rest : List Char) =>
        if !negative && overflows digits exponent then none else some rest
      match fraction? rest with
      | some (part, rest) =>
          let (exponent, rest) := (exponent? rest).getD (0, rest)
          settle (whole ++ part) (exponent - part.length) rest
      | none => do
          let (exponent, rest) ← exponent? rest
          settle whole exponent rest

end Bilingual.Toml
