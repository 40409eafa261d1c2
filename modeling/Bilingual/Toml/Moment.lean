import Bilingual.Toml.Number

/-!
Dates and times of TOML: a date, a time, or both, the last perhaps with an
offset. Only their form and their bounds matter here.
-/

namespace Bilingual.Toml

/-- A number of exactly two digits between two bounds. -/
def twoDigits? (low high : Nat) : List Char → Option (Nat × List Char)
  | a :: b :: rest =>
      if a.isDigit && b.isDigit then
        let n := Text.decimal [a, b]
        if low ≤ n ∧ n ≤ high then some (n, rest) else none
      else none
  | _ => none

def expect? (c : Char) : List Char → Option (List Char)
  | d :: rest => if c = d then some rest else none
  | [] => none

def daysIn (year month : Nat) : Nat :=
  if month = 2 then
    if year % 4 = 0 ∧ (year % 100 ≠ 0 ∨ year % 400 = 0) then 29 else 28
  else if month = 4 ∨ month = 6 ∨ month = 9 ∨ month = 11 then 30
  else 31

def date? : List Char → Option (List Char)
  | a :: b :: c :: d :: rest => do
      if [a, b, c, d].all Char.isDigit then
        let (month, rest) ← twoDigits? 1 12 (← expect? '-' rest)
        let (day, rest) ← twoDigits? 1 31 (← expect? '-' rest)
        if day ≤ daysIn (Text.decimal [a, b, c, d]) month then some rest else none
      else none
  | _ => none

/-- A minute may have sixty-one seconds. -/
def time? (cs : List Char) : Option (List Char) := do
  let (_, rest) ← twoDigits? 0 23 cs
  let (_, rest) ← twoDigits? 0 59 (← expect? ':' rest)
  let (_, rest) ← twoDigits? 0 60 (← expect? ':' rest)
  match rest with
  | '.' :: c :: fraction => some (if c.isDigit then fraction.dropWhile Char.isDigit else rest)
  | _ => some rest

def offset? : List Char → Option (List Char)
  | 'Z' :: rest | 'z' :: rest => some rest
  | '+' :: rest | '-' :: rest => do
      let (_, rest) ← twoDigits? 0 23 rest
      let (_, rest) ← twoDigits? 0 59 (← expect? ':' rest)
      some rest
  | _ => none

/-- What follows a date, a time, or a date and a time. -/
def moment? (cs : List Char) : Option (List Char) :=
  match date? cs with
  | none => time? cs
  | some rest =>
      match rest with
      | c :: more =>
          if c = 'T' || c = 't' || c = ' ' then
            match time? more with
            | some rest => some ((offset? rest).getD rest)
            | none => some rest
          else some rest
      | [] => some []

end Bilingual.Toml
