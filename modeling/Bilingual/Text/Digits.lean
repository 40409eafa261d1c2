/-!
Numbers that digits spell, in bases up to 16.
-/

namespace Bilingual.Text

/-- The value of a digit. Letters count in either case. -/
def digit? (c : Char) : Option Nat :=
  if c.isDigit then some (c.toNat - 0x30)
  else if 'a' ≤ c ∧ c ≤ 'f' then some (c.toNat - 0x57)
  else if 'A' ≤ c ∧ c ≤ 'F' then some (c.toNat - 0x37)
  else none

/-- The number that digits spell, if all of them are digits of the base. None at
all spell zero. -/
def number? (base : Nat) (cs : List Char) : Option Nat :=
  cs.foldlM (fun n c => do
    let d ← digit? c
    if d < base then some (base * n + d) else none) 0

/-- The number that decimal digits spell. -/
def decimal (cs : List Char) : Nat := (number? 10 cs).getD 0

end Bilingual.Text
