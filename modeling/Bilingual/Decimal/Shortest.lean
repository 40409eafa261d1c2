import Bilingual.Decimal

/-!
The shortest decimal that is read as a float, and of several as short the nearest.
Points of a grid of powers of ten are compared with the float exactly, in quarters
of the distance to the next float.
-/

namespace Bilingual

/-- The size `significand * 2 ^ exponent` of a float. -/
structure Magnitude where
  significand : Nat
  exponent : Int
  /-- Whether the next size below is only half as far away as the one above. -/
  closeBelow : Bool
  deriving DecidableEq, Repr

namespace Magnitude

def ofFloat (x : Float) : Magnitude :=
  let fraction := x.toBits.toNat % Nat.pow 2 52
  let power := x.toBits.toNat / Nat.pow 2 52 % Nat.pow 2 11
  { significand := if power = 0 then fraction else Nat.pow 2 52 + fraction
    exponent := (max power 1 : Nat) - 1075
    closeBelow := fraction = 0 && 1 < power }

/-- Points of the grid of `10 ^ grid` times `steps`, and quarters at this size times
`quarters`, are on one scale. -/
def steps (m : Magnitude) (grid : Int) : Nat :=
  Nat.pow 10 grid.toNat * Nat.pow 2 (2 - m.exponent).toNat

def quarters (m : Magnitude) (grid : Int) : Nat :=
  Nat.pow 10 (-grid).toNat * Nat.pow 2 (m.exponent - 2).toNat

/-- Whether a decimal is read as this size. What lies half-way between two sizes is
read as the one with the even significand. -/
def isNearest (m : Magnitude) (d : Decimal) : Bool :=
  let point := d.digits * m.steps d.exponent
  let low := (4 * m.significand - if m.closeBelow then 1 else 2) * m.quarters d.exponent
  let high := (4 * m.significand + 2) * m.quarters d.exponent
  if m.significand % 2 = 0 then low ≤ point && point ≤ high else low < point && point < high

/-- The two points of a grid around this size, the nearer one first, and of two as
near the even one. -/
def neighbours (m : Magnitude) (grid : Int) : List Decimal :=
  let size := 4 * m.significand * m.quarters grid
  let step := m.steps grid
  let below : Decimal := ⟨size / step, grid⟩
  let above : Decimal := ⟨size / step + 1, grid⟩
  let past := 2 * (size % step)
  if past < step || past = step && below.digits % 2 = 0 then [below, above] else [above, below]

/-- The coarsest grid on which a point is read as this size gives the fewest digits.
From the greatest float to the least, this takes powers from `308` to `-324`. -/
def shortest (m : Magnitude) : Decimal :=
  if m.significand = 0 then ⟨0, 0⟩
  else ((List.range 633).findSome? fun (i : Nat) =>
    (m.neighbours (308 - i)).find? m.isNearest).getD ⟨0, 0⟩

end Magnitude

def Decimal.shortest (x : Float) : Decimal := (Magnitude.ofFloat x).shortest

end Bilingual
