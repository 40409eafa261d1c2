import Bilingual.Decimal.Shortest
import Bilingual.Json

/-!
JSON text of a value, on one line and without blanks.
-/

namespace Bilingual.Json

def hexDigits (n : Nat) : List Char :=
  [Nat.digitChar (n / 16), Nat.digitChar (n % 16)]

def escaped (c : Char) : List Char :=
  if c = '"' then ['\\', '"']
  else if c = '\\' then ['\\', '\\']
  else if c = '\n' then ['\\', 'n']
  else if c = '\r' then ['\\', 'r']
  else if c = '\t' then ['\\', 't']
  else if c.val < 0x20 then ['\\', 'u', '0', '0'] ++ hexDigits c.toNat
  else [c]

def quoted (s : String) : String :=
  "\"" ++ s.foldl (fun text c => (escaped c).foldl String.push text) "" ++ "\""

/-- A float in the fewest digits. The point stands in its place from the fifth digit
behind it to the sixteenth in front of it. -/
def floatText (x : Float) : String :=
  let d := Decimal.shortest x
  (if Nat.pow 2 63 ≤ x.toBits.toNat then "-" else "") ++
    if -5 ≤ d.order ∧ d.order < 16 then d.positional else d.scientific

mutual

def text : Json → String
  | .null => "null"
  | .bool b => if b then "true" else "false"
  | .number n => toString n
  | .float x => floatText x
  | .string s => quoted s
  | .array items => "[" ++ ",".intercalate (itemTexts items) ++ "]"
  | .object members => "\x7b" ++ ",".intercalate (memberTexts members) ++ "\x7d"

def itemTexts : List Json → List String
  | [] => []
  | item :: items => text item :: itemTexts items

def memberTexts : List (String × Json) → List String
  | [] => []
  | (name, value) :: members => (quoted name ++ ":" ++ text value) :: memberTexts members

end

end Bilingual.Json
