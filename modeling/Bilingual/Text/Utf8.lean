/-!
Reading bytes as UTF-8 where they need not be UTF-8. Each longest stretch of
bytes that begins a character but does not finish it, and each byte that begins
none, reads as the replacement character.
-/

namespace Bilingual.Text.Utf8

/-- A character that has begun: the bits read so far, how many bytes it still
lacks, and the bounds of the next one. -/
structure Unfinished where
  bits : Nat
  lacking : Nat
  low : Nat
  high : Nat
  deriving DecidableEq, Repr

def replacement : Char := '\uFFFD'

/-- What a byte does between characters: the text it yields and the character
it begins. -/
def begin (b : Nat) : List Char × Option Unfinished :=
  if b < 0x80 then ([Char.ofNat b], none)
  else if b < 0xC2 then ([replacement], none)
  else if b < 0xE0 then ([], some ⟨b - 0xC0, 1, 0x80, 0xBF⟩)
  else if b = 0xE0 then ([], some ⟨0, 2, 0xA0, 0xBF⟩)
  else if b = 0xED then ([], some ⟨0xD, 2, 0x80, 0x9F⟩)
  else if b < 0xF0 then ([], some ⟨b - 0xE0, 2, 0x80, 0xBF⟩)
  else if b = 0xF0 then ([], some ⟨0, 3, 0x90, 0xBF⟩)
  else if b < 0xF4 then ([], some ⟨b - 0xF0, 3, 0x80, 0xBF⟩)
  else if b = 0xF4 then ([], some ⟨4, 3, 0x80, 0x8F⟩)
  else ([replacement], none)

def next (u : Unfinished) (b : Nat) : List Char × Option Unfinished :=
  if u.low ≤ b ∧ b ≤ u.high then
    let bits := u.bits * 0x40 + (b - 0x80)
    if u.lacking ≤ 1 then ([Char.ofNat bits], none)
    else ([], some ⟨bits, u.lacking - 1, 0x80, 0xBF⟩)
  else
    let (text, begun) := begin b
    (replacement :: text, begun)

def readFrom : Option Unfinished → List UInt8 → List Char
  | none, [] => []
  | some _, [] => [replacement]
  | none, b :: bytes =>
      let (text, begun) := begin b.toNat
      text ++ readFrom begun bytes
  | some u, b :: bytes =>
      let (text, begun) := next u b.toNat
      text ++ readFrom begun bytes

def readLossy (bytes : List UInt8) : String :=
  String.ofList (readFrom none bytes)

end Bilingual.Text.Utf8
