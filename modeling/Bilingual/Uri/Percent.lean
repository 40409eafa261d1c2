import Bilingual.Text.Digits

/-!
Percent escapes, and the sets of characters that each part of a URI escapes.
Control characters and everything outside ASCII are escaped everywhere.
-/

namespace Bilingual.Uri.Percent

def hexDigit (n : Nat) : Char :=
  if n < 10 then Char.ofNat (0x30 + n) else Char.ofNat (0x37 + n)

def escape (b : UInt8) : List Char :=
  ['%', hexDigit (b.toNat / 16), hexDigit (b.toNat % 16)]

/-- Escapes the characters of a set, byte by byte. -/
def encode (inSet : Char → Bool) (cs : List Char) : List Char :=
  cs.flatMap fun c => if inSet c then (String.utf8EncodeChar c).flatMap escape else [c]

/-- Undoes escapes. A percent sign that begins none stands for itself. -/
def decode : List Char → List UInt8
  | [] => []
  | '%' :: a :: b :: rest =>
      match Text.digit? a, Text.digit? b with
      | some high, some low => UInt8.ofNat (16 * high + low) :: decode rest
      | _, _ => 0x25 :: decode (a :: b :: rest)
  | c :: rest => String.utf8EncodeChar c ++ decode rest

def isControl (c : Char) : Bool := c.val < 0x20 || 0x7F ≤ c.val

def inFragment (c : Char) : Bool := isControl c || " \"<>\x60".toList.contains c

def inQuery (c : Char) : Bool := isControl c || " \"#<>".toList.contains c

/-- The schemes that have a standing of their own escape the quote as well. -/
def inSpecialQuery (c : Char) : Bool := inQuery c || c = '\''

def inPath (c : Char) : Bool := inFragment c || "#?\x7b\x7d".toList.contains c

def inUserinfo (c : Char) : Bool := inPath c || "/:;=@[\\]^|".toList.contains c

end Bilingual.Uri.Percent
