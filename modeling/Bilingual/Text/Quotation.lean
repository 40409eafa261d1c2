import Bilingual.Unicode.Standalone

/-!
Quotations in which every character can be seen.
-/

namespace Bilingual.Text

/-- A code point in lower-case hexadecimal. -/
def spelled (c : Char) : String :=
  "\\u\x7b" ++ String.ofList (Nat.toDigits 16 c.toNat) ++ "\x7d"

def visible (c : Char) : String :=
  match c with
  | '"' => "\\\""
  | '\\' => "\\\\"
  | '\n' => "\\n"
  | '\r' => "\\r"
  | '\t' => "\\t"
  | '\x00' => "\\0"
  | c => if Unicode.Standalone.isStandalone c then c.toString else spelled c

def quotation (s : String) : String := "\"" ++ s.foldl (fun text c => text ++ visible c) "" ++ "\""

end Bilingual.Text
