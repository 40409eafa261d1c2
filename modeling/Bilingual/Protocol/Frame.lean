import Bilingual.Json.Writer
import Bilingual.Text.Digits

/-!
Messages in a stream of bytes: a header that tells the size of the body, an empty
line, and the body.
-/

namespace Bilingual.Frame

def sizeName : String := "content-length"

/-- Digits of a size, with blanks around them. -/
def size? (s : String) : Option Nat :=
  let isBlank : Char → Bool := fun c => c = ' ' || c = '\t' || c = '\r' || c = '\n'
  let digits := ((s.toList.dropWhile isBlank).reverse.dropWhile isBlank).reverse
  if digits.isEmpty then none else Text.number? 10 digits

/-- The size of the body, in the header line that tells it. Names of header lines
are read without regard to case. -/
def bodySize? (line : String) : Option Nat :=
  match line.splitOn ":" with
  | [name, value] => if name.toLower = sizeName then size? value else none
  | _ => none

/-- Whether a line ends the header. -/
def isEnd (line : String) : Bool := line = "\r\n" || line = "\n"

/-- A message with its header. -/
def text (j : Json) : String :=
  let body := j.text
  "Content-Length: " ++ toString body.utf8ByteSize ++ "\r\n\r\n" ++ body

end Bilingual.Frame
