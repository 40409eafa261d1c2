/-!
Blanks, line breaks and comments of TOML. A line ends with a line feed, before
which one carriage return may stand.
-/

namespace Bilingual.Toml

def isBlank (c : Char) : Bool := c = ' ' || c = '\t'

/-- Characters that a comment or a string may hold as they are. -/
def isPlain (c : Char) : Bool := c = '\t' || 0x20 ≤ c.val && c.val ≠ 0x7F

def skipBlank (cs : List Char) : List Char := cs.dropWhile isBlank

/-- What follows a line break. -/
def newline? : List Char → Option (List Char)
  | '\n' :: rest => some rest
  | '\r' :: '\n' :: rest => some rest
  | _ => none

def skipComment : List Char → List Char
  | '#' :: rest => rest.dropWhile isPlain
  | cs => cs

/-- What follows the line, of which only blanks and a comment may be left. -/
def lineEnd? (cs : List Char) : Option (List Char) :=
  match skipComment (skipBlank cs) with
  | [] => some []
  | rest => newline? rest

/-- Skips blanks and line breaks. -/
def skipSpace : List Char → List Char
  | [] => []
  | '\r' :: '\n' :: rest => skipSpace rest
  | c :: rest => if isBlank c || c = '\n' then skipSpace rest else c :: rest

/-- Skips blanks, line breaks and comments. -/
def skipGap (inComment : Bool) : List Char → List Char
  | [] => []
  | '\r' :: '\n' :: rest => skipGap false rest
  | c :: rest =>
      if c = '\n' then skipGap false rest
      else if inComment then if isPlain c then skipGap true rest else c :: rest
      else if c = '#' then skipGap true rest
      else if isBlank c then skipGap false rest
      else c :: rest

end Bilingual.Toml
