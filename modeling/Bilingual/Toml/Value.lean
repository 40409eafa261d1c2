import Bilingual.Toml.Moment
import Bilingual.Toml.Table

/-!
Keys and values of TOML. Values may nest, and keys may have dots, to a depth
below eighty.
-/

namespace Bilingual.Toml

/-- The deepest nesting of values, and the greatest number of names in a key. -/
def depthLimit : Nat := 79

def isBare (c : Char) : Bool := c.isAlphanum || c = '-' || c = '_'

/-- One name of a key, quoted or bare. -/
def name? (cs : List Char) : Option (String × List Char) :=
  match cs with
  | '"' :: rest => (basic? rest).map fun (text, rest) => (String.ofList text, rest)
  | '\'' :: rest => (literal? rest).map fun (text, rest) => (String.ofList text, rest)
  | _ =>
      let bare := cs.takeWhile isBare
      if bare.isEmpty then none else some (String.ofList bare, cs.dropWhile isBare)

/-- A key: up to `limit` names with dots between them, and blanks around each. -/
def key? : (limit : Nat) → List Char → Option (List String × List Char)
  | 0, _ => none
  | limit + 1, cs => do
      let (name, rest) ← name? (skipBlank cs)
      match skipBlank rest with
      | '.' :: rest =>
          let (names, rest) ← key? limit rest
          some (name :: names, rest)
      | rest => some ([name], rest)

/-- What reads a value. -/
abbrev Reader := List Char → Option (Item × List Char)

/-- Items of an array behind its bracket, of which there are fewer than `limit`.
The last may be followed by a comma. -/
def items? (read : Reader) : (limit : Nat) → List Char → Option (List Item × List Char)
  | 0, _ => none
  | limit + 1, cs =>
      match skipGap false cs with
      | ']' :: rest => some ([], rest)
      | cs => do
          let (item, rest) ← read cs
          match skipGap false rest with
          | ',' :: rest =>
              let (items, rest) ← items? read limit rest
              some (item :: items, rest)
          | ']' :: rest => some ([item], rest)
          | _ => none

/-- Entries between braces, of which there are fewer than `limit`, added to
`entries`. No comma may follow the last. -/
def braced? (read : Reader) : (limit : Nat) → Entries → List Char → Option (Entries × List Char)
  | 0, _, _ => none
  | limit + 1, entries, cs => do
      let (path, rest) ← key? depthLimit cs
      let (path, name) ← splitPath path
      let (item, rest) ← read (skipBlank (← expect? '=' rest))
      let entries ← assign name item path entries
      match skipBlank rest with
      | ',' :: rest => braced? read limit entries rest
      | '\x7d' :: rest => some (entries, rest)
      | _ => none

/-- A value without parts. What begins like a number may be a date, a number with
a fraction or an integer, and is tried as such in this order. -/
def scalar? (cs : List Char) : Option (Item × List Char) :=
  match cs with
  | 't' :: 'r' :: 'u' :: 'e' :: rest => some (.boolean true, rest)
  | 'f' :: 'a' :: 'l' :: 's' :: 'e' :: rest => some (.boolean false, rest)
  | '"' :: _ | '\'' :: _ => (quoted? cs).map fun (text, rest) => (.string text, rest)
  | _ =>
      ((moment? cs).map (.date, ·)) <|> ((float? cs).map (.float, ·)) <|>
        (integer? cs).map fun (n, rest) => (.integer n, rest)

/-- A value nested to at most `depth`. -/
def value? : (depth : Nat) → Reader
  | 0, cs => scalar? cs
  | depth + 1, cs =>
      match cs with
      | '[' :: rest => (items? (value? depth) (rest.length + 1) rest).map fun (items, rest) =>
          (.array items, rest)
      | '\x7b' :: rest =>
          match skipBlank rest with
          | '\x7d' :: rest => some (.table .inline [], rest)
          | rest => (braced? (value? depth) (rest.length + 1) [] rest).map fun (entries, rest) =>
              (.table .inline entries, rest)
      | _ => scalar? cs

end Bilingual.Toml
