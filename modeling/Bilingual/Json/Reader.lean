import Bilingual.Json
import Bilingual.Text.Digits

/-!
Reading JSON text. A reader takes what is left of a text and reports a value and
what follows it. Of members with the same name the last one counts.
-/

namespace Bilingual.Json

/-- The deepest nesting of values that is read. -/
def depthLimit : Nat := 128

def isBlank (c : Char) : Bool := c = ' ' || c = '\t' || c = '\n' || c = '\r'

def skipBlank (cs : List Char) : List Char := cs.dropWhile isBlank

/-- The character of a pair of surrogates. -/
def pair? (high low : Nat) : Option Char :=
  if 0xD800 ≤ high ∧ high < 0xDC00 ∧ 0xDC00 ≤ low ∧ low < 0xE000 then
    some (Char.ofNat (0x10000 + (high - 0xD800) * 0x400 + (low - 0xDC00)))
  else none

/-- The character of a unit that is no surrogate. -/
def single? (unit : Nat) : Option Char :=
  if unit.isValidChar then some (Char.ofNat unit) else none

def escapes : List (Char × Char) :=
  [('"', '"'), ('\\', '\\'), ('/', '/'), ('b', '\x08'), ('f', '\x0c'), ('n', '\n'), ('r', '\r'),
    ('t', '\t')]

/-- A string behind its opening quote. The characters in front of `cs` are in
`before`, last first. -/
def stringFrom (before : List Char) : List Char → Option (String × List Char)
  | [] => none
  | '"' :: rest => some (String.ofList before.reverse, rest)
  | '\\' :: 'u' :: a :: b :: c :: d :: rest => do
      let unit ← Text.number? 16 [a, b, c, d]
      match single? unit with
      | some x => stringFrom (x :: before) rest
      | none =>
          match rest with
          | '\\' :: 'u' :: e :: f :: g :: h :: rest => do
              let x ← pair? unit (← Text.number? 16 [e, f, g, h])
              stringFrom (x :: before) rest
          | _ => none
  | '\\' :: c :: rest =>
      match escapes.lookup c with
      | some x => stringFrom (x :: before) rest
      | none => none
  | c :: rest => if c.val < 0x20 then none else stringFrom (c :: before) rest

def digits (cs : List Char) : List Char × List Char :=
  (cs.takeWhile Char.isDigit, cs.dropWhile Char.isDigit)

/-- Reads digits as long as the number they spell has 64 bits. `n` is the number so
far. -/
def fitting (n : Nat) : List Char → Nat × List Char
  | [] => (n, [])
  | c :: cs =>
      let longer := 10 * n + Text.decimal [c]
      if longer < Nat.pow 2 64 then fitting longer cs else (n, c :: cs)

/-- The greatest power of ten that is a float. -/
def powerLimit : Nat := 308

def powerOfTen (n : Nat) : Float := .ofScientific 1 false n

/-- The float of `n * 10 ^ exponent`, rounded at each step. Some are too large, and
those that are too small are zero. -/
def scaled? (n : Nat) (exponent : Int) : Option Float :=
  let x := Float.ofNat n
  let down := (-exponent).toNat
  if n = 0 then some 0
  else if powerLimit < exponent then none
  else if 0 ≤ exponent then
    let y := x * powerOfTen exponent.toNat
    if y.isFinite then some y else none
  else if down ≤ powerLimit then some (x / powerOfTen down)
  else if down ≤ 2 * powerLimit then
    some (x / powerOfTen powerLimit / powerOfTen (down - powerLimit))
  else some 0

/-- A number from its digits. A float leaves out the digits that do not fit, and the
negative zero is a float. -/
def decimal? (negative : Bool) (whole part : List Char) (exponent : Option Int) : Option Json :=
  let (n, dropped) := fitting 0 whole
  if part.isEmpty && exponent.isNone && dropped.isEmpty &&
      (!negative || 0 < n && n ≤ Nat.pow 2 63) then
    some (.number (if negative then -n else n))
  else do
    let (n, unread) := fitting n part
    let places : Int := dropped.length - (part.length - unread.length)
    let x ← scaled? n (exponent.getD 0 + places)
    return .float (if negative then -x else x)

/-- A fraction, if there is one. -/
def fraction? : List Char → Option (List Char × List Char)
  | '.' :: rest =>
      let (part, rest) := digits rest
      if part.isEmpty then none else some (part, rest)
  | cs => some ([], cs)

/-- An exponent, if there is one. -/
def exponent? (cs : List Char) : Option (Option Int × List Char) :=
  let read := fun (negative : Bool) (cs : List Char) =>
    let (power, rest) := digits cs
    if power.isEmpty then none
    else some (some (if negative then -(Text.decimal power : Int) else Text.decimal power), rest)
  match cs with
  | 'e' :: '-' :: rest | 'E' :: '-' :: rest => read true rest
  | 'e' :: '+' :: rest | 'E' :: '+' :: rest => read false rest
  | 'e' :: rest | 'E' :: rest => read false rest
  | _ => some (none, cs)

def number? (cs : List Char) : Option (Json × List Char) := do
  let (negative, cs) := match cs with
    | '-' :: rest => (true, rest)
    | _ => (false, cs)
  let (whole, rest) := digits cs
  if whole.isEmpty || (whole.head? = some '0' && 1 < whole.length) then none
  let (part, rest) ← fraction? rest
  let (exponent, rest) ← exponent? rest
  return (← decimal? negative whole part exponent, rest)

/-- Items with commas between them up to a bracket, of which there are at most
`limit`. The items in front of `cs` are in `before`, last first. -/
def series? {α : Type} (read : List Char → Option (α × List Char)) (close : Char) :
    (limit : Nat) → (before : List α) → List Char → Option (List α × List Char)
  | 0, _, _ => none
  | limit + 1, before, cs => do
      let (item, rest) ← read cs
      match skipBlank rest with
      | ',' :: rest => series? read close limit (item :: before) rest
      | c :: rest => if c = close then some ((item :: before).reverse, rest) else none
      | [] => none

/-- A series that may be empty. -/
def bracketed? {α : Type} (read : List Char → Option (α × List Char)) (close : Char)
    (cs : List Char) : Option (List α × List Char) :=
  match skipBlank cs with
  | [] => none
  | c :: rest => if c = close then some ([], rest) else series? read close cs.length [] (c :: rest)

/-- A name, a colon and a value. -/
def member? (read : List Char → Option (Json × List Char)) (cs : List Char) :
    Option ((String × Json) × List Char) :=
  match skipBlank cs with
  | '"' :: rest => do
      let (name, rest) ← stringFrom [] rest
      match skipBlank rest with
      | ':' :: rest => (read rest).map fun (value, rest) => ((name, value), rest)
      | _ => none
  | _ => none

/-- A value nested to less than `depth`, with blanks in front of it. -/
def value? : (depth : Nat) → List Char → Option (Json × List Char)
  | 0, _ => none
  | depth + 1, cs =>
      match skipBlank cs with
      | 'n' :: 'u' :: 'l' :: 'l' :: rest => some (.null, rest)
      | 't' :: 'r' :: 'u' :: 'e' :: rest => some (.bool true, rest)
      | 'f' :: 'a' :: 'l' :: 's' :: 'e' :: rest => some (.bool false, rest)
      | '"' :: rest => (stringFrom [] rest).map fun (s, rest) => (.string s, rest)
      | '[' :: rest =>
          (bracketed? (value? depth) ']' rest).map fun (items, rest) => (.array items, rest)
      | '\x7b' :: rest =>
          (bracketed? (member? (value? depth)) '\x7d' rest).map fun (members, rest) =>
            (.object members.reverse, rest)
      | cs => number? cs

/-- The value that a whole text is. -/
def parse? (text : String) : Option Json :=
  match value? depthLimit text.toList with
  | some (j, rest) => if (skipBlank rest).isEmpty then some j else none
  | none => none

end Bilingual.Json
