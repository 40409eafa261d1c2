import Bilingual.Text.Digits
import Bilingual.Toml.Blank

/-!
Strings of TOML: basic ones with escapes, literal ones without, and the forms of
both that span lines. Each reader starts behind the opening quotes and reports
the text and what follows the closing ones.
-/

namespace Bilingual.Toml

/-- The character with the code point that hexadecimal digits spell. -/
def codePoint? (digits : List Char) : Option Char := do
  let n ← Text.number? 16 digits
  if n.isValidChar then some (Char.ofNat n) else none

/-- The character of an escape, given without its backslash. -/
def escape? : List Char → Option (Char × List Char)
  | 'b' :: rest => some ('\x08', rest)
  | 't' :: rest => some ('\t', rest)
  | 'n' :: rest => some ('\n', rest)
  | 'f' :: rest => some ('\x0c', rest)
  | 'r' :: rest => some ('\r', rest)
  | '"' :: rest => some ('"', rest)
  | '\\' :: rest => some ('\\', rest)
  | 'u' :: a :: b :: c :: d :: rest => (codePoint? [a, b, c, d]).map (·, rest)
  | 'U' :: a :: b :: c :: d :: e :: f :: g :: h :: rest =>
      (codePoint? [a, b, c, d, e, f, g, h]).map (·, rest)
  | _ => none

theorem length_of_escape? {cs rest : List Char} {c : Char} (h : escape? cs = some (c, rest)) :
    rest.length < cs.length := by
  unfold escape? at h
  split at h
  all_goals simp only [Option.some.injEq, Option.map_eq_some_iff, Prod.mk.injEq, reduceCtorEq] at h
  all_goals first
    | (obtain ⟨-, rfl⟩ := h; simp only [List.length_cons]; omega)
    | (obtain ⟨_, -, -, rfl⟩ := h; simp only [List.length_cons]; omega)

theorem length_skipSpace_le (cs : List Char) : (skipSpace cs).length ≤ cs.length := by
  fun_induction skipSpace cs <;> simp_all <;> omega

theorem length_of_newline? {cs rest : List Char} (h : newline? cs = some rest) :
    rest.length < cs.length := by
  unfold newline? at h
  split at h <;> cases h <;> simp only [List.length_cons] <;> omega

/-- A text with `c` put in front of it. -/
def prepend (c : Char) (read : Option (List Char × List Char)) :
    Option (List Char × List Char) :=
  read.map fun (text, rest) => (c :: text, rest)

def basic? (cs : List Char) : Option (List Char × List Char) :=
  match cs with
  | [] => none
  | '"' :: rest => some ([], rest)
  | '\\' :: rest =>
      match _h : escape? rest with
      | none => none
      | some (c, rest) => prepend c (basic? rest)
  | c :: rest => if isPlain c then prepend c (basic? rest) else none
termination_by cs.length
decreasing_by
  · have := length_of_escape? _h
    simp only [List.length_cons]
    omega
  · simp only [List.length_cons]
    omega

def literal? : List Char → Option (List Char × List Char)
  | [] => none
  | '\'' :: rest => some ([], rest)
  | c :: rest => if isPlain c then prepend c (literal? rest) else none

/-- Up to two quotes may stand right before the three that close a string. -/
def closing (quote : Char) : List Char → List Char × List Char
  | a :: b :: rest =>
      if a = quote then if b = quote then ([a, b], rest) else ([a], b :: rest)
      else ([], a :: b :: rest)
  | [a] => if a = quote then ([a], []) else ([], [a])
  | [] => ([], [])

/-- A backslash at the end of a line joins the line to the next text. -/
def basicLines? (cs : List Char) : Option (List Char × List Char) :=
  match cs with
  | [] => none
  | '"' :: '"' :: '"' :: rest => some (closing '"' rest)
  | '\r' :: '\n' :: rest => prepend '\n' (basicLines? rest)
  | '\n' :: rest => prepend '\n' (basicLines? rest)
  | '\\' :: rest =>
      match _h : newline? (skipBlank rest) with
      | some next => basicLines? (skipSpace next)
      | none =>
          match _h : escape? rest with
          | none => none
          | some (c, rest) => prepend c (basicLines? rest)
  | c :: rest => if isPlain c then prepend c (basicLines? rest) else none
termination_by cs.length
decreasing_by
  · simp only [List.length_cons]
    omega
  · simp only [List.length_cons]
    omega
  · have h₁ := length_of_newline? _h
    have h₂ := length_skipSpace_le next
    have h₃ := (List.dropWhile_sublist (l := rest) isBlank).length_le
    rw [skipBlank] at h₁
    simp only [List.length_cons]
    omega
  · have := length_of_escape? _h
    simp only [List.length_cons]
    omega
  · simp only [List.length_cons]
    omega

def literalLines? : List Char → Option (List Char × List Char)
  | [] => none
  | '\'' :: '\'' :: '\'' :: rest => some (closing '\'' rest)
  | '\r' :: '\n' :: rest => prepend '\n' (literalLines? rest)
  | c :: rest =>
      if isPlain c || c = '\n' then prepend c (literalLines? rest) else none

/-- A string in any of the four forms. A line break right behind three opening
quotes does not belong to the text. -/
def quoted? (cs : List Char) : Option (String × List Char) :=
  let trim := fun cs => (newline? cs).getD cs
  let read := match cs with
    | '"' :: '"' :: '"' :: rest => basicLines? (trim rest)
    | '"' :: rest => basic? rest
    | '\'' :: '\'' :: '\'' :: rest => literalLines? (trim rest)
    | '\'' :: rest => literal? rest
    | _ => none
  read.map fun (text, rest) => (String.ofList text, rest)

end Bilingual.Toml
