import Bilingual.Region
import Bilingual.Text.Search

/-!
Delimiters of embedded script and the scan for the blocks between them. A block
runs from an opening delimiter to the nearest closing delimiter behind it, and
the next block is looked for behind that one. Nested and escaped delimiters have
no meaning here.
-/

namespace Bilingual

/-- A usable pair: neither side is empty. -/
structure Delimiters where
  opening : String
  closing : String
  opening_ne : opening ≠ ""
  closing_ne : closing ≠ ""
  deriving DecidableEq, Repr

namespace Delimiters

inductive Error
  | emptyOpening
  | emptyClosing
  /-- A matcher for the pair would exceed the limit on its size. -/
  | tooLarge
  deriving DecidableEq, Repr

/-- Bytes that a matcher may take. -/
def matcherLimit : Nat := 10485760

/-- Bytes that a matcher takes for one byte of delimiter, which has a state of its own. -/
def matcherCost : Nat := 32

/-- Bytes reckoned for the states that do not depend on the delimiters. -/
def matcherBase : Nat := 1148

/-- Whether a matcher for the pair stays within the limit. -/
def fits (opening closing : String) : Bool :=
  matcherBase + matcherCost * (opening.utf8ByteSize + closing.utf8ByteSize) ≤ matcherLimit

def Error.message : Error → String
  | .emptyOpening => "open delimiter must not be empty"
  | .emptyClosing => "close delimiter must not be empty"
  | .tooLarge =>
      "invalid delimiter pattern: Compiled regex exceeds size limit of " ++
        toString matcherLimit ++ " bytes."

/-- The opening delimiter is looked at first, and emptiness before size. Whether a
matcher can be built is for `builds` to tell. -/
def ofStringsIf (builds : String → String → Bool) (opening closing : String) :
    Except Error Delimiters :=
  if ho : opening = "" then .error .emptyOpening
  else if hc : closing = "" then .error .emptyClosing
  else if builds opening closing then .ok ⟨opening, closing, ho, hc⟩
  else .error .tooLarge

def ofStrings : String → String → Except Error Delimiters := ofStringsIf fits

def defaultOpening : String := "<?php"

def defaultClosing : String := "?>"

/-- The delimiters that hold where nothing else is set. -/
def standard : Delimiters := ⟨defaultOpening, defaultClosing, by decide, by decide⟩

/-- Blocks of the text `cs`, whose head stands at offset `here`. -/
def scanFrom (d : Delimiters) (cs : List Char) (here : Nat) : List Region :=
  match _ho : Text.find? d.opening.toList cs here with
  | none => []
  | some (start, body) =>
      match _hc : Text.find? d.closing.toList body (start + d.opening.utf8ByteSize) with
      | none => []
      | some (inner, rest) =>
          ⟨start, inner + d.closing.utf8ByteSize⟩ ::
            scanFrom d rest (inner + d.closing.utf8ByteSize)
termination_by cs.length
decreasing_by
  have h := Text.length_of_find? _ho
  have h' := Text.length_of_find? _hc
  have hne : d.opening.toList ≠ [] := fun he => d.opening_ne (String.toList_eq_nil_iff.1 he)
  have := List.length_pos_iff.2 hne
  omega

/-- All blocks of a document, in order. -/
def scan (d : Delimiters) (text : String) : List Region :=
  d.scanFrom text.toList 0

end Delimiters

end Bilingual
