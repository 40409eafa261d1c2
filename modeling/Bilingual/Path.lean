import Bilingual.Text.Pieces
import Bilingual.Text.Utf8

/-!
Paths as a file system takes them: bytes, which need not be text. The
directories above a path are found by cutting it, so two dots count as a name
here; where they lead is for the file tree to say.
-/

namespace Bilingual

/-- A name between slashes. -/
abbrev Name := List UInt8

structure Path where
  bytes : List UInt8
  deriving DecidableEq, Repr

namespace Path

def slash : UInt8 := 0x2F

def ofText (s : String) : Path := ⟨s.toList.flatMap String.utf8EncodeChar⟩

/-- How a path is shown. -/
def text (p : Path) : String := Text.Utf8.readLossy p.bytes

/-- The text that a path consists of, if it is one. -/
def text? (p : Path) : Option String := String.fromUTF8? p.bytes.toByteArray

def isEmpty (p : Path) : Bool := p.bytes.isEmpty

def isAbsolute (p : Path) : Bool := p.bytes.head? = some slash

/-- Names between slashes. Neighbouring slashes have an empty name between them. -/
def names (p : Path) : List Name := Text.split (· = slash) p.bytes

def ofNames (names : List Name) : Path := ⟨[slash].intercalate names⟩

/-- Puts a relative path behind a directory. -/
def join (directory path : Path) : Path :=
  if path.isAbsolute || directory.isEmpty then path
  else if directory.bytes.getLast? = some slash then ⟨directory.bytes ++ path.bytes⟩
  else ⟨directory.bytes ++ slash :: path.bytes⟩

/-- The name of the directory itself. -/
def here : Name := [0x2E]

/-- The name of the directory above. -/
def up : Name := [0x2E, 0x2E]

/-- Names that lead nowhere. -/
def isIdle (name : Name) : Bool := name.isEmpty || name = here

/-- What is above each name, nearest first, for names listed from the last. -/
def above : List Name → List (List Name)
  | [] => []
  | name :: before =>
      if isIdle name then above before else before.dropWhile isIdle :: above before

/-- The directories above a path, nearest first. A dot in front of a relative path
counts as a name. -/
def parents (p : Path) : List Path :=
  let write := fun (reversed : List Name) => ofNames reversed.reverse
  if p.isAbsolute then
    (above p.names.tail.reverse).map fun names => ⟨slash :: (write names).bytes⟩
  else if p.names.head? = some here then
    (above p.names.tail.reverse).map (fun names => ofNames (here :: names.reverse)) ++ [⟨[]⟩]
  else (above p.names.reverse).map write

def parent? (p : Path) : Option Path := p.parents.head?

end Path

end Bilingual
