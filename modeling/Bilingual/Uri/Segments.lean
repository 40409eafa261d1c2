import Bilingual.Text.Pieces
import Bilingual.Uri.Percent

/-!
Paths of URIs as segments between slashes. Segments that stand for this
directory or for the one above are resolved while a path is read.
-/

namespace Bilingual.Uri.Segments

/-- Whether a segment is a dot, spelled out or escaped. -/
def isSingleDot (s : List Char) : Bool :=
  s = ['.'] || s.map Char.toLower = "%2e".toList

/-- Whether a segment is two dots, each spelled out or escaped. -/
def isDoubleDot (s : List Char) : Bool :=
  let s := s.map Char.toLower
  s = "..".toList || s = ".%2e".toList || s = "%2e.".toList || s = "%2e%2e".toList

/-- A letter followed by a colon or a bar. -/
def isDriveLetter : List Char → Bool
  | [c, mark] => c.isAlpha && (mark = ':' || mark = '|')
  | _ => false

/-- Whether a segment begins with a drive letter that ends it or stands before a
backslash. Going up does not leave such a segment. -/
def holdsDrive : List Char → Bool
  | c :: mark :: rest => isDriveLetter [c, mark] && (rest.isEmpty || rest.head? = some '\\')
  | _ => false

/-- Tabs and line breaks, which do not count. -/
def isBreak (c : Char) : Bool := c = '\t' || c = '\n' || c = '\r'

/-- What follows a drive letter from which a break sets it off. -/
def setOff? (s : List Char) : Option (Char × List Char) :=
  match s.filter (!isBreak ·), (s.dropWhile (· ≠ ':')).tail with
  | c :: ':' :: d :: rest, b :: _ =>
      if c.isAlpha && isBreak b then some (c, d :: rest) else none
  | _, _ => none

/-- The segments read so far, all of them closed by a slash, and whether a drive
letter has come first. -/
structure Trail where
  segments : List (List Char) := []
  drive : Bool := false
  deriving DecidableEq, Repr

namespace Trail

/-- Goes up one directory. -/
def up (t : Trail) : Trail :=
  match t.segments.getLast? with
  | some s => if holdsDrive s then t else { t with segments := t.segments.dropLast }
  | none => t

def push (t : Trail) (s : List Char) : Trail := { t with segments := t.segments ++ [s] }

/-- Goes along one segment. At the head of a file path a drive letter has a
colon, and it is a segment of its own if a break sets it off. -/
def enter (isFile : Bool) (t : Trail) (raw : List Char) : Trail :=
  let s := Percent.encode Percent.inPath (raw.filter (!isBreak ·))
  if isDoubleDot s then t.up
  else if isSingleDot s then t
  else if isFile && t.segments.isEmpty then
    match setOff? raw, s with
    | some (c, rest), _ => (t.push [c, ':']).push (Percent.encode Percent.inPath rest)
    | none, [c, mark] =>
        if isDriveLetter [c, mark] then ⟨[[c, ':']], true⟩ else t.push s
    | none, _ => t.push s
  else t.push s

/-- Goes along all segments. A path that ends in dots ends in a slash. -/
def follow (isFile : Bool) (t : Trail) : List (List Char) → Trail
  | [] => t
  | [last] =>
      let t := t.enter isFile last
      let s := Percent.encode Percent.inPath (last.filter (!isBreak ·))
      if isDoubleDot s || isSingleDot s then t.push [] else t
  | s :: rest => follow isFile (t.enter isFile s) rest

end Trail

/-- A file path begins with one slash. -/
def dropEmpty : List (List Char) → List (List Char)
  | [] :: s :: rest => dropEmpty (s :: rest)
  | ss => ss

/-- The segments of a path that follow its leading slash. -/
def ofPath (isSpecial isFile : Bool) (path : List Char) : Trail :=
  let pieces := Text.split (fun c => c = '/' || isSpecial && c = '\\') path
  let trail := Trail.follow isFile {} pieces
  if isFile then { trail with segments := dropEmpty trail.segments } else trail

def text (segments : List (List Char)) : String :=
  String.ofList (segments.flatMap ('/' :: ·))

end Bilingual.Uri.Segments
