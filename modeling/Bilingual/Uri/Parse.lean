import Bilingual.Text.Pieces
import Bilingual.Uri.Basic
import Bilingual.Uri.Host
import Bilingual.Uri.Segments

/-!
Reading URIs. Only texts with a scheme are read, and reading also brings them
into their written form: lower-case scheme and host, no usual port, resolved
dots, escapes where the part needs them. Tabs and line breaks do not count, but
in the path of a file they may set off a drive letter. Schemes that have a
standing of their own take a backslash for a slash and require a host; a file may
lack one.
-/

namespace Bilingual.Uri

/-- How the scheme shapes the rest. -/
inductive Kind
  | file
  | special
  | other
  deriving DecidableEq, Repr

def Kind.ofScheme (scheme : String) : Kind :=
  if scheme = "file" then .file
  else if scheme ∈ ["http", "https", "ws", "wss", "ftp"] then .special
  else .other

def Kind.isSlash (k : Kind) (c : Char) : Bool :=
  c = '/' || k ≠ .other && c = '\\'

/-- The port that need not be written. -/
def usualPort? (scheme : String) : Option Nat :=
  match scheme with
  | "http" | "ws" => some 80
  | "https" | "wss" => some 443
  | "ftp" => some 21
  | _ => none

/-- A text without the blanks around it. -/
def trim (s : String) : List Char :=
  let blank : Char → Bool := (·.val ≤ 0x20)
  ((s.toList.dropWhile blank).reverse.dropWhile blank).reverse

/-- A text without the breaks inside it. -/
def unbroken (cs : List Char) : List Char := cs.filter (!Segments.isBreak ·)

/-- The scheme in lower case, in front of the first colon. -/
def scheme? (cs : List Char) : Option String :=
  let isPart : Char → Bool := fun c => c.isAlphanum || c = '+' || c = '-' || c = '.'
  match cs with
  | c :: _ =>
      if c.isAlpha then
        match cs.dropWhile isPart with
        | ':' :: _ => some (String.ofList ((cs.takeWhile isPart).map Char.toLower))
        | _ => none
      else none
  | [] => none

/-- A port, and the text behind it. -/
def port? (cs : List Char) : Except Error (Option Nat × List Char) :=
  let digits := cs.takeWhile Char.isDigit
  let rest := cs.dropWhile Char.isDigit
  let n := Text.decimal digits
  if 0xFFFF < n then .error .badPort
  else
    match rest with
    | [] | '/' :: _ | '\\' :: _ => .ok (if digits.isEmpty then none else some n, rest)
    | _ => .error .badPort

/-- The text up to the first colon outside brackets, and the rest. -/
def hostPart : Bool → List Char → List Char × List Char
  | _, [] => ([], [])
  | inside, c :: cs =>
      if c = ':' ∧ !inside then ([], c :: cs)
      else
        let inside := if c = '[' then true else if c = ']' then false else inside
        let (host, rest) := hostPart inside cs
        (c :: host, rest)

/-- A user name and a password, escaped. An empty password is left out. -/
def userinfo (cs : List Char) : List Char :=
  let encode := Percent.encode Percent.inUserinfo
  match Text.cut ':' cs with
  | (name, some password) =>
      if password.isEmpty then encode name else encode name ++ ':' :: encode password
  | (name, none) => encode name

/-- The part of an authority behind the last `@`, and the part before it. -/
def splitUser (cs : List Char) : Option (List Char) × List Char :=
  match cs.reverse.dropWhile (· ≠ '@') with
  | [] => (none, cs)
  | _ :: user => (some user.reverse, (cs.reverse.takeWhile (· ≠ '@')).reverse)

/-- The authority at the head of `cs`, and the path behind it. `more` tells
whether a query or a fragment follows. -/
def readAuthority (kind : Kind) (scheme : String) (cs : List Char) (more : Bool) :
    Except Error (Authority × List Char) := do
  let own := cs.takeWhile (!kind.isSlash ·)
  let path := cs.dropWhile (!kind.isSlash ·)
  let (user, server) := splitUser own
  if user = some [] ∧ server.isEmpty ∧ (more ∨ !path.isEmpty) then throw .emptyHost
  let user := userinfo (user.getD [])
  let (name, rest) := hostPart false server
  if name.isEmpty ∧ (kind ≠ .other ∨ !rest.isEmpty ∨ !user.isEmpty) then throw .emptyHost
  let host ← if kind = .other then Host.plain name else Host.domain name
  let (port, rest) ← match rest with
    | _ :: digits => port? digits
    | [] => .ok (none, [])
  let port := if port = usualPort? scheme then none else port
  return (⟨String.ofList user, host, port⟩, rest ++ path)

/-- The path behind an authority. It is empty only where nothing is written and
the scheme allows it. -/
def pathBehind (kind : Kind) (cs : List Char) : String :=
  match cs with
  | [] => if kind = .other then "" else "/"
  | c :: rest =>
      let inner := if kind.isSlash c then rest else cs
      Segments.text (Segments.ofPath (kind ≠ .other) false inner).segments

/-- What follows a slash at the head of a text, if one stands there. -/
def behindSlash? (kind : Kind) (cs : List Char) : Option (List Char) :=
  match cs.dropWhile Segments.isBreak with
  | c :: rest => if kind.isSlash c then some rest else none
  | [] => none

/-- Host and path of a file. A drive letter is no host, and with one at the head
of the path the host is dropped. Behind a host that need not be written a slash
belongs to the path. -/
def readFile (cs : List Char) : Except Error (Authority × String) := do
  let slash := Kind.file.isSlash
  let ofPath := Segments.ofPath true true
  let nowhere := fun path => ((⟨"", "", none⟩ : Authority), Segments.text (ofPath path).segments)
  match behindSlash? .file cs with
  | none => return nowhere cs
  | some one =>
      match behindSlash? .file one with
      | none => return nowhere one
      | some two =>
          let name := unbroken (two.takeWhile (!slash ·))
          let rest := two.dropWhile (!slash ·)
          if Segments.isDriveLetter name then return nowhere two
          let host ← if name.isEmpty then pure "" else Host.domain name
          if host.isEmpty || host = "localhost" then return nowhere rest
          let trail := ofPath rest.tail
          return (⟨"", if trail.drive then "" else host, none⟩, Segments.text trail.segments)

def parse (s : String) : Except Error Uri := do
  let (whole, fragment) := Text.cut '#' (trim s)
  match scheme? (unbroken whole) with
  | none => throw .noScheme
  | some scheme =>
      let (raw, query) := Text.cut '?' ((Text.cut ':' whole).2.getD [])
      let rest := unbroken raw
      let kind := Kind.ofScheme scheme
      let inQuery := if kind = .other then Percent.inQuery else Percent.inSpecialQuery
      let written := fun inSet (part : Option (List Char)) =>
        part.map fun cs => String.ofList (Percent.encode inSet (unbroken cs))
      let make := fun authority path =>
        { scheme, authority, path,
          query := written inQuery query
          fragment := written Percent.inFragment fragment : Uri }
      let more := query.isSome || fragment.isSome
      match kind, rest with
      | .file, _ =>
          let (authority, path) ← readFile raw
          return make (some authority) path
      | .special, _ =>
          let (authority, path) ← readAuthority kind scheme (rest.dropWhile kind.isSlash) more
          return make (some authority) (pathBehind kind path)
      | .other, '/' :: '/' :: rest =>
          let (authority, path) ← readAuthority kind scheme rest more
          return make (some authority) (pathBehind kind path)
      | .other, '/' :: _ => return make none (pathBehind kind rest)
      | .other, _ =>
          return make none (String.ofList (Percent.encode Percent.isControl rest))

end Bilingual.Uri
