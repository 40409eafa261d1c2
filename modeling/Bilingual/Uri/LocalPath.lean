import Bilingual.Path
import Bilingual.Uri.Basic
import Bilingual.Uri.Percent

/-!
Paths of this machine's file system that URIs stand for.
-/

namespace Bilingual.Uri

/-- Whether a path ends in a drive letter, which a slash has to follow. -/
def endsInDrive (bytes : List UInt8) : Bool :=
  match bytes.reverse with
  | mark :: c :: _ :: _ =>
      (mark = ':'.toUInt8 || mark = '|'.toUInt8) && (Char.ofNat c.toNat).isAlpha
  | _ => false

/-- A path that starts at the root and is served by this machine, with its
escapes undone. Query and fragment play no part. -/
def localPath? (u : Uri) : Option Path :=
  let isLocal := match u.authority with
    | none => true
    | some a => a.host = "" || a.host = "localhost"
  if isLocal && u.path.startsWith "/" then
    let bytes := Percent.decode u.path.toList
    let bytes := if endsInDrive bytes then bytes ++ ['/'.toUInt8] else bytes
    some ⟨bytes⟩
  else none

end Bilingual.Uri
