import Bilingual.Protocol.Capabilities
import Bilingual.Uri.LocalPath

/-!
The first request of a session. Of all that it tells only the workspace matters,
but the rest has to be well-formed.
-/

namespace Bilingual

/-- Where the workspace is: the URIs of its folders, and that of its root, which
older editors give. -/
structure Startup where
  root : Option Uri
  folders : Option (List Uri)
  deriving DecidableEq, Repr

namespace Startup

def folder? (j : Json) : Option Uri := do
  match ← j.record? ["uri", "name"] with
  | [uri, name] =>
      let _ ← Json.required Json.string? name
      Json.required Uri.ofJson? uri
  | _ => none

/-- What the request holds. The workspace is looked into when it is read. -/
def members : List Member := [
  .optional "processId" .count,
  .optional "rootPath" .text,
  .optional "rootUri" .any,
  .optional "initializationOptions" .any,
  .required "capabilities" Shape.Capabilities.all,
  .optional "trace" (.word ["off", "messages", "verbose"]),
  .optional "workspaceFolders" .any,
  .optional "clientInfo" (.record [.required "name" .text, .optional "version" .text]),
  .optional "locale" .text]

def ofJson? (j : Json) : Option Startup := do
  if !Shape.record members j then none
  match ← j.record? (members.map (·.name)) with
  | [_, _, root, _, _, _, folders, _, _] =>
      return ⟨← Json.optional Uri.ofJson? root, ← Json.optional (Json.list? folder?) folders⟩
  | _ => none

/-- The directory of the workspace: that of the first folder if it is one of
this machine, and else that of the root. -/
def directory? (s : Startup) : Option Path :=
  ((s.folders.bind List.head?).bind Uri.localPath?) <|> s.root.bind Uri.localPath?

end Startup

end Bilingual
