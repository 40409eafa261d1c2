import Bilingual.Protocol.Requests
import Bilingual.Server

/-!
Methods by name. Reports may come without being answered; requests are answered.
Of the requests that editors know, only the first and the last of a session are
served here; the others are recognised, and refused once they are read.
-/

namespace Bilingual

inductive Method
  | startup
  | shutdown
  | exit
  | cancel
  | report (read : Json → Option Notice)
  /-- A report that changes nothing. -/
  | ignored
  /-- A request that is not served, though what it holds is looked at. -/
  | unserved (shape : Shape)

namespace Method

/-- The message that the editor is ready holds nothing. -/
def ready? (j : Json) : Option Notice := do
  match ← j.record? [] with
  | [] => some .ready
  | _ => none

def reports : List (String × (Json → Option Notice)) :=
  [("initialized", ready?),
    ("textDocument/didOpen", fun j => (OpenedDocument.ofJson? j).map .opened),
    ("textDocument/didChange", fun j => (ChangedDocument.ofJson? j).map .changed),
    ("textDocument/didClose", fun j => (closedDocument? j).map .closed),
    ("retag/selectionChanged", fun j => (SelectionChanged.ofJson? j).map .selection),
    ("retag/visibleRangesChanged", fun j => (VisibleRangesChanged.ofJson? j).map .viewport)]

def ignoredNames : List String :=
  ["textDocument/willSave", "textDocument/didSave", "workspace/didChangeConfiguration",
    "workspace/didChangeWorkspaceFolders", "workspace/didChangeWatchedFiles",
    "workspace/didCreateFiles", "workspace/didRenameFiles", "workspace/didDeleteFiles"]

def ofName? (name : String) : Option Method :=
  if name = "initialize" then some .startup
  else if name = "shutdown" then some .shutdown
  else if name = "exit" then some .exit
  else if name = "$/cancelRequest" then some .cancel
  else if name ∈ ignoredNames then some .ignored
  else (reports.lookup name).map .report <|> (Shape.Requests.shape? name).map .unserved

end Method

end Bilingual
