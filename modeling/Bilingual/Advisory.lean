import Bilingual.Json.Writer
import Bilingual.Preferences
import Bilingual.Text.Quotation

/-!
The advisory: a question that tells the user, once in a session, that languages
follow the cursor, and offers to keep quiet about it for good.
-/

namespace Bilingual.Advisory

def acknowledge : String := "OK"

def dismiss : String := "Don't show again"

def titles : List String := [acknowledge, dismiss]

/-- The wording names the delimiters and languages that are set, whether or not
the delimiters can be used. -/
def message (config : Config) : String :=
  "The language of " ++ config.fileSuffix ++ " files now follows the cursor and viewport: " ++
    config.openDelimiter ++ "..." ++ config.closeDelimiter ++ " blocks are treated as " ++
    config.scriptLanguage ++ ", everything else as " ++ config.templateLanguage ++ "."

def kindText : Json → String
  | .null => "null"
  | .bool b => "boolean \x60" ++ toString b ++ "\x60"
  | .number n => "integer \x60" ++ toString n ++ "\x60"
  | .float x => "floating point \x60" ++ Json.floatText x ++ "\x60"
  | .string s => "string " ++ Text.quotation s
  | .array _ => "sequence"
  | .object _ => "map"

/-- The title that an answer chooses, if it chooses one. -/
def chosenTitle (answer : Json) : Except Rpc.Error (Option String) :=
  match answer with
  | .null => .ok none
  | .object members =>
      match members.lookup "title" with
      | some (.string title) => .ok (some title)
      | some other =>
          .error (.parseError ("invalid type: " ++ kindText other ++ ", expected a string"))
      | none => .error (.parseError "missing field \x60title\x60")
  | other =>
      .error (.parseError
        ("invalid type: " ++ kindText other ++ ", expected struct MessageActionItem"))

/-- What came of the answer: the files, and what is worth a line in the log. -/
structure Outcome where
  files : FileTree
  log : List Event

/-- Remembers the wish to keep quiet in the preferences at `path`. -/
def remember (files : FileTree) (path : Path) : Outcome :=
  let (preferences, log) := Preferences.load files path
  let (files, saved) := Preferences.save files path { preferences with advisoryDismissed := true }
  match saved with
  | .ok () => { files, log }
  | .error _ => { files, log := log ++ [.dismissalLost] }

/-- Only the one title, word for word, dismisses the advisory for good. -/
def answered (files : FileTree) (path : Option Path) (answer : Except Rpc.Error Json) :
    Outcome :=
  match answer >>= chosenTitle with
  | .error e => { files, log := [.promptFailed e] }
  | .ok title =>
      match path with
      | some path => if title = some dismiss then remember files path else { files, log := [] }
      | none => { files, log := [] }

end Bilingual.Advisory
