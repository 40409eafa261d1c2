import Bilingual.Settings

/-!
The one thing that is remembered about a user: whether the advisory has been
dismissed for good. It is kept in a TOML file among the data of the user.
-/

namespace Bilingual

/-- The variables that tell where a user's data are, and the home directory that
the system has on record. -/
structure Environment where
  dataHome : Option Path
  home : Option Path
  recordedHome : Option Path
  deriving DecidableEq, Repr

/-- The directory for a user's data. A relative one does not count. -/
def Environment.dataDirectory? (e : Environment) : Option Path :=
  e.dataHome.filter Path.isAbsolute <|>
    ((e.home.filter (!·.isEmpty)) <|> e.recordedHome).map (·.join (.ofText ".local/share"))

structure Preferences where
  advisoryDismissed : Bool
  deriving DecidableEq, Repr

namespace Preferences

def path? (e : Environment) : Option Path :=
  e.dataDirectory?.map fun d => d.join (.ofText "retagls/preferences.toml")

def standard : Preferences := ⟨false⟩

def parse? (text : String) : Option Preferences := do
  let dismissed ← Settings.member Settings.flag? ((← Toml.parse? text).lookup "advisory_dismissed")
  return ⟨dismissed.getD standard.advisoryDismissed⟩

def text (p : Preferences) : String :=
  "advisory_dismissed = " ++ (if p.advisoryDismissed then "true" else "false") ++ "\n"

/-- The preferences in a file, or the standard ones. Of a file that cannot be
read there is a word in the log, unless it is missing or is no text. -/
def load (t : FileTree) (path : Path) : Preferences × List Event :=
  match t.readText path with
  | .error _ => (standard, [])
  | .ok text =>
      match parse? text with
      | some p => (p, [])
      | none => (standard, [.fileRejected path])

/-- Writes the preferences, after the directories that lead to them. These stay
even where the file cannot be written. -/
def save (t : FileTree) (path : Path) (p : Preferences) :
    FileTree × Except FileTree.Error Unit :=
  let (t, made) := match path.parent? with
    | some directory => t.createDirectories directory
    | none => (t, .ok ())
  match made with
  | .error e => (t, .error e)
  | .ok () =>
      match t.write path p.text.toUTF8 with
      | .ok t => (t, .ok ())
      | .error e => (t, .error e)

end Preferences

end Bilingual
