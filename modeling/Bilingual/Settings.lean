import Bilingual.FileTree
import Bilingual.Log
import Bilingual.Toml.Document

/-!
Settings of a workspace: a TOML file whose table `retag` may set any of seven
keys, the defaults for the others, and the search for the file. A file that
cannot be read as a whole sets nothing.
-/

namespace Bilingual

/-- What a settings file sets. -/
structure Settings where
  fileSuffix : Option String
  openDelimiter : Option String
  closeDelimiter : Option String
  scriptLanguage : Option String
  templateLanguage : Option String
  maxDocuments : Option Nat
  advisory : Option Bool
  deriving DecidableEq, Repr

/-- What holds in a workspace. -/
structure Config where
  /-- Documents whose path ends so are looked after. -/
  fileSuffix : String
  openDelimiter : String
  closeDelimiter : String
  scriptLanguage : String
  templateLanguage : String
  /-- How many documents may have their regions kept. -/
  maxDocuments : Option Nat
  /-- Whether the user is told once that languages are switched. -/
  advisory : Bool
  deriving DecidableEq, Repr

namespace Config

def standard : Config where
  fileSuffix := ".blade.php"
  openDelimiter := Delimiters.defaultOpening
  closeDelimiter := Delimiters.defaultClosing
  scriptLanguage := "php"
  templateLanguage := "blade"
  maxDocuments := none
  advisory := true

/-- Defaults, for all that the settings leave open. -/
def ofSettings : Option Settings → Config
  | none => standard
  | some s =>
      { fileSuffix := s.fileSuffix.getD standard.fileSuffix
        openDelimiter := s.openDelimiter.getD standard.openDelimiter
        closeDelimiter := s.closeDelimiter.getD standard.closeDelimiter
        scriptLanguage := s.scriptLanguage.getD standard.scriptLanguage
        templateLanguage := s.templateLanguage.getD standard.templateLanguage
        maxDocuments := s.maxDocuments
        advisory := s.advisory.getD standard.advisory }

/-- Whether a document is one to look after. Its path is taken as it is written,
with all escapes. -/
def covers (config : Config) (document : Uri) : Bool :=
  document.path.endsWith config.fileSuffix

def languageId (config : Config) : Tag → String
  | .script => config.scriptLanguage
  | .template => config.templateLanguage

def delimitersIf (builds : String → String → Bool) (config : Config) :
    Except Delimiters.Error Delimiters :=
  Delimiters.ofStringsIf builds config.openDelimiter config.closeDelimiter

/-- The delimiters set, or the standard ones where those are of no use. -/
def usableDelimitersIf (builds : String → String → Bool) (config : Config) :
    Delimiters × List Event :=
  match config.delimitersIf builds with
  | .ok d => (d, [])
  | .error e => (.standard, [.delimitersRejected e])

def delimiters : Config → Except Delimiters.Error Delimiters := delimitersIf Delimiters.fits

def usableDelimiters : Config → Delimiters × List Event := usableDelimitersIf Delimiters.fits

end Config

namespace Settings

def string? : Toml.Item → Option String
  | .string s => some s
  | _ => none

def count? : Toml.Item → Option Nat
  | .integer n => if 0 ≤ n then some n.toNat else none
  | _ => none

def flag? : Toml.Item → Option Bool
  | .boolean b => some b
  | _ => none

/-- A member that may be missing but has to be of its kind. -/
def member {α : Type} (read : Toml.Item → Option α) : Option Toml.Item → Option (Option α)
  | none => some none
  | some item => (read item).map some

def keys : List String :=
  ["file_suffix", "open_delimiter", "close_delimiter", "script_language", "template_language",
    "max_documents", "advisory"]

def ofItem? (item : Toml.Item) : Option Settings := do
  match ← Toml.record? keys item with
  | [suffix, opening, closing, script, template, documents, advisory] =>
      return {
        fileSuffix := ← member string? suffix
        openDelimiter := ← member string? opening
        closeDelimiter := ← member string? closing
        scriptLanguage := ← member string? script
        templateLanguage := ← member string? template
        maxDocuments := ← member count? documents
        advisory := ← member flag? advisory }
  | _ => none

/-- What the text of a settings file sets. The outer option tells whether it can
be read, the inner one whether it has the table. -/
def parse? (text : String) : Option (Option Settings) := do
  member ofItem? ((← Toml.parse? text).lookup "retag")

def fileName : Path := .ofText "retagls.toml"

/-- The settings in a file. One that is missing or is no text sets nothing; of
one that cannot be read there is a word in the log. -/
def load (t : FileTree) (path : Path) : Option Settings × List Event :=
  match t.readText path with
  | .error _ => (none, [])
  | .ok text =>
      match parse? text with
      | some settings => (settings, [])
      | none => (none, [.fileRejected path])

/-- Settings, and the directory they hold for. -/
structure Found where
  settings : Option Settings
  directory : Path
  log : List Event

def loadFrom (t : FileTree) (directory : Path) : Found :=
  let (settings, log) := load t (directory.join fileName)
  { settings, directory, log }

def hasFile (t : FileTree) (directory : Path) : Bool :=
  t.isFile (directory.join fileName)

/-- The directory itself, those above it from the nearest on, and then those
right inside it, links apart: the first that has a settings file. -/
def directory? (t : FileTree) (start : Path) : Option Path :=
  (start :: start.parents).find? (hasFile t) <|>
    ((t.children start).filterMap fun (name, node) =>
      if node = .directory then some (start.join ⟨name⟩) else none).find? (hasFile t)

def discover (t : FileTree) (start : Path) : Found :=
  match directory? t start with
  | some directory => loadFrom t directory
  | none => { settings := none, directory := start, log := [] }

end Settings

end Bilingual
