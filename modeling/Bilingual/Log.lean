import Bilingual.Delimiters
import Bilingual.Path
import Bilingual.Protocol.Rpc
import Bilingual.Text.Lines
import Bilingual.Uri.Basic
import Bilingual.Viewport

/-!
What is worth a line in the log, and the wording of the lines.
-/

namespace Bilingual

inductive Level
  | debug
  | info
  | warn
  deriving DecidableEq, Repr

def Level.text : Level → String
  | .debug => "debug"
  | .info => "info"
  | .warn => "warn"

inductive Event
  | cacheHit (document : Uri) (revision : Int32)
  | cacheMiss (document : Uri) (revision : Int32) (found : Nat)
  | cacheEvicted (document : Uri)
  | cacheInvalidated (document : Uri)
  | cursorDecided (document : Uri) (cursor : Nat) (tag : Tag)
  | viewportDecided (document : Uri) (visible : List ByteRange) (cursor : Option Nat) (tag : Tag)
  | viewportUndecided (document : Uri)
  | selectionUntracked (document : Uri)
  | cursorOutside (position : Position) (document : Uri)
  | viewportUntracked (document : Uri)
  | viewportOutside (document : Uri)
  | delimitersRejected (cause : Delimiters.Error)
  | fileRejected (path : Path)
  | settingsChosen (directory : Path)
  | shutDown
  | promptFailed (cause : Rpc.Error)
  | dismissalLost
  deriving DecidableEq, Repr

namespace Event

def level : Event → Level
  | .delimitersRejected _ | .fileRejected _ | .dismissalLost => .warn
  | .settingsChosen _ | .shutDown => .info
  | _ => .debug

def rangesText (ranges : List ByteRange) : String :=
  "[" ++ ", ".intercalate (ranges.map fun r => toString r.start ++ ".." ++ toString r.stop) ++ "]"

def cursorText : Option Nat → String
  | none => "None"
  | some cursor => "Some(" ++ toString cursor ++ ")"

def positionText (p : Position) : String :=
  "Position \x7b line: " ++ toString p.line.toNat ++ ", character: " ++
    toString p.character.toNat ++ " \x7d"

/-- The line in the log. Details of a rejected file, and of a failure to write
one, are left out. -/
def message : Event → String
  | .cacheHit document revision =>
      "region cache hit for " ++ document.text ++ " at revision " ++ toString revision.toInt
  | .cacheMiss document revision found =>
      "region cache miss for " ++ document.text ++ " at revision " ++ toString revision.toInt ++
        ": " ++ toString found ++ " region(s)"
  | .cacheEvicted document => "region cache full, evicting " ++ document.text
  | .cacheInvalidated document => "region cache invalidated for " ++ document.text
  | .cursorDecided document cursor tag =>
      document.text ++ " cursor at " ++ toString cursor ++ " -> " ++ tag.text
  | .viewportDecided document visible cursor tag =>
      document.text ++ " viewport " ++ rangesText visible ++ " cursor " ++ cursorText cursor ++
        " -> " ++ tag.text
  | .viewportUndecided document => document.text ++ " mixed viewport without a cursor"
  | .selectionUntracked document =>
      "selection change for untracked document " ++ document.text
  | .cursorOutside position document =>
      "cursor " ++ positionText position ++ " outside " ++ document.text
  | .viewportUntracked document =>
      "viewport change for untracked document " ++ document.text
  | .viewportOutside document => "viewport outside " ++ document.text
  | .delimitersRejected cause => cause.message ++ "; falling back to default delimiters"
  | .fileRejected path => "failed to parse " ++ path.text
  | .settingsChosen directory => "using settings from " ++ directory.text
  | .shutDown => "shutting down"
  | .promptFailed cause => "advisory prompt failed: " ++ cause.text
  | .dismissalLost => "failed to persist advisory dismissal"

end Event

end Bilingual
