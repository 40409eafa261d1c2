import Bilingual.Advisory
import Bilingual.Protocol.Documents
import Bilingual.Protocol.Outgoing
import Bilingual.Protocol.Startup
import Bilingual.Reaction

/-!
The server between its first request and its end: the documents that are open,
their regions, and the reactions to what an editor reports. The settings are
fixed once and for all, by the first request or else by the first use of them.
-/

namespace Bilingual

/-- What an editor reports. -/
inductive Notice
  | ready
  | opened (document : OpenedDocument)
  | changed (document : ChangedDocument)
  | closed (document : Uri)
  | selection (message : SelectionChanged)
  | viewport (message : VisibleRangesChanged)
  deriving DecidableEq, Repr

/-- The delimiters in use, and the regions found with them. -/
structure Tagging where
  delimiters : Delimiters
  cache : Cache

/-- A question that the editor has not answered yet, and the preferences that an
answer may change. -/
structure Question where
  id : Nat
  preferences : Option Path
  deriving DecidableEq, Repr

structure Server where
  config : Option Config
  documents : OpenDocuments
  /-- Set up when a region or its absence is first needed. -/
  tagging : Option Tagging
  preferences : Option Path
  advisoryShown : Bool
  questions : List Question
  nextId : Nat

/-- What a reaction leaves behind. -/
structure Effect where
  server : Server
  files : FileTree
  sent : List Outgoing
  log : List Event

namespace Server

def start : Server where
  config := none
  documents := .empty
  tagging := none
  preferences := none
  advisoryShown := false
  questions := []
  nextId := 0

/-- The settings in force. -/
def effective (s : Server) : Config := s.config.getD .standard

/-- Fixes the settings, unless they are fixed already. -/
def configure (s : Server) (config : Config) : Server :=
  { s with config := some (s.config.getD config) }

/-- Fixes the defaults, unless settings are fixed already. -/
def settle (s : Server) : Server := s.configure .standard

/-- The delimiters and the regions, which are set up if they are not yet. -/
def withTagging (s : Server) : Server × Tagging × List Event :=
  match s.tagging with
  | some tagging => (s, tagging, [])
  | none =>
      let s := s.settle
      let (delimiters, log) := s.effective.usableDelimiters
      let tagging : Tagging := ⟨delimiters, .ofCapacity s.effective.maxDocuments⟩
      ({ s with tagging := some tagging }, tagging, log)

/-- The first request: settings are looked for from the workspace on. -/
def begin (s : Server) (files : FileTree) (environment : Environment) (startup : Startup) :
    Effect :=
  let s := { s with preferences := Preferences.path? environment }
  match startup.directory? with
  | none => { server := s, files, sent := [], log := [] }
  | some directory =>
      let found := Settings.discover files directory
      { server := s.configure (.ofSettings found.settings), files, sent := []
        log := found.log ++ [.settingsChosen found.directory] }

/-- The last request: nothing is kept about regions. -/
def finish (s : Server) (files : FileTree) : Effect :=
  let (s, tagging, log) := s.withTagging
  let reaction := Reaction.toEnd tagging.cache
  { server := { s with tagging := some { tagging with cache := reaction.cache } }, files
    sent := [], log := log ++ reaction.log ++ [.shutDown] }

/-- Asks whether to keep quiet, the first time that there is cause to and unless
the user has wished so. -/
def advise (s : Server) (files : FileTree) : Effect :=
  let s := s.settle
  if !s.effective.advisory || s.advisoryShown then { server := s, files, sent := [], log := [] }
  else
    let s := { s with advisoryShown := true }
    let (dismissed, log) := match s.preferences with
      | some path =>
          let (preferences, log) := Preferences.load files path
          (preferences.advisoryDismissed, log)
      | none => (false, [])
    if dismissed then { server := s, files, sent := [], log }
    else
      { server :=
          { s with nextId := s.nextId + 1, questions := s.questions ++ [⟨s.nextId, s.preferences⟩] }
        files
        sent := [.prompt s.nextId (Advisory.message s.effective) Advisory.titles]
        log }

/-- Keeps the state of a document. Other documents are not looked after. -/
def track (s : Server) (uri : Uri) (version : Int32) (text : String) : Server × Bool :=
  let s := s.settle
  if s.effective.covers uri then
    ({ s with documents := s.documents.insert (.ofText uri version text) }, true)
  else (s, false)

/-- The messages for requests to switch languages. -/
def announce (s : Server) (requests : List Retag) : List Outgoing :=
  requests.map fun r => .setLanguage ⟨r.document, s.effective.languageId r.tag⟩

/-- Lets a reaction to an event take its course. -/
def react (s : Server) (files : FileTree) (reaction : Finder → Cache → Reaction) :
    Effect :=
  let (s, tagging, log) := s.withTagging
  let r := reaction tagging.delimiters.scan tagging.cache
  { server := { s with tagging := some { tagging with cache := r.cache } }, files
    sent := s.announce r.requests, log := log ++ r.log }

def cursorMoved (s : Server) (files : FileTree) (m : SelectionChanged) : Effect :=
  match s.documents.find? m.document with
  | none => { server := s, files, sent := [], log := [.selectionUntracked m.document] }
  | some d =>
      match d.content.offset? m.position with
      | none =>
          { server := s, files, sent := [], log := [.cursorOutside m.position m.document] }
      | some cursor =>
          s.react files fun scan cache => Reaction.toCursor scan cache d cursor

def viewMoved (s : Server) (files : FileTree) (m : VisibleRangesChanged) : Effect :=
  match s.documents.find? m.document with
  | none => { server := s, files, sent := [], log := [.viewportUntracked m.document] }
  | some d =>
      match m.visible.mapM d.content.range? with
      | none => { server := s, files, sent := [], log := [.viewportOutside m.document] }
      | some visible =>
          let cursor := d.content.offset? m.position
          s.react files fun scan cache =>
            Reaction.toViewport scan cache d visible cursor

/-- Forgets a document that is looked after. -/
def close (s : Server) (files : FileTree) (uri : Uri) : Effect :=
  let s := s.settle
  if s.effective.covers uri then
    { s with documents := s.documents.erase uri }.react files fun _ cache =>
      Reaction.toClosing cache uri
  else { server := s, files, sent := [], log := [] }

/-- The reaction to a report. Of the texts of a change the first one counts. -/
def handle (s : Server) (files : FileTree) : Notice → Effect
  | .ready =>
      { server := s, files, sent := [.note "retag language server initialized"], log := [] }
  | .opened d =>
      let (s, tracked) := s.track d.uri d.version d.text
      if tracked then s.advise files else { server := s, files, sent := [], log := [] }
  | .changed d =>
      match d.texts with
      | [] => { server := s, files, sent := [], log := [] }
      | text :: _ =>
          { server := (s.track d.uri d.version text).1, files, sent := [], log := [] }
  | .closed uri => s.close files uri
  | .selection m => s.cursorMoved files m
  | .viewport m => s.viewMoved files m

/-- The answer to a question. One that was not asked, or is answered already, is
passed over. -/
def answered (s : Server) (files : FileTree) (id : Rpc.Id) (answer : Except Rpc.Error Json) :
    Effect :=
  match s.questions.find? (.number ·.id = id) with
  | none => { server := s, files, sent := [], log := [] }
  | some question =>
      let outcome := Advisory.answered files question.preferences answer
      { server := { s with questions := s.questions.filter (·.id ≠ question.id) }
        files := outcome.files, sent := [], log := outcome.log }

end Server

end Bilingual
