import Bilingual.Json.Reader
import Bilingual.Protocol.Envelope
import Bilingual.Protocol.Frame

/-!
The server on standard input and output. Before each message the files that it
may look at are copied into a tree, and a change of the preferences is written
back behind it.
-/

namespace Bilingual.Terminal

/-- The size of the next body, if the input has not ended. -/
partial def readHeader (input : IO.FS.Stream) (size : Option Nat) : IO (Option Nat) := do
  let line ← input.getLine
  if line.isEmpty then return none
  else if Frame.isEnd line then
    match size with
    | some n => return some n
    | none => readHeader input none
  else readHeader input ((Frame.bodySize? line).or size)

/-- The next `size` bytes, or as many as there are. -/
partial def readBody (input : IO.FS.Stream) (size : Nat) (before : ByteArray) : IO ByteArray := do
  if size ≤ before.size then return before
  else
    let more ← input.read (USize.ofNat (size - before.size))
    if more.isEmpty then return before else readBody input size (before ++ more)

/-- Adds a file, if there is one that can be read. -/
def copyFile (t : FileTree) (path : Path) : IO FileTree := do
  let some name := path.text? | return t
  try
    let content ← IO.FS.readBinFile name
    let t := match path.parent? with
      | some directory => (t.createDirectories directory).1
      | none => t
    return (t.write path content).toOption.getD t
  catch _ => return t

/-- The names of the directories right inside a directory, links apart. -/
def childDirectories (path : Path) : IO (List Path) := do
  let some name := path.text? | return []
  try
    let entries ← (← IO.FS.realPath name).readDir
    let directories ← entries.toList.filterM fun e => do
      return (← e.path.symlinkMetadata).type == .dir
    return directories.map (Path.ofText ·.fileName)
  catch _ => return []

/-- The settings files that hold for a workspace, or may. -/
def copySettings (t : FileTree) (directory : Path) : IO FileTree := do
  let inside := (← childDirectories directory).map directory.join
  (directory :: directory.parents ++ inside).foldlM
    (fun t d => copyFile t (d.join Settings.fileName)) t

/-- The files that a message may make the server look at. -/
def copyFiles (environment : Environment) (message : Incoming) : IO FileTree := do
  let t ← match Preferences.path? environment with
    | some path => copyFile .empty path
    | none => pure .empty
  match message.directory? with
  | some directory => copySettings t directory
  | none => return t

def say (e : Event) : IO Unit := do
  if e.level = .warn then IO.eprintln (e.level.text ++ ": " ++ e.message)

/-- Writes the preferences back if they have changed. -/
def keepPreferences (environment : Environment) (before after : FileTree) : IO Unit := do
  let some path := Preferences.path? environment | return
  let .ok text := after.readText path | return
  if (before.readText path).toOption = some text then return
  let some name := path.text? | return
  try
    if let some directory := path.parent?.bind Path.text? then IO.FS.createDirAll directory
    IO.FS.writeFile name text
  catch _ => say .dismissalLost

def send (output : IO.FS.Stream) (j : Json) : IO Unit := do
  output.putStr (Frame.text j)
  output.flush

/-- The session after one message. -/
def serve (environment : Environment) (output : IO.FS.Stream) (service : Service)
    (body : ByteArray) : IO Service := do
  let refuse := fun (error : Rpc.Error) => do
    if let some j := (Response.failure .null error).envelope? then send output j
    return service
  match (String.fromUTF8? body).bind Json.parse? with
  | none => refuse .unreadable
  | some j =>
      match Incoming.ofJson? j with
      | none => refuse .invalidRequest
      | some message =>
          let files ← copyFiles environment message
          let outcome := service.step files environment message
          outcome.log.forM say
          keepPreferences environment files outcome.files
          outcome.envelopes.forM (send output)
          return outcome.service

partial def loop (environment : Environment) (input output : IO.FS.Stream) (service : Service) :
    IO Unit := do
  if service.phase = .exited then return
  let some size ← readHeader input none | return
  loop environment input output (← serve environment output service (← readBody input size .empty))

def environment : IO Environment := do
  let read := fun name => do return (← IO.getEnv name).map Path.ofText
  return { dataHome := ← read "XDG_DATA_HOME", home := ← read "HOME", recordedHome := none }

end Bilingual.Terminal

def main : IO Unit := do
  Bilingual.Terminal.loop (← Bilingual.Terminal.environment) (← IO.getStdin) (← IO.getStdout) .start
