import Bilingual.Path

/-!
A tree of files, directories and symbolic links, with the operations that the
settings and the preferences need. Names are resolved as a file system does it:
links are followed on the way, and two dots lead to the directory that holds the
one arrived at. Permissions are left out, and so is a device that is full or fails:
an operation fails only for what the tree and the path are like.
-/

namespace Bilingual

-- Contents are compared by bytes, whatever else is in reach.
local instance decEqContent : DecidableEq ByteArray := ByteArray.instDecidableEq

/-- What a name in a directory stands for. -/
inductive Node
  | file (content : ByteArray)
  | directory
  | link (target : Path)
  deriving DecidableEq

/-- Nodes by the names that lead to them from the root, which is a directory
and has no entry of its own. -/
structure FileTree where
  entries : List (List Name × Node)

namespace FileTree

inductive Error
  | notFound
  | notDirectory
  | isDirectory
  | exists
  | tooManyLinks
  | tooLong
  | badCharacter
  | notText
  deriving DecidableEq, Repr

def empty : FileTree := ⟨[]⟩

/-- The node at a place, with links left as they are. -/
def node? (t : FileTree) (place : List Name) : Option Node :=
  if place.isEmpty then some .directory else t.entries.lookup place

/-- Puts a node at a place, instead of the one there if there is one. -/
def put (t : FileTree) (place : List Name) (node : Node) : FileTree :=
  if (t.entries.lookup place).isSome then
    ⟨t.entries.map fun e => if e.1 = place then (place, node) else e⟩
  else ⟨t.entries ++ [(place, node)]⟩

/-- Links that are followed in one look-up. -/
def linkLimit : Nat := 40

/-- Bytes that a name may have. -/
def nameLimit : Nat := 255

/-- Bytes that a path stays below. -/
def pathLimit : Nat := 4096

/-- Refuses paths that are taken nowhere, whatever the tree holds. -/
def checkPath (path : Path) : Except Error Unit :=
  if path.isEmpty then .error .notFound
  else if path.bytes.contains 0 then .error .badCharacter
  else if pathLimit ≤ path.bytes.length then .error .tooLong
  else .ok ()

/-- Where names lead from `here`. The last one need not exist. -/
def walk (t : FileTree) (links : Nat) (here : List Name) (names : List Name) :
    Except Error (List Name) :=
  match names with
  | [] => .ok here
  | name :: rest =>
      match t.node? here with
      | none => .error .notFound
      | some (.file _) | some (.link _) => .error .notDirectory
      | some .directory =>
          if Path.isIdle name then walk t links here rest
          else if name = Path.up then walk t links here.dropLast rest
          else if nameLimit < name.length then .error .tooLong
          else
            match t.node? (here ++ [name]) with
            | none => if rest.isEmpty then .ok (here ++ [name]) else .error .notFound
            | some (.link target) =>
                match links with
                | 0 => .error .tooManyLinks
                | links + 1 =>
                    walk t links (if target.isAbsolute then [] else here) (target.names ++ rest)
            | some _ => walk t links (here ++ [name]) rest
termination_by (links, names.length)

/-- The place that a path leads to. Paths are taken from the root. -/
def resolve (t : FileTree) (path : Path) : Except Error (List Name) := do
  checkPath path
  t.walk linkLimit [] path.names

/-- The node that a path leads to, behind all links. -/
def find (t : FileTree) (path : Path) : Except Error Node := do
  match t.node? (← t.resolve path) with
  | some node => .ok node
  | none => .error .notFound

def isFile (t : FileTree) (path : Path) : Bool :=
  match t.find path with
  | .ok (.file _) => true
  | _ => false

def isDirectory (t : FileTree) (path : Path) : Bool :=
  match t.find path with
  | .ok .directory => true
  | _ => false

def readText (t : FileTree) (path : Path) : Except Error String := do
  match ← t.find path with
  | .file content =>
      match String.fromUTF8? content with
      | some text => .ok text
      | none => .error .notText
  | _ => .error .isDirectory

/-- Names in a directory, with their own nodes. A path to anything else has none. -/
def children (t : FileTree) (path : Path) : List (Name × Node) :=
  match t.resolve path with
  | .error _ => []
  | .ok place =>
      if t.isDirectory path then
        t.entries.filterMap fun (p, node) =>
          if p.dropLast = place then p.getLast?.map (·, node) else none
      else []

/-- The place of a new entry: its directory is resolved and its name is not. -/
def newPlace (t : FileTree) (path : Path) : Except Error (List Name) := do
  checkPath path
  match path.names.reverse.dropWhile List.isEmpty with
  | [] => .error .exists
  | name :: before =>
      let directory ← t.walk linkLimit [] before.reverse
      match t.node? directory with
      | some .directory =>
          if nameLimit < name.length then .error .tooLong
          else if name = Path.here ∨ name = Path.up ∨ (t.node? (directory ++ [name])).isSome then
            .error .exists
          else .ok (directory ++ [name])
      | some _ => .error .notDirectory
      | none => .error .notFound

def createDirectory (t : FileTree) (path : Path) : Except Error FileTree := do
  return t.put (← t.newPlace path) .directory

def createLink (t : FileTree) (path target : Path) : Except Error FileTree := do
  return t.put (← t.newPlace path) (.link target)

/-- Creates the first of the directories, if need be after the others, which are
those above it. What has been created stays when a later step fails. -/
def createChain (t : FileTree) : List Path → FileTree × Except Error Unit
  | [] => (t, .error .notFound)
  | path :: above =>
      let settle := fun (t : FileTree) (e : Error) =>
        (t, if t.isDirectory path then .ok () else .error e)
      if path.isEmpty then (t, .ok ())
      else
        match t.createDirectory path with
        | .ok t => (t, .ok ())
        | .error .notFound =>
            match t.createChain above with
            | (t, .ok ()) =>
                match t.createDirectory path with
                | .ok t => (t, .ok ())
                | .error e => settle t e
            | failed => failed
        | .error e => settle t e

/-- Creates a directory and all those above it that are missing. An empty path asks
for none. -/
def createDirectories (t : FileTree) (path : Path) : FileTree × Except Error Unit :=
  t.createChain (path :: path.parents)

/-- Writes a file, new or not. The directory has to exist. -/
def write (t : FileTree) (path : Path) (content : ByteArray) : Except Error FileTree := do
  let place ← t.resolve path
  match t.node? place with
  | some .directory => .error .isDirectory
  | _ => return t.put place (.file content)

end FileTree

end Bilingual
