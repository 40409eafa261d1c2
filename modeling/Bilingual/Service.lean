import Bilingual.Protocol.Method

/-!
The message layer around the server: which messages reach it in which part of a
session, and how those that do not are answered.
-/

namespace Bilingual

inductive Phase
  /-- Before the first request has been served. -/
  | waiting
  | active
  /-- Behind the last request. -/
  | stopped
  | exited
  deriving DecidableEq, Repr

/-- What comes from an editor. -/
inductive Incoming
  | message (method : String) (id : Option Rpc.Id) (params : Option Json)
  | reply (id : Rpc.Id) (answer : Except Rpc.Error Json)

/-- How a message is answered. -/
inductive Response
  | silent
  | result (id : Rpc.Id) (value : Json)
  | failure (id : Rpc.Id) (error : Rpc.Error)
  /-- The session is over. -/
  | exited

structure Service where
  phase : Phase
  server : Server

/-- What a message leaves behind. -/
structure Outcome where
  service : Service
  files : FileTree
  response : Response
  sent : List Outgoing
  log : List Event

namespace Service

def start : Service := ⟨.waiting, .start⟩

/-- Nothing changes. -/
def rest (s : Service) (files : FileTree) (response : Response) : Outcome :=
  { service := s, files, response, sent := [], log := [] }

/-- Only requests can be refused. -/
def refuse (s : Service) (files : FileTree) (id : Option Rpc.Id) (error : Rpc.Error) : Outcome :=
  s.rest files (match id with
    | some id => .failure id error
    | none => .silent)

/-- The answer to a message that has its place only in an active session. -/
def refuseInactive (s : Service) (files : FileTree) (id : Option Rpc.Id) : Outcome :=
  s.refuse files id (if s.phase = .waiting then .notReady else .invalidRequest)

def serve (phase : Phase) (response : Response) (e : Effect) : Outcome :=
  { service := ⟨phase, e.server⟩, files := e.files, response, sent := e.sent, log := e.log }

def name : String := "retagls"

def version : String := "0.1.0"

/-- What the server can do: it takes documents as whole texts. -/
def capabilities : Json :=
  .object [("capabilities", .object [("textDocumentSync", .ofNat 1)]),
    ("serverInfo", .object [("name", .string name), ("version", .string version)])]

/-- The first request. It is served once; one that is ill-formed may be followed
by another. -/
def startup (s : Service) (files : FileTree) (environment : Environment) (id : Option Rpc.Id)
    (params : Option Json) : Outcome :=
  if s.phase = .waiting then
    match id with
    | none => s.rest files .silent
    | some id =>
        match params.bind Startup.ofJson? with
        | some startup =>
            serve .active (.result id capabilities) (s.server.begin files environment startup)
        | none => s.refuse files id .invalidParams
  else s.refuse files id .invalidRequest

/-- The last request. The session stops even if the request is ill-formed. -/
def shutdown (s : Service) (files : FileTree) (id : Option Rpc.Id) (params : Option Json) :
    Outcome :=
  if s.phase = .active then
    let stopped : Service := { s with phase := .stopped }
    match id, params with
    | none, _ => stopped.rest files .silent
    | some id, some _ => stopped.refuse files id .invalidParams
    | some id, none => serve .stopped (.result id .null) (s.server.finish files)
  else s.refuseInactive files id

/-- A report. One with an identifier is no report, and one that is ill-formed is
passed over. -/
def report (s : Service) (files : FileTree) (id : Option Rpc.Id) (notice : Option Notice) :
    Outcome :=
  if s.phase = .active then
    match id with
    | some id => s.refuse files id .invalidRequest
    | none =>
        match notice with
        | some notice => serve .active .silent (s.server.handle files notice)
        | none => s.rest files .silent
  else s.refuseInactive files id

/-- A request that is not served. -/
def decline (s : Service) (files : FileTree) (shape : Shape) (id : Option Rpc.Id)
    (params : Option Json) : Outcome :=
  if s.phase = .active then
    s.refuse files id
      (if params.any shape then .methodNotFound else .invalidParams)
  else s.refuseInactive files id

/-- A message with a method. -/
def receive (s : Service) (files : FileTree) (environment : Environment) (method : String)
    (id : Option Rpc.Id) (params : Option Json) : Outcome :=
  match Method.ofName? method with
  | some .startup => s.startup files environment id params
  | some .shutdown => s.shutdown files id params
  | some .exit => ({ s with phase := .exited } : Service).rest files .silent
  | some .cancel => s.refuse files id .invalidRequest
  | some (.report read) => s.report files id (params.bind read)
  | some .ignored => s.report files id none
  | some (.unserved shape) => s.decline files shape id params
  | none =>
      if method.startsWith "$/" then s.rest files .silent
      else s.refuse files id .methodNotFound

/-- One message. Behind the end of a session nothing is done. -/
def step (s : Service) (files : FileTree) (environment : Environment) : Incoming → Outcome
  | .message method id params =>
      if s.phase = .exited then s.rest files .exited
      else s.receive files environment method id params
  | .reply id answer =>
      if s.phase = .exited then s.rest files .silent
      else serve s.phase .silent (s.server.answered files id answer)

end Service

end Bilingual
