import Bilingual.Service

/-!
Messages in their envelopes: what comes in, and the answers to it.
-/

namespace Bilingual

namespace Rpc

def Id.ofJson? : Json → Option Id
  | .null => some .null
  | .number n => some (.number n)
  | .string s => some (.string s)
  | _ => none

def Id.toJson : Id → Json
  | .null => .null
  | .number n => .number n
  | .string s => .string s

def Error.ofJson? (j : Json) : Option Error := do
  match ← j.record? ["code", "message", "data"] with
  | [some (.number code), some (.string message), _] => some ⟨code, message⟩
  | _ => none

def Error.toJson (e : Error) : Json :=
  .object [("code", .number e.code), ("message", .string e.message)]

/-- Every message names the version of its envelope. -/
def envelope (members : List (String × Json)) : Json :=
  .object (("jsonrpc", .string "2.0") :: members)

end Rpc

namespace Incoming

/-- A member that is missing, or one that has to be readable. -/
def identifier? : Option Json → Option (Option Rpc.Id)
  | none => some none
  | some j => (Rpc.Id.ofJson? j).map some

/-- What asks for something or tells something, by the name of its method. -/
def message? : Json → Option Incoming
  | .object members =>
      match members.lookup "method" with
      | some (.string method) => do
          return .message method (← identifier? (members.lookup "id")) (members.lookup "params")
      | _ => none
  | _ => none

/-- The answer to a question. Where there is a result, an error beside it does not
count. -/
def reply? : Json → Option Incoming
  | .object members => do
      let id ← Rpc.Id.ofJson? (← members.lookup "id")
      match members.lookup "result" with
      | some result => return .reply id (.ok result)
      | none => return .reply id (.error (← Rpc.Error.ofJson? (← members.lookup "error")))
  | _ => none

def ofJson? (j : Json) : Option Incoming := reply? j <|> message? j

/-- The workspace that a message names. -/
def directory? : Incoming → Option Path
  | .message method _ params =>
      match Method.ofName? method with
      | some .startup => (params.bind Startup.ofJson?).bind Startup.directory?
      | _ => none
  | .reply _ _ => none

end Incoming

/-- There is nothing to send for a report, nor once the session is over. -/
def Response.envelope? : Response → Option Json
  | .silent | .exited => none
  | .result id value => some (Rpc.envelope [("id", id.toJson), ("result", value)])
  | .failure id error => some (Rpc.envelope [("id", id.toJson), ("error", error.toJson)])

/-- What the server has to say of its own accord. -/
def Outgoing.envelope (m : Outgoing) : Json := Rpc.envelope m.members

namespace Outcome

/-- All that goes out for a message, in order. -/
def envelopes (o : Outcome) : List Json :=
  o.sent.map Outgoing.envelope ++ o.response.envelope?.toList

end Outcome

end Bilingual
