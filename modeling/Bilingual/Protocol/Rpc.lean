import Bilingual.Json

/-!
The envelope of messages: requests that are answered by their identifier, and
errors that stand in the place of a result.
-/

namespace Bilingual.Rpc

inductive Id
  | null
  | number (n : Int)
  | string (s : String)
  deriving DecidableEq, Repr

structure Error where
  code : Int
  message : String
  deriving DecidableEq, Repr

namespace Error

def parseError (message : String) : Error := ⟨-32700, message⟩
def unreadable : Error := ⟨-32700, "Parse error"⟩
def invalidRequest : Error := ⟨-32600, "Invalid request"⟩
def methodNotFound : Error := ⟨-32601, "Method not found"⟩
def invalidParams : Error := ⟨-32602, "Invalid params"⟩
def notReady : Error := ⟨-32002, "Server not initialized"⟩

/-- What a code stands for. -/
def kind (e : Error) : String :=
  match e.code with
  | -32700 => "Parse error"
  | -32600 => "Invalid request"
  | -32601 => "Method not found"
  | -32602 => "Invalid params"
  | -32603 => "Internal error"
  | -32800 => "Canceled"
  | -32801 => "Content modified"
  | _ => "Server error"

def text (e : Error) : String := e.kind ++ ": " ++ e.message

end Error

end Bilingual.Rpc
