import Bilingual.Protocol.Notification

/-!
What the server tells an editor of its own accord.
-/

namespace Bilingual

inductive Outgoing
  | setLanguage (message : SetLanguage)
  | note (text : String)
  /-- A question to the user, which the editor answers with one of the titles. -/
  | prompt (id : Nat) (text : String) (titles : List String)
  deriving DecidableEq, Repr

namespace Outgoing

/-- The weight that an editor gives to what it shows: an information. -/
def information : Json := .ofNat 3

def method : Outgoing → String
  | .setLanguage _ => "retag/setLanguage"
  | .note _ => "window/logMessage"
  | .prompt _ _ _ => "window/showMessageRequest"

def params : Outgoing → Json
  | .setLanguage message => message.toJson
  | .note text => .object [("type", information), ("message", .string text)]
  | .prompt _ text titles =>
      .object [("type", information), ("message", .string text),
        ("actions", .array (titles.map fun title => .object [("title", .string title)]))]

/-- A message without its envelope. Only a question has an identifier. -/
def members (m : Outgoing) : List (String × Json) :=
  let body := [("method", .string m.method), ("params", m.params)]
  match m with
  | .prompt id _ _ => body ++ [("id", .ofNat id)]
  | _ => body

def toJson (m : Outgoing) : Json := .object m.members

end Outgoing

end Bilingual
