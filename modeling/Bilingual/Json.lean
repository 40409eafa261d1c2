/-!
JSON values, and records read from them. A record is written as an object, in
which unknown members are ignored, or as the array of all its members in order.
-/

namespace Bilingual

/-- Whole numbers of 64 bits are kept as they are. Every other number is a float. -/
inductive Json
  | null
  | bool (b : Bool)
  | number (n : Int)
  | float (x : Float)
  | string (s : String)
  | array (items : List Json)
  | object (members : List (String × Json))
  deriving Repr, Inhabited

namespace Json

def ofNat (n : Nat) : Json := .number n

/-- The members of a record, by name. -/
def record? (names : List String) : Json → Option (List (Option Json))
  | .object members => some (names.map (List.lookup · members))
  | .array items => if items.length = names.length then some (items.map some) else none
  | _ => none

def string? : Json → Option String
  | .string s => some s
  | _ => none

def array? : Json → Option (List Json)
  | .array items => some items
  | _ => none

def uint32? : Json → Option UInt32
  | .number n => if 0 ≤ n ∧ n < 4294967296 then some (UInt32.ofNat n.toNat) else none
  | _ => none

def int32? : Json → Option Int32
  | .number n => if -2147483648 ≤ n ∧ n < 2147483648 then some (Int32.ofInt n) else none
  | _ => none

/-- A list, all of whose items have to be readable. -/
def list? {α : Type} (read : Json → Option α) (j : Json) : Option (List α) := do
  (← j.array?).mapM read

/-- A member that a record has to have. -/
def required {α : Type} (read : Json → Option α) (member : Option Json) : Option α :=
  member.bind read

/-- A member that may be missing or null. -/
def optional {α : Type} (read : Json → Option α) (member : Option Json) : Option (Option α) :=
  match member with
  | none | some .null => some none
  | some j => (read j).map some

end Json

end Bilingual
