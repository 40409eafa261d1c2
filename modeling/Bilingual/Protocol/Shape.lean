import Bilingual.Protocol.Notification

/-!
Shapes of JSON values: what messages may hold, whether or not it is of use here.
-/

namespace Bilingual

/-- A test that a value passes if it has a shape. -/
abbrev Shape := Json → Bool

/-- Whether a member has to be there. One that may be left out everywhere may be
missing at the end of an array as well. -/
inductive Presence
  | required
  | optional
  | defaulted
  deriving DecidableEq, Repr

structure Member where
  name : String
  presence : Presence
  shape : Shape

namespace Shape

def any : Shape := fun _ => true

def flag : Shape
  | .bool _ => true
  | _ => false

def text : Shape
  | .string _ => true
  | _ => false

def number : Shape
  | .number _ | .float _ => true
  | _ => false

def count : Shape := fun j => j.uint32?.isSome

def integer : Shape := fun j => j.int32?.isSome

def uri : Shape := fun j => (Uri.ofJson? j).isSome

def position : Shape := fun j => (Position.ofJson? j).isSome

def range : Shape := fun j => (PositionRange.ofJson? j).isSome

/-- One of some names, also as the only member of an object. -/
def word (names : List String) : Shape
  | .string s => names.contains s
  | .object [(name, .null)] => names.contains name
  | _ => false

def either (a b : Shape) : Shape := fun j => a j || b j

def orNull (shape : Shape) : Shape
  | .null => true
  | j => shape j

def listOf (shape : Shape) : Shape
  | .array items => items.all shape
  | _ => false

def pairOf (shape : Shape) : Shape
  | .array [a, b] => shape a && shape b
  | _ => false

/-- An object with any names of a shape. -/
def mapOf (name shape : Shape) : Shape
  | .object members => members.all fun (n, j) => name (.string n) && shape j
  | _ => false

end Shape

namespace Member

def required (name : String) (shape : Shape) : Member := ⟨name, .required, shape⟩

def optional (name : String) (shape : Shape) : Member := ⟨name, .optional, shape.orNull⟩

def defaulted (name : String) (shape : Shape) : Member := ⟨name, .defaulted, shape⟩

/-- Whether the member that an object has, if it has one, is of the shape. -/
def accepts (m : Member) : Option Json → Bool
  | some j => m.shape j
  | none => m.presence ≠ .required

end Member

namespace Shape

/-- An object with some members, among others. -/
def object (members : List Member) : Shape
  | .object given => members.all fun m => m.accepts (given.lookup m.name)
  | _ => false

/-- The items of an array, one for each member. -/
def items : List Member → List Json → Bool
  | [], given => given.isEmpty
  | m :: members, [] => m.presence = .defaulted && items members []
  | m :: members, j :: given => m.shape j && items members given

/-- An object with some members, or the array of them. -/
def record (members : List Member) : Shape
  | .array given => items members given
  | j => object members j

/-- A record whose members are all optional. -/
def options (members : List (String × Shape)) : Shape :=
  record (members.map fun (name, shape) => .optional name shape)

/-- One of some records, of which a tag tells which. The tag is the name of the
record or its number, and the head of an array. -/
def tagged (tag : String) (records : List (String × Shape)) : Shape :=
  let chosen? : Json → Option Shape
    | .string name => records.lookup name
    | .number n => if 0 ≤ n then records[n.toNat]?.map (·.2) else none
    | _ => none
  fun
    | .object members =>
        ((members.lookup tag).bind chosen?).any fun shape => shape (.object members)
    | .array (j :: rest) => (chosen? j).any fun shape => shape (.array rest)
    | _ => false

end Shape

end Bilingual
