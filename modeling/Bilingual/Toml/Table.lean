import Bilingual.Toml.Item

/-!
How keys and headers add to tables. A name is given a value once; a header opens
a table once; keys with dots add only to tables that such keys made, and headers
pass through any table but one between braces.
-/

namespace Bilingual.Toml

/-- Puts an item in the place of the one with this name. -/
def replace (name : String) (item : Item) (entries : Entries) : Entries :=
  entries.map fun e => if e.1 = name then (name, item) else e

/-- Adds to the last of the tables that a header in double brackets names. -/
def updateLast (elements : List Entries) (add : Entries → Option Entries) :
    Option (List Entries) := do
  let last ← elements.getLast?
  return elements.dropLast ++ [← add last]

/-- Gives a value to the key `path` and `name`, joined by dots. -/
def assign (name : String) (item : Item) : List String → Entries → Option Entries
  | [], entries =>
      match entries.lookup name with
      | some _ => none
      | none => some (entries ++ [(name, item)])
  | step :: path, entries =>
      match entries.lookup step with
      | none => do
          let inner ← assign name item path []
          return entries ++ [(step, .table .dotted inner)]
      | some (.table origin inner) =>
          if origin = .inline || origin = .header || path.isEmpty && origin ≠ .dotted then none
          else do
            let inner ← assign name item path inner
            return replace step (.table origin inner) entries
      | some (.tables elements) =>
          if path.isEmpty then none
          else do
            let elements ← updateLast elements (assign name item path)
            return replace step (.tables elements) entries
      | some _ => none

/-- Changes what the last name of a header stands for. The tables on the way are
made where they are missing. -/
def alter (name : String) (change : Option Item → Option Item) :
    List String → Entries → Option Entries
  | [], entries => do
      let old := entries.lookup name
      let new ← change old
      return if old.isSome then replace name new entries else entries ++ [(name, new)]
  | step :: path, entries =>
      match entries.lookup step with
      | none => do
          let inner ← alter name change path []
          return entries ++ [(step, .table .passed inner)]
      | some (.table origin inner) =>
          if origin = .inline then none
          else do
            let inner ← alter name change path inner
            return replace step (.table origin inner) entries
      | some (.tables elements) => do
          let elements ← updateLast elements (alter name change path)
          return replace step (.tables elements) entries
      | some _ => none

/-- Opens a table by its header. -/
def openTable : Option Item → Option Item
  | none => some (.table .header [])
  | some (.table .passed inner) => some (.table .header inner)
  | some _ => none

/-- Opens one more table of a list of them. -/
def openElement : Option Item → Option Item
  | none => some (.tables [[]])
  | some (.tables elements) => some (.tables (elements ++ [[]]))
  | some _ => none

/-- Adds to the table opened last. -/
def inside (add : Entries → Option Entries) : Option Item → Option Item
  | some (.table origin inner) => (add inner).map (.table origin)
  | some (.tables elements) => (updateLast elements add).map .tables
  | _ => none

/-- Splits a key or a header into its last name and those before it. -/
def splitPath (path : List String) : Option (List String × String) :=
  path.getLast?.map (path.dropLast, ·)

end Bilingual.Toml
