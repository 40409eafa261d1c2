import Bilingual.Toml.Value

/-!
TOML documents, read line by line. A document is read as a whole or not at all,
and the reason why not is not kept.
-/

namespace Bilingual.Toml

/-- The tables read so far, and the one that keys belong to: the root, or the
one that the last header opened. -/
structure Draft where
  root : Entries
  current : Option (List String × String)

namespace Draft

def assign (draft : Draft) (path : List String) (item : Item) : Option Draft := do
  let (path, name) ← splitPath path
  let add := Toml.assign name item path
  let root ← match draft.current with
    | none => add draft.root
    | some (above, table) => alter table (inside add) above draft.root
  return { draft with root }

def header (draft : Draft) (opened : Option Item → Option Item) (path : List String) :
    Option Draft := do
  let (above, table) ← splitPath path
  return ⟨← alter table opened above draft.root, some (above, table)⟩

end Draft

/-- One line that is neither empty nor a comment. -/
def line? (draft : Draft) (cs : List Char) : Option (Draft × List Char) := do
  match cs with
  | '[' :: '[' :: rest =>
      let (path, rest) ← key? depthLimit rest
      let rest ← lineEnd? (← expect? ']' (← expect? ']' rest))
      return (← draft.header openElement path, rest)
  | '[' :: rest =>
      let (path, rest) ← key? depthLimit rest
      let rest ← lineEnd? (← expect? ']' rest)
      return (← draft.header openTable path, rest)
  | _ =>
      let (path, rest) ← key? depthLimit cs
      let (item, rest) ← value? depthLimit (skipBlank (← expect? '=' rest))
      return (← draft.assign path item, ← lineEnd? rest)

/-- Reads lines, of which there are fewer than `limit`. -/
def lines? : (limit : Nat) → Draft → List Char → Option Draft
  | 0, _, _ => none
  | limit + 1, draft, cs =>
      match skipBlank cs with
      | [] => some draft
      | '#' :: rest => do lines? limit draft (← lineEnd? ('#' :: rest))
      | '\n' :: rest => lines? limit draft rest
      | '\r' :: rest => do lines? limit draft (← newline? ('\r' :: rest))
      | cs => do
          let (draft, rest) ← line? draft cs
          lines? limit draft rest

/-- The entries of a document. A byte order mark may come first. -/
def parse? (text : String) : Option Entries :=
  let cs := match text.toList with
    | '\uFEFF' :: rest => rest
    | cs => cs
  (lines? (cs.length + 1) ⟨[], none⟩ cs).map (·.root)

/-- The members of a record, by name. A record is written as a table or as an
array that begins with all its members in order. A date counts as a table
without any of them. -/
def record? (names : List String) : Item → Option (List (Option Item))
  | .table _ entries => some (names.map (List.lookup · entries))
  | .array items => listed items
  | .tables elements => listed (elements.map (.table .header))
  | .date => some (names.map fun _ => none)
  | _ => none
where
  listed (items : List Item) : Option (List (Option Item)) :=
    if names.length ≤ items.length then some ((items.take names.length).map some) else none

end Bilingual.Toml
