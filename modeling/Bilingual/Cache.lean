import Bilingual.Log

/-!
Regions of documents, kept per document for one revision of it. An entry serves
as long as the revision asked for is its own. With a capacity, the entry used
least recently makes room for a new document.
-/

namespace Bilingual

/-- What finds the regions of a text. -/
abbrev Finder := String → List Region

/-- The regions of one document at one revision. -/
structure Cache.Entry where
  document : Uri
  revision : Int32
  regions : List Region
  /-- The tick of the last look-up. -/
  lastUsed : UInt64
  deriving DecidableEq, Repr

structure Cache where
  entries : List Cache.Entry
  capacity : Option Nat
  clock : UInt64
  deriving DecidableEq, Repr

namespace Cache

/-- The answer to a look-up, and what it took to give it. -/
structure Answer where
  regions : List Region
  cache : Cache
  /-- Whether the text was scanned. -/
  scanned : Bool
  log : List Event

/-- A cache without entries. A capacity of zero counts as one. -/
def ofCapacity (capacity : Option Nat) : Cache :=
  ⟨[], capacity.map (max · 1), 0⟩

def size (cache : Cache) : Nat := cache.entries.length

def isEmpty (cache : Cache) : Bool := cache.entries.isEmpty

def find? (cache : Cache) (document : Uri) : Option Entry :=
  cache.entries.find? (·.document = document)

def erase (cache : Cache) (document : Uri) : Cache :=
  { cache with entries := cache.entries.filter (·.document ≠ document) }

/-- The first of the entries with the least tick. -/
def oldest? : List Entry → Option Entry
  | [] => none
  | e :: es =>
      match oldest? es with
      | none => some e
      | some o => if o.lastUsed < e.lastUsed then some o else some e

/-- Evicts entries until there is room for one more. The entries are looked
through in the order that `visit` puts them in; each turn removes at least one
entry, so that `turns` of them suffice where there are no more entries. -/
def evict (visit : List Entry → List Entry) (capacity : Nat) :
    (turns : Nat) → Cache → Cache × List Event
  | 0, cache => (cache, [])
  | turns + 1, cache =>
      if cache.size < capacity then (cache, [])
      else
        match oldest? (visit cache.entries) with
        | none => (cache, [])
        | some victim =>
            let (cache, log) := evict visit capacity turns (cache.erase victim.document)
            (cache, .cacheEvicted victim.document :: log)

/-- Puts an entry in the place of the one of its document, or behind all. -/
def insert (cache : Cache) (entry : Entry) : Cache :=
  { cache with
    entries :=
      if (cache.find? entry.document).isSome then
        cache.entries.map fun e => if e.document = entry.document then entry else e
      else cache.entries ++ [entry] }

/-- The regions of a document at a revision. The text is scanned only where no
entry serves. Every look-up takes a tick of the clock. -/
def lookUpVisiting (visit : List Entry → List Entry) (scan : Finder)
    (cache : Cache) (document : Uri) (revision : Int32) (text : String) : Answer :=
  let tick := cache.clock
  let cache := { cache with clock := cache.clock + 1 }
  let keep := fun (cache : Cache) (log : List Event) (regions : List Region) =>
    { regions, scanned := true
      cache := cache.insert ⟨document, revision, regions, tick⟩
      log := .cacheMiss document revision regions.length :: log : Answer }
  match cache.find? document with
  | some entry =>
      if entry.revision = revision then
        { regions := entry.regions, scanned := false
          cache := cache.insert { entry with lastUsed := tick }
          log := [.cacheHit document revision] }
      else keep cache [] (scan text)
  | none =>
      let regions := scan text
      match cache.capacity with
      | none => keep cache [] regions
      | some capacity =>
          let (cache, log) := cache.evict visit capacity (cache.size + 1)
          keep cache log regions

/-- Entries are looked through as they are listed. -/
def lookUp : Finder → Cache → Uri → Int32 → String → Answer :=
  lookUpVisiting id

/-- Drops what is kept of a document. -/
def forget (cache : Cache) (document : Uri) : Cache × List Event :=
  if (cache.find? document).isSome then (cache.erase document, [.cacheInvalidated document])
  else (cache, [])

/-- Drops all entries. The clock goes on. -/
def forgetAll (cache : Cache) : Cache := { cache with entries := [] }

end Cache

end Bilingual
