import Bilingual.Proofs.Cache.Entries

/-!
Requests to a cache, one after another, and what is answered. The order in which
entries are looked through when one has to go is left open at every request.
-/

namespace Bilingual.Cache

/-- An order in which all entries may be looked through. -/
structure Order where
  visit : List Entry → List Entry
  perm : ∀ es, (visit es).Perm es

/-- Entries are looked through as they are listed. -/
def Order.listed : Order := ⟨id, fun _ => .refl _⟩

/-- What a cache is asked for. -/
inductive Request
  | lookUp (document : Uri) (revision : Int32) (text : String)
  | peek (document : Uri)
  | forget (document : Uri)
  | forgetAll
  deriving DecidableEq, Repr

def Request.isLookUp : Request → Bool
  | .lookUp _ _ _ => true
  | _ => false

/-- An entry without the tick of its last look-up. -/
structure Kept where
  document : Uri
  revision : Int32
  regions : List Region
  deriving DecidableEq, Repr

def Entry.kept (e : Entry) : Kept := ⟨e.document, e.revision, e.regions⟩

/-- The answer to a request. -/
inductive Reply
  | found (regions : List Region) (scanned : Bool) (log : List Event)
  | held (kept : Option Kept)
  | dropped (log : List Event)
  deriving DecidableEq, Repr

/-- A look-up that was served by an entry. -/
def Reply.isHit : Reply → Bool
  | .found _ scanned _ => !scanned
  | _ => false

/-- A look-up for which the text was scanned. -/
def Reply.isScan : Reply → Bool
  | .found _ scanned _ => scanned
  | _ => false

/-- Requests are served one at a time. -/
def serve (order : Order) (scan : Finder) (cache : Cache) : Request → Cache × Reply
  | .lookUp document revision text =>
      let answer := cache.lookUpVisiting order.visit scan document revision text
      (answer.cache, .found answer.regions answer.scanned answer.log)
  | .peek document => (cache, .held ((cache.find? document).map Entry.kept))
  | .forget document => ((cache.forget document).1, .dropped (cache.forget document).2)
  | .forgetAll => (cache.forgetAll, .dropped [])

/-- The cache behind a run of requests. The `n`-th of them is served in the order
`orders n`. -/
def after (scan : Finder) : (orders : Nat → Order) → Cache → List Request → Cache
  | _, cache, [] => cache
  | orders, cache, q :: qs =>
      after scan (fun n => orders (n + 1)) (cache.serve (orders 0) scan q).1 qs

/-- The replies to a run of requests. -/
def replies (scan : Finder) : (orders : Nat → Order) → Cache → List Request → List Reply
  | _, _, [] => []
  | orders, cache, q :: qs =>
      (cache.serve (orders 0) scan q).2 ::
        replies scan (fun n => orders (n + 1)) (cache.serve (orders 0) scan q).1 qs

theorem after_append (scan : Finder) (orders : Nat → Order) (cache : Cache)
    (qs qs' : List Request) :
    after scan orders cache (qs ++ qs') =
      after scan (fun n => orders (n + qs.length)) (after scan orders cache qs) qs' := by
  induction qs generalizing cache orders with
  | nil => rfl
  | cons q qs ih => exact ih (fun n => orders (n + 1)) _

theorem replies_append (scan : Finder) (orders : Nat → Order) (cache : Cache)
    (qs qs' : List Request) :
    replies scan orders cache (qs ++ qs') =
      replies scan orders cache qs ++
        replies scan (fun n => orders (n + qs.length)) (after scan orders cache qs) qs' := by
  induction qs generalizing cache orders with
  | nil => rfl
  | cons q qs ih => exact congrArg (List.cons _) (ih (fun n => orders (n + 1)) _)

end Bilingual.Cache
