import Bilingual.Proofs.Cache.Run

/-!
What an answer goes back to: a scan of the text of that call, or of an earlier one
for the same document at the same revision, with nothing behind it that would have
made the cache give it up.
-/

namespace Bilingual.Cache

/-- Whether a request asks to forget the document, alone or with all others. -/
def Request.Forgets (document : Uri) : Request → Prop
  | .forget d => d = document
  | .forgetAll => True
  | _ => False

/-- Whether a request speaks neither against the document nor against its
revision. -/
def Request.Keeps (document : Uri) (revision : Int32) : Request → Prop
  | .lookUp d r _ => d = document → r = revision
  | q => ¬ q.Forgets document

/-- The revision that counts for a document behind one more request. -/
def Request.revise (document : Uri) (latest : Option Int32) : Request → Option Int32
  | .lookUp d r _ => if d = document then some r else latest
  | .peek _ => latest
  | .forget d => if d = document then none else latest
  | .forgetAll => none

/-- The revision that the document was last looked up at since it was forgotten. -/
def lastRevision (document : Uri) (qs : List Request) : Option Int32 :=
  qs.foldl (Request.revise document) none

/-- The document was looked up with that text, and every request since then keeps
its revision. -/
def Stands (qs : List Request) (document : Uri) (revision : Int32) (text : String) : Prop :=
  ∃ before later, qs = before ++ .lookUp document revision text :: later ∧
    ∀ q ∈ later, q.Keeps document revision

/-- As long as the document is not forgotten, its text follows from its revision. -/
def Consistent (document : Uri) (qs : List Request) : Prop :=
  ∀ before between later revision text text',
    qs = before ++ .lookUp document revision text ::
      (between ++ .lookUp document revision text' :: later) →
    (∀ q ∈ between, ¬ q.Forgets document) → text = text'

variable {cache : Cache} {scan : Finder} {qs : List Request} {document : Uri}
  {revision : Int32} {text : String}

theorem Request.Keeps.not_forgets {q : Request} (h : q.Keeps document revision) :
    ¬ q.Forgets document := by
  cases q with
  | lookUp d r t => exact id
  | peek d => exact h
  | forget d => exact h
  | forgetAll => exact h

theorem stands_concat : Stands (qs ++ [.lookUp document revision text]) document revision text :=
  ⟨qs, [], rfl, by simp⟩

theorem Stands.concat (h : Stands qs document revision text) {q : Request}
    (hq : q.Keeps document revision) : Stands (qs ++ [q]) document revision text := by
  obtain ⟨before, later, rfl, hlater⟩ := h
  refine ⟨before, later ++ [q], by simp, fun p hp => ?_⟩
  rcases List.mem_append.1 hp with hp | hp
  · exact hlater p hp
  · exact List.mem_singleton.1 hp ▸ hq

theorem Stands.eq_of_consistent {text' : String} (h : Stands qs document revision text')
    (hc : Consistent document (qs ++ [.lookUp document revision text])) : text' = text := by
  obtain ⟨before, later, rfl, hlater⟩ := h
  exact hc before later [] revision text' text (by simp) fun q hq => (hlater q hq).not_forgets

theorem consistent_of_texts (texts : Int32 → String)
    (h : ∀ r t, .lookUp document r t ∈ qs → t = texts r) : Consistent document qs := by
  rintro before between later r t t' rfl -
  exact (h r t (by simp)).trans (h r t' (by simp)).symm

/-- Every entry goes back to a look-up that stands. -/
def Grounded (scan : Finder) (cache : Cache) (qs : List Request) : Prop :=
  ∀ e ∈ cache.entries, ∃ text, Stands qs e.document e.revision text ∧ e.regions = scan text

theorem Grounded.lookUp (h : Grounded scan cache qs) (order : Order) (document : Uri)
    (revision : Int32) (text : String) :
    let answer := cache.lookUpVisiting order.visit scan document revision text
    (answer.scanned = true ∧ answer.regions = scan text) ∨
      (answer.scanned = false ∧
        ∃ text', Stands qs document revision text' ∧ answer.regions = scan text') := by
  refine (lookUp_regions order.visit scan cache document revision text).imp_right ?_
  rintro ⟨hscanned, e, he, rfl, rfl, hregions⟩
  obtain ⟨text', hstands, heq⟩ := h e he
  exact ⟨hscanned, text', hstands, hregions.trans heq⟩

theorem Grounded.serve (h : Grounded scan cache qs) (order : Order) (q : Request) :
    Grounded scan (cache.serve order scan q).1 (qs ++ [q]) := by
  -- An entry from before stays grounded as long as the request keeps it.
  have hold {e : Entry} (he : e ∈ cache.entries) (hq : q.Keeps e.document e.revision) :
      ∃ text, Stands (qs ++ [q]) e.document e.revision text ∧ e.regions = scan text := by
    obtain ⟨text, hstands, heq⟩ := h e he
    exact ⟨text, hstands.concat hq, heq⟩
  intro e he
  cases q with
  | lookUp document revision text =>
      rcases mem_lookUp order.visit scan cache document revision text he with
        ⟨rfl, rfl, heq⟩ | ⟨hd, hmem⟩
      · rcases h.lookUp order e.document e.revision text with
          ⟨-, hregions⟩ | ⟨-, text', hstands, hregions⟩
        · exact ⟨text, stands_concat, heq.trans hregions⟩
        · exact ⟨text', hstands.concat fun _ => rfl, heq.trans hregions⟩
      · exact hold hmem fun hd' => absurd hd'.symm hd
  | peek document => exact hold he id
  | forget document =>
      obtain ⟨hmem, hd⟩ := mem_forget.1 he
      exact hold hmem fun hd' => hd hd'.symm
  | forgetAll => exact absurd he List.not_mem_nil

theorem Grounded.after (h : Grounded scan cache qs) (orders : Nat → Order) (more : List Request) :
    Grounded scan (after scan orders cache more) (qs ++ more) := by
  induction more generalizing cache qs orders with
  | nil => rwa [List.append_nil]
  | cons q more ih =>
      have := ih (h.serve (orders 0) q) fun n => orders (n + 1)
      rwa [List.append_assoc] at this

theorem grounded_ofCapacity (scan : Finder) (capacity : Option Nat) :
    Grounded scan (ofCapacity capacity) [] :=
  fun _ he => absurd he List.not_mem_nil

/-- A cache without a capacity, and what it keeps has the revisions that count. -/
structure Latest (cache : Cache) (qs : List Request) : Prop where
  unbounded : cache.capacity = none
  revision_eq : ∀ document,
    (cache.find? document).map Entry.revision = lastRevision document qs

theorem lastRevision_concat (document : Uri) (qs : List Request) (q : Request) :
    lastRevision document (qs ++ [q]) = q.revise document (lastRevision document qs) := by
  simp [lastRevision]

theorem revision_lookUp (h : cache.capacity = none) (visit : List Entry → List Entry)
    (scan : Finder) (document : Uri) (revision : Int32) (text : String) :
    let answer := cache.lookUpVisiting visit scan document revision text
    answer.cache.capacity = none ∧
      ∀ other, (answer.cache.find? other).map Entry.revision =
        if document = other then some revision else (cache.find? other).map Entry.revision := by
  have hrevision {new : Entry} (hd : new.document = document) (hr : new.revision = revision)
      (other : Uri) : ((cache.tick.insert new).find? other).map Entry.revision =
        if document = other then some revision else (cache.find? other).map Entry.revision := by
    rw [find?_insert, hd]
    split
    · exact congrArg some hr
    · rfl
  rcases lookUp_cases visit scan cache document revision text with
    ⟨e, he, hr, ha⟩ | ⟨e, he, hr, ha⟩ | ⟨he, ha⟩ <;> rw [ha]
  · exact ⟨h, hrevision (mem_of_find? he).2 hr⟩
  · exact ⟨h, hrevision rfl rfl⟩
  · rw [makeRoom_of_unbounded visit (show cache.tick.capacity = none from h)]
    exact ⟨h, hrevision rfl rfl⟩

theorem Latest.serve (h : cache.Latest qs) (order : Order) (scan : Finder) (q : Request) :
    (cache.serve order scan q).1.Latest (qs ++ [q]) := by
  cases q with
  | lookUp document revision text =>
      obtain ⟨hcap, hfind⟩ :=
        revision_lookUp h.unbounded order.visit scan document revision text
      refine ⟨hcap, fun other => ?_⟩
      rw [lastRevision_concat, ← h.revision_eq]
      exact hfind other
  | peek document =>
      refine ⟨h.unbounded, fun other => ?_⟩
      rw [lastRevision_concat]
      exact h.revision_eq other
  | forget document =>
      refine ⟨(capacity_forget cache document).trans h.unbounded, fun other => ?_⟩
      rw [lastRevision_concat, ← h.revision_eq]
      simp only [Cache.serve, find?_forget, Request.revise]
      split <;> rfl
  | forgetAll =>
      refine ⟨h.unbounded, fun other => ?_⟩
      rw [lastRevision_concat]
      rfl

theorem Latest.after (h : cache.Latest qs) (orders : Nat → Order) (scan : Finder)
    (more : List Request) : (after scan orders cache more).Latest (qs ++ more) := by
  induction more generalizing cache qs orders with
  | nil => rwa [List.append_nil]
  | cons q more ih =>
      have := ih (h.serve (orders 0) scan q) fun n => orders (n + 1)
      rwa [List.append_assoc] at this

theorem latest_ofCapacity : (ofCapacity none).Latest [] :=
  ⟨rfl, fun _ => rfl⟩

theorem scanned_eq_false_iff (visit : List Entry → List Entry) (scan : Finder) (cache : Cache)
    (document : Uri) (revision : Int32) (text : String) :
    (cache.lookUpVisiting visit scan document revision text).scanned = false ↔
      (cache.find? document).map Entry.revision = some revision := by
  rcases lookUp_cases visit scan cache document revision text with
    ⟨e, he, hr, ha⟩ | ⟨e, he, hr, ha⟩ | ⟨he, ha⟩ <;> rw [ha, he]
  · simp [hr]
  · simp [hr]
  · simp

/-- An answer is a scan of the text of this call, or without any scan that of the
text of an earlier call which still stands. -/
theorem lookUp_never_stale (capacity : Option Nat) (scan : Finder) (orders : Nat → Order)
    (qs : List Request) (order : Order) (document : Uri) (revision : Int32) (text : String) :
    let cache := after scan orders (ofCapacity capacity) qs
    let answer := cache.lookUpVisiting order.visit scan document revision text
    ((answer.scanned = true ∧ answer.regions = scan text) ∨
      (answer.scanned = false ∧
        ∃ text', Stands qs document revision text' ∧ answer.regions = scan text')) ∧
    (capacity = none →
      (answer.scanned = false ↔ lastRevision document qs = some revision)) ∧
    (Consistent document (qs ++ [.lookUp document revision text]) →
      answer.regions = scan text) := by
  have hanswer := ((grounded_ofCapacity scan capacity).after orders qs).lookUp order document
    revision text
  refine ⟨hanswer, ?_, fun hc => ?_⟩
  · rintro rfl
    rw [scanned_eq_false_iff, (latest_ofCapacity.after orders scan qs).revision_eq]
    rfl
  · rcases hanswer with ⟨-, hregions⟩ | ⟨-, text', hstands, hregions⟩
    · exact hregions
    · exact hregions.trans (congrArg scan (hstands.eq_of_consistent hc))

theorem lookUp_never_stale_behind_another :
    let a : Uri := ⟨"file", none, "/a", none, none⟩
    let b : Uri := ⟨"file", none, "/b", none, none⟩
    let scan : Finder := fun text => [⟨0, text.utf8ByteSize⟩]
    let qs : List Request := [.lookUp a 2 "xyz", .forget a, .lookUp a 1 "x", .lookUp b 1 "xy"]
    let cache := after scan (fun _ => .listed) (ofCapacity none) qs
    let answer := cache.lookUpVisiting id scan a 1 "x"
    Consistent a (qs ++ [.lookUp a 1 "x"]) ∧ answer.scanned = false ∧
      answer.regions = [⟨0, 1⟩] := by
  intro a b scan qs cache answer
  have hc : Consistent a (qs ++ [.lookUp a 1 "x"]) := by
    refine consistent_of_texts (fun r => if r = 2 then "xyz" else "x") fun r t hmem => ?_
    obtain ⟨rfl, rfl⟩ | ⟨rfl, rfl⟩ : r = 2 ∧ t = "xyz" ∨ r = 1 ∧ t = "x" := by
      simpa [qs, a, b] using hmem
    · rfl
    · rfl
  have hanswer := lookUp_never_stale none scan (fun _ => .listed) qs .listed a 1 "x"
  exact ⟨hc, (hanswer.2.1 rfl).2 (by decide), hanswer.2.2 hc⟩

end Bilingual.Cache
