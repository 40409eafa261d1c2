import Bilingual.Proofs.Cache.Run

/-!
Without a capacity, documents share nothing in a cache but the clock. What is
answered about a document follows from what is kept of it, and requests about others
leave that alone.
-/

namespace Bilingual.Cache

/-- What is kept of a document. -/
def kept? (cache : Cache) (document : Uri) : Option Kept :=
  (cache.find? document).map Entry.kept

/-- What an unbounded cache answers, from what it keeps of the document. -/
def answerFrom (scan : Finder) (kept : Option Kept) (document : Uri) (revision : Int32)
    (text : String) : List Region × Bool × List Event :=
  match kept.filter (·.revision = revision) with
  | some k => (k.regions, false, [.cacheHit document revision])
  | none => (scan text, true, [.cacheMiss document revision (scan text).length])

/-- Two unbounded caches that keep the same of a document. -/
structure AgreesAt (document : Uri) (cache cache' : Cache) : Prop where
  unbounded : cache.capacity = none
  unbounded' : cache'.capacity = none
  kept?_eq : cache'.kept? document = cache.kept? document

variable {cache cache' cache'' : Cache} {document other : Uri}

theorem kept?_insert (cache : Cache) (new : Entry) (other : Uri) :
    (cache.insert new).kept? other =
      if new.document = other then some new.kept else cache.kept? other := by
  rw [kept?, find?_insert]
  split
  · rfl
  · rfl

theorem kept?_forget (cache : Cache) (document other : Uri) :
    (cache.forget document).1.kept? other =
      if document = other then none else cache.kept? other := by
  rw [kept?, find?_forget]
  split
  · rfl
  · rfl

theorem isSome_kept? (cache : Cache) (document : Uri) :
    (cache.kept? document).isSome = (cache.find? document).isSome := by
  simp [kept?]

theorem log_forget (cache : Cache) (document : Uri) :
    (cache.forget document).2 =
      if (cache.kept? document).isSome then [.cacheInvalidated document] else [] := by
  rw [isSome_kept?, forget]
  split
  · rfl
  · rfl

/-- A look-up in an unbounded cache. -/
theorem lookUp_of_unbounded (h : cache.capacity = none) (scan : Finder) (document : Uri)
    (revision : Int32) (text : String) :
    let answer := cache.lookUp scan document revision text
    (answer.regions, answer.scanned, answer.log) =
        answerFrom scan (cache.kept? document) document revision text ∧
      answer.cache.capacity = none ∧
      ∀ other, answer.cache.kept? other =
        if document = other then some ⟨document, revision, answer.regions⟩
        else cache.kept? other := by
  have htick : cache.tick.capacity = none := h
  have hkept (e : Entry) (other : Uri) : (cache.tick.insert e).kept? other =
      if e.document = other then some e.kept else cache.kept? other :=
    kept?_insert cache.tick e other
  simp only [lookUp]
  obtain ⟨e, he, hr, ha⟩ | ⟨e, he, hr, ha⟩ | ⟨he, ha⟩ :=
    lookUp_cases id scan cache document revision text
  · obtain rfl := (mem_of_find? he).2
    rw [ha]
    refine ⟨?_, h, fun other => ?_⟩
    · simp [answerFrom, kept?, he, Entry.kept, hr, Option.filter_some]
    · rw [hkept, ← hr]
      rfl
  · rw [ha]
    refine ⟨?_, h, fun other => hkept _ other⟩
    simp [answerFrom, kept?, he, Entry.kept, hr, Option.filter_some]
  · rw [ha, makeRoom_of_unbounded id htick]
    refine ⟨?_, h, fun other => hkept _ other⟩
    simp [answerFrom, kept?, he]

namespace AgreesAt

theorem refl (h : cache.capacity = none) (document : Uri) : AgreesAt document cache cache :=
  ⟨h, h, rfl⟩

theorem symm (h : AgreesAt document cache cache') : AgreesAt document cache' cache :=
  ⟨h.unbounded', h.unbounded, h.kept?_eq.symm⟩

theorem trans (h : AgreesAt document cache cache') (h' : AgreesAt document cache' cache'') :
    AgreesAt document cache cache'' :=
  ⟨h.unbounded, h'.unbounded', h'.kept?_eq.trans h.kept?_eq⟩

/-- The same look-up is answered alike. -/
theorem lookUp (h : AgreesAt document cache cache') (scan : Finder) (revision : Int32)
    (text : String) :
    let answer := cache.lookUp scan document revision text
    let answer' := cache'.lookUp scan document revision text
    (answer'.regions = answer.regions ∧ answer'.scanned = answer.scanned ∧
      answer'.log = answer.log) ∧ AgreesAt document answer.cache answer'.cache := by
  obtain ⟨hanswer, hcapacity, hkept⟩ :=
    lookUp_of_unbounded h.unbounded scan document revision text
  obtain ⟨hanswer', hcapacity', hkept'⟩ :=
    lookUp_of_unbounded h.unbounded' scan document revision text
  rw [h.kept?_eq, ← hanswer] at hanswer'
  obtain ⟨hregions, hscanned, hlog⟩ : _ ∧ _ ∧ _ := by simpa only [Prod.mk.injEq] using hanswer'
  refine ⟨⟨hregions, hscanned, hlog⟩, hcapacity, hcapacity', ?_⟩
  rw [hkept', hkept, if_pos rfl, if_pos rfl, hregions]

theorem forget (h : AgreesAt document cache cache') (dropped : Uri) :
    AgreesAt document (cache.forget dropped).1 (cache'.forget dropped).1 where
  unbounded := (capacity_forget cache dropped).trans h.unbounded
  unbounded' := (capacity_forget cache' dropped).trans h.unbounded'
  kept?_eq := by rw [kept?_forget, kept?_forget, h.kept?_eq]

theorem log_forget_eq (h : AgreesAt document cache cache') :
    (cache'.forget document).2 = (cache.forget document).2 := by
  rw [log_forget, log_forget, h.kept?_eq]

theorem forgetAll (h : AgreesAt document cache cache') :
    AgreesAt document cache.forgetAll cache'.forgetAll :=
  ⟨h.unbounded, h.unbounded', rfl⟩

end AgreesAt

/-- Look-ups of other documents change nothing. -/
theorem agreesAt_lookUp (h : cache.capacity = none) (hother : other ≠ document) (scan : Finder)
    (revision : Int32) (text : String) :
    AgreesAt document cache (cache.lookUp scan other revision text).cache := by
  obtain ⟨-, hcapacity, hkept⟩ := lookUp_of_unbounded h scan other revision text
  exact ⟨h, hcapacity, (hkept document).trans (if_neg hother)⟩

theorem agreesAt_forget (h : cache.capacity = none) (hother : other ≠ document) :
    AgreesAt document cache (cache.forget other).1 where
  unbounded := h
  unbounded' := (capacity_forget cache other).trans h
  kept?_eq := (kept?_forget cache other document).trans (if_neg hother)

end Bilingual.Cache
