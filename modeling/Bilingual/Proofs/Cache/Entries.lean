import Mathlib.Data.List.Nodup
import Bilingual.Cache

/-!
What the operations of a cache do to its entries, and the three ways in which a
look-up can go.
-/

namespace Bilingual

/-- Dropping what has one key hides nothing that has another. -/
theorem find?_filter_key {α : Type} (key : α → Uri) (xs : List α) (dropped sought : Uri) :
    (xs.filter (key · ≠ dropped)).find? (key · = sought) =
      if dropped = sought then none else xs.find? (key · = sought) := by
  rw [List.find?_filter]
  split
  · next h =>
      subst h
      refine List.find?_eq_none.2 fun x _ hx => ?_
      simp at hx
  · next h =>
      refine congrArg (fun p => xs.find? p) (funext fun x => ?_)
      by_cases hx : key x = sought
      · simp [hx, Ne.symm h]
      · simp [hx]

/-- What has a key is found by it, where keys are distinct. -/
theorem find?_key_eq_some_iff {α : Type} {key : α → Uri} {xs : List α} (h : (xs.map key).Nodup)
    {sought : Uri} {x : α} :
    xs.find? (key · = sought) = some x ↔ x ∈ xs ∧ key x = sought := by
  constructor
  · intro hx
    exact ⟨List.mem_of_find?_eq_some hx, by simpa using List.find?_some hx⟩
  · rintro ⟨hmem, rfl⟩
    cases hy : xs.find? (key · = key x) with
    | none => exact absurd (List.find?_eq_none.1 hy x hmem) (by simp)
    | some y =>
        have hkey : key y = key x := by simpa using List.find?_some hy
        rw [List.inj_on_of_nodup_map h (List.mem_of_find?_eq_some hy) hmem hkey]

namespace Cache

variable {cache : Cache} {document : Uri}

theorem mem_of_find? {e : Entry} (h : cache.find? document = some e) :
    e ∈ cache.entries ∧ e.document = document :=
  ⟨List.mem_of_find?_eq_some h, by simpa using List.find?_some h⟩

theorem find?_eq_none_iff :
    cache.find? document = none ↔ ∀ e ∈ cache.entries, e.document ≠ document := by
  simp [find?]

theorem mem_erase {e : Entry} :
    e ∈ (cache.erase document).entries ↔ e ∈ cache.entries ∧ e.document ≠ document := by
  simp [erase]

theorem mem_forget {e : Entry} :
    e ∈ (cache.forget document).1.entries ↔ e ∈ cache.entries ∧ e.document ≠ document := by
  unfold forget
  split
  · exact mem_erase
  · next h =>
      have hnone := find?_eq_none_iff.1 (Option.not_isSome_iff_eq_none.1 h)
      exact ⟨fun he => ⟨he, hnone e he⟩, And.left⟩

theorem mem_insert {new e : Entry} :
    e ∈ (cache.insert new).entries ↔
      e = new ∨ e ∈ cache.entries ∧ e.document ≠ new.document := by
  simp only [insert]
  split
  · next h =>
      obtain ⟨old, hold⟩ := Option.isSome_iff_exists.1 h
      have hmem := mem_of_find? hold
      constructor
      · intro he
        obtain ⟨f, hf, rfl⟩ := List.mem_map.1 he
        by_cases hd : f.document = new.document
        · simp [hd]
        · simp [hd, hf]
      · rintro (rfl | ⟨he, hd⟩)
        · exact List.mem_map.2 ⟨old, hmem.1, by simp [hmem.2]⟩
        · exact List.mem_map.2 ⟨e, he, by simp [hd]⟩
  · next h =>
      have hnone := find?_eq_none_iff.1 (Option.not_isSome_iff_eq_none.1 h)
      simp only [List.mem_append, List.mem_singleton]
      constructor
      · rintro (he | rfl)
        · exact Or.inr ⟨he, hnone e he⟩
        · exact Or.inl rfl
      · rintro (rfl | ⟨he, -⟩)
        · exact Or.inr rfl
        · exact Or.inl he

theorem find?_erase (cache : Cache) (document other : Uri) :
    (cache.erase document).find? other = if document = other then none else cache.find? other :=
  find?_filter_key Entry.document cache.entries document other

theorem find?_forget (cache : Cache) (document other : Uri) :
    (cache.forget document).1.find? other =
      if document = other then none else cache.find? other := by
  unfold forget
  split
  · exact find?_erase cache document other
  · next h =>
      split
      · next hd => exact hd ▸ Option.not_isSome_iff_eq_none.1 h
      · rfl

theorem capacity_forget (cache : Cache) (document : Uri) :
    (cache.forget document).1.capacity = cache.capacity := by
  unfold forget
  split <;> rfl

theorem find?_insert (cache : Cache) (new : Entry) (other : Uri) :
    (cache.insert new).find? other =
      if new.document = other then some new else cache.find? other := by
  simp only [insert]
  split
  · next h =>
      obtain ⟨old, hold⟩ := Option.isSome_iff_exists.1 h
      let swap (e : Entry) : Entry := if e.document = new.document then new else e
      have hswap (e : Entry) : (swap e).document = e.document := by
        by_cases hd : e.document = new.document <;> simp [swap, hd]
      have hfind : (cache.entries.map swap).find? (·.document = other) =
          (cache.find? other).map swap := by
        rw [List.find?_map]
        exact congrArg (fun p => (cache.entries.find? p).map swap)
          (funext fun e => by simp only [Function.comp_apply, hswap])
      refine hfind.trans ?_
      split
      · next hd =>
          rw [← hd, hold]
          simp [swap, (mem_of_find? hold).2]
      · next hd =>
          cases hother : cache.find? other with
          | none => rfl
          | some e => simp [swap, (mem_of_find? hother).2, Ne.symm hd]
  · next h =>
      have hnone := Option.not_isSome_iff_eq_none.1 h
      simp only [find?, List.find?_append, List.find?_singleton] at hnone ⊢
      by_cases hd : new.document = other
      · rw [hd] at hnone
        simp [hnone, hd]
      · simp [hd]

/-- Eviction only takes away, and it leaves the clock and the capacity alone. -/
theorem evict_le (visit : List Entry → List Entry) (capacity turns : Nat) (cache : Cache) :
    (cache.evict visit capacity turns).1.entries ⊆ cache.entries ∧
      (cache.evict visit capacity turns).1.clock = cache.clock ∧
      (cache.evict visit capacity turns).1.capacity = cache.capacity := by
  induction turns generalizing cache with
  | zero => simp [evict]
  | succ turns ih =>
      rw [evict]
      split
      · simp
      · split
        · simp
        · next victim _ =>
            have h := ih (cache.erase victim.document)
            exact ⟨fun e he => (mem_erase.1 (h.1 he)).1, h.2⟩

/-- The clock goes on. -/
def tick (cache : Cache) : Cache := { cache with clock := cache.clock + 1 }

/-- Evicts until one more entry has room, if the capacity is limited. -/
def makeRoom (visit : List Entry → List Entry) (cache : Cache) : Cache × List Event :=
  match cache.capacity with
  | none => (cache, [])
  | some capacity => cache.evict visit capacity (cache.size + 1)

theorem makeRoom_le (visit : List Entry → List Entry) (cache : Cache) :
    (cache.makeRoom visit).1.entries ⊆ cache.entries := by
  unfold makeRoom
  split
  · exact fun _ h => h
  · exact (evict_le visit _ _ cache).1

theorem makeRoom_of_unbounded (visit : List Entry → List Entry) (h : cache.capacity = none) :
    cache.makeRoom visit = (cache, []) := by
  unfold makeRoom
  rw [h]

/-- A look-up is served by an entry of its revision, or replaces one of another,
or makes room for a new one. -/
theorem lookUp_cases (visit : List Entry → List Entry) (scan : Finder) (cache : Cache)
    (document : Uri) (revision : Int32) (text : String) :
    (∃ e, cache.find? document = some e ∧ e.revision = revision ∧
      cache.lookUpVisiting visit scan document revision text =
        { regions := e.regions, scanned := false
          cache := cache.tick.insert { e with lastUsed := cache.clock }
          log := [.cacheHit document revision] }) ∨
    (∃ e, cache.find? document = some e ∧ e.revision ≠ revision ∧
      cache.lookUpVisiting visit scan document revision text =
        { regions := scan text, scanned := true
          cache := cache.tick.insert ⟨document, revision, scan text, cache.clock⟩
          log := [.cacheMiss document revision (scan text).length] }) ∨
    (cache.find? document = none ∧
      cache.lookUpVisiting visit scan document revision text =
        { regions := scan text, scanned := true
          cache := (cache.tick.makeRoom visit).1.insert
            ⟨document, revision, scan text, cache.clock⟩
          log := .cacheMiss document revision (scan text).length ::
            (cache.tick.makeRoom visit).2 }) := by
  have hfind : ({ cache with clock := cache.clock + 1 } : Cache).find? document =
      cache.find? document := rfl
  cases h : cache.find? document with
  | some e =>
      by_cases hr : e.revision = revision
      · refine Or.inl ⟨e, rfl, hr, ?_⟩
        simp [lookUpVisiting, tick, hfind, h, hr]
      · refine Or.inr (Or.inl ⟨e, rfl, hr, ?_⟩)
        simp [lookUpVisiting, tick, hfind, h, hr]
  | none =>
      refine Or.inr (Or.inr ⟨rfl, ?_⟩)
      simp only [lookUpVisiting, makeRoom, tick, hfind, h]
      cases cache.capacity <;> rfl

/-- An answer comes from the entry of the document at that revision, or else from
the text. -/
theorem lookUp_regions (visit : List Entry → List Entry) (scan : Finder) (cache : Cache)
    (document : Uri) (revision : Int32) (text : String) :
    let answer := cache.lookUpVisiting visit scan document revision text
    (answer.scanned = true ∧ answer.regions = scan text) ∨
      (answer.scanned = false ∧ ∃ e ∈ cache.entries,
        e.document = document ∧ e.revision = revision ∧ answer.regions = e.regions) := by
  rcases lookUp_cases visit scan cache document revision text with
    ⟨e, he, hr, ha⟩ | ⟨e, he, hr, ha⟩ | ⟨he, ha⟩ <;> rw [ha]
  · have hmem := mem_of_find? he
    exact Or.inr ⟨rfl, e, hmem.1, hmem.2, hr, rfl⟩
  · exact Or.inl ⟨rfl, rfl⟩
  · exact Or.inl ⟨rfl, rfl⟩

/-- Behind a look-up the entry of the document holds the answer. All other entries
were there before. -/
theorem mem_lookUp (visit : List Entry → List Entry) (scan : Finder) (cache : Cache)
    (document : Uri) (revision : Int32) (text : String) {e : Entry}
    (he : e ∈ (cache.lookUpVisiting visit scan document revision text).cache.entries) :
    (e.document = document ∧ e.revision = revision ∧
      e.regions = (cache.lookUpVisiting visit scan document revision text).regions) ∨
    (e.document ≠ document ∧ e ∈ cache.entries) := by
  rcases lookUp_cases visit scan cache document revision text with
    ⟨f, hf, hr, ha⟩ | ⟨f, hf, hr, ha⟩ | ⟨hf, ha⟩ <;> rw [ha] at he ⊢ <;>
    rcases mem_insert.1 he with rfl | ⟨hmem, hd⟩
  · exact Or.inl ⟨(mem_of_find? hf).2, hr, rfl⟩
  · exact Or.inr ⟨(mem_of_find? hf).2 ▸ hd, hmem⟩
  · exact Or.inl ⟨rfl, rfl, rfl⟩
  · exact Or.inr ⟨hd, hmem⟩
  · exact Or.inl ⟨rfl, rfl, rfl⟩
  · exact Or.inr ⟨hd, makeRoom_le visit cache.tick hmem⟩

end Cache

end Bilingual
