import Bilingual.Proofs.Cache.Ranking

/-!
How many entries a cache has. There is at most one for each document, and there
are never more than places, even where the clock has gone round: an entry goes for
a new one exactly when all places are taken, and then it goes alone.
-/

namespace Bilingual.Cache

/-- At most one entry for each document, and not more entries than places. -/
structure Fits (cache : Cache) : Prop where
  distinct : cache.documents.Nodup
  size_le : ∀ c, cache.capacity = some c → 0 < c ∧ cache.size ≤ c

/-- All places are taken. -/
def Full (cache : Cache) : Prop := cache.capacity = some cache.size

variable {cache : Cache} {document : Uri}

theorem size_insert_of_mem {new e : Entry} (h : cache.find? new.document = some e) :
    (cache.insert new).size = cache.size := by
  simp [insert, size, h]

theorem size_insert_of_new {new : Entry} (h : cache.find? new.document = none) :
    (cache.insert new).size = cache.size + 1 := by
  simp [insert, size, h]

theorem size_erase (hd : cache.documents.Nodup) {e : Entry} (he : e ∈ cache.entries) :
    (cache.erase e.document).size + 1 = cache.size := by
  have hone : cache.entries.countP (·.document = e.document) = 1 := by
    have hcount := List.count_eq_one_of_mem hd (List.mem_map_of_mem (f := Entry.document) he)
    rw [documents, List.count, List.countP_map] at hcount
    simpa [Function.comp_def, beq_eq_decide] using hcount
  have hall := List.length_eq_countP_add_countP (fun f : Entry => decide (f.document = e.document))
    (l := cache.entries)
  simp only [decide_eq_true_eq, hone] at hall
  simp only [size, erase, ne_eq, ← List.countP_eq_length_filter, hall]
  exact Nat.add_comm _ _

theorem find?_eq_some_of_mem (hd : cache.documents.Nodup) {e : Entry} (he : e ∈ cache.entries) :
    cache.find? e.document = some e :=
  (find?_key_eq_some_iff hd).2 ⟨he, rfl⟩

theorem clock_forget (cache : Cache) (document : Uri) :
    (cache.forget document).1.clock = cache.clock := by
  unfold forget
  split <;> rfl

/-- Entries are looked through one after another, so that of those with the least
tick the first one is taken. -/
theorem oldest?_first {es : List Entry} {o : Entry} (h : oldest? es = some o) :
    ∃ before after, es = before ++ o :: after ∧ ∀ e ∈ before, o.lastUsed < e.lastUsed := by
  induction es generalizing o with
  | nil => cases h
  | cons e es ih =>
      simp only [oldest?] at h
      cases hes : oldest? es with
      | none =>
          rw [hes] at h
          cases h
          exact ⟨[], es, rfl, by simp⟩
      | some p =>
          simp only [hes] at h
          split at h
          · next hlt =>
              cases h
              obtain ⟨before, after, rfl, hbefore⟩ := ih hes
              refine ⟨e :: before, after, rfl, ?_⟩
              simpa [hlt] using hbefore
          · cases h
            exact ⟨[], es, rfl, by simp⟩

namespace Fits

theorem erase (h : cache.Fits) (document : Uri) : (cache.erase document).Fits where
  distinct := h.distinct.sublist (List.filter_sublist.map _)
  size_le c hc := ⟨(h.size_le c hc).1, Nat.le_trans (List.length_filter_le _ _) (h.size_le c hc).2⟩

theorem tick (h : cache.Fits) : cache.tick.Fits := ⟨h.distinct, h.size_le⟩

theorem makeRoom_of_room (h : cache.Fits) (hroom : ¬ cache.Full) (order : Order) :
    cache.makeRoom order.visit = (cache, []) := by
  unfold makeRoom
  split
  · rfl
  · next c hc =>
      refine evict_of_size_lt (Nat.lt_of_le_of_ne (h.size_le c hc).2 ?_)
      rintro rfl
      exact hroom hc

theorem makeRoom_of_full (h : cache.Fits) (hfull : cache.Full) (order : Order) :
    ∃ victim ∈ cache.entries, oldest? (order.visit cache.entries) = some victim ∧
      (cache.makeRoom order.visit).1 = cache.erase victim.document := by
  have hpos : 0 < cache.size := (h.size_le _ hfull).1
  cases hv : oldest? (order.visit cache.entries) with
  | none =>
      have hperm := order.perm cache.entries
      rw [oldest?_eq_none_iff.1 hv] at hperm
      rw [size, ← hperm.length_eq] at hpos
      exact absurd hpos (Nat.lt_irrefl 0)
  | some victim =>
      have hmem : victim ∈ cache.entries := (order.perm _).mem_iff.1 (oldest?_spec hv).1
      have hsize := size_erase h.distinct hmem
      refine ⟨victim, hmem, rfl, ?_⟩
      unfold makeRoom
      simp only [show cache.capacity = some cache.size from hfull]
      rw [evict, if_neg (Nat.lt_irrefl _), hv]
      simp only [evict_of_size_lt (show (cache.erase victim.document).size < cache.size by omega)]

theorem insert_of_mem (h : cache.Fits) {new e : Entry}
    (he : cache.find? new.document = some e) : (cache.insert new).Fits where
  distinct := nodup_documents_insert h.distinct new
  size_le c hc := by
    rw [size_insert_of_mem he]
    exact h.size_le c hc

theorem insert_of_new (h : cache.Fits) {new : Entry} (hnew : cache.find? new.document = none)
    (hroom : ¬ cache.Full) : (cache.insert new).Fits where
  distinct := nodup_documents_insert h.distinct new
  size_le c hc := by
    obtain ⟨hpos, hle⟩ := h.size_le c hc
    rw [size_insert_of_new hnew]
    refine ⟨hpos, Nat.lt_of_le_of_ne hle ?_⟩
    rintro rfl
    exact hroom hc

end Fits

/-- A cache with the clock gone on and a place for the document. -/
def ready (visit : List Entry → List Entry) (cache : Cache) (document : Uri) : Cache :=
  if (cache.find? document).isSome then cache.tick else (cache.tick.makeRoom visit).1

theorem ready_le (visit : List Entry → List Entry) (cache : Cache) (document : Uri) :
    (cache.ready visit document).entries ⊆ cache.entries := by
  unfold ready
  split
  · exact fun _ he => he
  · exact makeRoom_le visit cache.tick

/-- Behind a look-up an entry of the document at that revision has the tick of it. -/
theorem lookUp_cache (visit : List Entry → List Entry) (scan : Finder) (cache : Cache)
    (document : Uri) (revision : Int32) (text : String) :
    ∃ new : Entry, new.document = document ∧ new.revision = revision ∧
      new.lastUsed = cache.clock ∧
      (cache.lookUpVisiting visit scan document revision text).cache =
        (cache.ready visit document).insert new := by
  rcases lookUp_cases visit scan cache document revision text with
    ⟨e, he, hr, ha⟩ | ⟨e, he, hr, ha⟩ | ⟨he, ha⟩
  · exact ⟨{ e with lastUsed := cache.clock }, (mem_of_find? he).2, hr, rfl,
      by simp [ready, ha, he]⟩
  · exact ⟨⟨document, revision, scan text, cache.clock⟩, rfl, rfl, rfl, by simp [ready, ha, he]⟩
  · exact ⟨⟨document, revision, scan text, cache.clock⟩, rfl, rfl, rfl, by simp [ready, ha, he]⟩

namespace Fits

/-- A look-up takes a place only for a new document, and only where one is free. -/
theorem lookUp (h : cache.Fits) (order : Order) (scan : Finder) (document : Uri)
    (revision : Int32) (text : String) :
    let next := (cache.lookUpVisiting order.visit scan document revision text).cache
    next.Fits ∧ next.capacity = cache.capacity ∧ next.clock = cache.tick.clock ∧
      (((cache.find? document).isSome ∨ cache.Full) ∧ next.size = cache.size ∨
        ¬ (cache.find? document).isSome ∧ ¬ cache.Full ∧ next.size = cache.size + 1) := by
  obtain ⟨new, rfl, -, -, heq⟩ := lookUp_cache order.visit scan cache document revision text
  rw [heq, ready]
  cases hf : cache.find? new.document with
  | some e =>
      have hmem : cache.tick.find? new.document = some e := hf
      exact ⟨h.tick.insert_of_mem hmem, rfl, rfl, Or.inl ⟨Or.inl rfl, size_insert_of_mem hmem⟩⟩
  | none =>
      have hnone : cache.tick.find? new.document = none := hf
      by_cases hfull : cache.Full
      · obtain ⟨victim, hvictim, -, hroom⟩ := h.tick.makeRoom_of_full hfull order
        have hsize := size_erase h.tick.distinct hvictim
        have hnew : (cache.tick.erase victim.document).find? new.document = none := by
          rw [find?_erase, hnone, ite_self]
        have hfree : ¬ (cache.tick.erase victim.document).Full := by
          intro hc
          have := Option.some.inj (hfull.symm.trans hc)
          change _ = cache.size at hsize
          omega
        refine ⟨?_, ?_, ?_, Or.inl ⟨Or.inr hfull, ?_⟩⟩ <;>
          simp only [Option.isSome_none, Bool.false_eq_true, if_false, hroom]
        · exact (h.tick.erase _).insert_of_new hnew hfree
        · rfl
        · rfl
        · exact (size_insert_of_new hnew).trans hsize
      · have hfree : ¬ cache.tick.Full := hfull
        simp only [h.tick.makeRoom_of_room hfree order]
        exact ⟨h.tick.insert_of_new hnone hfree, rfl, rfl,
          Or.inr ⟨nofun, hfull, size_insert_of_new hnone⟩⟩

theorem forget (h : cache.Fits) (document : Uri) : (cache.forget document).1.Fits := by
  unfold Cache.forget
  split
  · exact h.erase document
  · exact h

theorem forgetAll (h : cache.Fits) : cache.forgetAll.Fits where
  distinct := List.nodup_nil
  size_le c hc := ⟨(h.size_le c hc).1, Nat.zero_le c⟩

theorem size_forget (h : cache.Fits) (document : Uri) :
    (cache.find? document).isSome ∧ (cache.forget document).1.size + 1 = cache.size ∨
      ¬ (cache.find? document).isSome ∧ (cache.forget document).1.size = cache.size := by
  unfold Cache.forget
  cases hf : cache.find? document with
  | none => exact Or.inr ⟨nofun, rfl⟩
  | some e =>
      obtain ⟨hmem, rfl⟩ := mem_of_find? hf
      exact Or.inl ⟨rfl, size_erase h.distinct hmem⟩

end Fits

theorem fits_ofCapacity (capacity : Option Nat) : (ofCapacity capacity).Fits where
  distinct := List.nodup_nil
  size_le c hc := by
    obtain ⟨n, -, rfl⟩ := Option.map_eq_some_iff.1 hc
    exact ⟨Nat.lt_of_lt_of_le Nat.zero_lt_one (Nat.le_max_right n 1), Nat.zero_le _⟩

end Bilingual.Cache
