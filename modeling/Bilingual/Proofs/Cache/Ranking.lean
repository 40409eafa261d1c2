import Bilingual.Proofs.Cache.Run
import Mathlib.Algebra.Group.Nat.Defs
import Mathlib.Data.List.Nodup

/-!
The entries of a cache ranked by their last look-up, the latest in front. As long
as the clock has not gone round, ticks tell all entries apart, and one entry at
most has to go for another: the last of the ranking, in whatever order entries are
looked through.
-/

namespace Bilingual.Cache

def documents (cache : Cache) : List Uri := cache.entries.map Entry.document

/-- The entries by decreasing tick. -/
def byRecency (cache : Cache) : List Entry :=
  cache.entries.mergeSort fun a b => b.lastUsed ≤ a.lastUsed

/-- `es` lists the entries of the cache by decreasing tick. -/
structure Ranked (cache : Cache) (es : List Entry) : Prop where
  perm : es.Perm cache.entries
  latest_first : es.Pairwise fun a b => b.lastUsed < a.lastUsed
  distinct : (es.map Entry.document).Nodup
  ticked : ∀ e ∈ es, e.lastUsed < cache.clock
  fits : ∀ c, cache.capacity = some c → 0 < c ∧ es.length ≤ c

theorem oldest?_eq_none_iff {es : List Entry} : oldest? es = none ↔ es = [] := by
  cases es with
  | nil => simp [oldest?]
  | cons e es =>
      simp only [oldest?]
      cases oldest? es with
      | none => simp
      | some o => by_cases h : o.lastUsed < e.lastUsed <;> simp [h]

theorem oldest?_spec {es : List Entry} {o : Entry} (h : oldest? es = some o) :
    o ∈ es ∧ ∀ e ∈ es, o.lastUsed ≤ e.lastUsed := by
  induction es generalizing o with
  | nil => simp [oldest?] at h
  | cons e es ih =>
      simp only [oldest?] at h
      cases hes : oldest? es with
      | none =>
          rw [oldest?_eq_none_iff] at hes
          subst hes
          cases h
          simp
      | some p =>
          obtain ⟨hmem, hle⟩ := ih hes
          simp only [hes] at h
          split at h
          · next hlt =>
              cases h
              refine ⟨List.mem_cons_of_mem _ hmem, ?_⟩
              rintro f (_ | ⟨_, hf⟩)
              · exact UInt64.le_of_lt hlt
              · exact hle f hf
          · next hlt =>
              cases h
              refine ⟨List.mem_cons_self, ?_⟩
              rintro f (_ | ⟨_, hf⟩)
              · exact UInt64.le_refl _
              · exact UInt64.le_trans (UInt64.not_lt.1 hlt) (hle f hf)

theorem evict_of_size_lt {visit : List Entry → List Entry} {capacity turns : Nat} {cache : Cache}
    (h : cache.size < capacity) : cache.evict visit capacity turns = (cache, []) := by
  cases turns with
  | zero => rfl
  | succ turns => rw [evict, if_pos h]

theorem nodup_documents_insert {cache : Cache} (h : cache.documents.Nodup) (new : Entry) :
    (cache.insert new).documents.Nodup := by
  unfold documents Cache.insert
  split
  · have hsame : (cache.entries.map fun e => if e.document = new.document then new else e).map
        Entry.document = cache.documents := by
      rw [List.map_map]
      refine List.map_congr_left fun e _ => ?_
      by_cases hd : e.document = new.document <;> simp [hd]
    simp only [hsame, h]
  · next hnone =>
      have hnew := find?_eq_none_iff.1 (Option.not_isSome_iff_eq_none.1 hnone)
      rw [List.map_append]
      refine List.nodup_append.2 ⟨h, by simp, ?_⟩
      simpa using hnew

namespace Ranked

variable {cache : Cache} {es : List Entry}

theorem mem_iff (h : cache.Ranked es) {e : Entry} : e ∈ es ↔ e ∈ cache.entries :=
  h.perm.mem_iff

theorem size_eq (h : cache.Ranked es) : cache.size = es.length := h.perm.length_eq.symm

theorem eq_of_document_eq (h : cache.Ranked es) {e f : Entry} (he : e ∈ es) (hf : f ∈ es)
    (hd : e.document = f.document) : e = f :=
  List.inj_on_of_nodup_map h.distinct he hf hd

theorem eq_of_lastUsed_eq (h : cache.Ranked es) {e f : Entry} (he : e ∈ es) (hf : f ∈ es)
    (ht : e.lastUsed = f.lastUsed) : e = f := by
  have hticks : (es.map Entry.lastUsed).Nodup :=
    List.pairwise_map.2 (h.latest_first.imp fun hlt => (UInt64.ne_of_lt hlt).symm)
  exact List.inj_on_of_nodup_map hticks he hf ht

theorem byRecency_eq (h : cache.Ranked es) : cache.byRecency = es := by
  have hperm : cache.byRecency.Perm es := (List.mergeSort_perm _ _).trans h.perm.symm
  have hsorted : cache.byRecency.Pairwise fun a b => b.lastUsed ≤ a.lastUsed := by
    refine (@List.pairwise_mergeSort Entry (fun a b => b.lastUsed ≤ a.lastUsed) ?_ ?_
      cache.entries).imp of_decide_eq_true
    · intro a b c hab hbc
      simp only [decide_eq_true_eq] at hab hbc ⊢
      exact UInt64.le_trans hbc hab
    · intro a b
      simpa using UInt64.le_total b.lastUsed a.lastUsed
  refine List.Perm.eq_of_pairwise (fun a b ha hb hab hba => ?_) hsorted
    (h.latest_first.imp UInt64.le_of_lt) hperm
  exact h.eq_of_lastUsed_eq (hperm.mem_iff.1 ha) hb (UInt64.le_antisymm hba hab)

/-- The entry that was looked up longest ago is the last of the ranking. -/
theorem oldest?_eq (h : cache.Ranked es) {seen : List Entry} (hs : seen.Perm es) :
    oldest? seen = es.getLast? := by
  cases ho : oldest? seen with
  | none =>
      rw [oldest?_eq_none_iff] at ho
      subst ho
      rw [hs.symm.eq_nil, List.getLast?_nil]
  | some o =>
      obtain ⟨hmem, hle⟩ := oldest?_spec ho
      rcases List.eq_nil_or_concat' es with rfl | ⟨init, z, rfl⟩
      · simpa using hs.mem_iff.1 hmem
      · rw [List.getLast?_concat]
        have hz : z ∈ init ++ [z] := by simp
        have hlast : z.lastUsed ≤ o.lastUsed := by
          rcases List.mem_append.1 (hs.mem_iff.1 hmem) with hi | hi
          · have hp := (List.pairwise_append.1 h.latest_first).2.2
            exact UInt64.le_of_lt (hp o hi z (by simp))
          · rw [List.mem_singleton.1 hi]
            exact UInt64.le_refl _
        have heq := UInt64.le_antisymm hlast (hle z (hs.mem_iff.2 hz))
        rw [h.eq_of_lastUsed_eq hz (hs.mem_iff.1 hmem) heq]

theorem find?_eq (h : cache.Ranked es) (document : Uri) :
    cache.find? document = es.find? (·.document = document) := by
  cases hf : cache.find? document with
  | none =>
      have := find?_eq_none_iff.1 hf
      symm
      simpa [List.find?_eq_none, h.mem_iff] using this
  | some e =>
      obtain ⟨hmem, hd⟩ := mem_of_find? hf
      cases hg : es.find? (·.document = document) with
      | none =>
          have := List.find?_eq_none.1 hg e (h.mem_iff.2 hmem)
          simp [hd] at this
      | some f =>
          have hfd : f.document = document := by simpa using List.find?_some hg
          rw [h.eq_of_document_eq (h.mem_iff.2 hmem) (List.mem_of_find?_eq_some hg)
            (hd.trans hfd.symm)]

theorem tick (h : cache.Ranked es) (hclock : cache.clock < cache.tick.clock) :
    cache.tick.Ranked es :=
  ⟨h.perm, h.latest_first, h.distinct, fun e he => UInt64.lt_trans (h.ticked e he) hclock, h.fits⟩

theorem sublist (h : cache.Ranked es) {rest : Cache} {fs : List Entry} (hs : fs.Sublist es)
    (hp : fs.Perm rest.entries) (hclock : rest.clock = cache.clock)
    (hcapacity : rest.capacity = cache.capacity) : rest.Ranked fs where
  perm := hp
  latest_first := h.latest_first.sublist hs
  distinct := h.distinct.sublist (hs.map _)
  ticked e he := hclock ▸ h.ticked e (hs.subset he)
  fits c hc := by
    have := h.fits c (hcapacity ▸ hc)
    exact ⟨this.1, Nat.le_trans hs.length_le this.2⟩

theorem erase (h : cache.Ranked es) (document : Uri) :
    (cache.erase document).Ranked (es.filter (·.document ≠ document)) :=
  h.sublist List.filter_sublist (h.perm.filter _) rfl rfl

theorem nodup_documents (h : cache.Ranked es) : cache.documents.Nodup :=
  (h.perm.map _).nodup_iff.1 h.distinct

/-- A new entry comes in front of all others. -/
theorem insert (h : cache.Ranked es) {new : Entry} (hlatest : ∀ e ∈ es, e.lastUsed < new.lastUsed)
    (hclock : new.lastUsed < cache.clock)
    (hfits : ∀ c, cache.capacity = some c → (es.filter (·.document ≠ new.document)).length < c) :
    (cache.insert new).Ranked (new :: es.filter (·.document ≠ new.document)) where
  perm := by
    have hnew : ((new :: es.filter (·.document ≠ new.document)).map Entry.document).Nodup := by
      refine List.nodup_cons.2 ⟨by simp, h.distinct.sublist (List.filter_sublist.map _)⟩
    refine (List.perm_ext_iff_of_nodup (.of_map _ hnew)
      (.of_map _ (nodup_documents_insert h.nodup_documents new))).2 fun e => ?_
    simp [mem_insert, h.mem_iff]
  latest_first :=
    .cons (fun e he => hlatest e (List.mem_of_mem_filter he)) (h.latest_first.filter _)
  distinct :=
    List.nodup_cons.2 ⟨by simp, h.distinct.sublist (List.filter_sublist.map _)⟩
  ticked e he := by
    rcases List.mem_cons.1 he with rfl | he
    · exact hclock
    · exact h.ticked e (List.mem_of_mem_filter he)
  fits c hc := ⟨(h.fits c hc).1, hfits c hc⟩

/-- An entry in the place of one of its document takes no more room. -/
theorem replace (h : cache.Ranked es) {new : Entry} (hlatest : ∀ e ∈ es, e.lastUsed < new.lastUsed)
    (hclock : new.lastUsed < cache.clock) (hmem : ∃ e ∈ es, e.document = new.document) :
    (cache.insert new).Ranked (new :: es.filter (·.document ≠ new.document)) := by
  refine h.insert hlatest hclock fun c hc => Nat.lt_of_lt_of_le ?_ (h.fits c hc).2
  obtain ⟨e, he, hd⟩ := hmem
  exact List.length_filter_lt_length_iff_exists.2 ⟨e, he, by simp [hd]⟩

/-- An entry of a new document takes one place. -/
theorem add (h : cache.Ranked es) {new : Entry} (hlatest : ∀ e ∈ es, e.lastUsed < new.lastUsed)
    (hclock : new.lastUsed < cache.clock) (hnew : ∀ e ∈ es, e.document ≠ new.document)
    (hroom : ∀ c, cache.capacity = some c → es.length < c) :
    (cache.insert new).Ranked (new :: es) := by
  have hall : es.filter (·.document ≠ new.document) = es :=
    List.filter_eq_self.2 fun e he => by simpa using hnew e he
  have hfits : ∀ c, cache.capacity = some c →
      (es.filter (·.document ≠ new.document)).length < c := by rwa [hall]
  simpa only [hall] using h.insert hlatest hclock hfits

theorem makeRoom_of_room (h : cache.Ranked es) (hc : cache.capacity ≠ some es.length)
    (order : Order) : cache.makeRoom order.visit = (cache, []) := by
  unfold makeRoom
  split
  · rfl
  · next c heq =>
      refine evict_of_size_lt ?_
      have hle := (h.fits c heq).2
      have hne : es.length ≠ c := fun he => hc (he ▸ heq)
      rw [h.size_eq]
      omega

variable {init : List Entry} {last : Entry}

theorem filter_last (h : cache.Ranked (init ++ [last])) :
    (init ++ [last]).filter (·.document ≠ last.document) = init := by
  have hd := h.distinct
  rw [List.map_append, List.nodup_append] at hd
  rw [List.filter_append, List.filter_eq_self.2]
  · simp
  · intro e he
    simpa using hd.2.2 e.document (List.mem_map_of_mem he) last.document (by simp)

theorem erase_last (h : cache.Ranked (init ++ [last])) :
    (cache.erase last.document).Ranked init := by
  have := h.erase last.document
  rwa [h.filter_last] at this

/-- Where all places are taken the last of the ranking goes, and it alone. -/
theorem makeRoom_of_full (h : cache.Ranked (init ++ [last]))
    (hc : cache.capacity = some (init ++ [last]).length) (order : Order) :
    cache.makeRoom order.visit =
      (cache.erase last.document, [.cacheEvicted last.document]) := by
  have hoverfull : ¬ cache.size < (init ++ [last]).length := by rw [h.size_eq]; omega
  have hold : oldest? (order.visit cache.entries) = some last := by
    rw [h.oldest?_eq ((order.perm _).trans h.perm.symm), List.getLast?_concat]
  have hroom : (cache.erase last.document).size < (init ++ [last]).length := by
    rw [h.erase_last.size_eq, List.length_append]
    simp
  unfold makeRoom
  simp only [hc]
  rw [evict, if_neg hoverfull, hold]
  simp only [evict_of_size_lt hroom]

end Ranked

end Bilingual.Cache
