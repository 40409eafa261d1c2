import Bilingual.Proofs.Cache.Freshness
import Bilingual.Proofs.Cache.Places

/-!
Two caches that are asked for the same, one with fewer places than the other. What
the smaller one keeps the larger one keeps as well, and so it scans no more often.
Ticks order the entries of both alike, hence the argument needs no ranking: an entry
that the larger cache evicts is evicted by the smaller one too, if it is there.
-/

namespace Bilingual.Cache

/-- Both look through entries along one order of the documents. -/
def Order.Alike (o o' : Order) : Prop :=
  ∃ before : Uri → Uri → Prop, (∀ d d', before d d' → ¬ before d' d) ∧
    ∀ es : List Entry, (es.map Entry.document).Nodup →
      (o.visit es).Pairwise (fun e f => before e.document f.document) ∧
      (o'.visit es).Pairwise fun e f => before e.document f.document

/-- No two entries have one tick. -/
def Told (cache : Cache) : Prop :=
  ∀ e ∈ cache.entries, ∀ f ∈ cache.entries, e.lastUsed = f.lastUsed → e.document = f.document

/-- There have been `n` look-ups, and ticks tell the entries apart. -/
structure Clocked (cache : Cache) (n : Nat) : Prop where
  clock_eq : cache.clock = UInt64.ofNat n
  ticked : ∀ e ∈ cache.entries, e.lastUsed.toNat < n
  told : cache.Told

/-- What the small cache keeps is kept in the large one, which has no fewer places
left over. -/
structure Within (small large : Cache) : Prop where
  small_fits : small.Fits
  large_fits : large.Fits
  clock_eq : large.clock = small.clock
  kept : ∀ e ∈ small.entries, ∃ f ∈ large.entries,
    f.document = e.document ∧ f.revision = e.revision ∧ f.lastUsed = e.lastUsed
  room : ∀ c', large.capacity = some c' →
    ∃ c, small.capacity = some c ∧ c ≤ c' ∧ large.size + c ≤ small.size + c'

namespace Clocked

variable {cache : Cache} {n : Nat}

theorem mono (h : cache.Clocked n) {rest : Cache} (hclock : rest.clock = cache.clock)
    (hle : rest.entries ⊆ cache.entries) : rest.Clocked n where
  clock_eq := hclock.trans h.clock_eq
  ticked e he := h.ticked e (hle he)
  told e he f hf := h.told e (hle he) f (hle hf)

theorem lookUp (h : cache.Clocked n) (hn : n < 2 ^ 64) (order : Order) (scan : Finder)
    (document : Uri) (revision : Int32) (text : String)
    (hclock : (cache.lookUpVisiting order.visit scan document revision text).cache.clock =
      cache.tick.clock) :
    (cache.lookUpVisiting order.visit scan document revision text).cache.Clocked (n + 1) := by
  obtain ⟨new, -, -, hlast, heq⟩ := lookUp_cache order.visit scan cache document revision text
  rw [heq] at hclock ⊢
  have hnew : new.lastUsed.toNat = n := by
    rw [hlast, h.clock_eq]
    exact Nat.mod_eq_of_lt hn
  have hold {e : Entry} (he : e ∈ (cache.ready order.visit document).entries) :
      e ∈ cache.entries ∧ e.lastUsed.toNat < n :=
    ⟨ready_le _ _ _ he, h.ticked e (ready_le _ _ _ he)⟩
  refine ⟨?_, fun e he => ?_, ?_⟩
  · rw [hclock]
    show cache.clock + 1 = _
    rw [h.clock_eq]
    exact (UInt64.ofNat_add n 1).symm
  · rcases mem_insert.1 he with rfl | ⟨he, -⟩
    · omega
    · have := (hold he).2
      omega
  · intro e he f hf htick
    have heq := congrArg UInt64.toNat htick
    rcases mem_insert.1 he with rfl | ⟨hemem, -⟩ <;>
      rcases mem_insert.1 hf with rfl | ⟨hfmem, -⟩
    · rfl
    · have := (hold hfmem).2
      omega
    · have := (hold hemem).2
      omega
    · exact h.told e (hold hemem).1 f (hold hfmem).1 htick

end Clocked

/-- Of entries with the least tick the first one is evicted. -/
theorem before_of_oldest? {before : Uri → Uri → Prop} {seen : List Entry}
    (hp : seen.Pairwise fun e f => before e.document f.document) {o e : Entry}
    (ho : oldest? seen = some o) (he : e ∈ seen) (htick : e.lastUsed = o.lastUsed)
    (hd : e.document ≠ o.document) : before o.document e.document := by
  obtain ⟨front, back, rfl, hfront⟩ := oldest?_first ho
  rcases List.mem_append.1 he with he | he
  · exact absurd (htick ▸ hfront e he) (UInt64.lt_irrefl _)
  · rcases List.mem_cons.1 he with rfl | he
    · exact absurd rfl hd
    · exact (List.pairwise_cons.1 (List.pairwise_append.1 hp).2.1).1 e he

namespace Within

variable {small large : Cache} {order order' : Order}

/-- If both caches evict an entry, the small one keeps none of the document that
goes from the large one. -/
theorem evicted_eq (h : small.Within large) (hties : small.Told ∨ order.Alike order')
    {v w e : Entry} (hv : oldest? (order.visit small.entries) = some v)
    (hw : oldest? (order'.visit large.entries) = some w) (he : e ∈ small.entries)
    (hd : e.document = w.document) : e.document = v.document := by
  have hseen {f : Entry} : f ∈ order.visit small.entries ↔ f ∈ small.entries :=
    (order.perm _).mem_iff
  have hseen' {f : Entry} : f ∈ order'.visit large.entries ↔ f ∈ large.entries :=
    (order'.perm _).mem_iff
  have hvmem := hseen.1 (oldest?_spec hv).1
  have hwmem := hseen'.1 (oldest?_spec hw).1
  obtain ⟨f, hf, hfd, -, hft⟩ := h.kept e he
  obtain ⟨g, hg, hgd, -, hgt⟩ := h.kept v hvmem
  obtain rfl : f = w :=
    List.inj_on_of_nodup_map h.large_fits.distinct hf hwmem (hfd.trans hd)
  have hle : v.lastUsed ≤ e.lastUsed := (oldest?_spec hv).2 e (hseen.2 he)
  have hge : e.lastUsed ≤ v.lastUsed := by
    have := (oldest?_spec hw).2 g (hseen'.2 hg)
    rwa [hft, hgt] at this
  have htick : e.lastUsed = v.lastUsed := UInt64.le_antisymm hge hle
  rcases hties with htold | ⟨before, hasymm, hvisit⟩
  · exact htold e he v hvmem htick
  · by_contra hne
    have hsmall : before v.document e.document :=
      before_of_oldest? (hvisit _ h.small_fits.distinct).1 hv (hseen.2 he) htick hne
    have hlarge : before e.document v.document := by
      have := before_of_oldest? (hvisit _ h.large_fits.distinct).2 hw (hseen'.2 hg)
        (by rw [hgt, hft, htick]) (by rw [hgd, hfd]; exact Ne.symm hne)
      rwa [hgd, hfd] at this
    exact hasymm _ _ hsmall hlarge

theorem isSome_find? (h : small.Within large) {document : Uri}
    (hs : (small.find? document).isSome) : (large.find? document).isSome := by
  obtain ⟨e, he⟩ := Option.isSome_iff_exists.1 hs
  obtain ⟨hmem, rfl⟩ := mem_of_find? he
  obtain ⟨f, hf, hd, -⟩ := h.kept e hmem
  rw [← hd, find?_eq_some_of_mem h.large_fits.distinct hf]
  rfl

theorem full (h : small.Within large) (hfull : large.Full) : small.Full := by
  obtain ⟨c, hc, -, hle⟩ := h.room _ hfull
  have := (h.small_fits.size_le c hc).2
  obtain rfl : c = small.size := by omega
  exact hc

/-- Making room keeps the small cache within the large one. -/
theorem ready (h : small.Within large) (hties : small.Told ∨ order.Alike order')
    {document : Uri} {e : Entry} (he : e ∈ (small.ready order.visit document).entries) :
    ∃ f ∈ (large.ready order'.visit document).entries,
      f.document = e.document ∧ f.revision = e.revision ∧ f.lastUsed = e.lastUsed := by
  obtain ⟨f, hf, hfe⟩ := h.kept e (ready_le _ _ _ he)
  refine ⟨f, ?_, hfe⟩
  unfold Cache.ready at he ⊢
  split
  · exact hf
  · next hlarge =>
      rw [if_neg fun hs => hlarge (h.isSome_find? hs)] at he
      by_cases hfull : large.Full
      · obtain ⟨w, -, hw, hroom'⟩ := h.large_fits.tick.makeRoom_of_full hfull order'
        obtain ⟨v, -, hv, hroom⟩ := h.small_fits.tick.makeRoom_of_full (h.full hfull) order
        rw [hroom] at he
        rw [hroom']
        obtain ⟨hmem, hne⟩ := mem_erase.1 he
        refine mem_erase.2 ⟨hf, fun hfw => hne ?_⟩
        exact h.evicted_eq hties hv hw hmem (hfe.1.symm.trans hfw)
      · rw [h.large_fits.tick.makeRoom_of_room hfull order']
        exact hf

theorem lookUp (h : small.Within large) (hties : small.Told ∨ order.Alike order')
    (scan : Finder) (document : Uri) (revision : Int32) (text : String) :
    (small.lookUpVisiting order.visit scan document revision text).cache.Within
      (large.lookUpVisiting order'.visit scan document revision text).cache := by
  obtain ⟨hsmall, hcap, hclock, hsize⟩ :=
    h.small_fits.lookUp order scan document revision text
  obtain ⟨hlarge, hcap', hclock', hsize'⟩ :=
    h.large_fits.lookUp order' scan document revision text
  refine ⟨hsmall, hlarge, ?_, ?_, ?_⟩
  · rw [hclock, hclock']
    exact congrArg (· + 1) h.clock_eq
  · obtain ⟨new, hd, hr, ht, heq⟩ :=
      lookUp_cache order.visit scan small document revision text
    obtain ⟨new', hd', hr', ht', heq'⟩ :=
      lookUp_cache order'.visit scan large document revision text
    rw [heq, heq']
    intro e he
    rcases mem_insert.1 he with rfl | ⟨he, hne⟩
    · refine ⟨new', mem_insert.2 (Or.inl rfl), hd'.trans hd.symm, hr'.trans hr.symm, ?_⟩
      exact (ht'.trans h.clock_eq).trans ht.symm
    · obtain ⟨f, hf, hfe⟩ := h.ready hties he
      refine ⟨f, mem_insert.2 (Or.inr ⟨hf, ?_⟩), hfe⟩
      rw [hfe.1, hd', ← hd]
      exact hne
  · intro c' hc'
    rw [hcap'] at hc'
    obtain ⟨c, hc, hcc, hle⟩ := h.room c' hc'
    refine ⟨c, hcap.trans hc, hcc, ?_⟩
    have hfound : (small.find? document).isSome → (large.find? document).isSome := h.isSome_find?
    have hfull : large.Full → small.Full := h.full
    have hroom : ¬ large.Full → large.size + 1 ≤ c' := by
      intro hf
      refine Nat.lt_of_le_of_ne (h.large_fits.size_le c' hc').2 ?_
      rintro rfl
      exact hf hc'
    have hsmallfull : small.Full → small.size = c := fun hf =>
      Option.some.inj (hf.symm.trans hc)
    rcases hsize with ⟨hs, hsize⟩ | ⟨hs, hf, hsize⟩ <;>
      rcases hsize' with ⟨hs', hsize'⟩ | ⟨hs', hf', hsize'⟩ <;> rw [hsize, hsize']
    · exact hle
    · have := hsmallfull (hs.resolve_left fun hs => hs' (hfound hs))
      have := hroom hf'
      omega
    · omega
    · omega

theorem hit (h : small.Within large) (scan : Finder) (document : Uri) (revision : Int32)
    (text : String)
    (hs : (small.lookUpVisiting order.visit scan document revision text).scanned = false) :
    (large.lookUpVisiting order'.visit scan document revision text).scanned = false := by
  rw [scanned_eq_false_iff] at hs ⊢
  obtain ⟨e, he, hr⟩ := Option.map_eq_some_iff.1 hs
  obtain ⟨hmem, rfl⟩ := mem_of_find? he
  obtain ⟨f, hf, hd, hfr, -⟩ := h.kept e hmem
  rw [← hd, find?_eq_some_of_mem h.large_fits.distinct hf]
  exact congrArg some (hfr.trans hr)

theorem forget (h : small.Within large) (document : Uri) :
    (small.forget document).1.Within (large.forget document).1 where
  small_fits := h.small_fits.forget document
  large_fits := h.large_fits.forget document
  clock_eq := by rw [clock_forget, clock_forget, h.clock_eq]
  kept e he := by
    obtain ⟨hmem, hne⟩ := mem_forget.1 he
    obtain ⟨f, hf, hfe⟩ := h.kept e hmem
    exact ⟨f, mem_forget.2 ⟨hf, hfe.1 ▸ hne⟩, hfe⟩
  room c' hc' := by
    rw [capacity_forget] at hc' ⊢
    obtain ⟨c, hc, hcc, hle⟩ := h.room c' hc'
    refine ⟨c, hc, hcc, ?_⟩
    have hfound : (small.find? document).isSome → (large.find? document).isSome := h.isSome_find?
    rcases h.small_fits.size_forget document with ⟨hs, hsize⟩ | ⟨-, hsize⟩ <;>
      rcases h.large_fits.size_forget document with ⟨-, hsize'⟩ | ⟨hs', hsize'⟩
    · omega
    · exact absurd (hfound hs) hs'
    · omega
    · omega

theorem forgetAll (h : small.Within large) : small.forgetAll.Within large.forgetAll where
  small_fits := h.small_fits.forgetAll
  large_fits := h.large_fits.forgetAll
  clock_eq := h.clock_eq
  kept e he := absurd he List.not_mem_nil
  room c' hc' := by
    obtain ⟨c, hc, hcc, -⟩ := h.room c' hc'
    exact ⟨c, hc, hcc, by simpa [size, Cache.forgetAll] using hcc⟩

theorem serve (h : small.Within large) {q : Request}
    (hties : q.isLookUp → small.Told ∨ order.Alike order') (scan : Finder) :
    (small.serve order scan q).1.Within (large.serve order' scan q).1 ∧
      ((small.serve order scan q).2.isHit → (large.serve order' scan q).2.isHit) ∧
      ((large.serve order' scan q).2.isScan → (small.serve order scan q).2.isScan) := by
  cases q with
  | lookUp document revision text =>
      refine ⟨h.lookUp (hties rfl) scan document revision text, ?_, ?_⟩
      · simpa [Cache.serve, Reply.isHit] using h.hit scan document revision text
      · simp only [Cache.serve, Reply.isScan]
        contrapose!
        simpa using h.hit scan document revision text
  | peek document => exact ⟨h, id, id⟩
  | forget document => exact ⟨h.forget document, id, id⟩
  | forgetAll => exact ⟨h.forgetAll, id, id⟩

end Within

theorem Clocked.serve {cache : Cache} {n : Nat} (h : cache.Clocked n) (hfits : cache.Fits)
    {q : Request} (hn : n + [q].countP Request.isLookUp ≤ 2 ^ 64) (order : Order)
    (scan : Finder) :
    (cache.serve order scan q).1.Clocked (n + [q].countP Request.isLookUp) := by
  cases q with
  | lookUp document revision text =>
      exact h.lookUp hn order scan document revision text
        (hfits.lookUp order scan document revision text).2.2.1
  | peek document => exact h
  | forget document =>
      exact h.mono (clock_forget cache document) fun e he => (mem_forget.1 he).1
  | forgetAll => exact h.mono rfl (List.nil_subset _)

/-- Ties between ticks do not come up in a run, or they are broken alike. -/
def Untied (small : Cache) (orders orders' : Nat → Order) (qs : List Request) : Prop :=
  (∃ n, small.Clocked n ∧ n + qs.countP Request.isLookUp ≤ 2 ^ 64) ∨
    ∀ n, (orders n).Alike (orders' n)

theorem Within.run {small large : Cache} (h : small.Within large) {orders orders' : Nat → Order}
    {qs : List Request} (hties : Untied small orders orders' qs) (scan : Finder) :
    (after scan orders small qs).Within (after scan orders' large qs) ∧
      List.Forall₂ (fun r r' => (r.isHit → r'.isHit) ∧ (r'.isScan → r.isScan))
        (replies scan orders small qs) (replies scan orders' large qs) := by
  induction qs generalizing small large orders orders' with
  | nil => exact ⟨h, .nil⟩
  | cons q qs ih =>
      have hcount : (q :: qs).countP Request.isLookUp =
          [q].countP Request.isLookUp + qs.countP Request.isLookUp := by
        rw [← List.singleton_append, List.countP_append]
      have htold : small.Told ∨ (orders 0).Alike (orders' 0) :=
        hties.imp (fun ⟨_, hclocked, _⟩ => hclocked.told) fun h => h 0
      obtain ⟨hq, hreply⟩ := h.serve (q := q) (fun _ => htold) scan
      have hrest : Untied (small.serve (orders 0) scan q).1 (fun n => orders (n + 1))
          (fun n => orders' (n + 1)) qs := by
        refine hties.imp ?_ fun h n => h (n + 1)
        rintro ⟨n, hclocked, hn⟩
        rw [hcount] at hn
        exact ⟨_, hclocked.serve h.small_fits (by omega) (orders 0) scan, by omega⟩
      obtain ⟨hqs, hreplies⟩ := ih hq hrest
      exact ⟨hqs, .cons hreply hreplies⟩

end Bilingual.Cache
