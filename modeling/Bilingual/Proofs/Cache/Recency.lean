import Bilingual.Proofs.Cache.Ranking

/-!
The textbook list of what was used most recently, and that a cache is one. The
list knows of no ticks and of no order in which entries are looked through.
-/

namespace Bilingual.Cache

namespace Recency

/-- Whether all places are taken. A capacity of zero counts as one. -/
def full (capacity : Option Nat) (kept : List Kept) : Bool :=
  capacity.map (max · 1) = some kept.length

/-- What is asked for comes to the front. Only what is not in the list yet takes
a place, and then the last one goes if all places are taken. -/
def lookUp (capacity : Option Nat) (scan : Finder) (kept : List Kept) (document : Uri)
    (revision : Int32) (text : String) : List Kept × Reply :=
  let fresh : Kept := ⟨document, revision, scan text⟩
  let miss := Event.cacheMiss document revision (scan text).length
  match kept.find? (·.document = document) with
  | some k =>
      let others := kept.filter (·.document ≠ document)
      if k.revision = revision then
        (k :: others, .found k.regions false [.cacheHit document revision])
      else (fresh :: others, .found (scan text) true [miss])
  | none =>
      if full capacity kept then
        (fresh :: kept.dropLast,
          .found (scan text) true
            (miss :: (kept.getLast?.map fun last => .cacheEvicted last.document).toList))
      else (fresh :: kept, .found (scan text) true [miss])

def serve (capacity : Option Nat) (scan : Finder) (kept : List Kept) :
    Request → List Kept × Reply
  | .lookUp document revision text => lookUp capacity scan kept document revision text
  | .peek document => (kept, .held (kept.find? (·.document = document)))
  | .forget document =>
      (kept.filter (·.document ≠ document),
        .dropped
          (if (kept.find? (·.document = document)).isSome then [.cacheInvalidated document]
          else []))
  | .forgetAll => ([], .dropped [])

def after (capacity : Option Nat) (scan : Finder) : List Kept → List Request → List Kept
  | kept, [] => kept
  | kept, q :: qs => after capacity scan (serve capacity scan kept q).1 qs

def replies (capacity : Option Nat) (scan : Finder) : List Kept → List Request → List Reply
  | _, [] => []
  | kept, q :: qs =>
      (serve capacity scan kept q).2 ::
        replies capacity scan (serve capacity scan kept q).1 qs

end Recency

theorem Recency.after_concat (capacity : Option Nat) (scan : Finder) (kept : List Kept)
    (qs : List Request) (q : Request) :
    after capacity scan kept (qs ++ [q]) =
      (serve capacity scan (after capacity scan kept qs) q).1 := by
  induction qs generalizing kept with
  | nil => rfl
  | cons p qs ih => exact ih _

theorem Recency.lookUp_fst (capacity : Option Nat) (scan : Finder) (kept : List Kept)
    (document : Uri) (revision : Int32) (text : String) :
    ∃ fresh others, (lookUp capacity scan kept document revision text).1 = fresh :: others ∧
      fresh.document = document ∧
      (others = kept.filter (·.document ≠ document) ∨ others = kept ∨ others = kept.dropLast) := by
  unfold lookUp
  cases hk : kept.find? (·.document = document) with
  | some k =>
      have hd : k.document = document := by simpa using List.find?_some hk
      by_cases hr : k.revision = revision
      · exact ⟨k, _, by simp only [if_pos hr], hd, Or.inl rfl⟩
      · exact ⟨⟨document, revision, scan text⟩, _, by simp only [if_neg hr], rfl, Or.inl rfl⟩
  | none =>
      refine ⟨⟨document, revision, scan text⟩, ?_⟩
      by_cases hf : full capacity kept
      · exact ⟨_, by simp only [if_pos hf], rfl, Or.inr (Or.inr rfl)⟩
      · exact ⟨_, by simp only [if_neg hf], rfl, Or.inr (Or.inl rfl)⟩

/-- One document at most makes way for another, and not the one asked for. -/
theorem Recency.lost_le_one (capacity : Option Nat) (scan : Finder) (kept : List Kept)
    (document : Uri) (revision : Int32) (text : String) :
    let next := (lookUp capacity scan kept document revision text).1
    ((kept.map Kept.document).filter (· ∉ next.map Kept.document)).length ≤ 1 ∧
      document ∈ next.map Kept.document := by
  obtain ⟨fresh, others, heq, hfresh, hothers⟩ :=
    lookUp_fst capacity scan kept document revision text
  rw [heq]
  refine ⟨?_, by simp [hfresh]⟩
  -- What stands among the others is not lost, so the last one alone can be.
  have hstay {some : List Kept} (h : ∀ k ∈ some, k.document = document ∨ k ∈ others) :
      (some.map Kept.document).filter (· ∉ (fresh :: others).map Kept.document) = [] := by
    refine List.filter_eq_nil_iff.2 fun d hd => ?_
    obtain ⟨k, hk, rfl⟩ := List.mem_map.1 hd
    rw [decide_eq_true_eq, not_not]
    rcases h k hk with hk | hk
    · simp [hfresh, hk]
    · exact List.mem_map_of_mem (List.mem_cons_of_mem _ hk)
  rcases hothers with rfl | rfl | rfl
  · rw [hstay fun k hk => or_iff_not_imp_left.2 fun hd => List.mem_filter.2 ⟨hk, by simpa⟩]
    exact Nat.zero_le 1
  · rw [hstay fun k hk => Or.inr hk]
    exact Nat.zero_le 1
  · rcases List.eq_nil_or_concat' kept with rfl | ⟨init, last, rfl⟩
    · exact Nat.zero_le 1
    · rw [List.map_append, List.filter_append, hstay fun k hk => Or.inr (by simpa using hk)]
      exact List.length_filter_le _ _

theorem clock_lt_tick {cache : Cache} (h : cache.clock.toNat + 1 < 2 ^ 64) :
    cache.clock < cache.tick.clock ∧ cache.tick.clock.toNat = cache.clock.toNat + 1 := by
  have hadd : cache.tick.clock.toNat = cache.clock.toNat + 1 := by
    show (cache.clock + 1).toNat = _
    rw [UInt64.toNat_add]
    exact Nat.mod_eq_of_lt h
  exact ⟨by rw [UInt64.lt_iff_toNat_lt, hadd]; omega, hadd⟩

section

variable (capacity : Option Nat) (scan : Finder) {es : List Entry} {document : Uri}
  {revision : Int32} (text : String)

theorem find?_kept :
    (es.map Entry.kept).find? (·.document = document) =
      (es.find? (·.document = document)).map Entry.kept := by
  rw [List.find?_map]
  rfl

theorem filter_kept :
    (es.map Entry.kept).filter (·.document ≠ document) =
      (es.filter (·.document ≠ document)).map Entry.kept := by
  rw [List.filter_map]
  rfl

theorem recency_of_hit {e : Entry} (he : es.find? (·.document = document) = some e)
    (hr : e.revision = revision) :
    Recency.lookUp capacity scan (es.map Entry.kept) document revision text =
      (e.kept :: (es.filter (·.document ≠ document)).map Entry.kept,
        .found e.regions false [.cacheHit document revision]) := by
  simp only [Recency.lookUp, find?_kept, he, filter_kept, Option.map_some]
  exact if_pos hr

theorem recency_of_stale {e : Entry} (he : es.find? (·.document = document) = some e)
    (hr : e.revision ≠ revision) :
    Recency.lookUp capacity scan (es.map Entry.kept) document revision text =
      (⟨document, revision, scan text⟩ :: (es.filter (·.document ≠ document)).map Entry.kept,
        .found (scan text) true [.cacheMiss document revision (scan text).length]) := by
  simp only [Recency.lookUp, find?_kept, he, filter_kept, Option.map_some]
  exact if_neg hr

theorem recency_of_room (he : es.find? (·.document = document) = none)
    (hroom : capacity.map (max · 1) ≠ some es.length) :
    Recency.lookUp capacity scan (es.map Entry.kept) document revision text =
      (⟨document, revision, scan text⟩ :: es.map Entry.kept,
        .found (scan text) true [.cacheMiss document revision (scan text).length]) := by
  simp only [Recency.lookUp, find?_kept, he, Option.map_none]
  rw [if_neg]
  simpa [Recency.full] using hroom

theorem recency_of_full {last : Entry}
    (he : (es ++ [last]).find? (·.document = document) = none)
    (hfull : capacity.map (max · 1) = some (es ++ [last]).length) :
    Recency.lookUp capacity scan ((es ++ [last]).map Entry.kept) document revision text =
      (⟨document, revision, scan text⟩ :: es.map Entry.kept,
        .found (scan text) true
          [.cacheMiss document revision (scan text).length, .cacheEvicted last.document]) := by
  simp only [Recency.lookUp, find?_kept, he, Option.map_none]
  rw [if_pos]
  · simp [Entry.kept]
  · simpa [Recency.full] using hfull

end

/-- The entries of the cache are those of the list, which goes from the latest on. -/
structure Holds (capacity : Option Nat) (cache : Cache) (kept : List Kept) : Prop where
  ranked : ∃ es, cache.Ranked es ∧ es.map Entry.kept = kept
  capacity_eq : cache.capacity = capacity.map (max · 1)

variable {capacity : Option Nat} {cache : Cache} {kept : List Kept}

theorem Holds.lookUp (h : cache.Holds capacity kept) (hclock : cache.clock.toNat + 1 < 2 ^ 64)
    (order : Order) (scan : Finder) (document : Uri) (revision : Int32) (text : String) :
    let answer := cache.lookUpVisiting order.visit scan document revision text
    let expected := Recency.lookUp capacity scan kept document revision text
    answer.cache.Holds capacity expected.1 ∧
      Reply.found answer.regions answer.scanned answer.log = expected.2 ∧
      answer.cache.clock = cache.tick.clock := by
  obtain ⟨⟨es, hes, rfl⟩, hcap⟩ := h
  have hlt := (clock_lt_tick hclock).1
  have htick := hes.tick hlt
  have hfind := hes.find?_eq document
  rcases lookUp_cases order.visit scan cache document revision text with
    ⟨e, he, hr, ha⟩ | ⟨e, he, hr, ha⟩ | ⟨he, ha⟩
  · obtain ⟨hmem, rfl⟩ := mem_of_find? he
    have hnew : (cache.tick.insert { e with lastUsed := cache.clock }).Ranked _ :=
      htick.replace hes.ticked hlt ⟨e, hes.mem_iff.2 hmem, rfl⟩
    rw [ha, recency_of_hit capacity scan text (hfind ▸ he) hr]
    exact ⟨⟨⟨_, hnew, rfl⟩, hcap⟩, rfl, rfl⟩
  · obtain ⟨hmem, rfl⟩ := mem_of_find? he
    have hnew : (cache.tick.insert ⟨e.document, revision, scan text, cache.clock⟩).Ranked _ :=
      htick.replace hes.ticked hlt ⟨e, hes.mem_iff.2 hmem, rfl⟩
    rw [ha, recency_of_stale capacity scan text (hfind ▸ he) hr]
    exact ⟨⟨⟨_, hnew, rfl⟩, hcap⟩, rfl, rfl⟩
  · have hnone : ∀ e ∈ es, e.document ≠ document := fun e hmem =>
      find?_eq_none_iff.1 he e (hes.mem_iff.1 hmem)
    let fresh : Entry := ⟨document, revision, scan text, cache.clock⟩
    by_cases hfull : cache.capacity = some es.length
    · obtain ⟨init, last, rfl⟩ : ∃ init last, es = init ++ [last] := by
        refine (List.eq_nil_or_concat' es).resolve_left ?_
        rintro rfl
        exact Nat.lt_irrefl 0 (hes.fits 0 hfull).1
      have hnew : ((cache.tick.erase last.document).insert fresh).Ranked (fresh :: init) := by
        refine htick.erase_last.add (fun e hmem => ?_) hlt (fun e hmem => ?_) fun c hc => ?_
        · exact hes.ticked e (List.mem_append_left _ hmem)
        · exact hnone e (List.mem_append_left _ hmem)
        · have := (hes.fits c hc).2
          simp only [List.length_append, List.length_singleton] at this
          omega
      rw [ha, htick.makeRoom_of_full hfull order,
        recency_of_full capacity scan text (hfind.symm.trans he) (hcap.symm.trans hfull)]
      exact ⟨⟨⟨_, hnew, rfl⟩, hcap⟩, rfl, rfl⟩
    · have hnew : (cache.tick.insert fresh).Ranked (fresh :: es) := by
        refine htick.add hes.ticked hlt hnone fun c hc => Nat.lt_of_le_of_ne (hes.fits c hc).2 ?_
        rintro rfl
        exact hfull hc
      rw [ha, htick.makeRoom_of_room hfull order,
        recency_of_room capacity scan text (hfind ▸ he) (hcap ▸ hfull)]
      exact ⟨⟨⟨_, hnew, rfl⟩, hcap⟩, rfl, rfl⟩

theorem Holds.serve (h : cache.Holds capacity kept) {q : Request}
    (hclock : cache.clock.toNat + [q].countP Request.isLookUp < 2 ^ 64) (order : Order)
    (scan : Finder) :
    (cache.serve order scan q).1.Holds capacity (Recency.serve capacity scan kept q).1 ∧
      (cache.serve order scan q).2 = (Recency.serve capacity scan kept q).2 ∧
      (cache.serve order scan q).1.clock.toNat =
        cache.clock.toNat + [q].countP Request.isLookUp := by
  cases q with
  | lookUp document revision text =>
      obtain ⟨hholds, hreply, htick⟩ := h.lookUp hclock order scan document revision text
      exact ⟨hholds, hreply, (congrArg _ htick).trans (clock_lt_tick hclock).2⟩
  | peek document =>
      obtain ⟨⟨es, hes, rfl⟩, hcap⟩ := h
      refine ⟨⟨⟨es, hes, rfl⟩, hcap⟩, ?_, rfl⟩
      simp only [Cache.serve, Recency.serve, find?_kept, hes.find?_eq]
  | forget document =>
      obtain ⟨⟨es, hes, rfl⟩, hcap⟩ := h
      have hfind := hes.find?_eq document
      cases he : cache.find? document with
      | some e =>
          have hforget : cache.forget document =
              (cache.erase document, [.cacheInvalidated document]) := by
            simp [forget, he]
          simp only [Cache.serve, Recency.serve, hforget, find?_kept, filter_kept, ← hfind, he]
          exact ⟨⟨⟨_, hes.erase document, rfl⟩, hcap⟩, rfl, rfl⟩
      | none =>
          have hforget : cache.forget document = (cache, []) := by simp [forget, he]
          have hall : es.filter (·.document ≠ document) = es := by
            refine List.filter_eq_self.2 fun e hmem => ?_
            simpa using find?_eq_none_iff.1 he e (hes.mem_iff.1 hmem)
          simp only [Cache.serve, Recency.serve, hforget, find?_kept, filter_kept, ← hfind, he,
            hall]
          exact ⟨⟨⟨es, hes, rfl⟩, hcap⟩, rfl, rfl⟩
  | forgetAll =>
      obtain ⟨⟨es, hes, rfl⟩, hcap⟩ := h
      exact ⟨⟨⟨[], hes.sublist (List.nil_sublist es) .nil rfl rfl, rfl⟩, hcap⟩, rfl, rfl⟩

/-- A run of requests leaves the cache and the list alike, if the clock does not go
round on the way. -/
theorem Holds.run (h : cache.Holds capacity kept) {qs : List Request}
    (hclock : cache.clock.toNat + qs.countP Request.isLookUp < 2 ^ 64) (orders : Nat → Order)
    (scan : Finder) :
    (after scan orders cache qs).Holds capacity (Recency.after capacity scan kept qs) ∧
      replies scan orders cache qs = Recency.replies capacity scan kept qs := by
  induction qs generalizing cache kept orders with
  | nil => exact ⟨h, rfl⟩
  | cons q qs ih =>
      have hcount : (q :: qs).countP Request.isLookUp =
          [q].countP Request.isLookUp + qs.countP Request.isLookUp := by
        rw [← List.singleton_append, List.countP_append]
      obtain ⟨hq, hreply, htick⟩ := h.serve (q := q) (by omega) (orders 0) scan
      obtain ⟨hqs, hreplies⟩ := ih hq (by omega) fun n => orders (n + 1)
      exact ⟨hqs, by rw [replies, Recency.replies, hreply, hreplies]⟩

theorem holds_ofCapacity (capacity : Option Nat) : (ofCapacity capacity).Holds capacity [] where
  ranked := ⟨[], ⟨.nil, .nil, .nil, by simp, by
    intro c hc
    obtain ⟨n, -, rfl⟩ := Option.map_eq_some_iff.1 hc
    simp only [List.length_nil]
    omega⟩, rfl⟩
  capacity_eq := rfl

theorem Holds.documents_perm (h : cache.Holds capacity kept) :
    cache.documents.Perm (kept.map Kept.document) := by
  obtain ⟨⟨es, hes, rfl⟩, -⟩ := h
  rw [List.map_map]
  exact (hes.perm.map Entry.document).symm

theorem Holds.size_le (h : cache.Holds capacity kept) {c : Nat} (hc : capacity = some c) :
    cache.size ≤ max c 1 := by
  obtain ⟨⟨es, hes, rfl⟩, hcap⟩ := h
  rw [hc] at hcap
  rw [hes.size_eq]
  exact (hes.fits _ hcap).2

theorem Holds.byRecency_eq (h : cache.Holds capacity kept) :
    cache.byRecency.map Entry.kept = kept ∧
      cache.byRecency.Pairwise fun a b => b.lastUsed < a.lastUsed := by
  obtain ⟨⟨es, hes, rfl⟩, -⟩ := h
  rw [hes.byRecency_eq]
  exact ⟨rfl, hes.latest_first⟩

/-- A cache keeps and answers what the textbook list does, however entries are
looked through. -/
theorem run_refines_recency (capacity : Option Nat) (scan : Finder) (orders : Nat → Order)
    (qs : List Request) (hclock : qs.countP Request.isLookUp < 2 ^ 64) :
    let final := after scan orders (ofCapacity capacity) qs
    final.byRecency.map Entry.kept = Recency.after capacity scan [] qs ∧
      final.byRecency.Pairwise (fun a b => b.lastUsed < a.lastUsed) ∧
      replies scan orders (ofCapacity capacity) qs = Recency.replies capacity scan [] qs ∧
      (∀ c, capacity = some c → final.size ≤ max c 1) ∧
      (∀ before document revision text later,
        qs = before ++ .lookUp document revision text :: later →
        let held := after scan orders (ofCapacity capacity) before
        let next :=
          after scan orders (ofCapacity capacity) (before ++ [.lookUp document revision text])
        (held.documents.filter (· ∉ next.documents)).length ≤ 1 ∧ document ∈ next.documents) ∧
      ∀ others : Nat → Order,
        (after scan others (ofCapacity capacity) qs).byRecency.map Entry.kept =
            final.byRecency.map Entry.kept ∧
          replies scan others (ofCapacity capacity) qs =
            replies scan orders (ofCapacity capacity) qs := by
  have hrun (qs : List Request) (hclock : qs.countP Request.isLookUp < 2 ^ 64)
      (orders : Nat → Order) := (holds_ofCapacity capacity).run
    (show (ofCapacity capacity).clock.toNat + qs.countP Request.isLookUp < 2 ^ 64 by
      simpa [ofCapacity] using hclock) orders scan
  obtain ⟨hfinal, hreplies⟩ := hrun qs hclock orders
  refine ⟨hfinal.byRecency_eq.1, hfinal.byRecency_eq.2, hreplies, fun c hc => hfinal.size_le hc,
    ?_, fun others => ?_⟩
  · rintro before document revision text later rfl
    have hsplit : before ++ .lookUp document revision text :: later =
        before ++ [.lookUp document revision text] ++ later := by simp
    rw [hsplit, List.countP_append] at hclock
    have hbefore : before.countP Request.isLookUp < 2 ^ 64 := by
      rw [List.countP_append] at hclock
      omega
    have hheld := (hrun before hbefore orders).1.documents_perm
    have hnext :=
      (hrun (before ++ [.lookUp document revision text]) (by omega) orders).1.documents_perm
    rw [Recency.after_concat] at hnext
    have hlost := Recency.lost_le_one capacity scan (Recency.after capacity scan [] before) document
      revision text
    simp only [hnext.mem_iff, (hheld.filter _).length_eq]
    exact hlost
  · obtain ⟨hother, hreplies'⟩ := hrun qs hclock others
    exact ⟨by rw [hother.byRecency_eq.1, hfinal.byRecency_eq.1], by rw [hreplies', hreplies]⟩

theorem run_refines_recency_two_places :
    let a : Uri := ⟨"file", none, "/a", none, none⟩
    let b : Uri := ⟨"file", none, "/b", none, none⟩
    let c : Uri := ⟨"file", none, "/c", none, none⟩
    let scan : Finder := fun text => [⟨0, text.utf8ByteSize⟩]
    let qs : List Request := [.lookUp a 1 "x", .lookUp b 1 "xy", .lookUp a 1 "", .lookUp c 4 "xyz"]
    qs.countP Request.isLookUp < 2 ^ 64 ∧
      (after scan (fun _ => .listed) (ofCapacity (some 2)) qs).byRecency.map Entry.kept =
        [⟨c, 4, [⟨0, 3⟩]⟩, ⟨a, 1, [⟨0, 1⟩]⟩] := by
  intro a b c scan qs
  have hclock : qs.countP Request.isLookUp < 2 ^ 64 := by decide
  refine ⟨hclock, (run_refines_recency (some 2) scan (fun _ => .listed) qs hclock).1.trans ?_⟩
  decide

end Bilingual.Cache
