import Bilingual.Proofs.Cache.Places
import Bilingual.Proofs.Server.Handlers
import Bilingual.Proofs.Server.History

/-!
The two tables of the server: the documents that are open, and the regions kept
for them. The latest report about a document tells whether it is open and in which
state, and regions are kept of open documents only.
-/

namespace Bilingual

/-- The report carries a state of the document, or closes it. -/
def Notice.Concerns (uri : Uri) (n : Notice) : Prop :=
  n = .closed uri ∨ ∃ d, n.document? = some d ∧ d.uri = uri

/-- The latest report about the document carries this state of it. -/
def Current (ns : List Notice) (d : Document) : Prop :=
  ∃ before n later, ns = before ++ n :: later ∧ n.document? = some d ∧
    ∀ m ∈ later, ¬ m.Concerns d.uri

variable {config : Config} {ns : List Notice} {n : Notice} {d : Document} {uri : Uri}

theorem current_concat :
    Current (ns ++ [n]) d ↔ Current ns d ∧ ¬ n.Concerns d.uri ∨ n.document? = some d := by
  refine (exists_split_concat_iff (p := fun _ (m : Notice) later =>
    m.document? = some d ∧ ∀ m ∈ later, ¬ m.Concerns d.uri)).trans (or_congr ?_ (by simp))
  constructor
  · rintro ⟨before, m, later, rfl, hm, hlater⟩
    refine ⟨⟨before, m, later, rfl, hm, fun k hk => ?_⟩, ?_⟩
    · exact hlater k (List.mem_append_left _ hk)
    · exact hlater n (List.mem_append_right _ (List.mem_singleton_self n))
  · rintro ⟨⟨before, m, later, rfl, hm, hlater⟩, hn⟩
    refine ⟨before, m, later, rfl, hm, fun k hk => ?_⟩
    rcases List.mem_append.1 hk with hk | hk
    · exact hlater k hk
    · exact List.mem_singleton.1 hk ▸ hn

theorem openDocument?_of_not_concerns (h : ¬ n.Concerns uri) :
    openDocument? config uri (ns ++ [n]) = openDocument? config uri ns := by
  have hcarried : n.document?.filter (·.uri = uri) = none := by
    refine Option.filter_eq_none_iff.2 fun d hd huri => h (Or.inr ⟨d, hd, ?_⟩)
    exact of_decide_eq_true huri
  rw [openDocument?_concat, Notice.update, if_neg fun hclosed => h (Or.inl hclosed), hcarried,
    Option.none_or]
  unfold openDocument?
  split <;> rfl

/-- What is open is what the latest reports carry. -/
theorem openDocument?_eq_some_iff :
    openDocument? config uri ns = some d ↔ config.covers uri ∧ d.uri = uri ∧ Current ns d := by
  by_cases hcovers : config.covers uri
  swap
  · simp [openDocument?, hcovers]
  induction ns using List.reverseRecOn generalizing d with
  | nil => simp [openDocument?, Current]
  | append_singleton ns n ih =>
      rw [current_concat]
      by_cases hn : n.Concerns uri
      · rcases hn with rfl | ⟨d', hd', rfl⟩
        · rw [openDocument?_of_closed, if_pos rfl]
          refine iff_of_false (by simp) ?_
          rintro ⟨-, rfl, ⟨-, hn⟩ | hn⟩
          · exact hn (Or.inl rfl)
          · cases hn
        · rw [openDocument?_of_document hd', if_pos ⟨hcovers, rfl⟩]
          constructor
          · rintro ⟨⟩
            exact ⟨hcovers, rfl, Or.inr hd'⟩
          · rintro ⟨-, huri, ⟨-, hn⟩ | hn⟩
            · exact absurd (Or.inr ⟨d', hd', huri.symm⟩) hn
            · exact hd'.symm.trans hn
      · rw [openDocument?_of_not_concerns hn, ih]
        refine and_congr_right fun _ => and_congr_right fun huri => ?_
        constructor
        · exact fun hcurrent => Or.inl ⟨hcurrent, huri ▸ hn⟩
        · rintro (⟨hcurrent, -⟩ | hd)
          · exact hcurrent
          · exact absurd (Or.inr ⟨d, hd, huri⟩) hn

namespace OpenDocuments

theorem nodup_erase {all : OpenDocuments} (h : (all.documents.map Document.uri).Nodup)
    (uri : Uri) : ((all.erase uri).documents.map Document.uri).Nodup :=
  h.sublist (List.filter_sublist.map _)

theorem nodup_insert {all : OpenDocuments} (h : (all.documents.map Document.uri).Nodup)
    (d : Document) : ((all.insert d).documents.map Document.uri).Nodup := by
  refine List.nodup_cons.2 ⟨?_, nodup_erase h d.uri⟩
  simp [erase]

theorem mem_iff_find? {all : OpenDocuments} (h : (all.documents.map Document.uri).Nodup) :
    d ∈ all.documents ↔ all.find? d.uri = some d :=
  (and_iff_left rfl).symm.trans (find?_key_eq_some_iff h).symm

theorem find?_track (all : OpenDocuments) (config : Config) (d : Document) (uri : Uri) :
    (if config.covers d.uri then all.insert d else all).find? uri =
      if config.covers uri ∧ d.uri = uri then some d else all.find? uri := by
  by_cases hcovers : config.covers d.uri
  · rw [if_pos hcovers, find?_insert]
    by_cases huri : d.uri = uri
    · simp [huri, huri ▸ hcovers]
    · simp [huri]
  · rw [if_neg hcovers, if_neg]
    rintro ⟨hother, rfl⟩
    exact hcovers hother

end OpenDocuments

namespace Server

/-- What a report changes of the documents and of the regions kept for them. -/
inductive Change (s : Server) : Notice → Server → Prop
  | pass {n : Notice} {s' : Server} : n.document? = none →
      (∀ uri, s.effective.covers uri → n ≠ .closed uri) → s.Agrees s' → Change s n s'
  | track {n : Notice} {s' : Server} (d : Document) : n.document? = some d →
      s'.effective = s.effective →
      s'.documents = (if s.effective.covers d.uri then s.documents.insert d else s.documents) →
      s'.tagged = s.tagged → Change s n s'
  | close {s' : Server} (uri : Uri) : s'.effective = s.effective →
      s'.documents = s.documents.erase uri →
      s'.tagged.cache = (s.tagged.cache.forget uri).1 → Change s (.closed uri) s'
  | look {n : Notice} {s' : Server} (d : Document) : n.document? = none →
      (∀ uri, n ≠ .closed uri) → s.documents.find? d.uri = some d →
      s'.effective = s.effective → s'.documents = s.documents →
      s'.tagged.cache =
        (s.tagged.cache.lookUp s.tagged.delimiters.scan d.uri d.version d.text).cache →
      Change s n s'

variable {s s' s'' : Server}

theorem Change.of_agrees (h : s.Change n s') (hs : s'.Agrees s'') : s.Change n s'' := by
  cases h with
  | pass hdocument hclosed h =>
      exact .pass hdocument hclosed ⟨hs.effective_eq.trans h.effective_eq,
        hs.documents_eq.trans h.documents_eq, hs.tagged_eq.trans h.tagged_eq⟩
  | track d hd heffective hdocuments htagged =>
      exact .track d hd (hs.effective_eq.trans heffective) (hs.documents_eq.trans hdocuments)
        (hs.tagged_eq.trans htagged)
  | close uri heffective hdocuments hcache =>
      exact .close uri (hs.effective_eq.trans heffective) (hs.documents_eq.trans hdocuments)
        (hs.tagged_eq ▸ hcache)
  | look d hdocument hclosed hd heffective hdocuments hcache =>
      exact .look d hdocument hclosed hd (hs.effective_eq.trans heffective)
        (hs.documents_eq.trans hdocuments) (hs.tagged_eq ▸ hcache)

theorem change_track {version : Int32} {text : String}
    (hn : n.document? = some (.ofText uri version text)) :
    s.Change n (s.track uri version text).1 := by
  have heffective : s.settle.effective = s.effective := rfl
  simp only [track, heffective]
  split
  · next hcovers => exact .track _ hn rfl (if_pos hcovers).symm rfl
  · next hcovers => exact .track _ hn rfl (if_neg hcovers).symm rfl

theorem change_close (files : FileTree) (uri : Uri) :
    s.Change (.closed uri) (s.close files uri).server := by
  have heffective : s.settle.effective = s.effective := rfl
  simp only [close, heffective]
  split
  · obtain ⟨heffective', hdocuments, htagged, -⟩ :=
      react_spec { s.settle with documents := s.settle.documents.erase uri } files
        fun _ cache => Reaction.toClosing cache uri
    exact .close uri heffective' hdocuments (congrArg Tagging.cache htagged)
  · next hcovers =>
      refine .pass rfl ?_ s.settle_agrees
      rintro other hother ⟨⟩
      exact hcovers hother

/-- A reaction that looks up the regions of an open document. -/
theorem change_react {sought : Uri} (hn : n.document? = none) (hclosed : ∀ uri, n ≠ .closed uri)
    (hd : s.documents.find? sought = some d) (files : FileTree)
    (reaction : Finder → Cache → Reaction)
    (hcache : ∀ scan cache, (reaction scan cache).cache = cache ∨
      (reaction scan cache).cache = (cache.lookUp scan d.uri d.version d.text).cache) :
    s.Change n (s.react files reaction).server := by
  have huri : d.uri = sought := by simpa using List.find?_some hd
  obtain ⟨heffective, hdocuments, htagged, -⟩ := s.react_spec files reaction
  rcases hcache s.tagged.delimiters.scan s.tagged.cache with hsame | hlook
  · rw [hsame] at htagged
    exact .pass hn (fun uri _ => hclosed uri) ⟨heffective, hdocuments, htagged⟩
  · rw [hlook] at htagged
    exact .look d hn hclosed (huri ▸ hd) heffective hdocuments (congrArg Tagging.cache htagged)

theorem change_cursorMoved (files : FileTree) (m : SelectionChanged) :
    s.Change (.selection m) (s.cursorMoved files m).server := by
  unfold cursorMoved
  split
  · exact .pass rfl (fun _ _ => nofun) ⟨rfl, rfl, rfl⟩
  · next d hd =>
      split
      · exact .pass rfl (fun _ _ => nofun) ⟨rfl, rfl, rfl⟩
      · exact change_react rfl (by simp) hd files _ fun _ _ => Or.inr rfl

theorem change_viewMoved (files : FileTree) (m : VisibleRangesChanged) :
    s.Change (.viewport m) (s.viewMoved files m).server := by
  unfold viewMoved
  split
  · exact .pass rfl (fun _ _ => nofun) ⟨rfl, rfl, rfl⟩
  · next d hd =>
      split
      · exact .pass rfl (fun _ _ => nofun) ⟨rfl, rfl, rfl⟩
      · refine change_react rfl (by simp) hd files _ fun scan cache => ?_
        unfold Reaction.toViewport
        split
        · exact Or.inl rfl
        · dsimp only
          split
          · exact Or.inr rfl
          · exact Or.inr rfl

theorem handle_change (s : Server) (files : FileTree) (n : Notice) :
    s.Change n (s.handle files n).server := by
  cases n with
  | ready => exact .pass rfl (fun _ _ => nofun) ⟨rfl, rfl, rfl⟩
  | opened d =>
      have htrack := s.change_track (n := .opened d) rfl
      simp only [handle]
      split
      · exact htrack.of_agrees (advise_agrees _ files).1
      · exact htrack
  | changed d =>
      cases htexts : d.texts with
      | nil =>
          simp only [handle, htexts]
          exact .pass (by simp [Notice.document?, htexts]) (fun _ _ => nofun) ⟨rfl, rfl, rfl⟩
      | cons text texts =>
          simp only [handle, htexts]
          exact change_track (by simp [Notice.document?, htexts])
  | closed uri => exact change_close files uri
  | selection m => exact change_cursorMoved files m
  | viewport m => exact change_viewMoved files m

/-- The documents are those which the reports tell to be open. Of these only, and once
of each, regions are kept, and not of more than there are places for. -/
structure Tidy (ns : List Notice) (s : Server) : Prop where
  find?_eq : ∀ uri, s.documents.find? uri = openDocument? s.effective uri ns
  distinct : (s.documents.documents.map Document.uri).Nodup
  tracked : ∀ e ∈ s.tagged.cache.entries, s.documents.find? e.document ≠ none
  fits : s.tagged.cache.Fits
  capacity_eq : s.tagged.cache.capacity = s.effective.maxDocuments.map (max · 1)

namespace Tidy

theorem of_agrees (h : s.Tidy ns) (hs : s.Agrees s') : s'.Tidy ns where
  find?_eq := by rw [hs.documents_eq, hs.effective_eq]; exact h.find?_eq
  distinct := by rw [hs.documents_eq]; exact h.distinct
  tracked := by rw [hs.documents_eq, hs.tagged_eq]; exact h.tracked
  fits := by rw [hs.tagged_eq]; exact h.fits
  capacity_eq := by rw [hs.tagged_eq, hs.effective_eq]; exact h.capacity_eq

theorem of_fresh (hdocuments : s.documents = .empty) (htagging : s.tagging = none) :
    s.Tidy [] := by
  have htagged : s.tagged.cache = .ofCapacity s.effective.maxDocuments := by
    rw [tagged, htagging]
    rfl
  refine ⟨fun uri => ?_, ?_, ?_, htagged ▸ Cache.fits_ofCapacity _, by rw [htagged]; rfl⟩
  · rw [hdocuments]
    unfold openDocument?
    split <;> rfl
  · rw [hdocuments]
    exact List.nodup_nil
  · simp [htagged, Cache.ofCapacity]

theorem begin (files : FileTree) (environment : Environment) (startup : Startup) :
    (Server.start.begin files environment startup).server.Tidy [] := by
  unfold Server.begin
  dsimp only
  split
  · exact of_fresh rfl rfl
  · exact of_fresh rfl rfl

/-- The last request leaves the documents as they are, and no regions. -/
theorem finish (h : s.Tidy ns) (files : FileTree) :
    (s.finish files).server.Tidy ns ∧ (s.finish files).server.tagged.cache.entries = [] := by
  obtain ⟨heffective, hdocuments, htagged⟩ := s.withTagging_spec
  have hcache : (s.finish files).server.tagged.cache = s.tagged.cache.forgetAll := by
    rw [← htagged]
    rfl
  refine ⟨⟨fun uri => ?_, hdocuments ▸ h.distinct, ?_, hcache ▸ h.fits.forgetAll, ?_⟩, ?_⟩
  · exact (congrArg (·.find? uri) hdocuments).trans (heffective ▸ h.find?_eq uri)
  · simp [hcache, Cache.forgetAll]
  · rw [hcache]
    exact h.capacity_eq.trans
      (congrArg (fun c : Config => c.maxDocuments.map (max · 1)) heffective.symm)
  · rw [hcache]
    rfl

theorem pass (h : s.Tidy ns) (hdocument : n.document? = none)
    (hclosed : ∀ uri, s.effective.covers uri → n ≠ .closed uri) : s.Tidy (ns ++ [n]) where
  find?_eq uri := (h.find?_eq uri).trans (openDocument?_of_neither hdocument hclosed uri).symm
  distinct := h.distinct
  tracked := h.tracked
  fits := h.fits
  capacity_eq := h.capacity_eq

theorem track (h : s.Tidy ns) (hd : n.document? = some d) (heffective : s'.effective = s.effective)
    (hdocuments : s'.documents =
      if s.effective.covers d.uri then s.documents.insert d else s.documents)
    (htagged : s'.tagged = s.tagged) : s'.Tidy (ns ++ [n]) := by
  have hfind (uri : Uri) := hdocuments ▸ s.documents.find?_track s.effective d uri
  refine ⟨fun uri => ?_, ?_, fun e he => ?_, htagged ▸ h.fits, ?_⟩
  · rw [hfind, heffective, openDocument?_of_document hd, h.find?_eq]
  · rw [hdocuments]
    split
    · exact OpenDocuments.nodup_insert h.distinct d
    · exact h.distinct
  · rw [hfind]
    split
    · simp
    · exact h.tracked e (htagged ▸ he)
  · rw [htagged, heffective]
    exact h.capacity_eq

theorem close (h : s.Tidy ns) {uri : Uri} (heffective : s'.effective = s.effective)
    (hdocuments : s'.documents = s.documents.erase uri)
    (hcache : s'.tagged.cache = (s.tagged.cache.forget uri).1) :
    s'.Tidy (ns ++ [.closed uri]) := by
  refine ⟨fun other => ?_, ?_, fun e he => ?_, ?_, ?_⟩
  · rw [hdocuments, heffective, OpenDocuments.find?_erase, openDocument?_of_closed, h.find?_eq]
  · rw [hdocuments]
    exact OpenDocuments.nodup_erase h.distinct uri
  · rw [hcache, Cache.mem_forget] at he
    rw [hdocuments, OpenDocuments.find?_erase, if_neg he.2.symm]
    exact h.tracked e he.1
  · rw [hcache]
    exact h.fits.forget uri
  · rw [hcache, heffective, Cache.capacity_forget]
    exact h.capacity_eq

theorem look (h : s.Tidy ns) (hd : s.documents.find? d.uri = some d)
    (heffective : s'.effective = s.effective) (hdocuments : s'.documents = s.documents)
    (hcache : s'.tagged.cache =
      (s.tagged.cache.lookUp s.tagged.delimiters.scan d.uri d.version d.text).cache) :
    s'.Tidy ns := by
  obtain ⟨hfits, hcapacity, -⟩ :=
    h.fits.lookUp .listed s.tagged.delimiters.scan d.uri d.version d.text
  refine ⟨fun uri => ?_, hdocuments ▸ h.distinct, fun e he => ?_, ?_, ?_⟩
  · rw [hdocuments, heffective]
    exact h.find?_eq uri
  · -- The only entry that can be new is that of the document itself, which is open.
    rw [hcache] at he
    rw [hdocuments]
    rcases Cache.mem_lookUp id _ _ _ _ _ he with ⟨huri, -⟩ | ⟨-, hmem⟩
    · rw [huri, hd]
      simp
    · exact h.tracked e hmem
  · rw [hcache]
    exact hfits
  · rw [hcache, heffective]
    exact hcapacity.trans h.capacity_eq

/-- Each report keeps both tables in step. -/
theorem change (h : s.Tidy ns) (hchange : s.Change n s') : s'.Tidy (ns ++ [n]) := by
  cases hchange with
  | pass hdocument hclosed hs => exact (h.pass hdocument hclosed).of_agrees hs
  | track d hd heffective hdocuments htagged => exact h.track hd heffective hdocuments htagged
  | close uri heffective hdocuments hcache => exact h.close heffective hdocuments hcache
  | look d hdocument hclosed hd heffective hdocuments hcache =>
      exact (h.look hd heffective hdocuments hcache).pass hdocument fun uri _ => hclosed uri

end Tidy

end Server

end Bilingual
