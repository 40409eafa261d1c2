import Bilingual.Proofs.Server.Deed
import Bilingual.Proofs.Session.Retagging

/-!
Two servers that may differ in all but one document: reports about that document
are handled alike, and reports about others leave it alone. Files play no part in
which language a document is taken for.
-/

namespace Bilingual

/-- The languages that are asked for one document. -/
def languagesOf (document : Uri) (sent : List Outgoing) : List SetLanguage :=
  (languages sent).filter (·.document = document)

theorem languages_eq_nil {sent : List Outgoing} (h : ∀ m, .setLanguage m ∉ sent) :
    languages sent = [] := by
  refine List.filterMap_eq_nil_iff.2 fun o ho => ?_
  cases o with
  | setLanguage m => exact absurd ho (h m)
  | note text => rfl
  | prompt id text titles => rfl

namespace Server

/-- Two servers without a limit on documents, which know the same of one document. -/
structure AgreesAt (document : Uri) (s s' : Server) : Prop where
  effective_eq : s'.effective = s.effective
  document_eq : s'.documents.find? document = s.documents.find? document
  delimiters_eq : s'.tagged.delimiters = s.tagged.delimiters
  cache : s.tagged.cache.AgreesAt document s'.tagged.cache

variable {s s' s'' t t' : Server} {document : Uri} {n : Notice}

theorem agreesAt_of_agrees (hs : s.Agrees t) (h : s.tagged.cache.capacity = none)
    (document : Uri) : AgreesAt document s t where
  effective_eq := hs.effective_eq
  document_eq := by rw [hs.documents_eq]
  delimiters_eq := by rw [hs.tagged_eq]
  cache := by
    rw [hs.tagged_eq]
    exact .refl h document

namespace AgreesAt

theorem symm (h : AgreesAt document s s') : AgreesAt document s' s :=
  ⟨h.effective_eq.symm, h.document_eq.symm, h.delimiters_eq.symm, h.cache.symm⟩

theorem trans (h : AgreesAt document s s') (h' : AgreesAt document s' s'') :
    AgreesAt document s s'' :=
  ⟨h'.effective_eq.trans h.effective_eq, h'.document_eq.trans h.document_eq,
    h'.delimiters_eq.trans h.delimiters_eq, h.cache.trans h'.cache⟩

/-- What each server does for itself does not come between them. -/
theorem of_agrees (h : AgreesAt document s s') (hs : s.Agrees t) (hs' : s'.Agrees t') :
    AgreesAt document t t' :=
  ((agreesAt_of_agrees hs h.cache.unbounded document).symm.trans h).trans
    (agreesAt_of_agrees hs' h.cache.unbounded' document)

theorem settle (h : AgreesAt document s s') : AgreesAt document s.settle s'.settle :=
  h.of_agrees s.settle_agrees s'.settle_agrees

/-- Both take in the same state of a document. -/
theorem track (h : AgreesAt document s s') (uri : Uri) (version : Int32) (text : String) :
    AgreesAt document (s.track uri version text).1 (s'.track uri version text).1 ∧
      (s'.track uri version text).2 = (s.track uri version text).2 := by
  have hsettle := h.settle
  simp only [Server.track, hsettle.effective_eq]
  split
  · refine ⟨⟨hsettle.effective_eq, ?_, hsettle.delimiters_eq, hsettle.cache⟩, rfl⟩
    rw [OpenDocuments.find?_insert, OpenDocuments.find?_insert, hsettle.document_eq]
  · exact ⟨hsettle, rfl⟩

/-- Reactions that are about the document, or the end of all, are alike. -/
theorem react (h : AgreesAt document s s') {cause : Cause}
    (htouches : cause.touches document = true) (files files' : FileTree) :
    let e := s.react files fun scan cache => cause.reaction scan cache
    let e' := s'.react files' fun scan cache => cause.reaction scan cache
    AgreesAt document e.server e'.server ∧ e'.sent = e.sent := by
  intro e e'
  obtain ⟨heffective, hdocuments, htagged, hsent⟩ :=
    s.react_spec files fun scan cache => cause.reaction scan cache
  obtain ⟨heffective', hdocuments', htagged', hsent'⟩ :=
    s'.react_spec files' fun scan cache => cause.reaction scan cache
  rw [h.delimiters_eq] at htagged' hsent'
  obtain ⟨hcache, hsight⟩ := h.cache.reaction htouches s.tagged.delimiters.scan
  have hrequests := (congrArg Reaction.Sight.requests hsight :)
  refine ⟨⟨?_, ?_, ?_, ?_⟩, ?_⟩
  · rw [heffective', heffective, h.effective_eq]
  · rw [hdocuments', hdocuments, h.document_eq]
  · rw [htagged', htagged]
    exact h.delimiters_eq
  · rw [htagged', htagged]
    exact hcache
  · rw [hsent', hsent]
    simp only [announce, h.effective_eq]
    exact congrArg _ hrequests

theorem finish (h : AgreesAt document s s') (files files' : FileTree) :
    AgreesAt document (s.finish files).server (s'.finish files').server :=
  (h.react (show Cause.ending.touches document = true from rfl) files files').1

theorem close (h : AgreesAt document s s') (files files' : FileTree) :
    AgreesAt document (s.close files document).server (s'.close files' document).server ∧
      (s'.close files' document).sent = (s.close files document).sent := by
  have hsettle := h.settle
  simp only [Server.close, hsettle.effective_eq]
  split
  · have herased : AgreesAt document
        { s.settle with documents := s.settle.documents.erase document }
        { s'.settle with documents := s'.settle.documents.erase document } := by
      refine ⟨hsettle.effective_eq, ?_, hsettle.delimiters_eq, hsettle.cache⟩
      rw [OpenDocuments.find?_erase, OpenDocuments.find?_erase, hsettle.document_eq]
    have htouches : (Cause.closing document).touches document = true := by simp [Cause.touches]
    exact herased.react htouches files files'
  · exact ⟨hsettle, rfl⟩

theorem cursorMoved (h : AgreesAt document s s') (files files' : FileTree) {m : SelectionChanged}
    (hm : m.document = document) :
    AgreesAt document (s.cursorMoved files m).server (s'.cursorMoved files' m).server ∧
      (s'.cursorMoved files' m).sent = (s.cursorMoved files m).sent := by
  subst hm
  simp only [Server.cursorMoved, h.document_eq]
  cases hd : s.documents.find? m.document with
  | none => exact ⟨h, rfl⟩
  | some d =>
      dsimp only
      cases d.content.offset? m.position with
      | none => exact ⟨h, rfl⟩
      | some offset =>
          have htouches : (Cause.cursor d offset).touches m.document = true := by
            simpa [Cause.touches] using List.find?_some hd
          exact h.react htouches files files'

theorem viewMoved (h : AgreesAt document s s') (files files' : FileTree)
    {m : VisibleRangesChanged} (hm : m.document = document) :
    AgreesAt document (s.viewMoved files m).server (s'.viewMoved files' m).server ∧
      (s'.viewMoved files' m).sent = (s.viewMoved files m).sent := by
  subst hm
  simp only [Server.viewMoved, h.document_eq]
  cases hd : s.documents.find? m.document with
  | none => exact ⟨h, rfl⟩
  | some d =>
      dsimp only
      cases m.visible.mapM d.content.range? with
      | none => exact ⟨h, rfl⟩
      | some visible =>
          have htouches : (Cause.viewport d visible (d.content.offset? m.position)).touches
              m.document = true := by
            simpa [Cause.touches] using List.find?_some hd
          exact h.react htouches files files'

/-- Reports about the document ask for the same languages. Only what they find in the
files may set the servers apart otherwise. -/
theorem handle (h : AgreesAt document s s') (habout : n.about? = some document)
    (files files' : FileTree) :
    AgreesAt document (s.handle files n).server (s'.handle files' n).server ∧
      languages (s'.handle files' n).sent = languages (s.handle files n).sent := by
  cases n with
  | ready => cases habout
  | opened d =>
      obtain ⟨htrack, hsame⟩ := h.track d.uri d.version d.text
      simp only [Server.handle, hsame]
      split
      · obtain ⟨hagrees, hsent⟩ := (s.track d.uri d.version d.text).1.advise_agrees files
        obtain ⟨hagrees', hsent'⟩ := (s'.track d.uri d.version d.text).1.advise_agrees files'
        refine ⟨htrack.of_agrees hagrees hagrees', ?_⟩
        rw [languages_eq_nil hsent, languages_eq_nil hsent']
      · exact ⟨htrack, rfl⟩
  | changed d =>
      cases htexts : d.texts with
      | nil =>
          simp only [Server.handle, htexts]
          exact ⟨h, trivial⟩
      | cons text texts =>
          simp only [Server.handle, htexts]
          exact ⟨(h.track d.uri d.version text).1, trivial⟩
  | closed uri =>
      cases habout
      obtain ⟨hagrees, hsent⟩ := h.close files files'
      exact ⟨hagrees, congrArg languages hsent⟩
  | selection m =>
      obtain ⟨hagrees, hsent⟩ := h.cursorMoved files files' (Option.some.inj habout)
      exact ⟨hagrees, congrArg languages hsent⟩
  | viewport m =>
      obtain ⟨hagrees, hsent⟩ := h.viewMoved files files' (Option.some.inj habout)
      exact ⟨hagrees, congrArg languages hsent⟩

end AgreesAt

/-- A reaction about another document. -/
theorem agreesAt_react (h : s.tagged.cache.capacity = none) {cause : Cause}
    (helse : cause.touches document = false) (files : FileTree) :
    let e := s.react files fun scan cache => cause.reaction scan cache
    AgreesAt document s e.server ∧ languagesOf document e.sent = [] := by
  intro e
  obtain ⟨heffective, hdocuments, htagged, hsent⟩ :=
    s.react_spec files fun scan cache => cause.reaction scan cache
  have hcache := Cache.AgreesAt.of_elsewhere h helse s.tagged.delimiters.scan
  refine ⟨⟨heffective, by rw [hdocuments], by rw [htagged], by rwa [htagged]⟩, ?_⟩
  rw [hsent, languagesOf, languages_announce, List.filter_eq_nil_iff]
  intro m hm
  obtain ⟨r, hr, rfl⟩ := List.mem_map.1 hm
  intro hdocument
  have hhere : r.document = document := of_decide_eq_true hdocument
  cases helse.symm.trans (hhere ▸ Cause.touches_of_requests hr)

theorem agreesAt_track (h : s.tagged.cache.capacity = none) {uri : Uri} (huri : uri ≠ document)
    (version : Int32) (text : String) : AgreesAt document s (s.track uri version text).1 := by
  have hsettle := agreesAt_of_agrees s.settle_agrees h document
  simp only [track]
  split
  · refine ⟨hsettle.effective_eq, ?_, hsettle.delimiters_eq, hsettle.cache⟩
    exact (OpenDocuments.find?_insert _ _ _).trans (if_neg huri)
  · exact hsettle

/-- Reports about other documents leave it alone. -/
theorem agreesAt_handle (h : s.tagged.cache.capacity = none) {uri : Uri}
    (habout : n.about? = some uri) (huri : uri ≠ document) (files : FileTree) :
    AgreesAt document s (s.handle files n).server ∧
      languagesOf document (s.handle files n).sent = [] := by
  have hdeed := s.deed_handle files n
  generalize s.handle files n = e at hdeed ⊢
  have helse {cause : Cause} {own : Uri} (hown : n.about? = some own)
      (htouches : ∀ other, cause.touches other = decide (own = other)) :
      cause.touches document = false := by
    obtain rfl := Option.some.inj (habout.symm.trans hown)
    rw [htouches]
    exact decide_eq_false huri
  cases hdeed with
  | greet text => cases habout
  | pass log hagrees => exact ⟨agreesAt_of_agrees hagrees h document, rfl⟩
  | track version text hown =>
      obtain rfl := Option.some.inj (habout.symm.trans hown)
      exact ⟨agreesAt_track h huri version text, rfl⟩
  | advise d =>
      cases habout
      have htrack := agreesAt_track h huri d.version d.text
      obtain ⟨hagrees, hsent⟩ := (s.track d.uri d.version d.text).1.advise_agrees files
      refine ⟨htrack.trans (agreesAt_of_agrees hagrees htrack.cache.unbounded' document), ?_⟩
      rw [languagesOf, languages_eq_nil hsent, List.filter_nil]
  | look cause hown hd htouches => exact agreesAt_react h (helse hown htouches) files
  | close closed =>
      cases habout
      have hsettle := agreesAt_of_agrees s.settle_agrees h document
      have herased : AgreesAt document s.settle
          { s.settle with documents := s.settle.documents.erase uri } := by
        refine ⟨rfl, ?_, rfl, .refl h document⟩
        exact (OpenDocuments.find?_erase _ _ _).trans (if_neg huri)
      have hcause : (Cause.closing uri).touches document = false := helse rfl fun _ => rfl
      obtain ⟨hagrees, hsent⟩ := agreesAt_react herased.cache.unbounded' hcause files
      exact ⟨(hsettle.trans herased).trans hagrees, hsent⟩

end Server

end Bilingual
