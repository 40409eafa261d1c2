import Bilingual.Proofs.Server.Handlers
import Bilingual.Proofs.Server.History

/-!
The server follows the reports: its documents are the ones that are open, and the
regions it keeps are those of a state that stands.
-/

namespace Bilingual

/-- The regions of a text under these settings. -/
def Config.scan (config : Config) : Finder := config.usableDelimiters.1.scan

/-- An entry holds the regions of a state that stands. -/
def Supported (config : Config) (ns : List Notice) (e : Cache.Entry) : Prop :=
  config.covers e.document ∧
    ∃ d, Standing ns d ∧ d.uri = e.document ∧ d.version = e.revision ∧
      e.regions = config.scan d.text

/-- A server under these settings behind these reports. -/
structure Follows (config : Config) (ns : List Notice) (s : Server) : Prop where
  effective_eq : s.effective = config
  find?_eq : ∀ uri, s.documents.find? uri = openDocument? config uri ns
  delimiters_eq : s.tagged.delimiters = config.usableDelimiters.1
  supported : ∀ e ∈ s.tagged.cache.entries, Supported config ns e

variable {config : Config} {ns : List Notice} {s s' : Server} {n : Notice}

theorem Supported.concat {e : Cache.Entry} (h : Supported config ns e)
    (hn : n ≠ .closed e.document) : Supported config (ns ++ [n]) e := by
  obtain ⟨hcovers, d, hstanding, huri, hversion, hregions⟩ := h
  exact ⟨hcovers, d, hstanding.concat (huri ▸ hn), huri, hversion, hregions⟩

namespace Follows

theorem of_agrees (h : Follows config ns s) (hs : s.Agrees s') : Follows config ns s' where
  effective_eq := hs.effective_eq.trans h.effective_eq
  find?_eq uri := hs.documents_eq ▸ h.find?_eq uri
  delimiters_eq := hs.tagged_eq ▸ h.delimiters_eq
  supported := hs.tagged_eq ▸ h.supported

/-- A report that neither carries nor closes a document that is looked after
changes nothing. -/
theorem pass (h : Follows config ns s) (hdocument : n.document? = none)
    (hclosed : ∀ uri, config.covers uri → n ≠ .closed uri) : Follows config (ns ++ [n]) s where
  effective_eq := h.effective_eq
  find?_eq uri := (h.find?_eq uri).trans (openDocument?_of_neither hdocument hclosed uri).symm
  delimiters_eq := h.delimiters_eq
  supported e he := (h.supported e he).concat (hclosed _ (h.supported e he).1)

theorem track (h : Follows config ns s) {uri : Uri} {version : Int32} {text : String}
    (hn : n.document? = some (.ofText uri version text)) :
    Follows config (ns ++ [n]) (s.track uri version text).1 ∧
      (s.track uri version text).2 = config.covers uri := by
  have hs := h.of_agrees (Server.settle_agrees s)
  have hopen (other : Uri) : openDocument? config other (ns ++ [n]) = _ :=
    openDocument?_of_document hn other
  have hsupported : ∀ e ∈ s.settle.tagged.cache.entries, Supported config (ns ++ [n]) e := by
    refine fun e he => (hs.supported e he).concat ?_
    rintro rfl
    cases hn
  simp only [Server.track, hs.effective_eq]
  split
  · next hcovers =>
      refine ⟨⟨hs.effective_eq, fun other => ?_, hs.delimiters_eq, hsupported⟩, hcovers.symm⟩
      rw [OpenDocuments.find?_insert, hopen, hs.find?_eq]
      by_cases huri : uri = other
      · simp [Document.ofText, huri ▸ hcovers, huri]
      · simp [Document.ofText, huri]
  · next hcovers =>
      refine ⟨⟨hs.effective_eq, fun other => ?_, hs.delimiters_eq, hsupported⟩, ?_⟩
      · rw [hopen, hs.find?_eq, if_neg]
        rintro ⟨hother, rfl⟩
        exact hcovers hother
      · simpa using hcovers

/-- Behind a reaction that keeps nothing but supported regions. -/
theorem of_react (heffective : s.effective = config)
    (hfind : ∀ uri, s.documents.find? uri = openDocument? config uri ns)
    (hdelimiters : s.tagged.delimiters = config.usableDelimiters.1) (files : FileTree)
    (reaction : Finder → Cache → Reaction)
    (hcache : ∀ e ∈ (reaction config.scan s.tagged.cache).cache.entries, Supported config ns e) :
    Follows config ns (s.react files reaction).server ∧
      (s.react files reaction).sent =
        s.announce (reaction config.scan s.tagged.cache).requests := by
  obtain ⟨heffective', hdocuments, htagged, hsent⟩ := Server.react_spec s files reaction
  rw [hdelimiters] at htagged hsent
  refine ⟨⟨heffective'.trans heffective, fun uri => hdocuments ▸ hfind uri, ?_, ?_⟩, hsent⟩
  · rw [htagged]
    exact hdelimiters
  · rw [htagged]
    exact hcache

theorem close (h : Follows config ns s) (files : FileTree) (uri : Uri) :
    Follows config (ns ++ [.closed uri]) (s.close files uri).server ∧
      (s.close files uri).sent = [] := by
  have hs := h.of_agrees (Server.settle_agrees s)
  simp only [Server.close, hs.effective_eq]
  split
  · next hcovers =>
      refine of_react (s := { s.settle with documents := s.settle.documents.erase uri })
        hs.effective_eq (fun other => ?_) hs.delimiters_eq files _ fun e he => ?_
      · rw [OpenDocuments.find?_erase, openDocument?_of_closed, hs.find?_eq]
      · obtain ⟨hmem, hd⟩ := Cache.mem_forget.1 he
        refine (hs.supported e hmem).concat ?_
        rintro ⟨⟩
        exact hd rfl
  · next hcovers =>
      refine ⟨hs.pass rfl ?_, rfl⟩
      rintro other hother ⟨⟩
      exact hcovers hother

/-- A look-up of an open document gives the regions of its text. -/
theorem lookUp (h : Follows config ns s) (hd : Disciplined ns) {uri : Uri} {d : Document}
    (hopen : openDocument? config uri ns = some d) :
    let answer := s.tagged.cache.lookUp config.scan d.uri d.version d.text
    answer.regions = config.scan d.text ∧ ∀ e ∈ answer.cache.entries, Supported config ns e := by
  obtain ⟨hcovers, rfl, hstanding⟩ := standing_of_open hopen
  have hregions : (s.tagged.cache.lookUp config.scan d.uri d.version d.text).regions =
      config.scan d.text := by
    rcases Cache.lookUp_regions id config.scan s.tagged.cache d.uri d.version d.text with
      ⟨-, heq⟩ | ⟨-, e, he, huri, hversion, heq⟩
    · exact heq
    · obtain ⟨-, d', hstanding', huri', hversion', hregions'⟩ := h.supported e he
      have htext := hstanding'.text_eq hd hstanding (huri'.trans huri) (hversion'.trans hversion)
      exact heq.trans (hregions'.trans (congrArg config.scan htext))
  refine ⟨hregions, fun e he => ?_⟩
  rcases Cache.mem_lookUp id config.scan s.tagged.cache d.uri d.version d.text he with
    ⟨huri, hversion, heq⟩ | ⟨-, hmem⟩
  · exact ⟨huri ▸ hcovers, d, hstanding, huri.symm, hversion.symm, heq.trans hregions⟩
  · exact h.supported e hmem

end Follows

end Bilingual
