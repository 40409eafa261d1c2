import Bilingual.Proofs.Server.Deed
import Bilingual.Proofs.Session.Course

/-!
Settings in use: the server says and finds what it does under the settings in force,
and no report changes the delimiters.
-/

namespace Bilingual

/-- A message that speaks of these settings, if of any. -/
def Outgoing.Under (config : Config) : Outgoing → Prop
  | .setLanguage m => config.covers m.document ∧ ∃ tag, m.languageId = config.languageId tag
  | .note _ => True
  | .prompt _ text _ => text = Advisory.message config

namespace Server

variable {s : Server} {files : FileTree}

theorem delimiters_react (s : Server) (files : FileTree) (reaction : Finder → Cache → Reaction) :
    (s.react files reaction).server.tagged.delimiters = s.tagged.delimiters := by
  obtain ⟨-, -, htagged, -⟩ := s.react_spec files reaction
  rw [htagged]

theorem delimiters_track (s : Server) (uri : Uri) (version : Int32) (text : String) :
    (s.track uri version text).1.tagged.delimiters = s.tagged.delimiters := by
  simp only [track]
  split
  · rfl
  · rfl

theorem lasting_delimiters : Lasting fun s => s.tagged.delimiters where
  handle s files n := by
    have hdeed := s.deed_handle files n
    generalize s.handle files n = e at hdeed ⊢
    cases hdeed with
    | greet text => rfl
    | pass log hagrees => exact congrArg Tagging.delimiters hagrees.tagged_eq
    | track version text => exact s.delimiters_track _ version text
    | advise d =>
        have hadvise := ((s.track d.uri d.version d.text).1.advise_agrees files).1.tagged_eq
        exact (congrArg Tagging.delimiters hadvise).trans (s.delimiters_track d.uri d.version d.text)
    | look cause => exact s.delimiters_react files _
    | close uri => exact delimiters_react _ files _
  finish s files := s.delimiters_react files fun _ cache => Reaction.toEnd cache
  answered s files id answer :=
    congrArg Tagging.delimiters (s.answered_agrees files id answer).1.tagged_eq

/-- A reaction asks for languages of the documents it is about. -/
theorem under_react {cause : Cause}
    (h : ∀ uri, cause.touches uri = true → s.effective.covers uri = true) (files : FileTree) :
    ∀ m ∈ (s.react files fun scan cache => cause.reaction scan cache).sent,
      m.Under s.effective := by
  obtain ⟨-, -, -, hsent⟩ := s.react_spec files fun scan cache => cause.reaction scan cache
  rw [hsent]
  intro m hm
  obtain ⟨r, hr, rfl⟩ := List.mem_map.1 hm
  exact ⟨h r.document (Cause.touches_of_requests hr), r.tag, rfl⟩

theorem under_advise (s : Server) (files : FileTree) :
    ∀ m ∈ (s.advise files).sent, m.Under s.effective := by
  intro m hm
  obtain ⟨-, hquiet⟩ | ⟨-, -, ⟨-, hsent, -⟩ | ⟨-, hsent, -⟩⟩ := s.advise_cases files
  · cases m with
    | setLanguage m => exact absurd hm ((s.advise_agrees files).2 m)
    | note text => trivial
    | prompt id text titles =>
        exact absurd (Outgoing.isPrompt_iff.2 ⟨id, text, titles, rfl⟩) (hquiet.silent _ hm)
  · rw [hsent] at hm
    cases hm
  · rw [hsent] at hm
    obtain rfl := List.mem_singleton.1 hm
    exact rfl

/-- Whatever a report makes the server say, it says under the settings in force. -/
theorem under_handle (h : ∀ uri d, s.documents.find? uri = some d → s.effective.covers uri = true)
    (files : FileTree) (n : Notice) : ∀ m ∈ (s.handle files n).sent, m.Under s.effective := by
  have hdeed := s.deed_handle files n
  generalize s.handle files n = e at hdeed ⊢
  cases hdeed with
  | greet text =>
      intro m hm
      obtain rfl := List.mem_singleton.1 hm
      trivial
  | pass log hagrees => exact List.forall_mem_nil _
  | track version text => exact List.forall_mem_nil _
  | advise d =>
      rw [← (s.sameAdvisory_track d.uri d.version d.text).effective_eq]
      exact under_advise _ files
  | @look _ uri d cause _ hd htouches =>
      refine under_react (fun other hother => ?_) files
      rw [htouches] at hother
      obtain rfl := of_decide_eq_true hother
      exact h uri d hd
  | close uri => exact List.forall_mem_nil _

end Server

end Bilingual
