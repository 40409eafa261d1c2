import Bilingual.Proofs.Server.Handlers

/-!
What the server does about the advisory. Only an opened document that is looked
after can bring it up, and whatever else is reported leaves it as it was.
-/

namespace Bilingual

/-- A message that asks the user something. -/
def Outgoing.IsPrompt (m : Outgoing) : Prop := m.method = "window/showMessageRequest"

instance : DecidablePred Outgoing.IsPrompt :=
  fun m => inferInstanceAs (Decidable (m.method = "window/showMessageRequest"))

theorem Outgoing.isPrompt_iff {m : Outgoing} :
    m.IsPrompt ↔ ∃ id text titles, m = .prompt id text titles := by
  cases m with
  | setLanguage message => simp [IsPrompt, method]
  | note text => simp [IsPrompt, method]
  | prompt id text titles => simp [IsPrompt, method]

/-- There are preferences, and they say that the advisory has been dismissed. -/
def Preferences.Dismissed (path : Option Path) (files : FileTree) : Prop :=
  ∃ p, path = some p ∧ (Preferences.load files p).1.advisoryDismissed = true

namespace Server

/-- The advisory stands in both servers alike. -/
structure SameAdvisory (s s' : Server) : Prop where
  effective_eq : s'.effective = s.effective
  preferences_eq : s'.preferences = s.preferences
  shown_eq : s'.advisoryShown = s.advisoryShown
  questions_eq : s'.questions = s.questions

/-- Neither the advisory nor any file is touched. -/
structure Quiet (s : Server) (files : FileTree) (e : Effect) : Prop where
  same : s.SameAdvisory e.server
  files_eq : e.files = files
  silent : ∀ m ∈ e.sent, ¬ m.IsPrompt

variable (s : Server) (files : FileTree)

theorem sameAdvisory_settle : s.SameAdvisory s.settle := ⟨rfl, rfl, rfl, rfl⟩

theorem sameAdvisory_track (uri : Uri) (version : Int32) (text : String) :
    s.SameAdvisory (s.track uri version text).1 := by
  unfold track
  dsimp only
  split
  · exact ⟨rfl, rfl, rfl, rfl⟩
  · exact s.sameAdvisory_settle

theorem sameAdvisory_withTagging : s.SameAdvisory s.withTagging.1 := by
  unfold withTagging
  split
  · exact ⟨rfl, rfl, rfl, rfl⟩
  · exact ⟨rfl, rfl, rfl, rfl⟩

theorem quiet_react (reaction : Finder → Cache → Reaction) :
    s.Quiet files (s.react files reaction) := by
  obtain ⟨heffective, hpreferences, hshown, hquestions⟩ := s.sameAdvisory_withTagging
  refine ⟨⟨heffective, hpreferences, hshown, hquestions⟩, rfl, ?_⟩
  intro m hm
  obtain ⟨r, -, rfl⟩ := List.mem_map.1 hm
  simp [Outgoing.isPrompt_iff]

theorem quiet_rest (log : List Event) :
    s.Quiet files { server := s, files, sent := [], log } :=
  ⟨⟨rfl, rfl, rfl, rfl⟩, rfl, by simp⟩

theorem quiet_cursorMoved (m : SelectionChanged) : s.Quiet files (s.cursorMoved files m) := by
  unfold cursorMoved
  split
  · exact s.quiet_rest files _
  · split
    · exact s.quiet_rest files _
    · exact s.quiet_react files _

theorem quiet_viewMoved (m : VisibleRangesChanged) : s.Quiet files (s.viewMoved files m) := by
  unfold viewMoved
  split
  · exact s.quiet_rest files _
  · split
    · exact s.quiet_rest files _
    · exact s.quiet_react files _

theorem quiet_close (uri : Uri) : s.Quiet files (s.close files uri) := by
  unfold close
  dsimp only
  split
  · have h := quiet_react { s.settle with documents := s.settle.documents.erase uri } files
      fun _ cache => Reaction.toClosing cache uri
    exact ⟨⟨h.same.effective_eq, h.same.preferences_eq, h.same.shown_eq, h.same.questions_eq⟩,
      h.files_eq, h.silent⟩
  · exact ⟨s.sameAdvisory_settle, rfl, by simp⟩

theorem quiet_finish : s.Quiet files (s.finish files) := by
  obtain ⟨heffective, hpreferences, hshown, hquestions⟩ := s.sameAdvisory_withTagging
  exact ⟨⟨heffective, hpreferences, hshown, hquestions⟩, rfl, by simp [finish]⟩

theorem begin_spec (environment : Environment) (startup : Startup) :
    let e := s.begin files environment startup
    e.server.preferences = Preferences.path? environment ∧
      e.server.advisoryShown = s.advisoryShown ∧ e.server.questions = s.questions ∧
      e.files = files ∧ e.sent = [] := by
  unfold begin
  dsimp only
  split
  · exact ⟨rfl, rfl, rfl, rfl, rfl⟩
  · exact ⟨rfl, rfl, rfl, rfl, rfl⟩

/-- A report brings up the advisory if it opens a document that is looked after. -/
theorem handle_cases (n : Notice) :
    (∃ d, n = .opened d ∧ s.effective.covers d.uri = true ∧
      s.handle files n = (s.track d.uri d.version d.text).1.advise files) ∨
    ((∀ d, n = .opened d → s.effective.covers d.uri = false) ∧
      s.Quiet files (s.handle files n)) := by
  cases n with
  | ready =>
      exact Or.inr ⟨nofun, ⟨rfl, rfl, rfl, rfl⟩, rfl, by simp [handle, Outgoing.isPrompt_iff]⟩
  | opened d =>
      have htracked : (s.track d.uri d.version d.text).2 = s.effective.covers d.uri := by
        unfold track
        dsimp only
        split
        · next h => exact h.symm
        · next h => exact (Bool.eq_false_iff.2 h).symm
      cases hcovers : s.effective.covers d.uri with
      | true => exact Or.inl ⟨d, rfl, hcovers, by simp only [handle, htracked, hcovers, if_true]⟩
      | false =>
          refine Or.inr ⟨fun d' h => by cases h; exact hcovers, ?_⟩
          simp only [handle, htracked, hcovers, Bool.false_eq_true, if_false]
          exact ⟨s.sameAdvisory_track d.uri d.version d.text, rfl, by simp⟩
  | changed d =>
      refine Or.inr ⟨nofun, ?_⟩
      cases htexts : d.texts with
      | nil =>
          simp only [handle, htexts]
          exact s.quiet_rest files []
      | cons text texts =>
          simp only [handle, htexts]
          exact ⟨s.sameAdvisory_track d.uri d.version text, rfl, by simp⟩
  | closed uri => exact Or.inr ⟨nofun, s.quiet_close files uri⟩
  | selection m => exact Or.inr ⟨nofun, s.quiet_cursorMoved files m⟩
  | viewport m => exact Or.inr ⟨nofun, s.quiet_viewMoved files m⟩

/-- The advisory is brought up once, and only where it is wanted. -/
theorem advise_cases :
    let e := s.advise files
    (s.effective.advisory = false ∨ s.advisoryShown = true) ∧ s.Quiet files e ∨
    (s.effective.advisory = true ∧ s.advisoryShown = false) ∧
      (e.files = files ∧ e.server.effective = s.effective ∧
        e.server.preferences = s.preferences ∧ e.server.advisoryShown = true) ∧
      (Preferences.Dismissed s.preferences files ∧ e.sent = [] ∧ e.server.questions = s.questions ∨
        ¬ Preferences.Dismissed s.preferences files ∧
          e.sent = [.prompt s.nextId (Advisory.message s.effective) Advisory.titles] ∧
          e.server.questions = s.questions ++ [⟨s.nextId, s.preferences⟩]) := by
  by_cases h : s.effective.advisory = false ∨ s.advisoryShown = true
  · refine Or.inl ⟨h, ?_⟩
    have hquiet : (!s.settle.effective.advisory || s.settle.advisoryShown) = true := by
      simpa [settle, configure, effective] using h
    simp only [advise, hquiet, if_true]
    exact ⟨s.sameAdvisory_settle, rfl, by simp⟩
  · obtain ⟨hadvisory, hshown⟩ := not_or.1 h
    have hloud : (!s.settle.effective.advisory || s.settle.advisoryShown) = false := by
      simpa [settle, configure, effective] using h
    refine Or.inr ⟨⟨by simpa using hadvisory, by simpa using hshown⟩, ?_⟩
    have hpref : s.settle.preferences = s.preferences := rfl
    simp only [advise, hloud, Bool.false_eq_true, if_false, hpref]
    cases hp : s.preferences with
    | none =>
        refine ⟨⟨rfl, rfl, rfl, rfl⟩, Or.inr ⟨?_, rfl, rfl⟩⟩
        rintro ⟨path, hpath, -⟩
        cases hpath
    | some path =>
        dsimp only
        by_cases hd : (Preferences.load files path).1.advisoryDismissed = true
        · rw [if_pos hd]
          exact ⟨⟨rfl, rfl, rfl, rfl⟩, Or.inl ⟨⟨path, rfl, hd⟩, rfl, rfl⟩⟩
        · rw [if_neg hd]
          refine ⟨⟨rfl, rfl, rfl, rfl⟩, Or.inr ⟨?_, rfl, rfl⟩⟩
          rintro ⟨path', hpath, hd'⟩
          cases hpath
          exact hd hd'

/-- An answer is passed over or settles the question that it is for. -/
theorem answered_cases (id : Rpc.Id) (answer : Except Rpc.Error Json) :
    ((∀ q ∈ s.questions, id ≠ .number q.id) ∧
      s.answered files id answer = { server := s, files, sent := [], log := [] }) ∨
    ∃ q ∈ s.questions, id = .number q.id ∧
      s.answered files id answer =
        { server := { s with questions := s.questions.filter (·.id ≠ q.id) }
          files := (Advisory.answered files q.preferences answer).files, sent := []
          log := (Advisory.answered files q.preferences answer).log } := by
  unfold answered
  split
  · next hnone =>
      refine Or.inl ⟨fun q hq heq => ?_, rfl⟩
      exact absurd heq.symm (by simpa using List.find?_eq_none.1 hnone q hq)
  · next q hsome =>
      have heq : .number q.id = id := by simpa using List.find?_some hsome
      exact Or.inr ⟨q, List.mem_of_find?_eq_some hsome, heq.symm, rfl⟩

end Server

end Bilingual
