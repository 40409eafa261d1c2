import Bilingual.Proofs.FileTree.Writing
import Bilingual.Proofs.Server.Prompting

/-!
All that the server reads of the files, once it has its settings, are the preferences,
and these until the advisory has been brought up. What else the files hold makes no
difference to what it does and says.
-/

namespace Bilingual

namespace Preferences

/-- Two trees of files that hold the same preferences. -/
def SameIn (path : Option Path) (files files' : FileTree) : Prop :=
  ∀ p, path = some p → (load files' p).1 = (load files p).1

variable {files files' : FileTree}

theorem sameIn_refl (path : Option Path) (files : FileTree) : SameIn path files files :=
  fun _ _ => rfl

theorem SameIn.symm {path : Option Path} (h : SameIn path files files') :
    SameIn path files' files :=
  fun p hp => (h p hp).symm

theorem SameIn.trans {path : Option Path} {files'' : FileTree} (h : SameIn path files files')
    (h' : SameIn path files' files'') : SameIn path files files'' :=
  fun p hp => (h' p hp).trans (h p hp)

theorem load_fst (files : FileTree) (path : Path) :
    (load files path).1 = ((files.readText path).toOption.bind parse?).getD standard := by
  simp only [load]
  cases files.readText path with
  | error e => rfl
  | ok text =>
      simp only [Except.toOption, Option.bind_some]
      cases parse? text with
      | none => rfl
      | some p => rfl

/-- A file that is written elsewhere leaves the preferences as they are. -/
theorem sameIn_write {path : Path} {content : ByteArray} {preferences : Option Path}
    (h : files.write path content = .ok files')
    (hne : ∀ p, preferences = some p → files.resolve p ≠ files.resolve path) :
    SameIn preferences files files' := by
  intro p hp
  rw [load_fst, load_fst, FileTree.readText_write_of_ne h (hne p hp)]

end Preferences

namespace Server

variable {s : Server} {files files' : FileTree}

theorem advise_files (h : s.advisoryShown = false → Preferences.SameIn s.preferences files files') :
    (s.advise files').server = (s.advise files).server ∧
      (s.advise files').sent = (s.advise files).sent := by
  by_cases hquiet : !s.settle.effective.advisory || s.settle.advisoryShown
  · simp only [advise, if_pos hquiet]
    exact ⟨trivial, trivial⟩
  · have hshown : s.advisoryShown = false := by
      cases hs : s.advisoryShown with
      | false => rfl
      | true => exact absurd (by simp [settle, configure, hs]) hquiet
    have hpreferences : s.settle.preferences = s.preferences := rfl
    simp only [advise, if_neg hquiet, hpreferences]
    cases hp : s.preferences with
    | none => exact ⟨rfl, rfl⟩
    | some path =>
        have hsame := h hshown path hp
        by_cases hd : (Preferences.load files path).1.advisoryDismissed = true
        · have hd' : (Preferences.load files' path).1.advisoryDismissed = true := by rwa [hsame]
          simp only [if_pos hd, if_pos hd']
          exact ⟨trivial, trivial⟩
        · have hd' : ¬ (Preferences.load files' path).1.advisoryDismissed = true := by rwa [hsame]
          simp only [if_neg hd, if_neg hd']
          exact ⟨trivial, trivial⟩

theorem cursorMoved_files (s : Server) (files files' : FileTree) (m : SelectionChanged) :
    (s.cursorMoved files' m).server = (s.cursorMoved files m).server ∧
      (s.cursorMoved files' m).sent = (s.cursorMoved files m).sent := by
  simp only [cursorMoved]
  split
  · exact ⟨rfl, rfl⟩
  · split
    · exact ⟨rfl, rfl⟩
    · exact ⟨rfl, rfl⟩

theorem viewMoved_files (s : Server) (files files' : FileTree) (m : VisibleRangesChanged) :
    (s.viewMoved files' m).server = (s.viewMoved files m).server ∧
      (s.viewMoved files' m).sent = (s.viewMoved files m).sent := by
  simp only [viewMoved]
  split
  · exact ⟨rfl, rfl⟩
  · split
    · exact ⟨rfl, rfl⟩
    · exact ⟨rfl, rfl⟩

theorem close_files (s : Server) (files files' : FileTree) (uri : Uri) :
    (s.close files' uri).server = (s.close files uri).server ∧
      (s.close files' uri).sent = (s.close files uri).sent := by
  simp only [close]
  split
  · exact ⟨rfl, rfl⟩
  · exact ⟨rfl, rfl⟩

/-- Reports are handled alike, whatever the files hold besides the preferences. -/
theorem handle_files (h : s.advisoryShown = false → Preferences.SameIn s.preferences files files')
    (n : Notice) :
    (s.handle files' n).server = (s.handle files n).server ∧
      (s.handle files' n).sent = (s.handle files n).sent := by
  cases n with
  | ready => exact ⟨rfl, rfl⟩
  | opened d =>
      obtain ⟨-, hpreferences, hshown, -⟩ := s.sameAdvisory_track d.uri d.version d.text
      simp only [handle]
      split
      · apply advise_files
        rwa [hpreferences, hshown]
      · exact ⟨rfl, rfl⟩
  | changed d =>
      cases htexts : d.texts with
      | nil =>
          simp only [handle, htexts]
          exact ⟨trivial, trivial⟩
      | cons text texts =>
          simp only [handle, htexts]
          exact ⟨trivial, trivial⟩
  | closed uri => exact s.close_files files files' uri
  | selection m => exact s.cursorMoved_files files files' m
  | viewport m => exact s.viewMoved_files files files' m

theorem answered_files (s : Server) (files files' : FileTree) (id : Rpc.Id)
    (answer : Except Rpc.Error Json) :
    (s.answered files' id answer).server = (s.answered files id answer).server := by
  simp only [answered]
  split
  · rfl
  · rfl

/-- A report leaves the files as they are. Either it changes nothing about the advisory,
or from then on the advisory counts as shown. -/
theorem handle_advisory (s : Server) (files : FileTree) (n : Notice) :
    (s.handle files n).files = files ∧ (s.handle files n).server.preferences = s.preferences ∧
      (s.SameAdvisory (s.handle files n).server ∨
        (s.handle files n).server.advisoryShown = true) := by
  obtain ⟨d, -, -, heq⟩ | ⟨-, hquiet⟩ := s.handle_cases files n
  · rw [heq]
    have htrack := s.sameAdvisory_track d.uri d.version d.text
    obtain ⟨-, hquiet⟩ | ⟨-, ⟨hfiles, heffective, hpreferences, hshown⟩, -⟩ :=
      (s.track d.uri d.version d.text).1.advise_cases files
    · obtain ⟨heffective, hpreferences, hshown, hquestions⟩ := hquiet.same
      exact ⟨hquiet.files_eq, hpreferences.trans htrack.preferences_eq,
        Or.inl ⟨heffective.trans htrack.effective_eq, hpreferences.trans htrack.preferences_eq,
          hshown.trans htrack.shown_eq, hquestions.trans htrack.questions_eq⟩⟩
    · exact ⟨hfiles, hpreferences.trans htrack.preferences_eq, Or.inr hshown⟩
  · exact ⟨hquiet.files_eq, hquiet.same.preferences_eq, Or.inl hquiet.same⟩

end Server

end Bilingual
