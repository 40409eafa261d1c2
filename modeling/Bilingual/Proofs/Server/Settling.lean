import Bilingual.Proofs.Server.Handlers

/-!
The defaults come into force at their first use. Whether they have been fixed by
then is no difference to anything else, so that a report about a document which is
not looked after, though it may be that first use, leaves no trace.
-/

namespace Bilingual

/-- The document that a report is about. -/
def Notice.about? : Notice → Option Uri
  | .ready => none
  | .opened d => some d.uri
  | .changed d => some d.uri
  | .closed uri => some uri
  | .selection m => some m.document
  | .viewport m => some m.document

/-- An effect, with the settings fixed. -/
def Effect.settled (e : Effect) : Effect := { e with server := e.server.settle }

namespace Server

variable (s : Server) (files : FileTree)

theorem react_settle (reaction : Finder → Cache → Reaction) :
    (s.settle.react files reaction).settled = (s.react files reaction).settled := by
  obtain ⟨config, documents, tagging, preferences, shown, questions, nextId⟩ := s
  cases tagging with
  | none => rfl
  | some tagging => rfl

theorem finish_settle : (s.settle.finish files).settled = (s.finish files).settled := by
  obtain ⟨config, documents, tagging, preferences, shown, questions, nextId⟩ := s
  cases tagging with
  | none => rfl
  | some tagging => rfl

theorem cursorMoved_settle (m : SelectionChanged) :
    (s.settle.cursorMoved files m).settled = (s.cursorMoved files m).settled := by
  have hdocuments : s.settle.documents = s.documents := rfl
  simp only [cursorMoved, hdocuments]
  split
  · rfl
  · split
    · rfl
    · exact s.react_settle files _

theorem viewMoved_settle (m : VisibleRangesChanged) :
    (s.settle.viewMoved files m).settled = (s.viewMoved files m).settled := by
  have hdocuments : s.settle.documents = s.documents := rfl
  simp only [viewMoved, hdocuments]
  split
  · rfl
  · split
    · rfl
    · exact s.react_settle files _

theorem handle_settle (n : Notice) :
    (s.settle.handle files n).settled = (s.handle files n).settled := by
  cases n with
  | ready => rfl
  | opened d => rfl
  | changed d =>
      simp only [handle]
      cases d.texts with
      | nil => rfl
      | cons text texts => rfl
  | closed uri => rfl
  | selection m => exact s.cursorMoved_settle files m
  | viewport m => exact s.viewMoved_settle files m

theorem answered_settle (id : Rpc.Id) (answer : Except Rpc.Error Json) :
    (s.settle.answered files id answer).settled = (s.answered files id answer).settled := by
  have hquestions : s.settle.questions = s.questions := rfl
  simp only [answered, hquestions]
  split
  · rfl
  · rfl

/-- A report about a document that is not looked after may fix the defaults, and
does nothing else. -/
theorem handle_foreign {n : Notice} {uri : Uri} (habout : n.about? = some uri)
    (hcovers : ¬ s.effective.covers uri) (hfind : s.documents.find? uri = none) :
    (s.handle files n).settled =
      { server := s.settle, files, sent := [], log := (s.handle files n).log } := by
  have heffective : s.settle.effective = s.effective := rfl
  cases n with
  | ready => cases habout
  | opened d =>
      cases habout
      simp only [handle, track, heffective, if_neg hcovers]
      rfl
  | changed d =>
      cases habout
      cases htexts : d.texts with
      | nil =>
          simp only [handle, htexts]
          rfl
      | cons text texts =>
          simp only [handle, htexts, track, heffective, if_neg hcovers]
          rfl
  | closed closed =>
      cases habout
      simp only [handle, close, heffective, if_neg hcovers]
      rfl
  | selection m =>
      cases habout
      simp only [handle, cursorMoved, hfind]
      rfl
  | viewport m =>
      cases habout
      simp only [handle, viewMoved, hfind]
      rfl

end Server

end Bilingual
