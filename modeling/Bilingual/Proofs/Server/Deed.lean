import Bilingual.Proofs.Reaction.Isolation
import Bilingual.Proofs.Server.Settling

/-!
What the server does with a report is one of a few deeds. What holds of each of them
holds of every report, however it is handled.
-/

namespace Bilingual.Server

/-- What the server does with a report, and what that leaves behind. -/
inductive Deed (s : Server) (files : FileTree) : Notice → Effect → Prop
  | greet (text : String) : Deed s files .ready ⟨s, files, [.note text], []⟩
  | pass {n : Notice} {t : Server} (log : List Event) : s.Agrees t →
      Deed s files n ⟨t, files, [], log⟩
  | track {n : Notice} {uri : Uri} (version : Int32) (text : String) : n.about? = some uri →
      Deed s files n ⟨(s.track uri version text).1, files, [], []⟩
  | advise (d : OpenedDocument) :
      Deed s files (.opened d) ((s.track d.uri d.version d.text).1.advise files)
  | look {n : Notice} {uri : Uri} {d : Document} (cause : Cause) : n.about? = some uri →
      s.documents.find? uri = some d → (∀ other, cause.touches other = decide (uri = other)) →
      Deed s files n (s.react files fun scan cache => cause.reaction scan cache)
  | close (uri : Uri) :
      Deed s files (.closed uri)
        ({ s.settle with documents := s.settle.documents.erase uri }.react files
          fun scan cache => (Cause.closing uri).reaction scan cache)

variable (s : Server) (files : FileTree)

theorem deed_cursorMoved (m : SelectionChanged) :
    s.Deed files (.selection m) (s.cursorMoved files m) := by
  unfold cursorMoved
  split
  · exact .pass _ ⟨rfl, rfl, rfl⟩
  · next d hd =>
      split
      · exact .pass _ ⟨rfl, rfl, rfl⟩
      · next offset hoffset =>
          have huri : d.uri = m.document := by simpa using List.find?_some hd
          exact .look (.cursor d offset) rfl hd fun other => huri ▸ rfl

theorem deed_viewMoved (m : VisibleRangesChanged) :
    s.Deed files (.viewport m) (s.viewMoved files m) := by
  unfold viewMoved
  split
  · exact .pass _ ⟨rfl, rfl, rfl⟩
  · next d hd =>
      split
      · exact .pass _ ⟨rfl, rfl, rfl⟩
      · next visible hvisible =>
          have huri : d.uri = m.document := by simpa using List.find?_some hd
          exact .look (.viewport d visible (d.content.offset? m.position)) rfl hd
            fun other => huri ▸ rfl

theorem deed_handle (n : Notice) : s.Deed files n (s.handle files n) := by
  cases n with
  | ready => exact .greet _
  | opened d =>
      simp only [handle]
      split
      · exact .advise d
      · exact .track d.version d.text rfl
  | changed d =>
      cases htexts : d.texts with
      | nil =>
          simp only [handle, htexts]
          exact .pass _ ⟨rfl, rfl, rfl⟩
      | cons text texts =>
          simp only [handle, htexts]
          exact .track d.version text rfl
  | closed uri =>
      simp only [handle, Server.close]
      split
      · exact .close uri
      · exact .pass _ s.settle_agrees
  | selection m => exact s.deed_cursorMoved files m
  | viewport m => exact s.deed_viewMoved files m

end Bilingual.Server
