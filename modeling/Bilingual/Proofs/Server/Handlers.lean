import Bilingual.Proofs.Cache.Entries
import Bilingual.Server

/-!
What each operation of the server does to the three things that decide about
languages: the settings in force, the documents, and the regions found so far.
-/

namespace Bilingual

theorem OpenDocuments.find?_erase (all : OpenDocuments) (uri other : Uri) :
    (all.erase uri).find? other = if uri = other then none else all.find? other :=
  find?_filter_key Document.uri all.documents uri other

theorem OpenDocuments.find?_insert (all : OpenDocuments) (d : Document) (other : Uri) :
    (all.insert d).find? other = if d.uri = other then some d else all.find? other := by
  simp only [insert, find?, List.find?_cons]
  split
  · next h => rw [if_pos (by simpa using h)]
  · next h =>
      have hd : d.uri ≠ other := by simpa using h
      rw [if_neg hd]
      exact (find?_erase all d.uri other).trans (if_neg hd)

namespace Server

/-- The delimiters and the regions that the next reaction will find. -/
def tagged (s : Server) : Tagging :=
  s.tagging.getD ⟨s.effective.usableDelimiters.1, .ofCapacity s.effective.maxDocuments⟩

/-- Two servers that decide alike about languages. -/
structure Agrees (s s' : Server) : Prop where
  effective_eq : s'.effective = s.effective
  documents_eq : s'.documents = s.documents
  tagged_eq : s'.tagged = s.tagged

variable (s : Server) (files : FileTree)

theorem settle_agrees : s.Agrees s.settle := ⟨rfl, rfl, rfl⟩

theorem advise_agrees : s.Agrees (s.advise files).server ∧
    ∀ m, .setLanguage m ∉ (s.advise files).sent := by
  unfold advise
  dsimp only
  split
  · exact ⟨settle_agrees s, fun _ => List.not_mem_nil⟩
  · split
    · exact ⟨⟨rfl, rfl, rfl⟩, fun _ => List.not_mem_nil⟩
    · exact ⟨⟨rfl, rfl, rfl⟩, by simp⟩

theorem answered_agrees (id : Rpc.Id) (answer : Except Rpc.Error Json) :
    s.Agrees (s.answered files id answer).server ∧ (s.answered files id answer).sent = [] := by
  unfold answered
  split
  · exact ⟨⟨rfl, rfl, rfl⟩, rfl⟩
  · exact ⟨⟨rfl, rfl, rfl⟩, rfl⟩

theorem withTagging_spec : s.withTagging.1.effective = s.effective ∧
    s.withTagging.1.documents = s.documents ∧ s.withTagging.2.1 = s.tagged := by
  unfold withTagging tagged
  split
  · next h => exact ⟨rfl, rfl, by rw [h]; rfl⟩
  · next h => exact ⟨rfl, rfl, by rw [h]; rfl⟩

theorem react_spec (reaction : Finder → Cache → Reaction) :
    let r := reaction s.tagged.delimiters.scan s.tagged.cache
    let e := s.react files reaction
    e.server.effective = s.effective ∧ e.server.documents = s.documents ∧
      e.server.tagged = { s.tagged with cache := r.cache } ∧ e.sent = s.announce r.requests := by
  obtain ⟨heffective, hdocuments, htagged⟩ := withTagging_spec s
  simp only [react, ← htagged]
  refine ⟨heffective, hdocuments, rfl, ?_⟩
  simp only [announce, heffective]

end Server

end Bilingual
