import Bilingual.Proofs.Cache.Run
import Bilingual.Proofs.Session.Bookkeeping
import Bilingual.Proofs.Session.Deletion
import Bilingual.Proofs.Session.Messages

/-!
Documents that are not looked after are not seen: without the reports about them a
session goes the same way.
-/

namespace Bilingual

def Service.settled (s : Service) : Service := { s with server := s.server.settle }

/-- What a step leaves behind, with the settings fixed. -/
def Outcome.settled (o : Outcome) : Outcome := { o with service := o.service.settled }

/-- What there is to see of a step: all that the editor is told, the files, the
documents that are open, and what is kept of their regions. -/
structure Sight where
  response : Response
  sent : List Outgoing
  files : FileTree
  log : List Event
  documents : List Document
  regions : List Cache.Kept

def Outcome.sight (o : Outcome) : Sight where
  response := o.response
  sent := o.sent
  files := o.files
  log := o.log
  documents := o.service.server.documents.documents
  regions := o.service.server.tagged.cache.entries.map Cache.Entry.kept

/-- Nobody is told anything. -/
def Outcome.Unheard (o : Outcome) : Prop :=
  o.sent = [] ∧ (o.response = .silent ∨ o.response = .exited)

theorem Outcome.sight_settled (o : Outcome) : o.settled.sight = o.sight := rfl

theorem Service.serve_settled (phase : Phase) (response : Response) (e : Effect) :
    (serve phase response e).settled = serve phase response e.settled := rfl

/-- A course leaves the same behind, whether or not the settings were fixed before. -/
theorem Course.take_settled {phase : Phase} {m : Incoming} {c : Course} {s s' : Service}
    (hplace : c.InPlace phase m) (hgoing : phase ≠ .waiting) (hs : s'.settled = s.settled)
    (environment : Environment) (files : FileTree) :
    (c.take environment files s').settled = (c.take environment files s).settled := by
  have hphase : s'.phase = s.phase := (congrArg Service.phase hs :)
  have hserver : s'.server.settle = s.server.settle := (congrArg Service.server hs :)
  cases c with
  | rest next response =>
      simp only [take, Service.rest, Outcome.settled, Service.settled, hserver]
  | startup id request => exact absurd hplace hgoing
  | shutdown id =>
      simp only [take, Service.serve_settled]
      rw [← Server.finish_settle, hserver, Server.finish_settle]
  | report n =>
      simp only [take, Service.serve_settled]
      rw [← Server.handle_settle, hserver, Server.handle_settle]
  | reply id answer =>
      simp only [take, Service.serve_settled, hphase]
      rw [← Server.answered_settle, hserver, Server.answered_settle]

namespace Session

/-- Two sessions that differ in nothing but whether the defaults are fixed yet. -/
structure Alike (s s' : Session) : Prop where
  files_eq : s'.files = s.files
  settled_eq : s'.service.settled = s.service.settled
  waiting : s.service.phase = .waiting → s'.service = s.service

variable {environment : Environment} {s s' : Session} {h : Happening}

theorem alike_refl (s : Session) : s.Alike s := ⟨rfl, rfl, fun _ => rfl⟩

theorem Alike.step (hs : s.Alike s') (environment : Environment) (h : Happening) :
    (s.next environment h).Alike (s'.next environment h) ∧
      (s'.step environment h).settled = (s.step environment h).settled := by
  by_cases hwaiting : s.service.phase = .waiting
  · have hsame : s' = s := congrArg₂ Session.mk (hs.waiting hwaiting) hs.files_eq
    rw [hsame]
    exact ⟨alike_refl _, rfl⟩
  · have hphase : s'.service.phase = s.service.phase := (congrArg Service.phase hs.settled_eq :)
    have hstep : (s'.step environment h).settled = (s.step environment h).settled := by
      cases h with
      | rewritten files =>
          exact congrArg (fun service => Outcome.mk service files .silent [] []) hs.settled_eq
      | incoming m =>
          obtain ⟨c, hplace, hc⟩ := Course.exists_leads s.service.phase m
          simp only [Session.step]
          rw [hc environment _ s'.service hphase, hc environment _ s.service rfl, hs.files_eq]
          exact Course.take_settled hplace hwaiting hs.settled_eq environment s.files
    refine ⟨⟨(congrArg Outcome.files hstep :), (congrArg Outcome.service hstep :), ?_⟩, hstep⟩
    intro hnext
    exact absurd (waiting_of_next h hnext) hwaiting

/-- A report about a document elsewhere takes a session nowhere. -/
theorem Alike.drop {here : Uri → Prop} (hs : s.Alike s') (helse : h.Elsewhere here)
    (hunseen : s.service.phase = .active → ∀ uri, ¬ here uri →
      ¬ s.service.server.effective.covers uri ∧ s.service.server.documents.find? uri = none)
    (environment : Environment) :
    (s.next environment h).Alike s' ∧ (s.step environment h).Unheard := by
  obtain ⟨response, hresponse, hstep⟩ | ⟨n, uri, hphase, habout, hhere, hstep⟩ :=
    step_of_elsewhere helse environment s
  · simp only [next, hstep]
    exact ⟨hs, rfl, hresponse⟩
  · obtain ⟨hcovers, hfind⟩ := hunseen hphase uri hhere
    have hforeign := s.service.server.handle_foreign s.files habout hcovers hfind
    have hserver := congrArg Effect.server hforeign
    have hfiles := congrArg Effect.files hforeign
    have hsent := congrArg Effect.sent hforeign
    simp only [next, hstep]
    refine ⟨⟨hs.files_eq.trans hfiles.symm, ?_, fun hwaiting => by cases hwaiting⟩, hsent,
      Or.inl rfl⟩
    exact hs.settled_eq.trans (congrArg₂ Service.mk hphase hserver.symm)

/-- If any reports about documents outside the suffix are deleted from a run, the
editor is told the same by the steps that are left, the files are the same, and so are
the documents that are open and the regions kept of them. -/
theorem foreign_documents_invisible (environment : Environment) (files : FileTree)
    (hs : List Happening) (keep : Happening → Bool) :
    let start : Session := ⟨.start, files⟩
    let config := (start.after environment hs).service.server.effective
    (∀ h ∈ hs, keep h = false → h.Elsewhere (config.covers ·)) →
      (start.outcomes environment (hs.filter keep)).map Outcome.sight =
        ((start.steps environment hs).filter (keep ·.1)).map (·.2.sight) ∧
      (start.outcomes environment (hs.filter keep)).flatMap (·.sent) =
        (start.outcomes environment hs).flatMap (·.sent) ∧
      (∀ p ∈ start.steps environment hs, keep p.1 = false → p.2.Unheard) ∧
      (start.after environment (hs.filter keep)).files = (start.after environment hs).files := by
  intro start config helse
  have hdrop (before : List Happening) (h : Happening) (later : List Happening)
      (heq : hs = before ++ h :: later) (hk : keep h = false) (t t' : Session)
      (ht : t = start.after environment before) (halike : t.Alike t') :
      (t.next environment h).Alike t' ∧ (t.step environment h).Unheard := by
    refine halike.drop (helse h (by simp [heq]) hk) (fun hphase uri hhere => ?_) environment
    -- Settings that are in force now are still so at the end of the run.
    have hconfig : t.service.server.effective = config := by
      have hlater := effective_after (s := t) (by simp [hphase]) environment (h :: later)
      rw [ht, ← after_append, ← heq] at hlater
      rw [ht, ← hlater]
    refine ⟨hconfig ▸ hhere, ?_⟩
    rw [ht, (tidy_after environment files before).2.find?_eq, ← ht, openDocument?, if_neg]
    exact hconfig ▸ hhere
  obtain ⟨halike, hseen, hidle⟩ := outcomes_filter Alike Outcome.settled Outcome.Unheard
    (alike_refl start) (fun before h later heq hk t t' ht halike => halike.step environment h) hdrop
  have hsee {α : Type} (see : Outcome → α) (hsee : ∀ o, see o.settled = see o) :
      (start.outcomes environment (hs.filter keep)).map see =
        ((start.steps environment hs).filter (keep ·.1)).map (see ·.2) := by
    have h := congrArg (List.map see) hseen
    simpa only [List.map_map, Function.comp_def, hsee] using h
  refine ⟨hsee Outcome.sight Outcome.sight_settled, ?_, hidle, halike.files_eq⟩
  exact flatMap_outcomes_filter (hsee Outcome.sent fun _ => rfl) fun p hp hk => (hidle p hp hk).1

theorem foreign_documents_invisible_first_use :
    let environment : Environment := ⟨none, none, none⟩
    let first := Happening.startup none
    let opened (name : String) := Happening.opened ⟨.atRoot name, "blade", 1, "<?php ?>x"⟩
    let selected (name : String) := Happening.selected ⟨.atRoot name, ⟨0, 3⟩⟩
    let hs := [first, opened "a.txt", selected "a.txt", opened "b.blade.php",
      selected "b.blade.php"]
    let keep (h : Happening) : Bool := h.report?.bind Notice.about? ≠ some (.atRoot "a.txt")
    let config := (Session.after environment ⟨.start, .empty⟩ hs).service.server.effective
    (∀ h ∈ hs, keep h = false → h.Elsewhere (config.covers ·)) ∧
      hs.map keep = [true, false, false, true, true] ∧
      (Session.outcomes environment ⟨.start, .empty⟩ (hs.filter keep)).flatMap (·.sent) =
        [.prompt 0 (Advisory.message .standard) Advisory.titles,
          .setLanguage ⟨.atRoot "b.blade.php", "php"⟩] := by
  intro environment first opened selected hs keep config
  have hkeep : hs.map keep = [true, false, false, true, true] := by decide +kernel
  have hforeign : ¬ config.covers (.atRoot "a.txt") := by decide +kernel
  have hkept : keep first = true ∧ keep (opened "b.blade.php") = true ∧
      keep (selected "b.blade.php") = true := by decide +kernel
  have helse : ∀ h ∈ hs, keep h = false → h.Elsewhere (config.covers ·) := by
    simp only [hs, List.forall_mem_cons]
    refine ⟨fun hk => ?_, fun _ => ?_, fun _ => ?_, fun hk => ?_, fun hk => ?_, nofun⟩
    · cases hkept.1.symm.trans hk
    · exact Happening.elsewhere_of_about (by decide) (by decide +kernel) hforeign
    · exact Happening.elsewhere_of_about (by decide) (by decide +kernel) hforeign
    · cases hkept.2.1.symm.trans hk
    · cases hkept.2.2.symm.trans hk
  obtain ⟨-, hsent, -, -⟩ := foreign_documents_invisible environment .empty hs keep helse
  refine ⟨helse, hkeep, hsent.trans ?_⟩
  decide +kernel

end Session

end Bilingual
