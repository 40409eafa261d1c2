import Bilingual.Proofs.Server.Prompting
import Bilingual.Proofs.Session.Run

/-!
What a step of a session means for the advisory. It begins the session, opens a
document that is looked after, or answers a question; all other steps leave the
advisory and the files alone.
-/

namespace Bilingual.Session

/-- The session is told that a document it looks after has been opened. -/
def Opens (s : Session) (h : Happening) : Prop :=
  s.service.phase = .active ∧
    ∃ d, h.report? = some (.opened d) ∧ s.service.server.effective.covers d.uri = true

/-- A step that has nothing to do with the advisory. -/
structure Quiet (s : Session) (h : Happening) (o : Outcome) : Prop where
  unopened : ¬ s.Opens h
  unanswered : ∀ id answer, h = .incoming (.reply id answer) → s.service.phase = .exited
  same : s.service.server.SameAdvisory o.service.server
  silent : ∀ m ∈ o.sent, ¬ m.IsPrompt
  kept : ∀ m, h = .incoming m → o.files = s.files
  replaced : ∀ files, h = .rewritten files → o.files = files
  phase_eq : o.service.phase = s.service.phase ∨ o.service.phase = .exited ∨
    s.service.phase = .active ∧ o.service.phase = .stopped

inductive Turn (environment : Environment) (s : Session) : Happening → Outcome → Prop
  | quiet {h : Happening} {o : Outcome} : s.Quiet h o → Turn environment s h o
  | begun {h : Happening} (response : Response) (startup : Startup) :
      s.service.phase = .waiting → (∀ id answer, h ≠ .incoming (.reply id answer)) →
      Turn environment s h
        (Service.serve .active response (s.service.server.begin s.files environment startup))
  | opened {h : Happening} (d : OpenedDocument) :
      s.Opens h → (∀ id answer, h ≠ .incoming (.reply id answer)) →
      Turn environment s h
        (Service.serve .active .silent
          ((s.service.server.track d.uri d.version d.text).1.advise s.files))
  | answered (id : Rpc.Id) (answer : Except Rpc.Error Json) : s.service.phase ≠ .exited →
      Turn environment s (.incoming (.reply id answer))
        (Service.serve s.service.phase .silent (s.service.server.answered s.files id answer))

theorem quiet_incoming {s : Session} {m : Incoming} {o : Outcome}
    (hopens : ¬ s.Opens (.incoming m))
    (hreply : ∀ id answer, m = .reply id answer → s.service.phase = .exited)
    (hserver : s.service.server.Quiet s.files ⟨o.service.server, o.files, o.sent, o.log⟩)
    (hphase : o.service.phase = s.service.phase ∨ o.service.phase = .exited ∨
      s.service.phase = .active ∧ o.service.phase = .stopped) :
    s.Quiet (.incoming m) o where
  unopened := hopens
  unanswered id answer h := hreply id answer (Happening.incoming.inj h)
  same := hserver.same
  silent := hserver.silent
  kept _ _ := hserver.files_eq
  replaced _ h := by cases h
  phase_eq := hphase

theorem not_opens_of_report?_eq_none {s : Session} {m : Incoming} (h : m.report? = none) :
    ¬ s.Opens (.incoming m) := by
  rintro ⟨-, d, hd, -⟩
  cases h.symm.trans hd

theorem report?_of_shutdown {method : String} (id : Option Rpc.Id) (params : Option Json)
    (hm : Method.ofName? method = some .shutdown ∨ Method.ofName? method = some .exit) :
    (Incoming.message method id params).report? = none := by
  cases id with
  | some id => rfl
  | none => rcases hm with hm | hm <;> simp [Incoming.report?, hm]

/-- A report is handled as long as the session is active. -/
theorem step_of_report {environment : Environment} {s : Session} {h : Happening} {notice : Notice}
    (hphase : s.service.phase = .active) (hreport : h.report? = some notice) :
    s.step environment h =
      Service.serve .active .silent (s.service.server.handle s.files notice) := by
  cases h with
  | rewritten files => cases hreport
  | incoming m =>
      have hstep := Service.step_spec environment s.service s.files m
      simp only [step]
      generalize s.service.step s.files environment m = o at hstep ⊢
      cases hstep with
      | rest m response hidle => cases (hidle hphase).1.symm.trans hreport
      | startup method id params startup hwaiting => cases hphase.symm.trans hwaiting
      | shutdown method id => cases hreport
      | halt method id params response _ hm =>
          cases (report?_of_shutdown id params (Or.inl hm)).symm.trans hreport
      | exit method id params _ hm =>
          cases (report?_of_shutdown id params (Or.inr hm)).symm.trans hreport
      | report m notice' _ hnotice =>
          cases hnotice.symm.trans hreport
          rfl
      | reply id answer => cases hreport

/-- Every step is one of these. -/
theorem turn_step (environment : Environment) (s : Session) (h : Happening) :
    s.Turn environment h (s.step environment h) := by
  cases h with
  | rewritten files =>
      refine .quiet ⟨?_, by simp, ⟨rfl, rfl, rfl, rfl⟩, ?_, by simp, ?_, Or.inl rfl⟩
      · rintro ⟨-, d, hd, -⟩
        cases hd
      · simp [step, Service.rest]
      · intro files' heq
        cases heq
        rfl
  | incoming m =>
      have hrest := s.service.server.quiet_rest s.files []
      cases m with
      | reply id answer =>
          by_cases hphase : s.service.phase = .exited
          · simp only [step, Service.step, if_pos hphase]
            exact .quiet (quiet_incoming (not_opens_of_report?_eq_none rfl) (fun _ _ _ => hphase)
              hrest (Or.inl rfl))
          · simp only [step, Service.step, if_neg hphase]
            exact .answered id answer hphase
      | message method id params =>
          have hstep := Service.step_spec environment s.service s.files (.message method id params)
          have hmessage (other : Rpc.Id) (answer : Except Rpc.Error Json) :
              Incoming.message method id params ≠ .reply other answer := by
            simp
          simp only [step]
          generalize Incoming.message method id params = m at hstep hmessage ⊢
          generalize s.service.step s.files environment m = o at hstep ⊢
          have hreply (other : Rpc.Id) (answer : Except Rpc.Error Json)
              (h : m = .reply other answer) : s.service.phase = .exited :=
            absurd h (hmessage other answer)
          have hunanswered (other : Rpc.Id) (answer : Except Rpc.Error Json) :
              Happening.incoming m ≠ .incoming (.reply other answer) :=
            fun h => hmessage other answer (Happening.incoming.inj h)
          -- Only a report can open a document, and only an answer is for a question.
          cases hstep with
          | rest m response hidle hresponse =>
              refine .quiet (quiet_incoming ?_ hreply hrest (Or.inl rfl))
              rintro ⟨hphase, d, hd, -⟩
              cases (hidle hphase).1.symm.trans hd
          | startup method id params startup hphase =>
              exact .begun _ startup hphase hunanswered
          | shutdown method id hphase hmethod =>
              exact .quiet (quiet_incoming (not_opens_of_report?_eq_none rfl) hreply
                (s.service.server.quiet_finish s.files) (Or.inr (Or.inr ⟨hphase, rfl⟩)))
          | halt method id params response hphase hmethod =>
              refine .quiet (quiet_incoming ?_ hreply hrest (Or.inr (Or.inr ⟨hphase, rfl⟩)))
              exact not_opens_of_report?_eq_none (report?_of_shutdown id params (Or.inl hmethod))
          | exit method id params hgoing hmethod =>
              refine .quiet (quiet_incoming ?_ hreply hrest (Or.inr (Or.inl rfl)))
              exact not_opens_of_report?_eq_none (report?_of_shutdown id params (Or.inr hmethod))
          | report m notice hphase hnotice =>
              rcases s.service.server.handle_cases s.files notice with
                ⟨d, rfl, hcovers, heq⟩ | ⟨hunopened, hquiet⟩
              · rw [heq]
                exact .opened d ⟨hphase, d, hnotice, hcovers⟩ hunanswered
              · refine .quiet (quiet_incoming ?_ hreply hquiet (Or.inl hphase.symm))
                rintro ⟨-, d, hd, hcovers⟩
                cases hnotice.symm.trans hd
                cases (hunopened d rfl).symm.trans hcovers
          | reply other answer => exact absurd rfl (hmessage other answer)

end Bilingual.Session
