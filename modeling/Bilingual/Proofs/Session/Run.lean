import Bilingual.Proofs.Session.Step

/-!
Runs of a session: messages that come one after another, and files that others
change in between.
-/

namespace Bilingual

/-- A service and the files within its reach. -/
structure Session where
  service : Service
  files : FileTree

inductive Happening
  | incoming (message : Incoming)
  /-- Someone else has changed files. -/
  | rewritten (files : FileTree)

def Happening.report? : Happening → Option Notice
  | .incoming m => m.report?
  | .rewritten _ => none

def Happening.ends : Happening → Bool
  | .incoming m => m.ends
  | .rewritten _ => false

/-- The well-formed reports of a run. -/
def reports (hs : List Happening) : List Notice := hs.filterMap Happening.report?

theorem reports_cons (h : Happening) (hs : List Happening) :
    reports (h :: hs) = h.report?.toList ++ reports hs := by
  cases hreport : h.report? <;> simp [reports, hreport]

/-- A service right behind its first request. -/
def Service.begun (environment : Environment) (config : Option Config) : Service :=
  ⟨.active, { Server.start with config, preferences := Preferences.path? environment }⟩

namespace Session

def step (environment : Environment) (s : Session) : Happening → Outcome
  | .incoming m => s.service.step s.files environment m
  | .rewritten files => s.service.rest files .silent

def next (environment : Environment) (s : Session) (h : Happening) : Session :=
  ⟨(s.step environment h).service, (s.step environment h).files⟩

def after (environment : Environment) : Session → List Happening → Session
  | s, [] => s
  | s, h :: hs => after environment (s.next environment h) hs

/-- What each step of a run leaves behind. -/
def outcomes (environment : Environment) : Session → List Happening → List Outcome
  | _, [] => []
  | s, h :: hs => s.step environment h :: outcomes environment (s.next environment h) hs

variable {environment : Environment} {s : Session}

theorem after_cons (environment : Environment) (s : Session) (h : Happening)
    (hs : List Happening) :
    after environment s (h :: hs) = after environment (s.next environment h) hs :=
  rfl

theorem after_concat (environment : Environment) (s : Session) (hs : List Happening)
    (h : Happening) :
    after environment s (hs ++ [h]) = (after environment s hs).next environment h := by
  induction hs generalizing s with
  | nil => rfl
  | cons g hs ih => exact ih _

theorem outcomes_concat (environment : Environment) (s : Session) (hs : List Happening)
    (h : Happening) :
    outcomes environment s (hs ++ [h]) =
      outcomes environment s hs ++ [(after environment s hs).step environment h] := by
  induction hs generalizing s with
  | nil => rfl
  | cons g hs ih => exact congrArg _ (ih _)

/-- As long as a session waits for its first request, nothing has changed. -/
theorem waiting_next (hs : s.service.phase = .waiting → s.service = .start) (h : Happening) :
    (s.next environment h).service.phase = .waiting → (s.next environment h).service = .start := by
  cases h with
  | rewritten files => exact hs
  | incoming m =>
      have hstep := Service.step_spec environment s.service s.files m
      simp only [next, step]
      generalize s.service.step s.files environment m = outcome at hstep ⊢
      cases hstep with
      | rest m response => exact hs
      | startup method id params startup => exact nofun
      | shutdown method id => exact nofun
      | halt method id params response => exact nofun
      | exit method id params => exact nofun
      | report m notice => exact nofun
      | reply id answer =>
          intro hphase
          rw [hs hphase]
          rfl

theorem waiting_after (hs : s.service.phase = .waiting → s.service = .start)
    (happenings : List Happening) :
    (after environment s happenings).service.phase = .waiting →
      (after environment s happenings).service = .start := by
  induction happenings generalizing s with
  | nil => exact hs
  | cons h happenings ih => exact ih (waiting_next hs h)

theorem begun_of_result (hs : s.service.phase = .waiting → s.service = .start) {method : String}
    (hm : Method.ofName? method = some .startup) {id : Option Rpc.Id} {params : Option Json}
    (hresult :
      (s.step environment (.incoming (.message method id params))).response.isResult = true) :
    ∃ config, (s.next environment (.incoming (.message method id params))).service =
      .begun environment config := by
  revert hresult
  generalize hmessage : Incoming.message method id params = m
  have hstep := Service.step_spec environment s.service s.files m
  simp only [next, step]
  generalize s.service.step s.files environment m = outcome at hstep ⊢
  cases hstep with
  | rest m response hidle hresponse => exact fun h => absurd (h.symm.trans hresponse) (by decide)
  | startup method id params startup hphase =>
      intro _
      rw [hs hphase]
      unfold Server.begin
      split
      · exact ⟨none, rfl⟩
      · exact ⟨_, rfl⟩
  | shutdown other id hphase hother =>
      cases hmessage
      exact absurd (hm.symm.trans hother) nofun
  | halt other id params response hphase hother =>
      cases hmessage
      exact absurd (hm.symm.trans hother) nofun
  | exit other id params hphase hother => exact nofun
  | report m notice => exact nofun
  | reply id answer => exact nofun

end Session

end Bilingual
