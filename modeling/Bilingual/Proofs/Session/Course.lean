import Bilingual.Proofs.Session.Bookkeeping

/-!
The layer around the server decides by the phase of the session and by the message
alone what becomes of a message. Two services in one phase therefore take the same
course, and the settings in force do not change behind the first request.
-/

namespace Bilingual

/-- What becomes of a message. -/
inductive Course
  | rest (phase : Phase) (response : Response)
  | startup (id : Rpc.Id) (request : Startup)
  | shutdown (id : Rpc.Id)
  | report (notice : Notice)
  | reply (id : Rpc.Id) (answer : Except Rpc.Error Json)

namespace Course

def take (environment : Environment) (files : FileTree) (s : Service) : Course → Outcome
  | .rest phase response => ({ s with phase } : Service).rest files response
  | .startup id request =>
      Service.serve .active (.result id Service.capabilities)
        (s.server.begin files environment request)
  | .shutdown id => Service.serve .stopped (.result id .null) (s.server.finish files)
  | .report notice => Service.serve .active .silent (s.server.handle files notice)
  | .reply id answer => Service.serve s.phase .silent (s.server.answered files id answer)

/-- The part of a session in which a message may take that course. -/
def InPlace (phase : Phase) (m : Incoming) : Course → Prop
  | .rest next _ => next = .waiting → phase = .waiting
  | .startup _ _ => phase = .waiting
  | .shutdown _ => phase = .active
  | .report notice => phase = .active ∧ m.report? = some notice
  | .reply _ _ => True

/-- All services in that phase take this course with the message. -/
structure Leads (phase : Phase) (m : Incoming) (c : Course) : Prop where
  inPlace : c.InPlace phase m
  step_eq : ∀ environment files (s : Service), s.phase = phase →
    s.step files environment m = c.take environment files s

variable {phase : Phase} {m : Incoming}

theorem leads_rest (response : Response)
    (h : ∀ environment files (s : Service), s.phase = phase →
      s.step files environment m = s.rest files response) :
    Leads phase m (.rest phase response) := by
  refine ⟨id, fun environment files s hphase => ?_⟩
  rw [h environment files s hphase]
  subst hphase
  rfl

theorem exists_refusal (id : Option Rpc.Id) (error : Rpc.Error)
    (h : ∀ environment files (s : Service), s.phase = phase →
      s.step files environment m = s.refuse files id error) :
    ∃ c : Course, c.Leads phase m :=
  ⟨_, leads_rest _ h⟩

theorem exists_inactive (id : Option Rpc.Id)
    (h : ∀ environment files (s : Service), s.phase = phase →
      s.step files environment m = s.refuseInactive files id) :
    ∃ c : Course, c.Leads phase m := by
  refine exists_refusal id (if phase = .waiting then .notReady else .invalidRequest)
    fun environment files s hphase => ?_
  rw [h environment files s hphase, Service.refuseInactive, hphase]

variable {method : String} {id : Option Rpc.Id} {params : Option Json}

theorem exists_startup
    (h : ∀ environment files (s : Service), s.phase = phase →
      s.step files environment (.message method id params) =
        s.startup files environment id params) :
    ∃ c : Course, c.Leads phase (.message method id params) := by
  by_cases hwaiting : phase = .waiting
  swap
  · refine exists_refusal id .invalidRequest fun environment files s hphase => ?_
    simp only [h environment files s hphase, Service.startup, hphase, if_neg hwaiting]
  cases id with
  | none =>
      refine ⟨_, leads_rest .silent fun environment files s hphase => ?_⟩
      rw [h environment files s hphase, Service.startup, if_pos (hphase.trans hwaiting)]
  | some id =>
      cases hp : params.bind Startup.ofJson? with
      | none =>
          refine exists_refusal (some id) .invalidParams fun environment files s hphase => ?_
          simp only [h environment files s hphase, Service.startup, hphase.trans hwaiting, hp,
            if_true]
      | some request =>
          refine ⟨.startup id request, hwaiting, fun environment files s hphase => ?_⟩
          simp only [h environment files s hphase, Service.startup, hphase.trans hwaiting, hp,
            if_true, take]

theorem exists_shutdown
    (h : ∀ environment files (s : Service), s.phase = phase →
      s.step files environment (.message method id params) = s.shutdown files id params) :
    ∃ c : Course, c.Leads phase (.message method id params) := by
  by_cases hactive : phase = .active
  swap
  · refine exists_inactive id fun environment files s hphase => ?_
    rw [h environment files s hphase, Service.shutdown, if_neg (hphase ▸ hactive)]
  cases id with
  | none =>
      refine ⟨.rest .stopped .silent, nofun, fun environment files s hphase => ?_⟩
      rw [h environment files s hphase, Service.shutdown, if_pos (hphase.trans hactive)]
      rfl
  | some id =>
      cases params with
      | none =>
          refine ⟨.shutdown id, hactive, fun environment files s hphase => ?_⟩
          rw [h environment files s hphase, Service.shutdown, if_pos (hphase.trans hactive)]
          rfl
      | some params =>
          refine ⟨.rest .stopped (.failure id .invalidParams), nofun,
            fun environment files s hphase => ?_⟩
          rw [h environment files s hphase, Service.shutdown, if_pos (hphase.trans hactive)]
          rfl

theorem exists_report {notice : Option Notice}
    (hm : (Incoming.message method id params).report? = if id = none then notice else none)
    (h : ∀ environment files (s : Service), s.phase = phase →
      s.step files environment (.message method id params) = s.report files id notice) :
    ∃ c : Course, c.Leads phase (.message method id params) := by
  by_cases hactive : phase = .active
  swap
  · refine exists_inactive id fun environment files s hphase => ?_
    simp only [h environment files s hphase, Service.report, hphase, if_neg hactive]
  cases id with
  | some id =>
      refine exists_refusal (some id) .invalidRequest fun environment files s hphase => ?_
      rw [h environment files s hphase, Service.report, if_pos (hphase.trans hactive)]
  | none =>
      cases notice with
      | none =>
          refine ⟨_, leads_rest .silent fun environment files s hphase => ?_⟩
          rw [h environment files s hphase, Service.report, if_pos (hphase.trans hactive)]
      | some notice =>
          refine ⟨.report notice, ⟨hactive, hm.trans (if_pos rfl)⟩,
            fun environment files s hphase => ?_⟩
          rw [h environment files s hphase, Service.report, if_pos (hphase.trans hactive)]
          rfl

theorem exists_decline (shape : Shape)
    (h : ∀ environment files (s : Service), s.phase = phase →
      s.step files environment (.message method id params) = s.decline files shape id params) :
    ∃ c : Course, c.Leads phase (.message method id params) := by
  by_cases hactive : phase = .active
  · refine exists_refusal id (if params.any shape then .methodNotFound else .invalidParams)
      fun environment files s hphase => ?_
    rw [h environment files s hphase, Service.decline, if_pos (hphase.trans hactive)]
  · refine exists_inactive id fun environment files s hphase => ?_
    rw [h environment files s hphase, Service.decline, if_neg (hphase ▸ hactive)]

theorem exists_message (hgoing : phase ≠ .exited) (method : String) (id : Option Rpc.Id)
    (params : Option Json) : ∃ c : Course, c.Leads phase (.message method id params) := by
  have hreceive (environment : Environment) (files : FileTree) (s : Service)
      (hphase : s.phase = phase) : s.step files environment (.message method id params) =
        s.receive files environment method id params :=
    if_neg (hphase ▸ hgoing)
  cases hm : Method.ofName? method with
  | none =>
      by_cases hpre : method.startsWith "$/"
      · refine ⟨_, leads_rest .silent fun environment files s hphase => ?_⟩
        simp only [hreceive environment files s hphase, Service.receive, hm, if_pos hpre]
      · refine exists_refusal id .methodNotFound fun environment files s hphase => ?_
        simp only [hreceive environment files s hphase, Service.receive, hm, if_neg hpre]
  | some kind =>
      have hkind (environment : Environment) (files : FileTree) (s : Service)
          (hphase : s.phase = phase) := by
        have h := hreceive environment files s hphase
        rwa [Service.receive, hm] at h
      cases kind with
      | startup => exact exists_startup hkind
      | shutdown => exact exists_shutdown hkind
      | exit => exact ⟨.rest .exited .silent, ⟨nofun, hkind⟩⟩
      | cancel => exact exists_refusal id .invalidRequest hkind
      | report read =>
          apply exists_report _ hkind
          cases id <;> simp [Incoming.report?, hm]
      | ignored =>
          apply exists_report _ hkind
          cases id <;> simp [Incoming.report?, hm]
      | unserved shape => exact exists_decline shape hkind

/-- Every message takes one course in all services of a phase. -/
theorem exists_leads (phase : Phase) (m : Incoming) : ∃ c : Course, c.Leads phase m := by
  by_cases hphase : phase = .exited
  · cases m with
    | message method id params =>
        exact ⟨_, leads_rest _ fun _ _ _ hs => if_pos (hs.trans hphase)⟩
    | reply id answer =>
        exact ⟨_, leads_rest _ fun _ _ _ hs => if_pos (hs.trans hphase)⟩
  · cases m with
    | message method id params => exact exists_message hphase method id params
    | reply id answer =>
        exact ⟨.reply id answer, trivial, fun _ _ _ hs => if_neg (hs ▸ hphase)⟩

end Course

/-- A part of the server that nothing changes any more once settings are looked for. -/
structure Server.Lasting {α : Type} (part : Server → α) : Prop where
  handle : ∀ (s : Server) files n, part (s.handle files n).server = part s
  finish : ∀ (s : Server) files, part (s.finish files).server = part s
  answered : ∀ (s : Server) files id answer, part (s.answered files id answer).server = part s

theorem Server.lasting_effective : Lasting effective where
  handle s files n := by
    obtain ⟨d, -, -, heq⟩ | ⟨-, hquiet⟩ := s.handle_cases files n
    · rw [heq]
      have hadvise := ((s.track d.uri d.version d.text).1.advise_agrees files).1
      exact hadvise.effective_eq.trans (s.sameAdvisory_track d.uri d.version d.text).effective_eq
    · exact hquiet.same.effective_eq
  finish s files := (s.quiet_finish files).same.effective_eq
  answered s files id answer := (s.answered_agrees files id answer).1.effective_eq

namespace Session

variable {s : Session} {α : Type} {part : Server → α}

theorem lasting_next (hpart : Server.Lasting part) (hphase : s.service.phase ≠ .waiting)
    (environment : Environment) (h : Happening) :
    part (s.next environment h).service.server = part s.service.server := by
  cases h with
  | rewritten files => rfl
  | incoming m =>
      have hstep := Service.step_spec environment s.service s.files m
      simp only [next, step]
      generalize s.service.step s.files environment m = o at hstep ⊢
      cases hstep with
      | rest m response => rfl
      | startup method id params startup hwaiting => exact absurd hwaiting hphase
      | shutdown method id => exact hpart.finish s.service.server s.files
      | halt method id params response => rfl
      | exit method id params => rfl
      | report m notice => exact hpart.handle s.service.server s.files notice
      | reply id answer => exact hpart.answered s.service.server s.files id answer

theorem lasting_after (hpart : Server.Lasting part) (hphase : s.service.phase ≠ .waiting)
    (environment : Environment) (hs : List Happening) :
    part (s.after environment hs).service.server = part s.service.server := by
  induction hs generalizing s with
  | nil => rfl
  | cons h hs ih =>
      have hnext : (s.next environment h).service.phase ≠ .waiting :=
        fun hwaiting => hphase (waiting_of_next h hwaiting)
      exact (ih hnext).trans (lasting_next hpart hphase environment h)

theorem effective_after (hphase : s.service.phase ≠ .waiting) (environment : Environment)
    (hs : List Happening) :
    (s.after environment hs).service.server.effective = s.service.server.effective :=
  lasting_after Server.lasting_effective hphase environment hs

theorem after_append (environment : Environment) (s : Session) (hs later : List Happening) :
    s.after environment (hs ++ later) = (s.after environment hs).after environment later := by
  induction hs generalizing s with
  | nil => rfl
  | cons h hs ih => exact ih _

end Session

end Bilingual
