import Bilingual.Proofs.Server.History
import Bilingual.Proofs.Session.Run

/-!
The parts of a session. Which part follows on a message is told by the message alone:
the first request that is well-formed begins the session, reports are heard from then
on, and the last request and the message to exit end it.
-/

namespace Bilingual

/-- Whether a message is a first request that can be served. -/
def Incoming.begins : Incoming → Bool
  | .message method (some _) params =>
      match Method.ofName? method with
      | some .startup => (params.bind Startup.ofJson?).isSome
      | _ => false
  | _ => false

/-- Whether a message is the one to exit. -/
def Incoming.exits : Incoming → Bool
  | .message method _ _ =>
      match Method.ofName? method with
      | some .exit => true
      | _ => false
  | .reply _ _ => false

def Happening.begins : Happening → Bool
  | .incoming m => m.begins
  | .rewritten _ => false

def Happening.exits : Happening → Bool
  | .incoming m => m.exits
  | .rewritten _ => false

/-- The part of a session that follows on a message. -/
def Phase.behind : Phase → Happening → Phase
  | .waiting, h => if h.exits then .exited else if h.begins then .active else .waiting
  | .active, h => if h.exits then .exited else if h.ends then .stopped else .active
  | .stopped, h => if h.exits then .exited else .stopped
  | .exited, _ => .exited

theorem Happening.ends_of_exits {h : Happening} (hexits : h.exits = true) : h.ends = true := by
  cases h with
  | rewritten files => cases hexits
  | incoming m =>
      cases m with
      | reply id answer => cases hexits
      | message method id params =>
          simp only [exits, Incoming.exits] at hexits
          split at hexits
          · next hm => simp [ends, Incoming.ends, hm]
          · cases hexits

theorem Happening.exits_of_begins {h : Happening} (hbegins : h.begins = true) :
    h.exits = false := by
  cases h with
  | rewritten files => rfl
  | incoming m =>
      cases m with
      | reply id answer => rfl
      | message method id params =>
          cases id with
          | none => cases hbegins
          | some id =>
              simp only [begins, Incoming.begins] at hbegins
              split at hbegins
              · next hm => simp [exits, Incoming.exits, hm]
              · cases hbegins

/-- Only three methods have a part in where a session stands. -/
theorem Incoming.idle_of_method {method : String}
    (h : Method.ofName? method ∉ [some .startup, some .shutdown, some .exit])
    (id : Option Rpc.Id) (params : Option Json) :
    (message method id params).begins = false ∧ (message method id params).ends = false ∧
      (message method id params).exits = false := by
  simp only [List.mem_cons, List.not_mem_nil, or_false, not_or] at h
  obtain ⟨hstartup, hshutdown, hexit⟩ := h
  -- With these three out of the way each of the definitions comes to its last case.
  refine ⟨?_, ?_, ?_⟩
  · cases id with
    | none => rfl
    | some id => simp only [begins]
  · simp only [ends]
  · simp only [exits]

namespace Phase

variable {p : Phase} {h : Happening} {m : Incoming}

theorem behind_eq_waiting_iff :
    p.behind h = .waiting ↔ p = .waiting ∧ h.begins = false ∧ h.exits = false := by
  cases hexits : h.exits <;> cases hbegins : h.begins <;> cases hends : h.ends <;> cases p <;>
    simp [behind, hexits, hbegins, hends]

theorem behind_eq_active_iff :
    p.behind h = .active ↔ p = .active ∧ h.ends = false ∨ p = .waiting ∧ h.begins = true := by
  cases p with
  | waiting =>
      cases hbegins : h.begins with
      | false => cases hexits : h.exits <;> simp [behind, hexits, hbegins]
      | true => simp [behind, hbegins, Happening.exits_of_begins hbegins]
  | active =>
      cases hends : h.ends with
      | false =>
          have hexits : h.exits = false := by
            rw [← Bool.not_eq_true]
            intro hexits
            exact Bool.false_ne_true (hends.symm.trans (Happening.ends_of_exits hexits))
          simp [behind, hexits, hends]
      | true => cases hexits : h.exits <;> simp [behind, hexits, hends]
  | stopped => cases hexits : h.exits <;> simp [behind, hexits]
  | exited => simp [behind]

theorem behind_eq_self (hbegins : p = .waiting → m.begins = false) (hends : m.ends = false)
    (hexits : m.exits = false) : p.behind (.incoming m) = p := by
  cases p with
  | waiting => simp [behind, Happening.exits, hexits, Happening.begins, hbegins rfl]
  | active => simp [behind, Happening.exits, hexits, Happening.ends, hends]
  | stopped => simp [behind, Happening.exits, hexits]
  | exited => rfl

theorem behind_of_exits (hexits : m.exits = true) : p.behind (.incoming m) = .exited := by
  cases p <;> simp [behind, Happening.exits, hexits]

end Phase

namespace Service

variable {s : Service} {files : FileTree} {environment : Environment} {method : String}
  {id : Option Rpc.Id} {params : Option Json}

theorem phase_startup (hm : Method.ofName? method = some .startup) :
    (s.startup files environment id params).service.phase =
      s.phase.behind (.incoming (.message method id params)) := by
  have hends : (Incoming.message method id params).ends = false := by simp [Incoming.ends, hm]
  have hexits : (Incoming.message method id params).exits = false := by simp [Incoming.exits, hm]
  by_cases hwaiting : s.phase = .waiting
  · simp only [startup, hwaiting, if_true, Phase.behind, Happening.exits, hexits, Happening.begins]
    cases id with
    | none => exact hwaiting
    | some id =>
        cases hp : params.bind Startup.ofJson? with
        | none => simpa [Incoming.begins, hm, hp, refuse, rest] using hwaiting
        | some startup => simp [Incoming.begins, hm, hp, serve]
  · simp only [startup, if_neg hwaiting]
    exact (Phase.behind_eq_self (fun h => absurd h hwaiting) hends hexits).symm

theorem phase_shutdown (hm : Method.ofName? method = some .shutdown) :
    (s.shutdown files id params).service.phase =
      s.phase.behind (.incoming (.message method id params)) := by
  have hends : (Incoming.message method id params).ends = true := by simp [Incoming.ends, hm]
  have hexits : (Incoming.message method id params).exits = false := by simp [Incoming.exits, hm]
  have hbegins : (Incoming.message method id params).begins = false := by
    cases id <;> simp [Incoming.begins, hm]
  by_cases hactive : s.phase = .active
  · simp only [shutdown, hactive, if_true, Phase.behind, Happening.exits, hexits, Happening.ends,
      hends]
    cases id with
    | none => rfl
    | some id => cases params <;> rfl
  · simp only [shutdown, if_neg hactive]
    change s.phase = _
    cases hp : s.phase with
    | waiting => simp [Phase.behind, Happening.exits, hexits, Happening.begins, hbegins]
    | active => exact absurd hp hactive
    | stopped => simp [Phase.behind, Happening.exits, hexits]
    | exited => rfl

theorem phase_report (notice : Option Notice) :
    (s.report files id notice).service.phase = s.phase := by
  by_cases hactive : s.phase = .active
  · simp only [report, if_pos hactive]
    cases id with
    | some id => rfl
    | none =>
        cases notice with
        | none => rfl
        | some notice => exact hactive.symm
  · simp only [report, if_neg hactive]
    rfl

theorem phase_decline (shape : Shape) :
    (s.decline files shape id params).service.phase = s.phase := by
  by_cases hactive : s.phase = .active
  · simp only [decline, if_pos hactive]
    rfl
  · simp only [decline, if_neg hactive]
    rfl

theorem phase_receive (method : String) (id : Option Rpc.Id) (params : Option Json) :
    (s.receive files environment method id params).service.phase =
      s.phase.behind (.incoming (.message method id params)) := by
  -- A message that has no part in this leaves the session where it is.
  have hidle (h : Method.ofName? method ∉ [some .startup, some .shutdown, some .exit]) :
      s.phase = s.phase.behind (.incoming (.message method id params)) := by
    obtain ⟨hbegins, hends, hexits⟩ := Incoming.idle_of_method h id params
    exact (Phase.behind_eq_self (fun _ => hbegins) hends hexits).symm
  unfold receive
  cases hm : Method.ofName? method with
  | none =>
      have hphase := hidle (by simp [hm])
      dsimp only
      split
      · exact hphase
      · exact hphase
  | some kind =>
      cases kind with
      | startup => exact phase_startup hm
      | shutdown => exact phase_shutdown hm
      | exit => exact (Phase.behind_of_exits (by simp [Incoming.exits, hm])).symm
      | cancel => exact hidle (by simp [hm])
      | report read => exact (phase_report _).trans (hidle (by simp [hm]))
      | ignored => exact (phase_report _).trans (hidle (by simp [hm]))
      | unserved shape => exact (phase_decline _).trans (hidle (by simp [hm]))

theorem phase_step (m : Incoming) :
    (s.step files environment m).service.phase = s.phase.behind (.incoming m) := by
  cases m with
  | message method id params =>
      simp only [step]
      split
      · next hexited => rw [hexited]; exact hexited
      · exact phase_receive method id params
  | reply id answer =>
      have hidle : s.phase.behind (.incoming (.reply id answer)) = s.phase :=
        Phase.behind_eq_self (fun _ => rfl) rfl rfl
      rw [hidle]
      simp only [step]
      split
      · rfl
      · rfl

end Service

namespace Session

variable {environment : Environment} {s : Session}

theorem phase_next (h : Happening) :
    (s.next environment h).service.phase = s.service.phase.behind h := by
  cases h with
  | incoming m => exact Service.phase_step m
  | rewritten files => cases hp : s.service.phase <;> exact hp

/-- A first request that can be served is served, if none has been before. -/
theorem isResult_of_begins {m : Incoming} (hwaiting : s.service.phase = .waiting)
    (hbegins : m.begins = true) :
    (s.step environment (.incoming m)).response.isResult = true := by
  cases m with
  | reply id answer => cases hbegins
  | message method id params =>
      cases id with
      | none => cases hbegins
      | some id =>
          simp only [Incoming.begins] at hbegins
          split at hbegins
          · next hm =>
              obtain ⟨startup, hp⟩ := Option.isSome_iff_exists.1 hbegins
              simp [step, Service.step, Service.receive, hm, Service.startup, hwaiting, hp,
                Service.serve, Response.isResult]
          · cases hbegins

/-- A first request that can be served has come, none before it and no exit either, and
the session has not been told to end since. -/
def Going (hs : List Happening) : Prop :=
  ∃ before first between, hs = before ++ first :: between ∧
    (∀ h ∈ before, h.begins = false ∧ h.exits = false) ∧ first.begins = true ∧
    ∀ h ∈ between, h.ends = false

theorem going_concat (hs : List Happening) (h : Happening) :
    Going (hs ++ [h]) ↔ Going hs ∧ h.ends = false ∨
      (∀ g ∈ hs, g.begins = false ∧ g.exits = false) ∧ h.begins = true := by
  unfold Going
  rw [exists_split_concat_iff]
  refine or_congr ?_ (by simp)
  constructor
  · rintro ⟨before, first, between, rfl, hbefore, hfirst, hbetween⟩
    obtain ⟨hbetween, hlast⟩ := List.forall_mem_append.1 hbetween
    exact ⟨⟨before, first, between, rfl, hbefore, hfirst, hbetween⟩, by simpa using hlast⟩
  · rintro ⟨⟨before, first, between, rfl, hbefore, hfirst, hbetween⟩, hends⟩
    exact ⟨before, first, between, rfl, hbefore, hfirst,
      List.forall_mem_append.2 ⟨hbetween, by simpa using hends⟩⟩

theorem waiting_after_iff (files : FileTree) (hs : List Happening) :
    (after environment ⟨.start, files⟩ hs).service.phase = .waiting ↔
      ∀ h ∈ hs, h.begins = false ∧ h.exits = false := by
  induction hs using List.reverseRecOn with
  | nil => exact iff_of_true rfl nofun
  | append_singleton hs h ih =>
      rw [after_concat, phase_next, Phase.behind_eq_waiting_iff, ih, List.forall_mem_append,
        List.forall_mem_singleton]

/-- Which part of the session a run has come to is told by its messages. -/
theorem active_after_iff (files : FileTree) (hs : List Happening) :
    (after environment ⟨.start, files⟩ hs).service.phase = .active ↔ Going hs := by
  induction hs using List.reverseRecOn with
  | nil => exact iff_of_false nofun fun ⟨_, _, _, h, _⟩ => by simp at h
  | append_singleton hs h ih =>
      rw [after_concat, phase_next, Phase.behind_eq_active_iff, ih, waiting_after_iff,
        going_concat]

end Session

end Bilingual
